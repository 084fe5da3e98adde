import Wiretap.Flow.Record
import Wiretap.Proofs.Packet.Header
import Wiretap.Proofs.Packet.Tags

/-!
# Fragments other than the first

Only the first fragment of a packet begins with a transport header.  What another one carries is
some part of a payload, of which nothing may show in what is read of the frame.

## Main definitions

* `LaterFragment` - the headers of a fragment other than the first, in either version, and the
  protocol number that they name.

## Main statements

* `LaterFragment.exists_decode4`, `LaterFragment.exists_decode6` - what is read of such a fragment
  is read of its headers.
* `Packet.decode_laterFragment` - two frames with the headers of such a fragment in common are read
  alike, without error, ports, flags or payload.

## Design notes

The headers end with the last byte that is looked at: with the last option of version 4, and with
the fragment header of version 6, which may stand behind any chain of complete extension headers.
A fragment header whose offset is zero belongs to the chain.
-/

namespace Wiretap

/-- A fragment header of version 6, with the place of the fragment and three more bits in a word. -/
def fragmentHeader (next reserved : UInt8) (place : UInt16) (identification : UInt32) : Bytes :=
  [next, reserved] ++ Bytes.be16 place ++ Bytes.be32 identification

open ExtensionHeader (announced chain) in
/-- The headers of a fragment other than the first, and the number of the protocol that its packet
carries. -/
inductive LaterFragment : EtherType → Bytes → UInt8 → Prop
  /-- A header of version 4 with its options, which its total length holds. -/
  | ipv4 {header : Bytes} {first protocol : UInt8} {total place : UInt16}
    (firstAt : header[0]? = some first) (legal : 5 ≤ first.toNat % 16)
    (complete : header.length = first.toNat % 16 * 4)
    (totalAt : Bytes.be16At? header 2 = some total) (held : header.length ≤ total.toNat)
    (placeAt : Bytes.be16At? header 6 = some place) (later : place.toNat % 8192 ≠ 0)
    (protocolAt : header[9]? = some protocol) :
    LaterFragment .ipv4 header protocol
  /-- A header of version 6, complete extension headers and a fragment header, which the payload
  length of the first holds. -/
  | ipv6 {front : Bytes} {payload place : UInt16} {protocol reserved : UInt8}
    {extensions : List ExtensionHeader} {identification : UInt32}
    (complete : front.length = Network.ipv6HeaderSize)
    (payloadAt : Bytes.be16At? front 4 = some payload)
    (nextAt : front[6]? = some (announced extensions IpProtocol.fragment.number))
    (held : (chain extensions IpProtocol.fragment.number).length + 8 ≤ payload.toNat)
    (later : place.toNat / 8 ≠ 0) :
    LaterFragment .ipv6 (front ++ (chain extensions IpProtocol.fragment.number ++
      fragmentHeader protocol reserved place identification)) protocol

/-- At a fragment header of a later fragment the walk ends, with nothing to read. -/
theorem Network.walk_fragmentHeader {place : UInt16} (later : place.toNat / 8 ≠ 0)
    (next reserved : UInt8) (identification : UInt32) (offset : Nat) (rest : Bytes) :
    walk .fragment offset (fragmentHeader next reserved place identification ++ rest) =
      ⟨.ofNumber next, .ok none⟩ := by
  have here : fragmentHeader next reserved place identification ++ rest =
      next :: reserved :: UInt8.ofNat (place.toNat / 256) :: UInt8.ofNat place.toNat ::
        (Bytes.be32 identification ++ rest) := rfl
  have room : 8 ≤ (fragmentHeader next reserved place identification ++ rest).length := by
    rw [List.length_append]
    exact Nat.le_add_right 8 _
  rw [Checked.walk_of_header rfl offset here room, Bytes.toNat_be16, if_pos ⟨rfl, later⟩]

namespace LaterFragment

variable {headers : Bytes} {protocol : UInt8}

/-- What is read of a later fragment of version 4 is read of its header. -/
theorem exists_decode4 (fragment : LaterFragment .ipv4 headers protocol) :
    ∃ source destination, ∀ carried, Network.decode4 (headers ++ carried) = .ok
      { source := .v4 source
        destination := .v4 destination
        protocol := .ofNumber protocol
        segment := .ok none } := by
  cases fragment with
  | ipv4 firstAt legal complete totalAt held placeAt later protocolAt =>
    have size : Network.ipv4HeaderSize = 20 := rfl
    obtain ⟨source, destination, read⟩ := Network.ipv4Header?_of_places
      (show Network.ipv4HeaderSize ≤ headers.length by omega) firstAt totalAt placeAt protocolAt
    refine ⟨source, destination, fun carried => ?_⟩
    have readWhole : Network.ipv4Header? (headers ++ carried) = some _ :=
      Bytes.first?_bind_of_prefix (headers.prefix_append carried) read
    have longer : headers.length ≤ (headers ++ carried).length := by
      rw [List.length_append]
      exact Nat.le_add_right _ _
    rw [Network.decode4, readWhole]
    simp only
    rw [if_neg (by omega), Network.Ipv4Header.segment, if_neg (by simp only; omega), if_pos later]

/-- What is read of a later fragment of version 6 is read of its headers. -/
theorem exists_decode6 (fragment : LaterFragment .ipv6 headers protocol) :
    ∃ source destination, ∀ carried, Network.decode6 (headers ++ carried) = .ok
      { source := .v6 source
        destination := .v6 destination
        protocol := .ofNumber protocol
        segment := .ok none } := by
  cases fragment with
  | @ipv6 front payload place _ reserved extensions identification complete payloadAt nextAt held
      later =>
    obtain ⟨source, destination, read⟩ :=
      Network.ipv6Header?_of_places complete.ge payloadAt nextAt
    let behind := ExtensionHeader.chain extensions IpProtocol.fragment.number ++
      fragmentHeader protocol reserved place identification
    change ∃ source destination, ∀ carried, Network.decode6 (front ++ behind ++ carried) = _
    refine ⟨source, destination, fun carried => ?_⟩
    have readWhole : Network.ipv6Header? (front ++ behind ++ carried) = some _ :=
      Bytes.first?_bind_of_prefix
        ((front.prefix_append _).trans (List.prefix_append _ carried)) read
    -- The fragment header is before the end that the first header declares.
    obtain ⟨more, size⟩ : ∃ more, payload.toNat = behind.length + more :=
      Nat.exists_eq_add_of_le (by rw [List.length_append]; exact held)
    have payloadOnly : ((front ++ behind ++ carried).drop Network.ipv6HeaderSize).take
        payload.toNat = behind ++ carried.take more := by
      rw [List.append_assoc, List.drop_left' complete, size, List.take_length_add_append]
    have named : IpProtocol.ofNumber IpProtocol.fragment.number = .fragment := rfl
    have walked : Network.walk (.ofNumber (ExtensionHeader.announced extensions
        IpProtocol.fragment.number)) Network.ipv6HeaderSize (behind ++ carried.take more) =
        ⟨.ofNumber protocol, .ok none⟩ := by
      rw [List.append_assoc, ExtensionHeader.walk_chain_append, named,
        Network.walk_fragmentHeader later]
    rw [Network.decode6, readWhole]
    simp only [payloadOnly, walked]

/-- Later fragments are packets of one of both versions. -/
theorem ofNumber_number {type : EtherType} (fragment : LaterFragment type headers protocol) :
    EtherType.ofNumber type.number = type ∧ ¬ type.isVlan = true := by
  cases fragment <;> exact ⟨rfl, by decide⟩

end LaterFragment

namespace Packet

open VlanTag (insertAll)

/-- What is read of a later fragment tells its addresses and its protocol, and nothing of what it
carries. -/
theorem exists_readCarried {type : EtherType} {headers : Bytes} {protocol : UInt8}
    (fragment : LaterFragment type headers protocol) (dst src : Mac) :
    ∃ source destination : IpAddr, source.etherType = type ∧ destination.etherType = type ∧
      ∀ carried, readCarried dst src type (headers ++ carried) =
        ({ srcMac := some src
           dstMac := some dst
           etherType := some type
           srcIp := some source
           dstIp := some destination
           protocol := some (.ofNumber protocol) }, none) := by
  cases type with
  | ipv4 =>
    obtain ⟨source, destination, read⟩ := fragment.exists_decode4
    refine ⟨.v4 source, .v4 destination, rfl, rfl, fun carried => ?_⟩
    rw [readCarried, addCarried, read]
    rfl
  | ipv6 =>
    obtain ⟨source, destination, read⟩ := fragment.exists_decode6
    refine ⟨.v6 source, .v6 destination, rfl, rfl, fun carried => ?_⟩
    rw [readCarried, addCarried, read]
    rfl
  | _ => cases fragment

/-- Frames that begin with the headers of a later fragment are read as the headers are, whatever
follows. -/
theorem exists_decode_laterFragment {type : EtherType} {headers : Bytes} {protocol : UInt8}
    (fragment : LaterFragment type headers protocol) {tags : List VlanTag}
    (few : tags.length ≤ Vlan.limit) (dst src : Mac) (time : Duration) :
    ∃ source destination : IpAddr, source.etherType = type ∧ destination.etherType = type ∧
      ∀ frame, insertAll tags (untagged dst src type headers) <+: frame →
        decode frame time =
          ({ time
             srcMac := some src
             dstMac := some dst
             vlan := tags.head?.map VlanTag.id
             etherType := some type
             srcIp := some source
             dstIp := some destination
             protocol := some (.ofNumber protocol)
             length := frame.length
             raw := frame }, none) := by
  obtain ⟨named, plain⟩ := fragment.ofNumber_number
  obtain ⟨source, destination, sourceType, destinationType, read⟩ :=
    exists_readCarried fragment dst src
  refine ⟨source, destination, sourceType, destinationType, ?_⟩
  rintro frame ⟨carried, rfl⟩
  have whole : insertAll tags (untagged dst src type headers) ++ carried =
      insertAll tags (untagged dst src (.ofNumber type.number) (headers ++ carried)) := by
    rw [named]
    exact VlanTag.insertAll_untagged_append tags dst src type headers carried
  rw [decode_insertAll few (fun isVlan => absurd isVlan (named.symm ▸ plain)) dst src
    (headers ++ carried) time whole, named, read carried]

/-- **A fragment other than the first tells nothing of what it carries.**  Frames that agree up to
the end of the headers of such a fragment, behind at most two tags, are read alike but for the frame
itself and its length: without error, ports, flags and payload, and with the protocol that the
headers name.  So fragments of version 4 belong to one flow. -/
theorem decode_laterFragment {type : EtherType} {headers : Bytes} {protocol : UInt8}
    (fragment : LaterFragment type headers protocol) {tags : List VlanTag}
    (few : tags.length ≤ Vlan.limit) (dst src : Mac) (time : Duration) {one other : Bytes}
    (oneAgrees : insertAll tags (untagged dst src type headers) <+: one)
    (otherAgrees : insertAll tags (untagged dst src type headers) <+: other) :
    (decode one time).2 = none ∧
      (decode one time).1.srcPort = 0 ∧ (decode one time).1.dstPort = 0 ∧
      (decode one time).1.tcpFlags = none ∧ (decode one time).1.payloadLength = 0 ∧
      (decode one time).1.protocol = some (.ofNumber protocol) ∧
      decode other time =
        ({ (decode one time).1 with length := other.length, raw := other }, none) ∧
      FlowKey.ofPacket? (decode other time).1 = FlowKey.ofPacket? (decode one time).1 ∧
      (type = .ipv4 → (FlowKey.ofPacket? (decode one time).1).isSome) := by
  obtain ⟨source, destination, sourceType, destinationType, decoded⟩ :=
    exists_decode_laterFragment fragment few dst src time
  rw [decoded one oneAgrees, decoded other otherAgrees]
  refine ⟨rfl, rfl, rfl, rfl, rfl, rfl, rfl, rfl, ?_⟩
  rintro rfl
  cases source with
  | v4 source =>
    cases destination with
    | v4 destination => rfl
    | v6 destination => cases destinationType
  | v6 source => cases sourceType

/-- A last fragment of version 4 behind a tag, and one of version 6 behind options of the path; what
follows the headers looks like ports. -/
theorem decode_laterFragment_ports :
    let dst : Mac := ⟨2, 0, 0, 0, 0, 1⟩
    let src : Mac := ⟨2, 0, 0, 0, 0, 2⟩
    let tags : List VlanTag := [{ isService := false, control := 7 }]
    let headers4 : Bytes := [0x45, 0, 0, 24, 0, 0, 0, 185, 64, 17, 0, 0, 10, 0, 0, 1, 10, 0, 0, 2]
    let headers6 : Bytes := [0x60, 0, 0, 0, 0, 20, 0, 64] ++ List.replicate 32 0xfe ++
      ([44, 0, 0, 0, 0, 0, 0, 0] ++ fragmentHeader 17 0 184 9)
    let one : Bytes := [0x14, 0xe9, 0, 53]
    let other : Bytes := [0, 53, 0x14, 0xe9]
    let tagged : Bytes := insertAll tags (untagged dst src .ipv4 headers4)
    LaterFragment .ipv4 headers4 17 ∧ LaterFragment .ipv6 headers6 17 ∧
      FlowKey.ofPacket? (decode (tagged ++ other) .zero).1 =
        FlowKey.ofPacket? (decode (tagged ++ one) .zero).1 ∧
      (decode (untagged dst src .ipv6 headers6 ++ other) .zero).2 = none ∧
      (decode (untagged dst src .ipv6 headers6 ++ other) .zero).1.protocol = some .udp := by
  intro dst src tags headers4 headers6 one other tagged
  have fragment4 : LaterFragment .ipv4 headers4 17 :=
    @LaterFragment.ipv4 headers4 0x45 17 24 185 (by decide) (by decide) (by decide) (by decide)
      (by decide) (by decide) (by decide) (by decide)
  have fragment6 : LaterFragment .ipv6 headers6 17 :=
    @LaterFragment.ipv6 ([0x60, 0, 0, 0, 0, 20, 0, 64] ++ List.replicate 32 0xfe) 20 184 17 0
      [.options .hopByHop (by decide) 0 [0, 0, 0, 0, 0, 0] (by decide)] 9
      (by decide) (by decide) (by decide) (by decide) (by decide)
  have few : tags.length ≤ Vlan.limit := by decide
  have bare : ([] : List VlanTag).length ≤ Vlan.limit := by decide
  have agrees (rest : Bytes) : insertAll [] (untagged dst src .ipv6 headers6) <+:
      untagged dst src .ipv6 headers6 ++ rest := by
    rw [VlanTag.insertAll_nil]
    exact List.prefix_append _ rest
  have alike4 := decode_laterFragment fragment4 few dst src .zero (List.prefix_append _ one)
    (List.prefix_append _ other)
  have alike6 := decode_laterFragment fragment6 bare dst src .zero (agrees one) (agrees other)
  obtain ⟨-, -, -, -, -, -, -, sameFlow, -⟩ := alike4
  obtain ⟨-, -, -, -, -, named, same, -, -⟩ := alike6
  refine ⟨fragment4, fragment6, sameFlow, ?_, ?_⟩ <;> rw [same]
  exact named

end Packet

end Wiretap
