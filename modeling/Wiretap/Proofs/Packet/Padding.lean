import Wiretap.Proofs.Packet.Header
import Wiretap.Proofs.Packet.Tags

/-!
# Padding behind a packet

The link layer may fill a frame up behind the packet that it carries.  What follows the end that an
internet header declares is looked at by no layer, whatever the headers hold.

## Main definitions

* `Network.IsWhole4`, `Network.IsWhole6`, `Network.IsWhole` - a packet is all there, as long as its
  header declares it.
* `Packet.IsWhole` - a frame holds its tags, and all of the packet that it carries.

## Main statements

* `Network.decode4_append`, `Network.decode6_append` - what follows a whole packet is not read.
* `Packet.decode_append` - padding shows in nothing but the frame and its length.

## Design notes

A packet is whole by the lengths that its header declares, which are all that is asked of it: total
length and header length may contradict each other, and what follows the header may be malformed at
any layer.  Each error of such a packet is then the error of the packet with padding as well.
-/

namespace Wiretap

/-! ## Internet headers -/

namespace Network

variable {packet : Bytes}

/-- A packet of version 4 holds a header of a legal length, and all of the total length that the
header declares. -/
def IsWhole4 (packet : Bytes) : Prop :=
  ∃ (first : UInt8) (total : UInt16),
    packet[0]? = some first ∧ Bytes.be16At? packet 2 = some total ∧
      5 ≤ first.toNat % 16 ∧ first.toNat % 16 * 4 ≤ packet.length ∧ total.toNat ≤ packet.length

/-- A packet of version 6 holds its header, and all of the payload that the header declares. -/
def IsWhole6 (packet : Bytes) : Prop :=
  ∃ payload : UInt16,
    Bytes.be16At? packet 4 = some payload ∧ ipv6HeaderSize + payload.toNat ≤ packet.length

/-- What a frame carries behind a type is whole, if it is an internet packet. -/
def IsWhole : EtherType → Bytes → Prop
  | .ipv4, packet => IsWhole4 packet
  | .ipv6, packet => IsWhole6 packet
  | _, _ => True

/-- What follows a whole packet of version 4 is not read. -/
theorem decode4_append (whole : IsWhole4 packet) (padding : Bytes) :
    decode4 (packet ++ padding) = decode4 packet := by
  obtain ⟨first, total, firstAt, totalAt, legal, header, fits⟩ := whole
  have size : ipv4HeaderSize = 20 := rfl
  obtain ⟨fragment, fragmentAt, -⟩ := Checked.wordAt_of_le (b := packet) (show 6 + 2 ≤ _ by omega)
  obtain ⟨protocol, protocolAt, -⟩ := Checked.byteAt_of_lt (b := packet) (show 9 < _ by omega)
  obtain ⟨source, destination, read⟩ :=
    ipv4Header?_of_places (show ipv4HeaderSize ≤ _ by omega) firstAt totalAt fragmentAt protocolAt
  have readPadded := Bytes.first?_bind_of_prefix (packet.prefix_append padding) read
  have longer : packet.length ≤ (packet ++ padding).length := by
    rw [List.length_append]
    exact Nat.le_add_right _ _
  rw [decode4, decode4, read, show ipv4Header? (packet ++ padding) = _ from readPadded]
  simp only
  rw [if_neg (by omega), if_neg (by omega), Ipv4Header.segment, Ipv4Header.segment,
    List.take_append_of_le_length fits]

/-- What follows a whole packet of version 6 is not read. -/
theorem decode6_append (whole : IsWhole6 packet) (padding : Bytes) :
    decode6 (packet ++ padding) = decode6 packet := by
  obtain ⟨payload, payloadAt, fits⟩ := whole
  have size : ipv6HeaderSize = 40 := rfl
  obtain ⟨next, nextAt, -⟩ := Checked.byteAt_of_lt (b := packet) (show 6 < _ by omega)
  obtain ⟨source, destination, read⟩ :=
    ipv6Header?_of_places (show ipv6HeaderSize ≤ _ by omega) payloadAt nextAt
  have readPadded := Bytes.first?_bind_of_prefix (packet.prefix_append padding) read
  -- The walk along extension headers is given the payload, which ends before the padding.
  have payloadOnly : ((packet ++ padding).drop ipv6HeaderSize).take payload.toNat =
      (packet.drop ipv6HeaderSize).take payload.toNat := by
    rw [List.drop_append_of_le_length (by omega), List.take_append_of_le_length]
    rw [List.length_drop]
    omega
  rw [decode6, decode6, read, show ipv6Header? (packet ++ padding) = _ from readPadded]
  simp only [payloadOnly]

end Network

/-! ## Frames -/

namespace Packet

open VlanTag (insertAll)

/-- What a frame carries is read alike with padding behind it, if it is whole. -/
theorem readCarried_append (dst src : Mac) {type : EtherType} {packet : Bytes}
    (whole : Network.IsWhole type packet) (padding : Bytes) :
    readCarried dst src type (packet ++ padding) = readCarried dst src type packet := by
  cases type with
  | ipv4 => rw [readCarried, readCarried, addCarried, addCarried, Network.decode4_append whole]
  | ipv6 => rw [readCarried, readCarried, addCarried, addCarried, Network.decode6_append whole]
  | _ => rfl

/-- A frame holds all of its tags, of which two at most are passed, and all of the packet that it
carries behind them, if it carries one. -/
structure IsWhole (frame : Bytes) (tags : List VlanTag) (inner : Bytes) (type : UInt16) :
    Prop where
  /-- The frame is another one with tags put into it. -/
  tagged : frame = insertAll tags inner
  few : tags.length ≤ Vlan.limit
  /-- The type that stands behind the tags. -/
  typed : Bytes.be16At? inner VlanTag.addressesSize = some type
  /-- It announces no tag that would still be passed. -/
  ends : (EtherType.ofNumber type).isVlan = true → tags.length = Vlan.limit
  packet : Network.IsWhole (.ofNumber type) (inner.drop ethernetHeaderSize)

/-- **Padding is not read.**  What follows the packet that a frame carries shows in nothing but the
frame itself and its length, whatever the headers of the packet hold and wherever it is
malformed. -/
theorem decode_append {frame inner : Bytes} {tags : List VlanTag} {type : UInt16}
    (whole : IsWhole frame tags inner type) (padding : Bytes) (time : Duration) :
    decode (frame ++ padding) time =
      ({ (decode frame time).1 with
          length := frame.length + padding.length
          raw := frame ++ padding }, (decode frame time).2) := by
  obtain ⟨tagged, few, typed, ends, packet⟩ := whole
  obtain ⟨dst, src, carried, rfl⟩ := exists_untagged typed
  have behind : (untagged dst src (.ofNumber type) carried).drop ethernetHeaderSize = carried := rfl
  rw [behind] at packet
  have padded : frame ++ padding =
      insertAll tags (untagged dst src (.ofNumber type) (carried ++ padding)) := by
    rw [tagged, VlanTag.insertAll_untagged_append]
  rw [decode_insertAll few ends dst src _ time padded,
    decode_insertAll few ends dst src _ time tagged, readCarried_append dst src packet,
    List.length_append]

/-- A tagged frame with a UDP packet, filled up behind it with bytes of another one. -/
theorem decode_append_udp :
    let inner : Bytes := [2, 0, 0, 0, 0, 1, 2, 0, 0, 0, 0, 2, 8, 0,
      0x45, 0, 0, 30, 0, 0, 0, 0, 64, 17, 0, 0, 10, 0, 0, 1, 10, 0, 0, 2,
      0x14, 0xe9, 0, 53, 0, 10, 0, 0, 0xca, 0xfe]
    let tags : List VlanTag := [{ isService := false, control := 7 }]
    let padding : Bytes := [0x14, 0xe9, 0, 53, 0, 10, 0, 0, 0xca, 0xfe]
    IsWhole (insertAll tags inner) tags inner 0x0800 ∧
      (decode (insertAll tags inner ++ padding) .zero).2 = none ∧
      (decode (insertAll tags inner ++ padding) .zero).1.payloadLength = 2 ∧
      (decode (insertAll tags inner ++ padding) .zero).1.length = 58 := by
  intro inner tags padding
  have whole : IsWhole (insertAll tags inner) tags inner 0x0800 :=
    { tagged := rfl
      few := by decide
      typed := by decide
      ends := by decide
      packet := ⟨0x45, 30, by decide⟩ }
  have same := decode_append whole padding .zero
  refine ⟨whole, ?_, ?_, ?_⟩ <;> rw [same]
  · decide
  · decide
  · rfl

end Packet

end Wiretap
