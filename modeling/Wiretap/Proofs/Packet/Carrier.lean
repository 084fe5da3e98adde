import Wiretap.Proofs.Access.Frame

/-!
# What carries a segment

A transport segment travels behind a header of version 4 with options, or behind a header of
version 6 with a chain of extension headers.  Neither shows in what is read of the segment.

## Main definitions

* `Carrier4`, `Carrier4.packet` - a header of version 4, and the packet in which it carries a
  segment.
* `ExtensionHeader`, `Carrier6`, `Carrier6.packet` - the same for version 6, where a chain of
  complete extension headers leads to the segment.
* `untagged` - an Ethernet frame without VLAN tags.

## Main statements

* `Carrier4.decode4_packet`, `Carrier6.decode6_packet` - the segment of a packet is what it carries.
* `ExtensionHeader.walk_chain` - the walk along a chain ends behind the chain.
* `Packet.decode_segment_alike` - a segment is read alike behind both.

## Design notes

The headers are written here by their formats: version 4 counts its header in words of four bytes,
the options of version 6 in units of eight, an authentication header in words less two.  A packet
may be followed by padding, which belongs to the frame and not to the packet.
-/

namespace Wiretap

/-! ## Addresses in their bytes -/

/-- The bytes of a word are the digits of its number. -/
theorem Bytes.toNat_be16 (word : UInt16) :
    256 * (UInt8.ofNat (word.toNat / 256)).toNat + (UInt8.ofNat word.toNat).toNat = word.toNat := by
  have bound := word.toNat_lt
  simp only [UInt8.toNat_ofNat']
  omega

/-- The bytes of a word stand for the word. -/
theorem Bytes.word_be16 (word : UInt16) :
    UInt16.ofNat (256 * (UInt8.ofNat (word.toNat / 256)).toNat + (UInt8.ofNat word.toNat).toNat) =
      word := by
  rw [toNat_be16, UInt16.ofNat_toNat]

namespace Ipv6Addr

/-- The bytes of an address, in the order in which they travel. -/
def octets (x : Ipv6Addr) : Bytes := x.groups.flatMap Bytes.be16

theorem wordsOf_flatMap_be16 (words : List UInt16) :
    wordsOf (words.flatMap Bytes.be16) = words := by
  induction words with
  | nil => rfl
  | cons word words ih =>
    have front : (word :: words).flatMap Bytes.be16 = UInt8.ofNat (word.toNat / 256) ::
        UInt8.ofNat word.toNat :: words.flatMap Bytes.be16 := rfl
    rw [front, wordsOf, Bytes.word_be16, ih]

@[simp] theorem length_octets (x : Ipv6Addr) : x.octets.length = 16 := rfl

@[simp] theorem ofBytes?_octets (x : Ipv6Addr) : ofBytes? x.octets = some x := by
  rw [ofBytes?, if_pos x.length_octets, octets, wordsOf_flatMap_be16, ofGroups?_groups]

end Ipv6Addr

namespace IpAddr

@[simp] theorem ofBytes?_octets_v4 (x : Ipv4Addr) : ofBytes? x.octets = some (.v4 x) := rfl

@[simp] theorem ofBytes?_octets_v6 (x : Ipv6Addr) : ofBytes? x.octets = some (.v6 x) := by
  have long : Ipv4Addr.ofBytes? x.octets = none := rfl
  rw [ofBytes?, long, Ipv6Addr.ofBytes?_octets, Option.map_some]

end IpAddr

/-! ## Version 4 -/

/-- A header of version 4 with its options, in the first fragment of a packet or in a whole one. -/
structure Carrier4 where
  service : UInt8
  identification : UInt16
  /-- The three bits in front of the fragment offset, which is zero. -/
  flags : Fin 8
  hops : UInt8
  checksum : UInt16
  source : Ipv4Addr
  destination : Ipv4Addr
  options : Bytes
  /-- The header is counted in words. -/
  words : options.length % 4 = 0
  /-- The count has four bits. -/
  counted : options.length ≤ 40

namespace Carrier4

variable (c : Carrier4) (protocol : UInt8)

/-- The number of bytes of the header. -/
def headerLength : Nat := 20 + c.options.length

/-- The header without its options, in a packet of so many bytes. -/
def front (total : Nat) : Bytes :=
  [UInt8.ofNat (16 * 4 + c.headerLength / 4), c.service] ++ Bytes.be16 (.ofNat total) ++
    Bytes.be16 c.identification ++ Bytes.be16 (.ofNat (8192 * c.flags)) ++ [c.hops, protocol] ++
    Bytes.be16 c.checksum ++ c.source.octets ++ c.destination.octets

/-- The packet that carries a segment behind the header. -/
def packet (segment : Bytes) : Bytes :=
  c.front protocol (c.headerLength + segment.length) ++ c.options ++ segment

@[simp] theorem length_front (total : Nat) : (c.front protocol total).length = 20 := rfl

/-- The header of a packet is read as it is written. -/
theorem ipv4Header?_front {total : Nat} (small : total < 65536) (rest : Bytes) :
    Network.ipv4Header? (c.front protocol total ++ rest) = some
      { headerLength := c.headerLength
        totalLength := total
        fragmentOffset := 0
        protocol := .ofNumber protocol
        source := .v4 c.source
        destination := .v4 c.destination } := by
  have words := c.words
  have counted := c.counted
  have flags := c.flags.isLt
  have front : Bytes.first? Network.ipv4HeaderSize (c.front protocol total ++ rest) =
      some (c.front protocol total) := Bytes.first?_append (c.front protocol total) rest
  have first : (c.front protocol total)[0]? =
      some (UInt8.ofNat (16 * 4 + c.headerLength / 4)) := rfl
  have length : (UInt8.ofNat (16 * 4 + c.headerLength / 4)).toNat % 16 * 4 = c.headerLength := by
    simp only [headerLength, UInt8.toNat_ofNat']
    omega
  have totalRead : Bytes.be16At? (c.front protocol total) 2 = some (.ofNat total) :=
    Bytes.be16At?_of_drop rfl
  have totalIs : (UInt16.ofNat total).toNat = total := UInt16.toNat_ofNat_of_lt' small
  have fragmentRead : Bytes.be16At? (c.front protocol total) 6 =
      some (.ofNat (8192 * c.flags)) := Bytes.be16At?_of_drop rfl
  have fragmentIs : (UInt16.ofNat (8192 * c.flags)).toNat % 8192 = 0 := by
    rw [UInt16.toNat_ofNat']
    omega
  have protocolRead : (c.front protocol total)[9]? = some protocol := rfl
  have source : Bytes.sliceAt? (c.front protocol total) 12 4 = some c.source.octets := rfl
  have destination : Bytes.sliceAt? (c.front protocol total) 16 4 = some c.destination.octets := rfl
  simp only [Network.ipv4Header?, front, first, totalRead, fragmentRead, protocolRead, source,
    destination, Option.bind_eq_bind, Option.bind_some, IpAddr.ofBytes?_octets_v4, Option.pure_def,
    length, totalIs, fragmentIs]

/-- **A packet of version 4 is read to carry its segment**, whatever follows it in the frame. -/
theorem decode4_packet {segment : Bytes} (small : c.headerLength + segment.length ≤ 65535)
    (padding : Bytes) :
    Network.decode4 (c.packet protocol segment ++ padding) = .ok
      { source := .v4 c.source
        destination := .v4 c.destination
        protocol := .ofNumber protocol
        segment := .ok (some segment) } := by
  have whole : (c.front protocol (c.headerLength + segment.length) ++ c.options).length =
      c.headerLength := by
    rw [List.length_append, length_front, headerLength]
  have total : (c.packet protocol segment).length = c.headerLength + segment.length := by
    rw [packet, List.length_append, whole]
  have cut : ((c.packet protocol segment ++ padding).take (c.headerLength + segment.length)).drop
      c.headerLength = segment := by
    rw [List.take_left' total, packet, List.drop_left' whole]
  have header := c.ipv4Header?_front protocol (Nat.lt_succ_of_le small)
    (c.options ++ (segment ++ padding))
  rw [← List.append_assoc, ← List.append_assoc, ← packet] at header
  have least : 20 ≤ c.headerLength := Nat.le_add_right _ _
  rw [Network.decode4, header]
  simp only
  rw [if_neg, Network.Ipv4Header.segment, if_neg (by simp only; omega), if_neg (by simp), cut]
  rw [List.length_append, total, Network.ipv4HeaderSize]
  omega

end Carrier4

/-! ## Version 6 -/

/-- A complete extension header without its first byte, which names what follows. -/
inductive ExtensionHeader where
  /-- Options or a route, in units of eight bytes of which the first is not counted. -/
  | options (protocol : IpProtocol) (named : protocol ∈ [.hopByHop, .routing, .destination])
    (size : UInt8) (content : Bytes) (filled : content.length + 2 = 8 * (size.toNat + 1))
  /-- An authentication header, in words of which the first two are not counted. -/
  | authentication (size : UInt8) (content : Bytes)
    (filled : content.length + 2 = 4 * (size.toNat + 2))
  /-- The header of the first fragment, whose offset is zero, with its three last bits. -/
  | fragment (reserved : UInt8) (flags : Fin 8) (identification : UInt32)

namespace ExtensionHeader

/-- The protocol that announces a header. -/
def protocol : ExtensionHeader → IpProtocol
  | options protocol _ _ _ _ => protocol
  | authentication _ _ _ => .ah
  | fragment _ _ _ => .fragment

/-- The bytes of a header before something of the given protocol number. -/
def bytes (next : UInt8) : ExtensionHeader → Bytes
  | options _ _ size content _ => next :: size :: content
  | authentication size content _ => next :: size :: content
  | fragment reserved flags identification =>
    [next, reserved] ++ Bytes.be16 (.ofNat flags) ++ Bytes.be32 identification

/-- The protocol number that announces a chain of headers which leads to the given one. -/
def announced : List ExtensionHeader → UInt8 → UInt8
  | [], last => last
  | header :: _, _ => header.protocol.number

/-- The bytes of a chain of headers which leads to the given protocol number. -/
def chain : List ExtensionHeader → UInt8 → Bytes
  | [], _ => []
  | header :: headers, last => header.bytes (announced headers last) ++ chain headers last

/-- A header is announced by its protocol number. -/
theorem ofNumber_number_protocol (header : ExtensionHeader) :
    IpProtocol.ofNumber header.protocol.number = header.protocol := by
  cases header with
  | options protocol named =>
    have each : ∀ p ∈ ([.hopByHop, .routing, .destination] : List IpProtocol),
        IpProtocol.ofNumber p.number = p := by decide
    exact each protocol named
  | authentication => rfl
  | fragment => rfl

/-- Every extension header has eight bytes at least. -/
theorem eight_le_length (kind : Network.Extension) (size : UInt8) : 8 ≤ kind.length size := by
  cases kind <;> simp only [Network.Extension.length] <;> omega

/-- The walk passes a header that is as long as it says and in no later fragment. -/
theorem walk_of_filled {protocol : IpProtocol} {kind : Network.Extension}
    (announces : Network.Extension.of? protocol = some kind) {next size hi lo : UInt8}
    {more : Bytes} (filled : more.length + 4 = kind.length size)
    (first : kind = .fragment → (256 * hi.toNat + lo.toNat) / 8 = 0) (offset : Nat)
    (rest : Bytes) :
    Network.walk protocol offset (next :: size :: hi :: lo :: more ++ rest) =
      Network.walk (.ofNumber next) (offset + (more.length + 4)) rest := by
  have least := eight_le_length kind size
  have room : (next :: size :: hi :: lo :: more ++ rest).length =
      kind.length size + rest.length := by
    simp only [List.cons_append, List.length_cons, List.length_append]
    omega
  have behind : (next :: size :: hi :: lo :: more ++ rest).drop (kind.length size) = rest := by
    rw [← filled]
    exact List.drop_left' rfl
  have here : next :: size :: hi :: lo :: more ++ rest =
      next :: size :: hi :: lo :: (more ++ rest) := rfl
  rw [Checked.walk_of_header announces offset here (by omega),
    if_neg fun later => later.2 (first later.1), if_neg (by omega), behind, filled]

theorem exists_cons_cons {content : Bytes} (long : 2 ≤ content.length) :
    ∃ hi lo more, content = hi :: lo :: more := by
  obtain _ | ⟨hi, _ | ⟨lo, more⟩⟩ := content
  · cases long
  · exact absurd long (by simp)
  · exact ⟨hi, lo, more, rfl⟩

/-- The walk passes a complete header. -/
theorem walk_bytes (header : ExtensionHeader) (next : UInt8) (offset : Nat) (rest : Bytes) :
    Network.walk header.protocol offset (header.bytes next ++ rest) =
      Network.walk (.ofNumber next) (offset + (header.bytes next).length) rest := by
  cases header with
  | options protocol named size content filled =>
    have announces : Network.Extension.of? protocol = some .options := by
      cases protocol <;> simp_all [Network.Extension.of?]
    obtain ⟨hi, lo, more, rfl⟩ := exists_cons_cons (show 2 ≤ content.length by omega)
    refine walk_of_filled announces ?_ (by simp) offset rest
    simp only [List.length_cons] at filled
    rw [Network.Extension.length]
    omega
  | authentication size content filled =>
    obtain ⟨hi, lo, more, rfl⟩ := exists_cons_cons (show 2 ≤ content.length by omega)
    have announces : Network.Extension.of? .ah = some .authentication := rfl
    refine walk_of_filled announces ?_ (by simp) offset rest
    simp only [List.length_cons] at filled
    rw [Network.Extension.length]
    omega
  | fragment reserved flags identification =>
    have small := flags.isLt
    have four : (Bytes.be32 identification).length + 4 =
        Network.Extension.length reserved .fragment := rfl
    refine walk_of_filled rfl four (fun _ => ?_) offset rest
    simp only [UInt16.toNat_ofNat', UInt8.toNat_ofNat']
    omega

/-- The walk passes a chain of complete headers. -/
theorem walk_chain_append (headers : List ExtensionHeader) (last : UInt8) (offset : Nat)
    (rest : Bytes) :
    Network.walk (.ofNumber (announced headers last)) offset (chain headers last ++ rest) =
      Network.walk (.ofNumber last) (offset + (chain headers last).length) rest := by
  induction headers generalizing offset with
  | nil => rfl
  | cons header headers ih =>
    rw [announced, chain, List.append_assoc, ofNumber_number_protocol, walk_bytes, ih,
      List.length_append, Nat.add_assoc]

/-- **The walk along a chain ends behind the chain**, at the protocol that the chain leads to. -/
theorem walk_chain (headers : List ExtensionHeader) {last : UInt8}
    (transport : Network.Extension.of? (.ofNumber last) = none) (offset : Nat) (segment : Bytes) :
    Network.walk (.ofNumber (announced headers last)) offset (chain headers last ++ segment) =
      ⟨.ofNumber last, .ok (some segment)⟩ := by
  rw [walk_chain_append, Network.walk, transport]

end ExtensionHeader

/-- A header of version 6 with a chain of extension headers. -/
structure Carrier6 where
  /-- The traffic class and the flow label. -/
  label : Fin (2 ^ 28)
  hops : UInt8
  source : Ipv6Addr
  destination : Ipv6Addr
  headers : List ExtensionHeader

namespace Carrier6

open ExtensionHeader (announced chain walk_chain)

variable (c : Carrier6) (protocol : UInt8)

/-- The header without its extensions, in a packet with so many bytes behind it. -/
def front (payload : Nat) : Bytes :=
  Bytes.bigEndian 4 (6 * 2 ^ 28 + c.label) ++ Bytes.be16 (.ofNat payload) ++
    [announced c.headers protocol, c.hops] ++ c.source.octets ++ c.destination.octets

/-- The number of bytes behind the header, in a packet that carries a segment. -/
def payloadLength (segment : Bytes) : Nat := (chain c.headers protocol).length + segment.length

/-- The packet that carries a segment behind the headers. -/
def packet (segment : Bytes) : Bytes :=
  c.front protocol (c.payloadLength protocol segment) ++ chain c.headers protocol ++ segment

@[simp] theorem length_front (payload : Nat) : (c.front protocol payload).length = 40 := rfl

/-- The header of a packet is read as it is written. -/
theorem ipv6Header?_front {payload : Nat} (small : payload < 65536) (rest : Bytes) :
    Network.ipv6Header? (c.front protocol payload ++ rest) = some
      { payloadLength := payload
        next := .ofNumber (announced c.headers protocol)
        source := .v6 c.source
        destination := .v6 c.destination } := by
  have front : Bytes.first? Network.ipv6HeaderSize (c.front protocol payload ++ rest) =
      some (c.front protocol payload) := Bytes.first?_append (c.front protocol payload) rest
  have payloadRead : Bytes.be16At? (c.front protocol payload) 4 = some (.ofNat payload) :=
    Bytes.be16At?_of_drop rfl
  have payloadIs : (UInt16.ofNat payload).toNat = payload := UInt16.toNat_ofNat_of_lt' small
  have nextRead : (c.front protocol payload)[6]? = some (announced c.headers protocol) := rfl
  have source : Bytes.sliceAt? (c.front protocol payload) 8 16 = some c.source.octets := rfl
  have destination : Bytes.sliceAt? (c.front protocol payload) 24 16 =
      some c.destination.octets := rfl
  simp only [Network.ipv6Header?, front, payloadRead, nextRead, source, destination,
    Option.bind_eq_bind, Option.bind_some, IpAddr.ofBytes?_octets_v6, Option.pure_def, payloadIs]

/-- **A packet of version 6 is read to carry its segment**, whatever follows it in the frame. -/
theorem decode6_packet {segment : Bytes} (small : c.payloadLength protocol segment ≤ 65535)
    (transport : Network.Extension.of? (.ofNumber protocol) = none) (padding : Bytes) :
    Network.decode6 (c.packet protocol segment ++ padding) = .ok
      { source := .v6 c.source
        destination := .v6 c.destination
        protocol := .ofNumber protocol
        segment := .ok (some segment) } := by
  have behind : ((c.packet protocol segment ++ padding).drop Network.ipv6HeaderSize).take
      (c.payloadLength protocol segment) = chain c.headers protocol ++ segment := by
    have parts : c.packet protocol segment ++ padding =
        c.front protocol (c.payloadLength protocol segment) ++
          (chain c.headers protocol ++ segment ++ padding) := by
      simp only [packet, List.append_assoc]
    have front : (c.front protocol (c.payloadLength protocol segment)).length =
        Network.ipv6HeaderSize := rfl
    have behind : (chain c.headers protocol ++ segment).length = c.payloadLength protocol segment :=
      List.length_append
    rw [parts, List.drop_left' front, List.take_left' behind]
  have header := c.ipv6Header?_front protocol (Nat.lt_succ_of_le small)
    (chain c.headers protocol ++ (segment ++ padding))
  rw [← List.append_assoc, ← List.append_assoc, ← packet] at header
  rw [Network.decode6, header]
  simp only
  rw [behind, walk_chain c.headers transport]

end Carrier6

/-! ## Frames -/

/-- An Ethernet frame without VLAN tags. -/
def untagged (dst src : Mac) (type : EtherType) (carried : Bytes) : Bytes :=
  dst.octets ++ src.octets ++ Bytes.be16 type.number ++ carried

namespace Packet

/-- The front of a frame is read as it is written. -/
theorem ethernetHeader?_untagged (dst src : Mac) {type : EtherType}
    (named : .ofNumber type.number = type) (carried : Bytes) :
    ethernetHeader? (untagged dst src type carried) = some (dst, src, type) := by
  have front : Bytes.first? ethernetHeaderSize (untagged dst src type carried) =
      some (dst.octets ++ src.octets ++ Bytes.be16 type.number) :=
    Bytes.first?_append (dst.octets ++ src.octets ++ Bytes.be16 type.number) carried
  have typeRead : Bytes.be16At? (dst.octets ++ src.octets ++ Bytes.be16 type.number) 12 =
      some type.number := Bytes.be16At?_of_drop rfl
  have dstRead : Bytes.sliceAt? (dst.octets ++ src.octets ++ Bytes.be16 type.number) 0 6 =
      some dst.octets := rfl
  have srcRead : Bytes.sliceAt? (dst.octets ++ src.octets ++ Bytes.be16 type.number) 6 6 =
      some src.octets := rfl
  simp only [ethernetHeader?, front, dstRead, srcRead, typeRead, Option.bind_eq_bind,
    Option.bind_some, Mac.ofBytes?_octets, Option.pure_def, named]

/-- What a frame without tags carries is read behind its front. -/
theorem decode_untagged (dst src : Mac) {type : EtherType} (named : .ofNumber type.number = type)
    (plain : ¬ type.isVlan = true) (carried : Bytes) (time : Duration) :
    decode (untagged dst src type carried) time =
      Packet.addCarried
        { time
          srcMac := some src
          dstMac := some dst
          length := (untagged dst src type carried).length
          raw := untagged dst src type carried } type carried := by
  have behind : (untagged dst src type carried).drop ethernetHeaderSize = carried := rfl
  rw [decode, ethernetHeader?_untagged dst src named]
  simp only [behind, Checked.walk_of_untagged plain]

/-- What is read of a packet that carries a segment. -/
theorem addNetwork_segment (p : Packet) (source destination : IpAddr) (protocol : IpProtocol)
    (segment : Bytes) :
    p.addNetwork (.ok ⟨source, destination, protocol, .ok (some segment)⟩) =
      ((p.withNetwork ⟨source, destination, protocol, .ok (some segment)⟩).withTransport
        (Transport.decode protocol segment).1, (Transport.decode protocol segment).2) := rfl

end Packet

/-- A number that announces no extension header announces a transport header. -/
theorem Network.extension_of_ofNumber {protocol : UInt8}
    (transport : protocol ∉ ([0, 43, 44, 51, 60] : List UInt8)) :
    Extension.of? (.ofNumber protocol) = none := by
  have number := IpProtocol.number_ofNumber protocol
  generalize IpProtocol.ofNumber protocol = named at number
  subst number
  cases named <;> simp_all [Extension.of?, IpProtocol.number]

namespace Packet

/-- The same is read of a segment behind both headers, and the addresses are those of the header. -/
structure ReadAlike (protocol : UInt8) (a : Carrier4) (b : Carrier6)
    (p q : Packet × Option LayerError) : Prop where
  protocol : p.1.protocol = some (.ofNumber protocol) ∧ q.1.protocol = some (.ofNumber protocol)
  srcPort : p.1.srcPort = q.1.srcPort
  dstPort : p.1.dstPort = q.1.dstPort
  tcpFlags : p.1.tcpFlags = q.1.tcpFlags
  payloadLength : p.1.payloadLength = q.1.payloadLength
  error : p.2 = q.2
  source : p.1.srcIp = some (.v4 a.source) ∧ q.1.srcIp = some (.v6 b.source)
  destination : p.1.dstIp = some (.v4 a.destination) ∧ q.1.dstIp = some (.v6 b.destination)

/-- **A segment is read alike behind every header that carries it.**  The options of version 4, the
chain of extension headers of version 6 and padding behind the packet make no difference to
protocol, ports, flags, payload and error. -/
theorem decode_segment_alike {protocol : UInt8}
    (transport : protocol ∉ ([0, 43, 44, 51, 60] : List UInt8)) (segment : Bytes)
    (a : Carrier4) (fits4 : a.headerLength + segment.length ≤ 65535)
    (b : Carrier6) (fits6 : b.payloadLength protocol segment ≤ 65535)
    (dst4 src4 dst6 src6 : Mac) (padding4 padding6 : Bytes) (time4 time6 : Duration) :
    ReadAlike protocol a b
      (decode (untagged dst4 src4 .ipv4 (a.packet protocol segment ++ padding4)) time4)
      (decode (untagged dst6 src6 .ipv6 (b.packet protocol segment ++ padding6)) time6) := by
  have announces := Network.extension_of_ofNumber transport
  rw [decode_untagged dst4 src4 rfl (by decide), addCarried,
    a.decode4_packet protocol fits4 padding4, addNetwork_segment,
    decode_untagged dst6 src6 rfl (by decide), addCarried,
    b.decode6_packet protocol fits6 announces padding6, addNetwork_segment]
  exact ⟨⟨rfl, rfl⟩, rfl, rfl, rfl, rfl, rfl, ⟨rfl, rfl⟩, rfl, rfl⟩

/-- A TCP segment whose header claims to be longer than the segment, behind options of version 4,
and behind options and a fragment header of version 6. -/
theorem decode_segment_alike_long_header :
    let segment : Bytes := [0x9c, 0x40, 1, 0xbb, 0, 0, 0, 0, 0, 0, 0, 0, 0xf0, 2, 0, 0, 0, 0, 0, 0]
    let a : Carrier4 :=
      { service := 0, identification := 1, flags := 2, hops := 64, checksum := 0
        source := ⟨10, 0, 0, 1⟩, destination := ⟨10, 0, 0, 2⟩
        options := [1, 1, 1, 0], words := rfl, counted := by decide }
    let b : Carrier6 :=
      { label := 0, hops := 64
        source := ⟨0x2001, 0xdb8, 0, 0, 0, 0, 0, 1⟩
        destination := ⟨0x2001, 0xdb8, 0, 0, 0, 0, 0, 2⟩
        headers := [.options .hopByHop (by decide) 0 [5, 2, 0, 0, 1, 0] rfl, .fragment 0 1 7] }
    6 ∉ ([0, 43, 44, 51, 60] : List UInt8) ∧ a.headerLength + segment.length ≤ 65535 ∧
      b.payloadLength 6 segment ≤ 65535 ∧
      (decode (untagged default default .ipv6 (b.packet 6 segment ++ [])) .zero).2 =
        some (.tcpDataOffset 60) := by
  intro segment a b
  have transport : 6 ∉ ([0, 43, 44, 51, 60] : List UInt8) := by decide
  have fits4 : a.headerLength + segment.length ≤ 65535 := by decide
  have fits6 : b.payloadLength 6 segment ≤ 65535 := by decide
  have alike := decode_segment_alike transport segment a fits4 b fits6 default default default
    default [0, 0] [] .zero .zero
  have error4 : (decode (untagged default default .ipv4 (a.packet 6 segment ++ [0, 0])) .zero).2 =
      some (.tcpDataOffset 60) := by decide
  exact ⟨transport, fits4, fits6, alike.error.symm.trans error4⟩

end Packet

end Wiretap
