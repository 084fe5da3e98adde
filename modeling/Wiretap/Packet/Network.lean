import Wiretap.Packet.Basic

/-!
# Internet headers

Addresses and protocol of an internet packet of either version, and the transport segment that
the packet carries.

## Main definitions

* `Network` - what the headers of a packet say.
* `Network.decode4`, `Network.decode6` - the headers of a packet of version 4 and version 6.
* `Extension`, `Network.walk` - the extension headers of version 6 and the walk along them.

## Design notes

The bytes behind the length that a header declares are padding of the layer below and belong to
no segment.  Only the first fragment of a packet holds a transport header; of the others the
segment is not read.

The walk along the extension headers stops at the first header that is no extension.  Each step
passes at least eight bytes, so the walk ends.
-/

namespace Wiretap

/-- What the headers of an internet packet say. -/
structure Network where
  source : IpAddr
  destination : IpAddr
  protocol : IpProtocol
  /-- The transport segment, absent in a fragment other than the first, or what is wrong. -/
  segment : Except LayerError (Option Bytes)

namespace Network

/-! ### Version 4 -/

/-- The number of bytes of a header of version 4 without options. -/
def ipv4HeaderSize : Nat := 20

/-- The fields of a header of version 4 that are read. -/
structure Ipv4Header where
  /-- The length of the header. -/
  headerLength : Nat
  /-- The length of the whole packet. -/
  totalLength : Nat
  /-- Where this fragment begins, in units of eight bytes. -/
  fragmentOffset : Nat
  protocol : IpProtocol
  source : IpAddr
  destination : IpAddr

/-- The header at the front of a packet of version 4, if the packet is long enough for one. -/
def ipv4Header? (packet : Bytes) : Option Ipv4Header := do
  let header ← Bytes.first? ipv4HeaderSize packet
  let lengthByte ← header[0]?
  let totalLength ← Bytes.be16At? header 2
  let fragment ← Bytes.be16At? header 6
  let protocol ← header[9]?
  let source ← Bytes.sliceAt? header 12 4 >>= IpAddr.ofBytes?
  let destination ← Bytes.sliceAt? header 16 4 >>= IpAddr.ofBytes?
  return {
    headerLength := lengthByte.toNat % 16 * 4
    totalLength := totalLength.toNat
    fragmentOffset := fragment.toNat % 8192
    protocol := .ofNumber protocol
    source
    destination }

/-- The segment of a packet of version 4. -/
def Ipv4Header.segment (h : Ipv4Header) (packet : Bytes) : Except LayerError (Option Bytes) :=
  if h.totalLength < h.headerLength then .error (.ipv4TotalLength h.totalLength)
  else if h.fragmentOffset ≠ 0 then .ok none
  else .ok (some ((packet.take h.totalLength).drop h.headerLength))

/-- The header of a packet of version 4. -/
def decode4 (packet : Bytes) : Except LayerError Network :=
  match ipv4Header? packet with
  | none => .error (.ipv4Truncated packet.length)
  | some h =>
    if h.headerLength < ipv4HeaderSize ∨ packet.length < h.headerLength then
      .error (.ipv4HeaderLength h.headerLength)
    else
      .ok {
        source := h.source
        destination := h.destination
        protocol := h.protocol
        segment := h.segment packet }

/-! ### Version 6 -/

/-- The number of bytes of a header of version 6. -/
def ipv6HeaderSize : Nat := 40

/-- How long an extension header is. -/
inductive Extension where
  /-- Units of eight bytes, one more than its second byte says. -/
  | options
  /-- Units of four bytes, two more than its second byte says. -/
  | authentication
  /-- Always eight bytes. -/
  | fragment
deriving DecidableEq, Repr

/-- The extension header that a protocol number announces, if it is one that is walked. -/
def Extension.of? : IpProtocol → Option Extension
  | .hopByHop | .routing | .destination => some options
  | .ah => some authentication
  | .fragment => some fragment
  | _ => none

/-- The length of an extension header whose second byte is `size`. -/
def Extension.length (size : UInt8) : Extension → Nat
  | options => (size.toNat + 1) * 8
  | authentication => (size.toNat + 2) * 4
  | fragment => 8

theorem Extension.length_pos (size : UInt8) (x : Extension) : 0 < x.length size := by
  cases x <;> simp only [Extension.length] <;> omega

/-- Where a walk along extension headers ends: the protocol that it stands at, and the segment
behind the headers. -/
structure Walk where
  protocol : IpProtocol
  segment : Except LayerError (Option Bytes)

/-- The walk from `offset` on, where `protocol` is announced and `rest` are the bytes of the
packet from there. -/
def walk (protocol : IpProtocol) (offset : Nat) (rest : Bytes) : Walk :=
  match Extension.of? protocol with
  | none => ⟨protocol, .ok (some rest)⟩
  | some extension =>
    match Bytes.first? 8 rest with
    | some (next :: size :: hi :: lo :: _) =>
      if extension = .fragment ∧ (256 * hi.toNat + lo.toNat) / 8 ≠ 0 then
        ⟨.ofNumber next, .ok none⟩
      else if rest.length < extension.length size then
        ⟨protocol, .error (.extensionTruncated protocol offset)⟩
      else
        walk (.ofNumber next) (offset + extension.length size)
          (rest.drop (extension.length size))
    | _ => ⟨protocol, .error (.extensionTruncated protocol offset)⟩
termination_by rest.length
decreasing_by
  have := Extension.length_pos size extension
  simp only [List.length_drop]
  omega

/-- The fields of a header of version 6 that are read. -/
structure Ipv6Header where
  /-- The length of everything behind the header. -/
  payloadLength : Nat
  next : IpProtocol
  source : IpAddr
  destination : IpAddr

/-- The header at the front of a packet of version 6, if the packet is long enough for one. -/
def ipv6Header? (packet : Bytes) : Option Ipv6Header := do
  let header ← Bytes.first? ipv6HeaderSize packet
  let payloadLength ← Bytes.be16At? header 4
  let next ← header[6]?
  let source ← Bytes.sliceAt? header 8 16 >>= IpAddr.ofBytes?
  let destination ← Bytes.sliceAt? header 24 16 >>= IpAddr.ofBytes?
  return { payloadLength := payloadLength.toNat, next := .ofNumber next, source, destination }

/-- The headers of a packet of version 6. -/
def decode6 (packet : Bytes) : Except LayerError Network :=
  match ipv6Header? packet with
  | none => .error (.ipv6Truncated packet.length)
  | some h =>
    let rest := (packet.drop ipv6HeaderSize).take h.payloadLength
    let stop := walk h.next ipv6HeaderSize rest
    .ok {
      source := h.source
      destination := h.destination
      protocol := stop.protocol
      segment := stop.segment }

end Network

end Wiretap
