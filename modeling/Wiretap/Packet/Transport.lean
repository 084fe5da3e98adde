import Wiretap.Packet.Basic

/-!
# Transport headers

Ports, flags and payload length of a transport segment.  Only TCP and UDP are read; every other
protocol has no ports.

## Main definitions

* `Transport` - what a transport header says.
* `Transport.decode` - the header at the front of a segment, as far as it can be read, and what
  is wrong with it.

## Design notes

The length that a UDP header declares is not consulted: the payload is all that the packet holds
behind the header.  A TCP header with a wrong data offset still gives its ports and flags.
-/

namespace Wiretap

/-- What a transport header says. -/
structure Transport where
  srcPort : UInt16 := 0
  dstPort : UInt16 := 0
  flags : Option TcpFlags := none
  payloadLength : Nat := 0
deriving DecidableEq, Repr

namespace Transport

/-- The number of bytes of a TCP header without options. -/
def tcpHeaderSize : Nat := 20

/-- The number of bytes of a UDP header. -/
def udpHeaderSize : Nat := 8

/-- The fields of a TCP header that are read, and the header length that it declares. -/
def tcpHeader? (segment : Bytes) : Option (Transport × Nat) := do
  let header ← Bytes.first? tcpHeaderSize segment
  let srcPort ← Bytes.be16At? header 0
  let dstPort ← Bytes.be16At? header 2
  let offset ← header[12]?
  let flags ← header[13]?
  return ({ srcPort, dstPort, flags := some (.ofHeader offset flags) }, offset.toNat / 16 * 4)

/-- The TCP header at the front of a segment. -/
def decodeTcp (segment : Bytes) : Transport × Option LayerError :=
  match tcpHeader? segment with
  | none => ({}, some (.tcpTruncated segment.length))
  | some (header, declared) =>
    if declared < tcpHeaderSize ∨ segment.length < declared then
      (header, some (.tcpDataOffset declared))
    else
      ({ header with payloadLength := segment.length - declared }, none)

/-- The ports of a UDP header. -/
def udpHeader? (segment : Bytes) : Option Transport := do
  let header ← Bytes.first? udpHeaderSize segment
  let srcPort ← Bytes.be16At? header 0
  let dstPort ← Bytes.be16At? header 2
  return { srcPort, dstPort }

/-- The UDP header at the front of a segment. -/
def decodeUdp (segment : Bytes) : Transport × Option LayerError :=
  match udpHeader? segment with
  | none => ({}, some (.udpTruncated segment.length))
  | some header => ({ header with payloadLength := segment.length - udpHeaderSize }, none)

/-- The transport header of a segment of the given protocol. -/
def decode (protocol : IpProtocol) (segment : Bytes) : Transport × Option LayerError :=
  match protocol with
  | .tcp => decodeTcp segment
  | .udp => decodeUdp segment
  | _ => ({}, none)

/-- A protocol other than TCP and UDP says nothing and has nothing wrong. -/
theorem decode_of_ne {protocol : IpProtocol} (htcp : protocol ≠ .tcp) (hudp : protocol ≠ .udp)
    (segment : Bytes) : decode protocol segment = ({}, none) := by
  unfold decode
  split <;> simp_all

end Transport

end Wiretap
