import Wiretap.Packet.Basic

/-!
# Flows and their records

A flow is all traffic between two endpoints in one direction; its record sums up the packets of
the flow that were accounted so far.

## Main definitions

* `FlowKey` - the two endpoints and the protocol that make a flow.
* `FlowKey.ofPacket?` - the flow of a packet, for packets with addresses of version 4 only.
* `FlowRecord` - the summary of some packets of a flow.
* `FlowRecord.opening`, `FlowRecord.add` - the summary of one packet, and of one more.

## Design notes

Packets and bytes are counted in 32-bit words, which is what an exported record holds; they start
again at zero past the largest word.  A record does not look at the order of its packets' times:
its last time is the time of the packet accounted last.
-/

namespace Wiretap

/-- The endpoints and the protocol of a flow, which goes from source to destination. -/
structure FlowKey where
  src : Ipv4Addr
  dst : Ipv4Addr
  srcPort : UInt16
  dstPort : UInt16
  protocol : UInt8
deriving DecidableEq, Repr, Inhabited

namespace FlowKey

/-- The protocol number of a flow; protocols other than the transport and control protocols share
the number zero. -/
def protocolNumber : Option IpProtocol → UInt8
  | some .tcp => 6
  | some .udp => 17
  | some .icmp => 1
  | some .icmpv6 => 58
  | _ => 0

/-- The flow of a packet. -/
def ofPacket? (p : Packet) : Option FlowKey :=
  match p.srcIp, p.dstIp with
  | some (.v4 src), some (.v4 dst) =>
    some ⟨src, dst, p.srcPort, p.dstPort, protocolNumber p.protocol⟩
  | _, _ => none

/-- The text of a flow. -/
def text (k : FlowKey) : String :=
  s!"{k.src}:{k.srcPort} > {k.dst}:{k.dstPort} proto: {k.protocol}"

instance : ToString FlowKey := ⟨text⟩

end FlowKey

/-- What accounting takes from a packet. -/
structure FlowSample where
  time : Duration
  bytes : UInt32
  flags : UInt8
deriving DecidableEq, Repr

/-- The sample of a packet.  A length beyond 32 bits counts as the largest word. -/
def FlowSample.ofPacket (p : Packet) : FlowSample where
  time := p.time
  bytes := UInt32.ofNat (min p.length (UInt32.size - 1))
  flags := (p.tcpFlags.map TcpFlags.low).getD 0

/-- The summary of some packets of a flow. -/
structure FlowRecord where
  key : FlowKey
  first : Duration
  last : Duration
  packets : UInt32
  bytes : UInt32
  /-- The exported TCP flags of all packets together. -/
  flags : UInt8
deriving DecidableEq, Repr, Inhabited

namespace FlowRecord

/-- The summary of one packet. -/
def opening (key : FlowKey) (s : FlowSample) : FlowRecord :=
  ⟨key, s.time, s.time, 1, s.bytes, s.flags⟩

/-- The summary of one packet more. -/
def add (r : FlowRecord) (s : FlowSample) : FlowRecord :=
  { r with
    last := s.time
    packets := r.packets + 1
    bytes := r.bytes + s.bytes
    flags := r.flags ||| s.flags }

@[simp] theorem key_opening (key : FlowKey) (s : FlowSample) : (opening key s).key = key := rfl

@[simp] theorem key_add (r : FlowRecord) (s : FlowSample) : (r.add s).key = r.key := rfl

@[simp] theorem first_add (r : FlowRecord) (s : FlowSample) : (r.add s).first = r.first := rfl

@[simp] theorem last_add (r : FlowRecord) (s : FlowSample) : (r.add s).last = s.time := rfl

/-- How long after its first packet the last one was seen, nothing if it was not after it. -/
def duration (r : FlowRecord) : Duration := r.last.since r.first

/-- The record in one line, for logs. -/
def text (r : FlowRecord) : String :=
  let flags := String.ofList (Text.hexByte r.flags)
  s!"{r.key} packets: {r.packets} bytes: {r.bytes} flags: 0x{flags} duration: {r.duration}"

instance : ToString FlowRecord := ⟨text⟩

end FlowRecord

end Wiretap
