import Wiretap.Address.Ip
import Wiretap.Mac
import Wiretap.Packet.EtherType
import Wiretap.Packet.IpProtocol
import Wiretap.Packet.TcpFlags
import Wiretap.Time.Duration

/-!
# What is known of a packet

The header fields of one frame, gathered from all its layers, and the error of the layer at which
reading the frame had to stop.

## Main definitions

* `Packet` - the fields; those of a layer that was not read are absent or zero.
* `Layer`, `LayerError` - the layers and what can be wrong with one.
* `Packet.text` - the fields in one line, for logs.
-/

namespace Wiretap

/-- A layer of a frame. -/
inductive Layer where
  | ethernet
  | vlan
  | ipv4
  | ipv6
  | tcp
  | udp
deriving DecidableEq, Repr

/-- The name of a layer. -/
def Layer.name : Layer → String
  | ethernet => "Ethernet"
  | vlan => "802.1Q"
  | ipv4 => "IPv4"
  | ipv6 => "IPv6"
  | tcp => "TCP"
  | udp => "UDP"

/-- What is wrong with a layer.  All layers below it have been read. -/
inductive LayerError where
  /-- The frame ends within the Ethernet header. -/
  | frameTooShort (length : Nat)
  /-- The frame ends within a VLAN tag. -/
  | tagTruncated (offset : Nat)
  /-- The frame ends within an IPv4 header. -/
  | ipv4Truncated (length : Nat)
  /-- An IPv4 header declares a length of its own that is too small, or larger than the frame. -/
  | ipv4HeaderLength (declared : Nat)
  /-- An IPv4 header declares a total length that does not even hold the header. -/
  | ipv4TotalLength (declared : Nat)
  /-- The frame ends within an IPv6 header. -/
  | ipv6Truncated (length : Nat)
  /-- An extension header does not fit into the IPv6 packet. -/
  | extensionTruncated (protocol : IpProtocol) (offset : Nat)
  /-- The packet ends within a TCP header. -/
  | tcpTruncated (length : Nat)
  /-- A TCP header declares a length of its own that is too small, or larger than the segment. -/
  | tcpDataOffset (declared : Nat)
  /-- The packet ends within a UDP header. -/
  | udpTruncated (length : Nat)
deriving DecidableEq, Repr

namespace LayerError

/-- The layer that an error belongs to. -/
def layer : LayerError → Layer
  | frameTooShort _ => .ethernet
  | tagTruncated _ => .vlan
  | ipv4Truncated _ | ipv4HeaderLength _ | ipv4TotalLength _ => .ipv4
  | ipv6Truncated _ | extensionTruncated _ _ => .ipv6
  | tcpTruncated _ | tcpDataOffset _ => .tcp
  | udpTruncated _ => .udp

/-- What is wrong, in words. -/
def reason : LayerError → String
  | frameTooShort length => s!"frame too short: {length} bytes"
  | tagTruncated offset => s!"tag truncated at offset {offset}"
  | ipv4Truncated length | ipv6Truncated length | tcpTruncated length | udpTruncated length =>
    s!"header truncated: {length} bytes"
  | ipv4HeaderLength declared => s!"invalid header length {declared}"
  | ipv4TotalLength declared => s!"total length {declared} shorter than header"
  | extensionTruncated protocol offset =>
    s!"extension header {protocol} truncated at offset {offset}"
  | tcpDataOffset declared => s!"invalid data offset {declared}"

/-- The wording of an error. -/
def message (e : LayerError) : String := e.layer.name ++ " layer: " ++ e.reason

end LayerError

/-- The fields of one frame. -/
structure Packet where
  /-- When the frame was seen. -/
  time : Duration := Duration.zero
  srcMac : Option Mac := none
  dstMac : Option Mac := none
  /-- The number of the outermost VLAN. -/
  vlan : Option UInt16 := none
  /-- What the frame carries behind its VLAN tags. -/
  etherType : Option EtherType := none
  srcIp : Option IpAddr := none
  dstIp : Option IpAddr := none
  protocol : Option IpProtocol := none
  srcPort : UInt16 := 0
  dstPort : UInt16 := 0
  tcpFlags : Option TcpFlags := none
  /-- The length of the frame. -/
  length : Nat := 0
  /-- The length of what the transport layer carries. -/
  payloadLength : Nat := 0
  /-- The frame itself. -/
  raw : Bytes := []
deriving DecidableEq, Repr

namespace Packet

instance : Inhabited Packet := ⟨{}⟩

/-- The name of the protocol, empty where there is none. -/
def protocolName (p : Packet) : String := (p.protocol.map IpProtocol.name).getD ""

/-- The letters of the TCP flags, empty where there are none. -/
def flagsText (p : Packet) : String := (p.tcpFlags.map TcpFlags.text).getD ""

/-- The hardware addresses in a line, if both are known. -/
def macText (p : Packet) : String :=
  match p.srcMac, p.dstMac with
  | some src, some dst => s!" mac: {src} > {dst}"
  | _, _ => ""

/-- The number of the VLAN in a line. -/
def vlanText (p : Packet) : String :=
  match p.vlan with
  | some id => s!" vlan: {id}"
  | none => ""

/-- Protocol, internet addresses and ports in a line, if both addresses are known. -/
def endpointsText (p : Packet) : String :=
  match p.srcIp, p.dstIp with
  | some src, some dst => s!" {p.protocolName}: {src}:{p.srcPort} > {dst}:{p.dstPort}"
  | _, _ => ""

/-- The TCP flags in a line. -/
def flagsPart (p : Packet) : String :=
  match p.tcpFlags with
  | some flags => s!" flags: {flags}"
  | none => ""

/-- The packet in one line. -/
def text (p : Packet) : String :=
  s!"len: {p.length}" ++ p.macText ++ p.vlanText ++ p.endpointsText ++ p.flagsPart ++
    s!" payload: {p.payloadLength}"

end Packet

end Wiretap
