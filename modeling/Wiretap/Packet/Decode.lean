import Wiretap.Packet.Network
import Wiretap.Packet.Transport

/-!
# Reading a frame

The fields of an Ethernet frame, layer by layer.  Reading never fails as a whole: it stops at the
first layer that is malformed, and its error is returned beside the fields read so far.

## Main definitions

* `Packet.decode` - the fields of a frame and the error of the layer where reading stopped.
* `Vlan.walk` - the VLAN tags in front of the payload, two at most.
-/

namespace Wiretap

/-- The number of bytes before the payload of a frame without VLAN tags. -/
def ethernetHeaderSize : Nat := 14

/-! ### VLAN tags -/

/-- What the VLAN tags of a frame say. -/
structure Vlan where
  /-- The number in the outermost tag. -/
  id : Option UInt16
  /-- What the frame carries behind the tags, and its bytes from there. -/
  carried : Except LayerError (EtherType × Bytes)

namespace Vlan

/-- The most tags that are passed. -/
def limit : Nat := 2

/-- Passes at most so many tags.  The frame goes on with `type` at `offset`, and `rest` are its
bytes from there. -/
def walk : Nat → EtherType → (offset : Nat) → (rest : Bytes) → Vlan
  | 0, type, _, rest => ⟨none, .ok (type, rest)⟩
  | more + 1, type, offset, rest =>
    if type.isVlan then
      match rest with
      | tagHi :: tagLo :: typeHi :: typeLo :: rest =>
        let tag := 256 * tagHi.toNat + tagLo.toNat
        let inner := EtherType.ofNumber (UInt16.ofNat (256 * typeHi.toNat + typeLo.toNat))
        { walk more inner (offset + 4) rest with id := some (UInt16.ofNat (tag % 4096)) }
      | _ => ⟨none, .error (.tagTruncated offset)⟩
    else
      ⟨none, .ok (type, rest)⟩

end Vlan

/-! ### The layers together -/

namespace Packet

/-- The packet with the fields of its transport layer. -/
def withTransport (p : Packet) (t : Transport) : Packet :=
  { p with
    srcPort := t.srcPort
    dstPort := t.dstPort
    tcpFlags := t.flags
    payloadLength := t.payloadLength }

/-- The packet with the fields of its internet layer. -/
def withNetwork (p : Packet) (n : Network) : Packet :=
  { p with
    srcIp := some n.source
    dstIp := some n.destination
    protocol := some n.protocol }

/-- The packet with the fields of its internet layer and all above it. -/
def addNetwork (p : Packet) : Except LayerError Network → Packet × Option LayerError
  | .error e => (p, some e)
  | .ok n =>
    match n.segment with
    | .error e => (p.withNetwork n, some e)
    | .ok none => (p.withNetwork n, none)
    | .ok (some segment) =>
      let (transport, error) := Transport.decode n.protocol segment
      ((p.withNetwork n).withTransport transport, error)

/-- The packet with what its frame carries behind the VLAN tags. -/
def addCarried (p : Packet) (type : EtherType) (rest : Bytes) : Packet × Option LayerError :=
  let p := { p with etherType := some type }
  match type with
  | .ipv4 => p.addNetwork (Network.decode4 rest)
  | .ipv6 => p.addNetwork (Network.decode6 rest)
  | _ => (p, none)

/-- The addresses and the type at the front of a frame, if the frame is long enough. -/
def ethernetHeader? (frame : Bytes) : Option (Mac × Mac × EtherType) := do
  let header ← Bytes.first? ethernetHeaderSize frame
  let dst ← Bytes.sliceAt? header 0 6 >>= Mac.ofBytes?
  let src ← Bytes.sliceAt? header 6 6 >>= Mac.ofBytes?
  let type ← Bytes.be16At? header 12
  return (dst, src, .ofNumber type)

/-- The fields of a frame seen at a given time, and the error of the layer where reading it
stopped. -/
def decode (frame : Bytes) (time : Duration) : Packet × Option LayerError :=
  let start : Packet := { time, length := frame.length, raw := frame }
  match ethernetHeader? frame with
  | none => (start, some (.frameTooShort frame.length))
  | some (dst, src, type) =>
    let tags := Vlan.walk Vlan.limit type ethernetHeaderSize (frame.drop ethernetHeaderSize)
    let p := { start with dstMac := some dst, srcMac := some src, vlan := tags.id }
    match tags.carried with
    | .error e => (p, some e)
    | .ok (type, rest) => p.addCarried type rest

end Packet

end Wiretap
