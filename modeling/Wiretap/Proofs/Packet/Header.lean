import Wiretap.Packet.Network
import Wiretap.Proofs.Access.Basic

/-!
# Internet headers by their places

The fields of an internet header stand at fixed places, and nothing else of the packet is looked at
to read them.

## Main statements

* `Network.ipv4Header?_of_places`, `Network.ipv6Header?_of_places` - the header of a packet, from
  the bytes and words at its places.
-/

namespace Wiretap.Network

variable {packet : Bytes}

/-- The header of a packet of version 4 by its places.  The addresses may be any. -/
theorem ipv4Header?_of_places (long : ipv4HeaderSize ≤ packet.length) {first protocol : UInt8}
    {total fragment : UInt16} (firstAt : packet[0]? = some first)
    (totalAt : Bytes.be16At? packet 2 = some total)
    (fragmentAt : Bytes.be16At? packet 6 = some fragment)
    (protocolAt : packet[9]? = some protocol) :
    ∃ source destination, ipv4Header? packet = some
      { headerLength := first.toNat % 16 * 4
        totalLength := total.toNat
        fragmentOffset := fragment.toNat % 8192
        protocol := .ofNumber protocol
        source := .v4 source
        destination := .v4 destination } := by
  obtain ⟨sourceBytes, sourceRead, -, sourceSize⟩ :=
    Checked.slice_header long (show 12 + 4 = 16 from rfl) (by decide)
  obtain ⟨destinationBytes, destinationRead, -, destinationSize⟩ :=
    Checked.slice_header long (show 16 + 4 = 20 from rfl) (by decide)
  obtain ⟨source, -, sourceIs⟩ := Checked.ipv4_of_length sourceSize
  obtain ⟨destination, -, destinationIs⟩ := Checked.ipv4_of_length destinationSize
  rw [← List.getElem?_take_of_lt (show 0 < ipv4HeaderSize by decide)] at firstAt
  rw [← List.getElem?_take_of_lt (show 9 < ipv4HeaderSize by decide)] at protocolAt
  rw [← Bytes.be16At?_take (show 2 + 2 ≤ ipv4HeaderSize by decide)] at totalAt
  rw [← Bytes.be16At?_take (show 6 + 2 ≤ ipv4HeaderSize by decide)] at fragmentAt
  refine ⟨source, destination, ?_⟩
  simp only [ipv4Header?, Bytes.first?_of_le long, firstAt, totalAt, fragmentAt, protocolAt,
    sourceRead, sourceIs, destinationRead, destinationIs, Option.bind_eq_bind, Option.bind_some,
    Option.pure_def]

/-- The header of a packet of version 6 by its places.  The addresses may be any. -/
theorem ipv6Header?_of_places (long : ipv6HeaderSize ≤ packet.length) {payload : UInt16}
    {next : UInt8} (payloadAt : Bytes.be16At? packet 4 = some payload)
    (nextAt : packet[6]? = some next) :
    ∃ source destination, ipv6Header? packet = some
      { payloadLength := payload.toNat
        next := .ofNumber next
        source := .v6 source
        destination := .v6 destination } := by
  obtain ⟨sourceBytes, sourceRead, -, sourceSize⟩ :=
    Checked.slice_header long (show 8 + 16 = 24 from rfl) (by decide)
  obtain ⟨destinationBytes, destinationRead, -, destinationSize⟩ :=
    Checked.slice_header long (show 24 + 16 = 40 from rfl) (by decide)
  obtain ⟨source, -, sourceIs⟩ := Checked.ipv6_of_length sourceSize
  obtain ⟨destination, -, destinationIs⟩ := Checked.ipv6_of_length destinationSize
  rw [← List.getElem?_take_of_lt (show 6 < ipv6HeaderSize by decide)] at nextAt
  rw [← Bytes.be16At?_take (show 4 + 2 ≤ ipv6HeaderSize by decide)] at payloadAt
  refine ⟨source, destination, ?_⟩
  simp only [ipv6Header?, Bytes.first?_of_le long, payloadAt, nextAt, sourceRead, sourceIs,
    destinationRead, destinationIs, Option.bind_eq_bind, Option.bind_some, Option.pure_def]

end Wiretap.Network
