import Wiretap.Netflow.Datagram
import Wiretap.Proofs.Bytes

/-!
# Datagrams read back

Every value of an exported datagram stands at its own place, and reading the places gives the values
back.

## Main definitions

* `Netflow.Datagram.key` - the flow that a datagram is about.

## Main statements

* `Netflow.Datagram.read?_encode` - reading undoes encoding.
* `Netflow.read?_encodeRecord` - what a collector reads from the datagram of a record.
-/

namespace Wiretap

namespace Netflow

open Bytes

namespace Datagram

/-- The flow that a datagram is about. -/
def key (d : Datagram) : FlowKey := ⟨d.src, d.dst, d.srcPort, d.dstPort, d.protocol⟩

/-- The words of the header at their places. -/
theorem header_words (d : Datagram) :
    be16At? d.encode 0 = some version ∧ be16At? d.encode 2 = some 1 ∧
      be32At? d.encode 4 = some d.uptime ∧ be32At? d.encode 8 = some d.secs ∧
      be32At? d.encode 12 = some d.nanos ∧ be32At? d.encode 16 = some d.sequence := by
  -- What stands at a place is found by dropping the pieces before it, so they come first.
  simp only [encode, header, body, List.append_assoc]
  exact ⟨be16At?_of_drop rfl, be16At?_of_drop rfl, be32At?_of_drop rfl, be32At?_of_drop rfl,
    be32At?_of_drop rfl, be32At?_of_drop rfl⟩

/-- The words of the record at their places. -/
theorem record_words (d : Datagram) :
    be32At? d.encode 40 = some d.packets ∧ be32At? d.encode 44 = some d.octets ∧
      be32At? d.encode 48 = some d.first ∧ be32At? d.encode 52 = some d.last ∧
      be16At? d.encode 56 = some d.srcPort ∧ be16At? d.encode 58 = some d.dstPort := by
  simp only [encode, header, body, List.append_assoc]
  exact ⟨be32At?_of_drop rfl, be32At?_of_drop rfl, be32At?_of_drop rfl, be32At?_of_drop rfl,
    be16At?_of_drop rfl, be16At?_of_drop rfl⟩

/-- The addresses, the flags and the protocol at their places. -/
theorem record_bytes (d : Datagram) :
    sliceAt? d.encode 24 4 = some d.src.octets ∧ sliceAt? d.encode 28 4 = some d.dst.octets ∧
      d.encode[61]? = some d.flags ∧ d.encode[62]? = some d.protocol := by
  simp only [encode, header, body, List.append_assoc]
  exact ⟨rfl, rfl, rfl, rfl⟩

/-- **Reading undoes encoding.**  No two values of a datagram share a byte. -/
theorem read?_encode (d : Datagram) : read? d.encode = some d := by
  obtain ⟨version', count, uptime, secs, nanos, sequence⟩ := header_words d
  obtain ⟨packets, octets, first, last, srcPort, dstPort⟩ := record_words d
  obtain ⟨src, dst, flags, protocol⟩ := record_bytes d
  have size : d.encode.length = datagramSize := length_encode d
  simp [read?, size, version', count, uptime, secs, nanos, sequence, packets, octets, first, last,
    srcPort, dstPort, src, dst, flags, protocol]

end Datagram

/-- What a collector reads from the datagram of a record. -/
theorem read?_encodeRecord (r : FlowRecord) (sequence : UInt32) (now : Duration) :
    Datagram.read? (encodeRecord r sequence now) = some (.ofRecord r sequence now) :=
  Datagram.read?_encode _

@[simp] theorem key_ofRecord (r : FlowRecord) (sequence : UInt32) (now : Duration) :
    (Datagram.ofRecord r sequence now).key = r.key := rfl

end Netflow

end Wiretap
