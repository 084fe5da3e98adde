import Wiretap.Proofs.Netflow.ReadBack

/-!
# The layout of exported datagrams

Every value of a flow record has bytes of its own in its datagram, all other bytes are zero, and the
datagram tells the values that it was made from.

## Main definitions

* `Netflow.Datagram.places` - where the values of a datagram stand.
* `Netflow.Datagram.Holds` - what is read at each place.

## Main statements

* `Netflow.Datagram.encode_inj` - equal bytes come from equal values.
* `Netflow.Datagram.getElem?_encode` - a byte that belongs to no value is zero.
* `Netflow.Datagram.ofRecord_eq_iff` - which records and times give the same values.
* `Netflow.encodeRecord_layout` - a datagram holds its values, and which datagrams are equal.

## Design notes

A datagram holds seconds modulo 2 ^ 32.  Milliseconds are their product with 1000, and it makes no
difference whether that is taken modulo 2 ^ 64 before, or the seconds modulo 2 ^ 32.  So the field
of milliseconds tells nothing that the seconds do not.
-/

namespace Wiretap

/-- What is read of a slice is read of the bytes that it was taken from. -/
theorem Bytes.getElem?_of_sliceAt? {b slice : Bytes} {offset width k : Nat} (within : k < width)
    (taken : sliceAt? b offset width = some slice) : b[offset + k]? = slice[k]? := by
  unfold sliceAt? first? at taken
  split at taken
  · cases taken
    rw [List.getElem?_take_of_lt within, List.getElem?_drop]
  · cases taken

namespace Netflow

open Bytes

namespace Datagram

variable {d e : Datagram} {r s : FlowRecord} {m n : UInt32} {now later : Duration}

/-! ### Places -/

/-- The places of a datagram where a value stands: an offset and a number of bytes. -/
def places : List (Nat × Nat) :=
  [(0, 2), (2, 2), (4, 4), (8, 4), (12, 4), (16, 4), (24, 4), (28, 4), (40, 4), (44, 4), (48, 4),
    (52, 4), (56, 2), (58, 2), (61, 1), (62, 1)]

/-- The places between them. -/
def blanks : List (Nat × Nat) := [(20, 4), (32, 8), (60, 1), (63, 9)]

/-- The values stand one behind the other within a datagram. -/
theorem places_apart :
    places.Pairwise (fun p q => p.1 + p.2 ≤ q.1) ∧ ∀ p ∈ places, p.1 + p.2 ≤ datagramSize := by
  decide

/-- What belongs to no value lies between the values. -/
theorem exists_blank : ∀ i < datagramSize, (∀ p ∈ places, i < p.1 ∨ p.1 + p.2 ≤ i) →
    ∃ p ∈ blanks, p.1 ≤ i ∧ i < p.1 + p.2 := by
  decide

theorem sliceAt?_blank : ∀ p ∈ blanks, sliceAt? d.encode p.1 p.2 = some (List.replicate p.2 0) := by
  simp only [blanks, List.forall_mem_cons, List.not_mem_nil, false_implies, implies_true, and_true,
    encode, header, body, List.append_assoc]
  exact ⟨rfl, rfl, rfl, rfl⟩

/-- A byte that belongs to no value is zero. -/
theorem getElem?_encode {i : Nat} (inside : i < datagramSize)
    (blank : ∀ p ∈ places, i < p.1 ∨ p.1 + p.2 ≤ i) : d.encode[i]? = some 0 := by
  obtain ⟨p, member, first, last⟩ := exists_blank i inside blank
  have zero := getElem?_of_sliceAt? (k := i - p.1) (by omega) (sliceAt?_blank (d := d) p member)
  rwa [Nat.add_sub_cancel' first, List.getElem?_replicate_of_lt (by omega)] at zero

/-! ### Values -/

/-- Equal bytes come from equal values. -/
theorem encode_inj : d.encode = e.encode ↔ d = e := by
  constructor
  · intro same
    have read := read?_encode d
    rw [same, read?_encode] at read
    exact (Option.some.inj read).symm
  · rintro rfl
    rfl

/-- Words are equal if the numbers are equal modulo 2 ^ 32. -/
theorem ofNat_inj {a b : Nat} : UInt32.ofNat a = UInt32.ofNat b ↔ a % 2 ^ 32 = b % 2 ^ 32 := by
  rw [← UInt32.toNat_inj, UInt32.toNat_ofNat', UInt32.toNat_ofNat']

theorem subNanos_lt (now : Duration) : now.subNanos < 2 ^ 32 := by
  have bound : now.nanos % 1000000000 < 1000000000 := Nat.mod_lt _ (by decide)
  rw [Duration.subNanos]
  omega

/-- Records and times give the same values if they agree on what a datagram holds of them. -/
theorem ofRecord_eq_iff : ofRecord r m now = ofRecord s n later ↔
    now.secs % 2 ^ 32 = later.secs % 2 ^ 32 ∧ now.subNanos = later.subNanos ∧ m = n ∧
      r.key = s.key ∧ r.packets = s.packets ∧ r.bytes = s.bytes ∧ r.flags = s.flags ∧
      r.first.secs % 2 ^ 32 = s.first.secs % 2 ^ 32 ∧
      r.last.secs % 2 ^ 32 = s.last.secs % 2 ^ 32 := by
  have nanos : now.subNanos % 2 ^ 32 = later.subNanos % 2 ^ 32 ↔
      now.subNanos = later.subNanos := by
    rw [Nat.mod_eq_of_lt (subNanos_lt now), Nat.mod_eq_of_lt (subNanos_lt later)]
  have keys : r.key = s.key ↔ r.key.src = s.key.src ∧ r.key.dst = s.key.dst ∧
      r.key.srcPort = s.key.srcPort ∧ r.key.dstPort = s.key.dstPort ∧
      r.key.protocol = s.key.protocol := by
    cases r.key
    cases s.key
    simp
  rw [keys]
  simp only [ofRecord, mk.injEq, ofNat_inj, nanos]
  constructor
  · rintro ⟨-, secs, nanos, sequence, src, dst, packets, octets, first, last, srcPort, dstPort,
      flags, protocol⟩
    exact ⟨secs, nanos, sequence, ⟨src, dst, srcPort, dstPort, protocol⟩, packets, octets, flags,
      first, last⟩
  · rintro ⟨secs, nanos, sequence, ⟨src, dst, srcPort, dstPort, protocol⟩, packets, octets, flags,
      first, last⟩
    -- The milliseconds agree where the seconds do.
    have millis : now.secs * 1000 % 2 ^ 32 = later.secs * 1000 % 2 ^ 32 := by omega
    exact ⟨millis, secs, nanos, sequence, src, dst, packets, octets, first, last, srcPort, dstPort,
      flags, protocol⟩

/-- Bytes that hold the values of a record, a number and a time at the places of the format, most
significant byte first, and zeros elsewhere. -/
structure Holds (r : FlowRecord) (sequence : UInt32) (now : Duration) (b : Bytes) : Prop where
  length_eq : b.length = datagramSize
  version : be16At? b 0 = some 5
  count : be16At? b 2 = some 1
  /-- The product of the seconds with 1000 in 64 bits, of which 32 are kept. -/
  uptime : (be32At? b 4).map UInt32.toNat = some (now.secs * 1000 % 2 ^ 64 % 2 ^ 32)
  /-- And so the product of the seconds that are written with 1000. -/
  uptime_eq : be32At? b 4 = (be32At? b 8).map (· * 1000)
  secs : (be32At? b 8).map UInt32.toNat = some (now.secs % 2 ^ 32)
  nanos : (be32At? b 12).map UInt32.toNat = some now.subNanos
  number : be32At? b 16 = some sequence
  src : sliceAt? b 24 4 = some r.key.src.octets
  dst : sliceAt? b 28 4 = some r.key.dst.octets
  packets : be32At? b 40 = some r.packets
  octets : be32At? b 44 = some r.bytes
  first : (be32At? b 48).map UInt32.toNat = some (r.first.secs % 2 ^ 32)
  last : (be32At? b 52).map UInt32.toNat = some (r.last.secs % 2 ^ 32)
  srcPort : be16At? b 56 = some r.key.srcPort
  dstPort : be16At? b 58 = some r.key.dstPort
  flags : b[61]? = some r.flags
  protocol : b[62]? = some r.key.protocol
  blank : ∀ i < datagramSize, (∀ p ∈ places, i < p.1 ∨ p.1 + p.2 ≤ i) → b[i]? = some 0

end Datagram

/-- **The layout of a datagram.**  At the places of the format stand the version, the count, the
time, the sequence number and the values of the record.  No two values share a byte and every byte
that belongs to none is zero.  So two datagrams are equal if and only if they were made from the
same values. -/
theorem encodeRecord_layout (r : FlowRecord) (sequence : UInt32) (now : Duration) :
    Datagram.Holds r sequence now (encodeRecord r sequence now) ∧
      (Datagram.places.Pairwise fun p q => p.1 + p.2 ≤ q.1) ∧
      ∀ r' sequence' now', encodeRecord r sequence now = encodeRecord r' sequence' now' ↔
        now.secs % 2 ^ 32 = now'.secs % 2 ^ 32 ∧ now.subNanos = now'.subNanos ∧
          sequence = sequence' ∧ r.key = r'.key ∧ r.packets = r'.packets ∧ r.bytes = r'.bytes ∧
          r.flags = r'.flags ∧ r.first.secs % 2 ^ 32 = r'.first.secs % 2 ^ 32 ∧
          r.last.secs % 2 ^ 32 = r'.last.secs % 2 ^ 32 := by
  let b := encodeRecord r sequence now
  obtain ⟨version, count, uptime, secs, nanos, number⟩ :=
    Datagram.header_words (.ofRecord r sequence now)
  obtain ⟨packets, octets, first, last, srcPort, dstPort⟩ :=
    Datagram.record_words (.ofRecord r sequence now)
  obtain ⟨src, dst, flags, protocol⟩ := Datagram.record_bytes (.ofRecord r sequence now)
  have small : now.subNanos % 2 ^ 32 = now.subNanos := Nat.mod_eq_of_lt (Datagram.subNanos_lt now)
  refine ⟨?_, Datagram.places_apart.1, fun r' sequence' now' =>
    Datagram.encode_inj.trans Datagram.ofRecord_eq_iff⟩
  exact {
    version, count, number, src, dst, packets, octets, srcPort, dstPort, flags, protocol
    length_eq := Datagram.length_encode _
    uptime := by
      have wraps : now.secs * 1000 % 2 ^ 64 % 2 ^ 32 = now.secs * 1000 % 2 ^ 32 :=
        Nat.mod_mod_of_dvd _ (Nat.pow_dvd_pow 2 (by decide))
      rw [show be32At? b 4 = _ from uptime, Option.map_some, Datagram.ofRecord,
        UInt32.toNat_ofNat', wraps]
    uptime_eq := by
      have product : UInt32.ofNat (now.secs * 1000) = UInt32.ofNat now.secs * 1000 :=
        UInt32.ofNat_mul ..
      rw [show be32At? b 4 = _ from uptime, show be32At? b 8 = _ from secs, Option.map_some,
        Datagram.ofRecord, product]
    secs := by
      rw [show be32At? b 8 = _ from secs, Option.map_some, Datagram.ofRecord, UInt32.toNat_ofNat']
    nanos := by
      rw [show be32At? b 12 = _ from nanos, Option.map_some, Datagram.ofRecord,
        UInt32.toNat_ofNat', small]
    first := by
      rw [show be32At? b 48 = _ from first, Option.map_some, Datagram.ofRecord,
        UInt32.toNat_ofNat']
    last := by
      rw [show be32At? b 52 = _ from last, Option.map_some, Datagram.ofRecord, UInt32.toNat_ofNat']
    blank := fun i => Datagram.getElem?_encode }

end Netflow

end Wiretap
