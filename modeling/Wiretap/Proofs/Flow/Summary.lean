import Mathlib.Data.List.Forall2
import Wiretap.Proofs.Flow.Cell

/-!
# Records sum up consecutive packets

Every packet that is accounted ends up in exactly one flow record, and every record is the summary
of packets of its flow that came one after the other.

## Main definitions

* `FlowTable.packetsOf` - the packets of a flow in a history, in order.
* `FlowRecord.IsSummary` - a record says of a block of packets what an exported record can say.
* `FlowCell.Holds` - the cell of a flow holds the summary of the packets that have not left yet.

## Main statements

* `FlowCell.holds_step` - one step keeps `Holds`, or closes the block that was open.
* `FlowCell.run_blocks` - the packets of a flow, cut into the blocks of its records.
* `FlowTable.run_blocks` - the same for every flow of a table.

## Design notes

`Holds` is the invariant that carries the induction: the open record sums up exactly the packets
that no record which has left accounts for.  It speaks of an arbitrary block of earlier packets, so
that the induction can run from the front of a history.
-/

namespace Wiretap

/-- What the first of a list maps to, if anything, comes before what the others map to. -/
theorem filterMap_cons_toList {α β : Type} (f : α → Option β) (a : α) (as : List α) :
    (a :: as).filterMap f = (f a).toList ++ as.filterMap f := by
  rw [List.filterMap_cons]
  cases f a <;> rfl

/-- The flags of a packet that an exported record has room for. -/
def Packet.exportedFlags (p : Packet) : UInt8 := (p.tcpFlags.map TcpFlags.low).getD 0

/-- The length of a packet as far as 32 bits can say it. -/
def Packet.exportedLength (p : Packet) : Nat := min p.length (2 ^ 32 - 1)

namespace FlowRecord

/-- A record of a flow sums up a block of packets: first and last time, and their number, lengths
and flags together, the first two of these modulo 2^32. -/
structure IsSummary (key : FlowKey) (block : List Packet) (r : FlowRecord) : Prop where
  key_eq : r.key = key
  first : block.head?.map (·.time) = some r.first
  last : block.getLast?.map (·.time) = some r.last
  packets : r.packets.toNat = block.length % 2 ^ 32
  bytes : r.bytes.toNat = (block.map Packet.exportedLength).sum % 2 ^ 32
  flags : r.flags = block.foldl (fun flags p => flags ||| p.exportedFlags) 0

namespace IsSummary

variable {key : FlowKey} {block : List Packet} {r : FlowRecord}

theorem ne_nil (summary : IsSummary key block r) : block ≠ [] := by
  rintro rfl
  simpa using summary.first

/-- The record that a packet opens sums up that packet. -/
theorem opening (key : FlowKey) (p : Packet) :
    IsSummary key [p] (FlowRecord.opening key (.ofPacket p)) where
  key_eq := rfl
  first := rfl
  last := rfl
  packets := rfl
  bytes := by simp [FlowRecord.opening, FlowSample.ofPacket, Packet.exportedLength]
  flags := by simp [FlowRecord.opening, FlowSample.ofPacket, Packet.exportedFlags]

/-- A record that one more packet is added to sums up one more packet. -/
theorem add (summary : IsSummary key block r) (p : Packet) :
    IsSummary key (block ++ [p]) (r.add (.ofPacket p)) where
  key_eq := summary.key_eq
  first := by
    rw [List.head?_append_of_ne_nil _ summary.ne_nil]
    exact summary.first
  last := by
    rw [List.getLast?_concat]
    rfl
  packets := by
    have count := summary.packets
    simp only [FlowRecord.add, UInt32.toNat_add, UInt32.toNat_one, List.length_append,
      List.length_singleton]
    omega
  bytes := by
    have total := summary.bytes
    simp only [FlowRecord.add, FlowSample.ofPacket, UInt32.toNat_add, UInt32.toNat_ofNat',
      List.map_append, List.map_cons, List.map_nil, List.sum_append, List.sum_singleton,
      Packet.exportedLength, UInt32.size] at total ⊢
    omega
  flags := by
    rw [List.foldl_append, ← summary.flags]
    rfl

/-- Every block that a record sums up has a packet. -/
theorem ne_nil_of_forall₂ {blocks : List (List Packet)} {records : List FlowRecord}
    (summaries : List.Forall₂ (IsSummary key) blocks records) :
    ∀ block ∈ blocks, block ≠ [] := by
  induction summaries with
  | nil => simp
  | cons summary _ ih =>
    intro block member
    rcases List.mem_cons.mp member with rfl | later
    · exact summary.ne_nil
    · exact ih block later

/-- Records together say how many packets they sum up, as far as 32 bits can say it. -/
theorem sum_packets {blocks : List (List Packet)} {records : List FlowRecord}
    (summaries : List.Forall₂ (IsSummary key) blocks records) :
    (records.map (·.packets.toNat)).sum % 2 ^ 32 = blocks.flatten.length % 2 ^ 32 := by
  induction summaries with
  | nil => rfl
  | cons summary _ ih =>
    have own := summary.packets
    rw [List.map_cons, List.sum_cons, List.flatten_cons, List.length_append]
    omega

/-- Records together say how many bytes they sum up, as far as 32 bits can say it. -/
theorem sum_bytes {blocks : List (List Packet)} {records : List FlowRecord}
    (summaries : List.Forall₂ (IsSummary key) blocks records) :
    (records.map (·.bytes.toNat)).sum % 2 ^ 32 =
      (blocks.flatten.map Packet.exportedLength).sum % 2 ^ 32 := by
  induction summaries with
  | nil => rfl
  | cons summary _ ih =>
    have own := summary.bytes
    rw [List.map_cons, List.sum_cons, List.flatten_cons, List.map_append, List.sum_append]
    omega

/-- What records sum up is nothing only if there are no records. -/
theorem eq_nil_of_flatten {blocks : List (List Packet)} {records : List FlowRecord}
    (summaries : List.Forall₂ (IsSummary key) blocks records) (nothing : blocks.flatten = []) :
    records = [] := by
  cases summaries with
  | nil => rfl
  | cons summary _ =>
    rw [List.flatten_cons, List.append_eq_nil_iff] at nothing
    exact absurd nothing.1 summary.ne_nil

end IsSummary

end FlowRecord

open FlowRecord (IsSummary)

namespace FlowTable

/-- The packet that a step accounts in a flow, if it does. -/
def packetOf? (key : FlowKey) : Event → Option Packet
  | .packet p _ => if FlowKey.ofPacket? p = some key then some p else none
  | _ => none

/-- The packets of a flow in a history, in order. -/
def packetsOf (key : FlowKey) (es : List Event) : List Packet := es.filterMap (packetOf? key)

theorem packetsOf_append (key : FlowKey) (es later : List Event) :
    packetsOf key (es ++ later) = packetsOf key es ++ packetsOf key later :=
  List.filterMap_append

theorem packetsOf_cons (key : FlowKey) (e : Event) (es : List Event) :
    packetsOf key (e :: es) = (packetOf? key e).toList ++ packetsOf key es :=
  filterMap_cons_toList (packetOf? key) e es

end FlowTable

/-! ## The blocks of one flow -/

namespace FlowCell

open FlowTable (Event packetOf? packetsOf packetsOf_cons)

variable (idle active : Duration) (key : FlowKey)

/-- The cell of a flow holds the summary of a block of packets, and nothing if there are none. -/
def Holds (block : List Packet) : Option FlowRecord → Prop
  | none => block = []
  | some r => IsSummary key block r

/-- The record that a packet is accounted in sums up one packet more. -/
theorem isSummary_accounted {block : List Packet} {cell : Option FlowRecord}
    (holds : Holds key block cell) (p : Packet) :
    IsSummary key (block ++ [p])
      ((cell.map (·.add (.ofPacket p))).getD (.opening key (.ofPacket p))) := by
  cases cell with
  | none =>
    have empty : block = [] := holds
    subst empty
    exact .opening key p
  | some r => exact IsSummary.add holds p

/-- Either the record stays in the cell, with what a step adds to its block, or it leaves as the
summary of the whole block and the cell is empty. -/
theorem holds_step {block : List Packet} {cell : Option FlowRecord}
    (holds : Holds key block cell) (e : Event) :
    ((step idle active key cell e).2 = none ∧
        Holds key (block ++ (packetOf? key e).toList) (step idle active key cell e).1) ∨
      ∃ r, step idle active key cell e = (none, some r) ∧
        IsSummary key (block ++ (packetOf? key e).toList) r := by
  cases e with
  | packet p now =>
    by_cases own : FlowKey.ofPacket? p = some key
    -- The packet is in the block before its record can leave.
    · have accounted := isSummary_accounted key holds p
      rw [step, if_pos own, packetOf?, if_pos own]
      simp only
      split
      · exact Or.inr ⟨_, rfl, accounted⟩
      · exact Or.inl ⟨rfl, accounted⟩
    · rw [step_packet_of_ne _ _ _ own, packetOf?, if_neg own, Option.toList_none, List.append_nil]
      exact Or.inl ⟨rfl, holds⟩
  | sweep now =>
    rw [show (packetOf? key (.sweep now)).toList = [] from rfl, List.append_nil]
    cases cell with
    | none => exact Or.inl ⟨rfl, holds⟩
    | some r =>
      by_cases overdue : idle ≤ now.since r.last
      · refine Or.inr ⟨r, ?_, holds⟩
        rw [step, Option.filter_some_neg (by simpa using overdue),
          Option.filter_some_pos (by simpa using overdue)]
      · rw [step, Option.filter_some_pos (by simpa using overdue),
          Option.filter_some_neg (by simpa using overdue)]
        exact Or.inl ⟨rfl, holds⟩
  | drain =>
    rw [show (packetOf? key .drain).toList = [] from rfl, List.append_nil]
    cases cell with
    | none => exact Or.inl ⟨rfl, holds⟩
    | some r => exact Or.inr ⟨r, rfl, holds⟩
  | readCounts =>
    rw [show (packetOf? key .readCounts).toList = [] from rfl, List.append_nil]
    exact Or.inl ⟨rfl, holds⟩

/-- **The packets of a flow, cut into blocks.**  Together with the packets that the cell holds the
summary of at first, they are the blocks of the records that leave and of the one that is open at
the end. -/
theorem run_blocks {block : List Packet} {cell : Option FlowRecord}
    (holds : Holds key block cell) (es : List Event) :
    ∃ blocks : List (List Packet), blocks.flatten = block ++ packetsOf key es ∧
      List.Forall₂ (IsSummary key) blocks
        ((run idle active key cell es).2 ++ (run idle active key cell es).1.toList) := by
  -- The block grows along the history until a record leaves; then a new one begins.
  induction es generalizing block cell with
  | nil =>
    rw [show packetsOf key [] = [] from rfl, List.append_nil]
    cases cell with
    | none =>
      have empty : block = [] := holds
      exact ⟨[], empty.symm, .nil⟩
    | some r => exact ⟨[block], by simp, .cons holds .nil⟩
  | cons e es ih =>
    rw [packetsOf_cons, run_cons, ← List.append_assoc]
    rcases holds_step idle active key holds e with ⟨stays, later⟩ | ⟨r, leaves, summary⟩
    · obtain ⟨blocks, cut, summaries⟩ := ih later
      rw [stays]
      exact ⟨blocks, cut, summaries⟩
    -- The next packet of the flow begins a new block.
    · have fresh : Holds key [] none := rfl
      obtain ⟨blocks, cut, summaries⟩ := ih fresh
      rw [leaves]
      refine ⟨(block ++ (packetOf? key e).toList) :: blocks, ?_, .cons summary summaries⟩
      rw [List.flatten_cons, cut, List.nil_append]

end FlowCell

/-! ## All flows of a table -/

namespace FlowTable

/-- A packet has a flow exactly if both its addresses are of version 4. -/
theorem ofPacket?_eq_none_iff {p : Packet} :
    FlowKey.ofPacket? p = none ↔ ¬ ∃ src dst, p.srcIp = some (.v4 src) ∧ p.dstIp = some (.v4 dst) := by
  unfold FlowKey.ofPacket?
  split
  · next src dst hsrc hdst => simp [hsrc, hdst]
  · next other =>
    refine ⟨fun _ => ?_, fun _ => rfl⟩
    rintro ⟨src, dst, hsrc, hdst⟩
    exact other src dst hsrc hdst

/-- A packet without a flow is counted and changes nothing else. -/
theorem account_of_ofPacket?_eq_none (t : FlowTable) {p : Packet}
    (unkeyed : FlowKey.ofPacket? p = none) (now : Duration) :
    t.account p now =
      ({ t with counts := { t.counts with skipped := t.counts.skipped + 1 } }, none) := by
  rw [account, unkeyed]

/-- **The packets of a flow, cut into blocks.**  Together with the packets that its open record sums
up at first, they are the blocks of its records that leave the table and of the one that is open at
the end. -/
theorem run_blocks {t : FlowTable} (distinct : t.Distinct) {key : FlowKey} {block : List Packet}
    (holds : FlowCell.Holds key block (t.find? key)) (es : List Event) :
    ∃ blocks : List (List Packet), blocks.flatten = block ++ packetsOf key es ∧
      List.Forall₂ (IsSummary key) blocks
        ((t.run es).2.flatten.filter (fun r => r.key = key) ++ ((t.run es).1.find? key).toList) := by
  obtain ⟨openAtEnd, closed⟩ := run_cell distinct key es
  rw [openAtEnd, show List.filter _ _ = _ from closed]
  exact FlowCell.run_blocks t.idleTimeout t.activeTimeout key holds es

/-- **Every accounted packet is in exactly one record, and every record sums up consecutive
packets.**  After any history of a new table the packets of a flow are cut into consecutive blocks,
one for each record of the flow that has left, in the order in which they left, and one for the
record that is open, if there is one; and each record sums up its block.  A packet without two
addresses of version 4 leaves everything but the count of such packets as it was. -/
theorem run_empty_blocks (idle active : Duration) (es : List Event) (key : FlowKey) :
    (∃ blocks : List (List Packet),
      (∀ block ∈ blocks, block ≠ []) ∧ blocks.flatten = packetsOf key es ∧
        List.Forall₂ (IsSummary key) blocks
          (((empty idle active).run es).2.flatten.filter (fun r => r.key = key) ++
            (((empty idle active).run es).1.find? key).toList)) ∧
    ∀ (p : Packet) (now : Duration),
      (¬ ∃ src dst, p.srcIp = some (.v4 src) ∧ p.dstIp = some (.v4 dst)) →
      let before := ((empty idle active).run es).1
      (before.account p now).2 = none ∧
        (before.account p now).1 =
          { before with counts := { before.counts with skipped := before.counts.skipped + 1 } } := by
  constructor
  · have fresh : FlowCell.Holds key [] ((empty idle active).find? key) := rfl
    obtain ⟨blocks, cut, summaries⟩ := run_blocks (distinct_empty idle active) fresh es
    exact ⟨blocks, IsSummary.ne_nil_of_forall₂ summaries, cut, summaries⟩
  · intro p now unaddressed before
    rw [account_of_ofPacket?_eq_none before (ofPacket?_eq_none_iff.mpr unaddressed)]
    exact ⟨rfl, rfl⟩

/-- Two packets of a flow that a drain ends, and a packet without addresses. -/
theorem run_empty_blocks_drained :
    let p : Packet := { srcIp := some (.v4 default), dstIp := some (.v4 default), length := 60 }
    let es : List Event := [.packet p .zero, .sweep .zero, .packet p (.ofSecs 1), .drain]
    let ended := (empty (.ofSecs 15) (.ofSecs 60)).run es
    (∃ blocks : List (List Packet), blocks.flatten = [p, p] ∧
        List.Forall₂ (IsSummary default) blocks ended.2.flatten) ∧
      (ended.1.account {} .zero).2 = none := by
  intro p es ended
  obtain ⟨⟨blocks, _, cut, summaries⟩, unaddressed⟩ :=
    run_empty_blocks (.ofSecs 15) (.ofSecs 60) es default
  exact ⟨⟨blocks, cut, summaries⟩, (unaddressed {} .zero (by simp)).1⟩

end FlowTable

end Wiretap
