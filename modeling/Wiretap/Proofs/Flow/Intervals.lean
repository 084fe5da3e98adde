import Mathlib.Data.List.Pairwise
import Wiretap.Proofs.Flow.Timeouts

/-!
# Records as intervals of time

A record tells when its first and its last packet were seen.  With a clock that never goes back, and
packets that are stamped by it, these are the ends of an interval; the intervals of a flow follow
one another, and none of an open flow is as long as the active timeout.

## Main definitions

* `FlowTable.clock` - the times of the steps of a history.
* `FlowTable.Steady` - the clock never goes back, and packets are stamped by it.

## Main statements

* `FlowRecord.IsSummary.pairwise_intervals` - records of packets in the order of their times are
  intervals that follow one another.
* `FlowCell.brief_step`, `FlowCell.brief_run` - an open record is shorter than the active timeout.
* `FlowTable.run_steady_intervals` - the intervals along a history with a steady clock.

## Design notes

The order of the intervals is no invariant of its own: the packets of a flow, cut into the blocks of
its records, are in the order of the clock, and a record ends with the last packet of its block.
The length of an interval is one, since it rests on the active timeout being looked at whenever a
record grows.  It needs packets to be stamped by the clock, but not that the clock is steady.
-/

namespace Wiretap

open FlowRecord (IsSummary)

namespace FlowRecord.IsSummary

variable {key : FlowKey} {block : List Packet} {r : FlowRecord}

theorem exists_first (summary : IsSummary key block r) : ∃ p ∈ block, p.time = r.first := by
  obtain ⟨p, isFirst, time⟩ := Option.map_eq_some_iff.mp summary.first
  exact ⟨p, List.mem_of_head? isFirst, time⟩

theorem exists_last (summary : IsSummary key block r) : ∃ p ∈ block, p.time = r.last := by
  obtain ⟨p, isLast, time⟩ := Option.map_eq_some_iff.mp summary.last
  exact ⟨p, List.mem_of_getLast? isLast, time⟩

/-- A record of packets in the order of their times is an interval. -/
theorem first_le_last (summary : IsSummary key block r)
    (sorted : block.Pairwise fun p q => p.time ≤ q.time) : r.first ≤ r.last := by
  obtain ⟨p, isFirst, first⟩ := Option.map_eq_some_iff.mp summary.first
  obtain ⟨q, member, last⟩ := summary.exists_last
  obtain ⟨rest, rfl⟩ := List.head?_eq_some_iff.mp isFirst
  rw [← first, ← last]
  rcases List.mem_cons.mp member with rfl | later
  · exact Nat.le_refl _
  · exact List.rel_of_pairwise_cons sorted later

/-- Every record sums up one of the blocks. -/
theorem exists_block {blocks : List (List Packet)} {records : List FlowRecord}
    (summaries : List.Forall₂ (IsSummary key) blocks records) :
    ∀ r ∈ records, ∃ block ∈ blocks, IsSummary key block r := by
  induction summaries with
  | nil => simp
  | cons summary _ ih =>
    intro r member
    rcases List.mem_cons.mp member with rfl | later
    · exact ⟨_, List.mem_cons_self, summary⟩
    · obtain ⟨block, among, own⟩ := ih r later
      exact ⟨block, List.mem_cons_of_mem _ among, own⟩

/-- **Records of packets in the order of their times are intervals that follow one another.** -/
theorem pairwise_intervals {blocks : List (List Packet)} {records : List FlowRecord}
    (summaries : List.Forall₂ (IsSummary key) blocks records)
    (sorted : blocks.flatten.Pairwise fun p q => p.time ≤ q.time) :
    records.Pairwise fun r next => r.last ≤ next.first := by
  induction summaries with
  | nil => exact .nil
  | cons summary rest ih =>
    rw [List.flatten_cons, List.pairwise_append] at sorted
    obtain ⟨-, sortedRest, across⟩ := sorted
    refine List.pairwise_cons.mpr ⟨fun next member => ?_, ih sortedRest⟩
    obtain ⟨block, among, own⟩ := exists_block rest next member
    obtain ⟨p, inFirst, last⟩ := summary.exists_last
    obtain ⟨q, inBlock, first⟩ := own.exists_first
    rw [← last, ← first]
    exact across p inFirst q (List.mem_flatten.mpr ⟨block, among, inBlock⟩)

end FlowRecord.IsSummary

namespace FlowTable

/-! ## A steady clock -/

/-- The time of a step, if it has one. -/
def Event.now? : Event → Option Duration
  | .packet _ now => some now
  | .sweep now => some now
  | _ => none

/-- The times of the steps of a history. -/
def clock (es : List Event) : List Duration := es.filterMap Event.now?

/-- A packet is stamped by the clock. -/
def Event.IsStamped : Event → Prop
  | .packet p now => p.time = now
  | _ => True

instance (e : Event) : Decidable e.IsStamped :=
  match e with
  | .packet p now => inferInstanceAs (Decidable (p.time = now))
  | .sweep _ => .isTrue trivial
  | .drain => .isTrue trivial
  | .readCounts => .isTrue trivial

/-- The clock never goes back, and packets are stamped by it. -/
structure Steady (es : List Event) : Prop where
  stamped : ∀ e ∈ es, e.IsStamped
  ordered : (clock es).Pairwise (· ≤ ·)

/-- The times of the packets of a flow are times of the clock, in the same order. -/
theorem times_packetsOf_sublist (key : FlowKey) {es : List Event}
    (stamped : ∀ e ∈ es, e.IsStamped) :
    ((packetsOf key es).map (·.time)).Sublist (clock es) := by
  induction es with
  | nil => exact .slnil
  | cons e es ih =>
    obtain ⟨now, later⟩ := List.forall_mem_cons.mp stamped
    rw [packetsOf_cons, clock, filterMap_cons_toList, List.map_append]
    refine List.Sublist.append ?_ (ih later)
    cases e with
    | packet p seen =>
      have time : p.time = seen := now
      rw [packetOf?, ← time]
      split
      · exact .refl _
      · exact List.nil_sublist _
    | _ => exact List.nil_sublist _

/-- The packets of a flow are in the order of their times. -/
theorem Steady.sorted_packetsOf {es : List Event} (steady : Steady es) (key : FlowKey) :
    (packetsOf key es).Pairwise fun p q => p.time ≤ q.time :=
  List.pairwise_map.mp (steady.ordered.sublist (times_packetsOf_sublist key steady.stamped))

/-- No packet of a flow is later than the clock. -/
theorem Steady.le_latest {es : List Event} (steady : Steady es) {key : FlowKey} {p : Packet}
    (member : p ∈ packetsOf key es) : ∃ now, (clock es).getLast? = some now ∧ p.time ≤ now := by
  have timed : p.time ∈ clock es :=
    (times_packetsOf_sublist key steady.stamped).subset (List.mem_map_of_mem member)
  refine ⟨_, List.getLast?_eq_some_getLast (List.ne_nil_of_mem timed), ?_⟩
  exact steady.ordered.rel_getLast_of_rel_getLast_getLast timed (Nat.le_refl _)

end FlowTable

/-! ## How long a flow is open -/

namespace FlowCell

open FlowTable (Event)

variable (idle active : Duration) (key : FlowKey)

/-- The record of a packet ends with that packet. -/
theorem last_accounted (cell : Option FlowRecord) (p : Packet) :
    ((cell.map fun r => r.add (.ofPacket p)).getD (FlowRecord.opening key (.ofPacket p))).last =
      p.time := by
  cases cell <;> rfl

/-- An open record is shorter than the active timeout. -/
def Brief (cell : Option FlowRecord) : Prop := ∀ r ∈ cell, r.last.since r.first < active

/-- A step keeps open records short: where a record grows, it ends at the time of the clock, which
the active timeout is measured by. -/
theorem brief_step {cell : Option FlowRecord} (brief : Brief active cell) {e : Event}
    (stamped : e.IsStamped) : Brief active (step idle active key cell e).1 := by
  cases e with
  | packet p now =>
    by_cases own : FlowKey.ofPacket? p = some key
    · have ends := last_accounted key cell p
      rw [show p.time = now from stamped] at ends
      rw [step, if_pos own]
      simp only
      split
      · intro r member
        cases member
      · next inTime =>
        intro r member
        obtain rfl := Option.some.inj member
        rw [ends]
        exact Nat.lt_of_not_le inTime
    · rw [step_packet_of_ne _ _ _ own]
      exact brief
  | sweep now =>
    intro r member
    exact brief r (Option.filter_eq_some_iff.mp member).1
  | drain =>
    intro r member
    cases member
  | readCounts => exact brief

/-- **Open records stay shorter than the active timeout** if packets are stamped by the clock. -/
theorem brief_run {cell : Option FlowRecord} (brief : Brief active cell) {es : List Event}
    (stamped : ∀ e ∈ es, e.IsStamped) : Brief active (run idle active key cell es).1 := by
  induction es generalizing cell with
  | nil => exact brief
  | cons e es ih =>
    obtain ⟨now, later⟩ := List.forall_mem_cons.mp stamped
    rw [run_cons]
    exact ih (brief_step idle active key brief now) later

end FlowCell

/-! ## The intervals of all flows -/

namespace FlowTable

/-- Every record along a history sums up consecutive packets of its flow. -/
theorem exists_summary (idle active : Duration) (es : List Event) {r : FlowRecord}
    (member : r ∈ ((empty idle active).run es).2.flatten ++ ((empty idle active).run es).1.records) :
    ∃ block : List Packet, block <:+: packetsOf r.key es ∧ IsSummary r.key block r := by
  have new := distinct_empty idle active
  have fresh : FlowCell.Holds r.key [] ((empty idle active).find? r.key) := rfl
  obtain ⟨blocks, cut, summaries⟩ := run_blocks new fresh es
  have own : r ∈ leaving r.key ((empty idle active).run es).2.flatten ++
      (((empty idle active).run es).1.find? r.key).toList := by
    rw [List.mem_append] at member ⊢
    rcases member with returned | held
    · exact Or.inl (List.mem_filter.mpr ⟨returned, by simp⟩)
    · have found := (mem_records_iff (distinct_run new es)).mp held
      exact Or.inr (Option.mem_toList.mpr found)
  obtain ⟨block, among, summary⟩ := IsSummary.exists_block summaries r own
  rw [List.nil_append] at cut
  exact ⟨block, cut ▸ List.infix_of_mem_flatten among, summary⟩

/-- **With a steady clock, records are intervals of time.**  Along every history in which the clock
never goes back and packets are stamped by it, every record, open or returned, begins no later than
it ends and ends no later than the latest time of the clock.  Every open record is shorter than the
active timeout, so that no flow stays open if that is zero.  The records of a flow that were
returned, and after them the one that is open, follow one another: each ends no later than the next
begins. -/
theorem run_steady_intervals (idle active : Duration) {es : List Event} (steady : Steady es) :
    let t := ((empty idle active).run es).1
    let returned := ((empty idle active).run es).2.flatten
    (∀ r ∈ returned ++ t.records,
      r.first ≤ r.last ∧ ∃ now, (clock es).getLast? = some now ∧ r.last ≤ now) ∧
      (∀ r ∈ t.records, r.last.since r.first < active) ∧
      (active = .zero → t.records = []) ∧
      ∀ key, (leaving key returned ++ (t.find? key).toList).Pairwise fun r next =>
        r.last ≤ next.first := by
  intro t returned
  have new := distinct_empty idle active
  have brief : ∀ r ∈ t.records, r.last.since r.first < active := by
    intro r member
    have short : FlowCell.Brief active (t.find? r.key) := by
      rw [show t.find? r.key = _ from (run_cell new r.key es).1]
      exact FlowCell.brief_run idle active r.key (fun _ nothing => by cases nothing) steady.stamped
    exact short r ((mem_records_iff (distinct_run new es)).mp member)
  refine ⟨fun r member => ?_, brief, ?_, fun key => ?_⟩
  · obtain ⟨block, part, summary⟩ := exists_summary idle active es member
    obtain ⟨p, inBlock, last⟩ := summary.exists_last
    refine ⟨summary.first_le_last ((steady.sorted_packetsOf r.key).sublist part.sublist), ?_⟩
    rw [← last]
    exact steady.le_latest (part.subset inBlock)
  · rintro rfl
    rw [List.eq_nil_iff_forall_not_mem]
    intro r member
    exact Nat.not_lt_zero _ (brief r member)
  · have fresh : FlowCell.Holds key [] ((empty idle active).find? key) := rfl
    obtain ⟨blocks, cut, summaries⟩ := run_blocks new fresh es
    rw [List.nil_append] at cut
    exact IsSummary.pairwise_intervals summaries (cut ▸ steady.sorted_packetsOf key)

/-- A flow that ends at its active timeout begins anew at the same moment, and a sweep ends it a
second time. -/
theorem run_steady_intervals_begun_anew :
    let p (secs : Nat) : Packet :=
      { srcIp := some (.v4 default), dstIp := some (.v4 default), time := .ofSecs secs }
    let es : List Event := [.packet (p 10) (.ofSecs 10), .packet (p 12) (.ofSecs 12),
      .packet (p 12) (.ofSecs 12), .readCounts, .sweep (.ofSecs 17), .packet (p 18) (.ofSecs 18)]
    let ended := (empty (.ofSecs 5) (.ofSecs 2)).run es
    Steady es ∧ ended.2.flatten.map (fun r => (r.first, r.last)) =
        [(.ofSecs 10, .ofSecs 12), (.ofSecs 12, .ofSecs 12)] ∧
      (ended.2.flatten ++ ended.1.records).length = 3 ∧
      (∀ r ∈ ended.2.flatten ++ ended.1.records, r.first ≤ r.last) ∧
      (leaving default ended.2.flatten ++ (ended.1.find? default).toList).Pairwise fun r next =>
        r.last ≤ next.first := by
  intro p es ended
  have steady : Steady es := ⟨by decide, by decide⟩
  obtain ⟨intervals, -, -, follow⟩ := run_steady_intervals (.ofSecs 5) (.ofSecs 2) steady
  exact ⟨steady, rfl, rfl, fun r member => (intervals r member).1, follow default⟩

end FlowTable

end Wiretap
