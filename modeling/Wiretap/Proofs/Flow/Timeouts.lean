import Wiretap.Proofs.Flow.Counts
import Wiretap.Proofs.Flow.Summary

/-!
# When flows time out

A flow leaves a table for three reasons.  Two of them are timeouts, and this module says when they
take effect: the active timeout at a packet of the flow, the idle timeout at a sweep.

## Main definitions

* `FlowTable.recordAfter` - the record of a flow after one packet more.
* `FlowTable.unreturned` - the packets of a flow that no returned record accounts for.

## Main statements

* `FlowTable.account_of_ofPacket?` - a packet takes its flow's record out exactly if that record is
  overdue.
* `FlowTable.sweep_sweep`, `FlowTable.sweep_of_le` - a sweep before a later one makes no difference,
  and one after it finds nothing.
* `FlowTable.timeouts_fire_when_due` - both, for every table that a history leads to.
* `FlowTable.sweep_silent_since_last` - what a sweep knows of the packets of a flow.
* `FlowTable.sweep_returns_recent` - what it does not know.

## Design notes

That sweeps compose is a fact about filters: what is idle at one time is idle at every later time
(`isIdle_mono`).  Only the count of open flows needs a reachable table, since a sweep that finds
nothing does not write it.

A record keeps the time of the packet accounted last, and a sweep looks at nothing else.  As long as
no packet of the record is later than that one, a flow that is swept has been silent; a packet that
comes out of order moves the time back, and the flow is swept although it has a recent packet.
-/

namespace Wiretap

open FlowRecord (IsSummary)

/-- As time goes on, what is past is further away. -/
theorem Duration.since_mono {earlier later : Duration} (le : earlier ≤ later) (past : Duration) :
    earlier.since past ≤ later.since past :=
  Nat.sub_le_sub_right le past.nanos

/-- What is past is closer to what is further back. -/
theorem Duration.since_anti {old recent : Duration} (le : old ≤ recent) (now : Duration) :
    now.since recent ≤ now.since old :=
  Nat.sub_le_sub_left le now.nanos

theorem Duration.le_trans {a b c : Duration} (ab : a ≤ b) (bc : b ≤ c) : a ≤ c := Nat.le_trans ab bc

namespace FlowTable

variable {t : FlowTable}

/-! ## The active timeout -/

/-- The record of a flow after one packet more. -/
def recordAfter (t : FlowTable) (key : FlowKey) (p : Packet) : FlowRecord :=
  match t.find? key with
  | some r => r.add (.ofPacket p)
  | none => .opening key (.ofPacket p)

theorem record_put_eq_recordAfter (t : FlowTable) (key : FlowKey) (p : Packet) :
    (t.put key (.ofPacket p)).2 = t.recordAfter key p := by
  rw [record_put, recordAfter]
  cases t.find? key <;> rfl

/-- **A packet takes the record of its flow out of the table exactly if that record, with the
packet, is overdue.** -/
theorem account_of_ofPacket? {key : FlowKey} {p : Packet} (keyed : FlowKey.ofPacket? p = some key)
    (now : Duration) :
    t.account p now =
      if t.activeTimeout ≤ now.since (t.recordAfter key p).first then
        ((t.put key (.ofPacket p)).1.close key, some (t.recordAfter key p))
      else ((t.put key (.ofPacket p)).1, none) := by
  rw [account, keyed]
  simp only [isOverdue, activeTimeout_put, record_put_eq_recordAfter, decide_eq_true_eq]

/-- What is open after a packet: its flow with the packet unless that was overdue, and the other
flows as before. -/
theorem find?_account (distinct : t.Distinct) {key : FlowKey} {p : Packet}
    (keyed : FlowKey.ofPacket? p = some key) (now : Duration) (other : FlowKey) :
    (t.account p now).1.find? other =
      if key = other then
        if t.activeTimeout ≤ now.since (t.recordAfter key p).first then none
        else some (t.recordAfter key p)
      else t.find? other := by
  have stored := find?_put t key other (.ofPacket p)
  rw [record_put_eq_recordAfter] at stored
  rw [account_of_ofPacket? keyed]
  split
  · rw [find?_close (distinct_put distinct key _), stored]
    split <;> rfl
  · exact stored

/-! ## The idle timeout -/

/-- The records of a table are those that are found under their keys. -/
theorem mem_records_iff (distinct : t.Distinct) {r : FlowRecord} :
    r ∈ t.records ↔ t.find? r.key = some r := by
  have own : r ∈ t.records ↔ r ∈ t.records.filter fun other => other.key = r.key := by simp
  rw [own, filter_key_eq_toList distinct r.key, Option.mem_toList]
  rfl

/-- A sweep returns the records of the flows that have been idle for the timeout. -/
theorem mem_sweep (distinct : t.Distinct) (now : Duration) {r : FlowRecord} :
    r ∈ (t.sweep now).2 ↔ t.find? r.key = some r ∧ t.idleTimeout ≤ now.since r.last := by
  change r ∈ t.records.filter (t.isIdle now) ↔ _
  rw [List.mem_filter, mem_records_iff distinct, isIdle, decide_eq_true_eq]

/-- A sweep returns no record twice. -/
theorem nodup_sweep (distinct : t.Distinct) (now : Duration) : (t.sweep now).2.Nodup := by
  have records : t.records.Nodup := List.Nodup.of_map _ distinct
  exact records.filter _

/-- A sweep leaves the records of the other flows as they are. -/
theorem find?_sweep_eq_some (distinct : t.Distinct) (now : Duration) {key : FlowKey}
    {r : FlowRecord} :
    (t.sweep now).1.find? key = some r ↔
      t.find? key = some r ∧ ¬ t.idleTimeout ≤ now.since r.last := by
  rw [show (t.sweep now).1.find? key = _ from (step_cell distinct key (.sweep now)).1,
    FlowCell.step, Option.filter_eq_some_iff, decide_eq_true_eq]

/-- What is idle stays idle. -/
theorem isIdle_mono {earlier later : Duration} (le : earlier ≤ later) {r : FlowRecord}
    (idle : t.isIdle earlier r = true) : t.isIdle later r = true := by
  rw [isIdle, decide_eq_true_eq] at idle ⊢
  exact Duration.le_trans idle (Duration.since_mono le r.last)

/-- What a sweep leaves behind and what it counts.  Of a sound table the number of open flows is
right even if the sweep does not write it. -/
theorem sweep_of_sound (sound : t.Sound) (now : Duration) :
    (t.sweep now).1 =
      { t with
        records := t.records.filter fun r => !t.isIdle now r
        counts := { t.counts with
          closed := t.counts.closed + (t.sweep now).2.length
          concurrent := (t.records.filter fun r => !t.isIdle now r).length } } := by
  have counted : (t.sweep now).1.counts.concurrent = (t.sweep now).1.records.length :=
    concurrent_step sound.counted (.sweep now)
  rw [records_sweep] at counted
  rw [← counted, sweep]
  simp only
  split <;> rfl

/-- A sweep that finds nothing idle changes nothing. -/
theorem sweep_of_awake {now : Duration} (awake : ∀ r ∈ t.records, t.isIdle now r = false) :
    t.sweep now = (t, []) := by
  have idle : t.records.filter (t.isIdle now) = [] := by
    rw [List.filter_eq_nil_iff]
    intro r member
    simp [awake r member]
  have kept : t.records.filter (fun r => !t.isIdle now r) = t.records := by
    rw [List.filter_eq_self]
    intro r member
    simp [awake r member]
  rw [sweep, idle, kept]
  rfl

/-- **A sweep before a later one returns a part** of what the later one returns alone, and the later
one returns the rest. -/
theorem sweep_sweep_perm (t : FlowTable) {earlier later : Duration} (le : earlier ≤ later) :
    ((t.sweep earlier).2 ++ ((t.sweep earlier).1.sweep later).2).Perm (t.sweep later).2 := by
  -- Which records are idle depends on the idle timeout alone, and a sweep does not change that.
  let idle := t.records.filter (t.isIdle later)
  have first : (t.sweep earlier).2 = idle.filter (t.isIdle earlier) := by
    rw [List.filter_filter]
    refine List.filter_congr fun r _ => ?_
    cases early : t.isIdle earlier r with
    | false => rfl
    | true => exact (isIdle_mono le early).symm
  have second : ((t.sweep earlier).1.sweep later).2 = idle.filter fun r => !t.isIdle earlier r :=
    List.filter_comm ..
  rw [first, second]
  exact List.filter_append_perm _ idle

/-- **A sweep before a later one makes no difference to the table** that the later one leaves. -/
theorem sweep_sweep (sound : t.Sound) {earlier later : Duration} (le : earlier ≤ later) :
    ((t.sweep earlier).1.sweep later).1 = (t.sweep later).1 := by
  have kept : (t.records.filter fun r => !t.isIdle earlier r).filter (fun r => !t.isIdle later r) =
      t.records.filter fun r => !t.isIdle later r := by
    rw [List.filter_filter]
    refine List.filter_congr fun r _ => ?_
    cases early : t.isIdle earlier r with
    | false => exact Bool.and_true _
    | true => rw [isIdle_mono le early, Bool.not_true, Bool.false_and]
  have returned : (t.sweep earlier).2.length + ((t.sweep earlier).1.sweep later).2.length =
      (t.sweep later).2.length := by
    rw [← List.length_append]
    exact (sweep_sweep_perm t le).length_eq
  have swept : (t.sweep earlier).1.Sound := sound_step sound (.sweep earlier)
  rw [sweep_of_sound swept, sweep_of_sound sound later, ← returned, ← kept, ← Nat.add_assoc]
  generalize ((t.sweep earlier).1.sweep later).2.length = more
  rw [sweep_of_sound sound earlier]
  rfl

/-- **After a sweep, one at an earlier time finds nothing** and changes nothing. -/
theorem sweep_of_le (t : FlowTable) {earlier later : Duration} (le : earlier ≤ later) :
    (t.sweep later).1.sweep earlier = ((t.sweep later).1, []) := by
  apply sweep_of_awake
  intro r member
  obtain ⟨-, awake⟩ := List.mem_filter.mp member
  cases early : t.isIdle earlier r with
  | false => exact early
  | true =>
    rw [isIdle_mono le early] at awake
    cases awake

/-! ## Both timeouts -/

/-- **Timeouts fire exactly when they are due.**  In every table that a history leads to, a packet
of a flow returns the record of the flow, with the packet, exactly if the time since its first
packet is at least the active timeout; then the flow is no longer open, and otherwise it is open with
that record, while the other flows are as they were.  A sweep returns each record once whose last
packet is at least the idle timeout ago, and leaves the others as they are.  Two sweeps, the later
one after the other, return together what the later one returns alone and leave the same table; the
other way round the second one finds nothing. -/
theorem timeouts_fire_when_due (idle active : Duration) (es : List Event) :
    let t := ((empty idle active).run es).1
    (∀ (p : Packet) (key : FlowKey) (now : Duration), FlowKey.ofPacket? p = some key →
      let r := t.recordAfter key p
      (t.account p now).2 = (if active ≤ now.since r.first then some r else none) ∧
        ∀ other, (t.account p now).1.find? other =
          if key = other then if active ≤ now.since r.first then none else some r
          else t.find? other) ∧
      (∀ now : Duration,
        (t.sweep now).2.Nodup ∧
          (∀ r, r ∈ (t.sweep now).2 ↔ t.find? r.key = some r ∧ idle ≤ now.since r.last) ∧
          ∀ key r, (t.sweep now).1.find? key = some r ↔
            t.find? key = some r ∧ ¬ idle ≤ now.since r.last) ∧
      ∀ earlier later : Duration, earlier ≤ later →
        ((t.sweep earlier).2 ++ ((t.sweep earlier).1.sweep later).2).Perm (t.sweep later).2 ∧
          ((t.sweep earlier).1.sweep later).1 = (t.sweep later).1 ∧
          (t.sweep later).1.sweep earlier = ((t.sweep later).1, []) := by
  intro t
  have sound : t.Sound := sound_run (sound_empty idle active) es
  have idleTimeout : t.idleTimeout = idle := idleTimeout_run _ es
  have activeTimeout : t.activeTimeout = active := activeTimeout_run _ es
  refine ⟨fun p key now keyed => ?_, fun now => ⟨nodup_sweep sound.distinct now, ?_, ?_⟩,
    fun earlier later le => ⟨sweep_sweep_perm t le, sweep_sweep sound le, sweep_of_le t le⟩⟩
  · intro r
    rw [← activeTimeout]
    refine ⟨?_, find?_account sound.distinct keyed now⟩
    rw [account_of_ofPacket? keyed]
    split <;> rfl
  · intro r
    rw [← idleTimeout]
    exact mem_sweep sound.distinct now
  · intro key r
    rw [← idleTimeout]
    exact find?_sweep_eq_some sound.distinct now

/-- A packet that is as old as the active timeout, and a flow that is idle five seconds after its
packet, which lay in the future. -/
theorem timeouts_fire_when_due_at_the_boundary :
    let p : Packet := { srcIp := some (.v4 default), dstIp := some (.v4 default), time := .ofSecs 9 }
    let future : Packet := { p with srcPort := 53, time := .ofSecs 40 }
    let t := ((empty (.ofSecs 5) (.ofSecs 1)).run [.packet future (.ofSecs 10)]).1
    FlowKey.ofPacket? p = some default ∧ Duration.ofSecs 44 ≤ Duration.ofSecs 45 ∧
      (t.account p (.ofSecs 10)).2 = some (.opening default (.ofPacket p)) ∧
      (t.sweep (.ofSecs 44)).2.length = 0 ∧ (t.sweep (.ofSecs 45)).2.length = 1 ∧
      ((t.sweep (.ofSecs 44)).1.sweep (.ofSecs 45)).1 = (t.sweep (.ofSecs 45)).1 := by
  intro p future t
  obtain ⟨packets, -, sweeps⟩ :=
    timeouts_fire_when_due (.ofSecs 5) (.ofSecs 1) [.packet future (.ofSecs 10)]
  have keyed : FlowKey.ofPacket? p = some default := by decide
  have le : Duration.ofSecs 44 ≤ Duration.ofSecs 45 := by decide
  refine ⟨keyed, le, ?_, by decide, by decide, (sweeps _ _ le).2.1⟩
  rw [(packets p default (.ofSecs 10) keyed).1]
  decide

/-! ## What a sweep knows of packets -/

/-- The packets of a flow along a history that no returned record accounts for, if `block` are those
before it: those that have come since a record of the flow was returned last. -/
def unreturned (key : FlowKey) : FlowTable → List Packet → List Event → List Packet
  | _, block, [] => block
  | t, block, e :: es =>
    unreturned key (t.step e).1
      (if leaving key (t.step e).2 = [] then block ++ (packetOf? key e).toList else []) es

/-- **The record of an open flow sums up the packets that no returned record accounts for.** -/
theorem holds_unreturned (distinct : t.Distinct) {key : FlowKey} {block : List Packet}
    (holds : FlowCell.Holds key block (t.find? key)) (es : List Event) :
    FlowCell.Holds key (unreturned key t block es) ((t.run es).1.find? key) := by
  induction es generalizing t block with
  | nil => exact holds
  | cons e es ih =>
    obtain ⟨openAfter, closedNow⟩ := step_cell distinct key e
    rw [unreturned, run_cons]
    apply ih (distinct_step distinct e)
    rw [openAfter, closedNow]
    rcases FlowCell.holds_step t.idleTimeout t.activeTimeout key holds e with
      ⟨stays, later⟩ | ⟨r, leaves, -⟩
    · rw [stays, if_pos (by rfl)]
      exact later
    · rw [leaves, if_neg (by simp)]
      rfl

/-- **A flow that is swept has been silent since its last packet.**  The record that a sweep returns
sums up the packets of the flow that no record accounted for before.  The time since the last one of
them is at least the idle timeout, and so is the time since any other that is not later than it. -/
theorem sweep_silent_since_last (idle active : Duration) (es : List Event) (now : Duration)
    {r : FlowRecord} (returned : r ∈ (((empty idle active).run es).1.sweep now).2) :
    let block := unreturned r.key (empty idle active) [] es
    IsSummary r.key block r ∧
      ∃ last, block.getLast? = some last ∧ idle ≤ now.since last.time ∧
        ∀ p ∈ block, p.time ≤ last.time → idle ≤ now.since p.time := by
  intro block
  have new := distinct_empty idle active
  obtain ⟨found, silent⟩ := (mem_sweep (distinct_run new es) now).mp returned
  have held : FlowCell.Holds r.key block (some r) := found ▸ holds_unreturned new rfl es
  have summary : IsSummary r.key block r := held
  obtain ⟨last, isLast, time⟩ := Option.map_eq_some_iff.mp summary.last
  rw [idleTimeout_run, ← time] at silent
  refine ⟨summary, last, isLast, silent, fun p _ notLater => ?_⟩
  exact Duration.le_trans silent (Duration.since_anti notLater now)

/-- Two packets in the order of their times, and a sweep a minute after the second. -/
theorem sweep_silent_since_last_in_order :
    let p : Packet := { srcIp := some (.v4 default), dstIp := some (.v4 default), time := .ofSecs 10 }
    let q : Packet := { p with time := .ofSecs 20 }
    let es : List Event := [.packet p (.ofSecs 10), .packet q (.ofSecs 20)]
    let t := ((empty (.ofSecs 60) (.ofSecs 120)).run es).1
    ∃ r ∈ (t.sweep (.ofSecs 80)).2, IsSummary r.key [p, q] r ∧
      ∀ s ∈ [p, q], Duration.ofSecs 60 ≤ (Duration.ofSecs 80).since s.time := by
  intro p q es t
  have returned : (FlowRecord.opening default (.ofPacket p)).add (.ofPacket q) ∈
      (t.sweep (.ofSecs 80)).2 := List.mem_of_head? rfl
  obtain ⟨summary, last, isLast, -, silent⟩ :=
    sweep_silent_since_last (.ofSecs 60) (.ofSecs 120) es (.ofSecs 80) returned
  refine ⟨_, returned, summary, fun s member => silent s member ?_⟩
  obtain rfl : q = last := Option.some.inj isLast
  rcases List.mem_pair.mp member with rfl | rfl <;> decide

/-- **A sweep can return a flow with a packet of this very moment**, if an older packet of the flow
has come after it. -/
theorem sweep_returns_recent :
    let recent : Packet :=
      { srcIp := some (.v4 default), dstIp := some (.v4 default), time := .ofSecs 100 }
    let belated : Packet := { recent with time := .ofSecs 10 }
    let es : List Event := [.packet recent (.ofSecs 100), .packet belated (.ofSecs 100)]
    let t := ((empty (.ofSecs 60) (.ofSecs 120)).run es).1
    ∃ r ∈ (t.sweep (.ofSecs 100)).2,
      recent ∈ unreturned r.key (empty (.ofSecs 60) (.ofSecs 120)) [] es ∧
        ¬ Duration.ofSecs 60 ≤ (Duration.ofSecs 100).since recent.time := by
  intro recent belated es t
  refine ⟨_, List.mem_of_head? rfl, ?_, by decide⟩
  exact List.mem_of_head? rfl

end FlowTable

end Wiretap
