import Mathlib.Algebra.Ring.Nat
import Mathlib.Data.List.Nodup
import Wiretap.Flow.Table

/-!
# One flow of a table

A flow table holds many flows, but no operation looks at two of them at once.  This module makes
that precise: what a history does to one flow is what the same history does to a cell that holds at
most one record, and the steps that concern other flows leave the cell alone.

## Main definitions

* `FlowTable.Distinct` - every flow has at most one record.
* `FlowCell.step`, `FlowCell.run` - a step and a history of the cell of one flow.

## Main statements

* `FlowTable.distinct_step`, `FlowTable.distinct_run` - no history gives a flow a second record.
* `FlowTable.run_cell` - seen at one flow, the run of a table is the run of that flow's cell.

## Design notes

Every statement about single flows (which packets a record sums up, when a flow ends, whether flows
disturb each other) is proved for cells, where a case has at most one record in it, and carried over
to tables by `run_cell`.  That a sweep and a drain return at most one record of a flow is exactly
what `Distinct` is for.
-/

namespace Wiretap

namespace FlowTable

/-! ## Records with distinct keys -/

/-- Every flow has at most one record. -/
def Distinct (t : FlowTable) : Prop := (t.records.map (·.key)).Nodup

/-- Among records with distinct keys, those of a flow are the one that is found first. -/
theorem filter_key_eq_toList {records : List FlowRecord} (distinct : (records.map (·.key)).Nodup)
    (key : FlowKey) :
    records.filter (fun r => r.key = key) = (records.find? fun r => r.key = key).toList := by
  induction records with
  | nil => rfl
  | cons r rest ih =>
    rw [List.map_cons, List.nodup_cons] at distinct
    obtain ⟨notMem, distinctRest⟩ := distinct
    by_cases same : r.key = key
    · have noMore : rest.filter (fun r => r.key = key) = [] := by
        rw [List.filter_eq_nil_iff]
        intro other member
        simp only [decide_eq_true_eq]
        intro otherSame
        exact notMem (List.mem_map.mpr ⟨other, member, otherSame.trans same.symm⟩)
      rw [List.filter_cons_of_pos (by simpa using same), noMore,
        List.find?_cons_of_pos (by simpa using same)]
      rfl
    · rw [List.filter_cons_of_neg (by simpa using same), ih distinctRest,
        List.find?_cons_of_neg (by simpa using same)]

/-- Among records with distinct keys, a condition on a flow's record decides whether it is found
in the records that meet the condition. -/
theorem find?_filter_key {records : List FlowRecord} (distinct : (records.map (·.key)).Nodup)
    (keep : FlowRecord → Bool) (key : FlowKey) :
    (records.filter keep).find? (fun r => r.key = key) =
      (records.find? fun r => r.key = key).filter keep := by
  induction records with
  | nil => rfl
  | cons r rest ih =>
    rw [List.map_cons, List.nodup_cons] at distinct
    obtain ⟨notMem, distinctRest⟩ := distinct
    by_cases same : r.key = key
    · have absent : (rest.filter keep).find? (fun r => r.key = key) = none := by
        rw [List.find?_eq_none]
        intro other member
        simp only [decide_eq_true_eq]
        intro otherSame
        exact notMem (List.mem_map.mpr
          ⟨other, (List.mem_filter.mp member).1, otherSame.trans same.symm⟩)
      rw [List.find?_cons_of_pos (by simpa using same)]
      by_cases kept : keep r = true
      · rw [List.filter_cons_of_pos kept, List.find?_cons_of_pos (by simpa using same),
          Option.filter_some_pos kept]
      · rw [List.filter_cons_of_neg kept, absent,
          Option.filter_some_neg (by simpa using kept)]
    · rw [List.find?_cons_of_neg (by simpa using same), ← ih distinctRest]
      by_cases kept : keep r = true
      · rw [List.filter_cons_of_pos kept, List.find?_cons_of_neg (by simpa using same)]
      · rw [List.filter_cons_of_neg kept]

theorem nodup_keys_filter {records : List FlowRecord} (distinct : (records.map (·.key)).Nodup)
    (keep : FlowRecord → Bool) : ((records.filter keep).map (·.key)).Nodup :=
  distinct.sublist (List.Sublist.map _ List.filter_sublist)

/-- Storing a record adds its key, unless the flow has a record already. -/
theorem mem_keys_store {record : FlowRecord} {records : List FlowRecord} {key : FlowKey}
    (member : key ∈ (store record records).map (·.key)) :
    key = record.key ∨ key ∈ records.map (·.key) := by
  induction records with
  | nil => simpa [store] using member
  | cons r rest ih =>
    rw [store] at member
    split at member
    · rw [List.map_cons, List.mem_cons] at member
      rcases member with own | later
      · exact Or.inl own
      · exact Or.inr (List.mem_cons_of_mem _ later)
    · rw [List.map_cons, List.mem_cons] at member
      rcases member with own | later
      · exact Or.inr (own ▸ List.mem_cons_self)
      · rcases ih later with new | old
        · exact Or.inl new
        · exact Or.inr (List.mem_cons_of_mem _ old)

theorem nodup_keys_store (record : FlowRecord) {records : List FlowRecord}
    (distinct : (records.map (·.key)).Nodup) :
    ((store record records).map (·.key)).Nodup := by
  induction records with
  | nil => simp [store]
  | cons r rest ih =>
    rw [List.map_cons, List.nodup_cons] at distinct
    obtain ⟨notMem, distinctRest⟩ := distinct
    rw [store]
    split
    · next same =>
      rw [List.map_cons, List.nodup_cons, ← same]
      exact ⟨notMem, distinctRest⟩
    · next other =>
      rw [List.map_cons, List.nodup_cons]
      refine ⟨fun member => ?_, ih distinctRest⟩
      rcases mem_keys_store member with new | old
      · exact other new
      · exact notMem old

/-- A stored record is the one of its flow, and the other flows keep theirs. -/
theorem find?_store (record : FlowRecord) (records : List FlowRecord) (key : FlowKey) :
    (store record records).find? (fun r => r.key = key) =
      if record.key = key then some record else records.find? fun r => r.key = key := by
  induction records with
  | nil => by_cases own : record.key = key <;> simp [store, own]
  | cons r rest ih =>
    rw [store]
    by_cases same : r.key = record.key
    · rw [if_pos same]
      by_cases own : record.key = key
      · simp [own]
      · simp [own, same]
    · rw [if_neg same]
      by_cases own : record.key = key
      · rw [List.find?_cons_of_neg (by simpa using own ▸ same), ih]
        simp [own]
      · by_cases found : r.key = key
        · simp [found, own]
        · rw [List.find?_cons_of_neg (by simpa using found), ih]
          simp [found, own]

/-! ## What the operations keep -/

@[simp] theorem idleTimeout_put (t : FlowTable) (key : FlowKey) (s : FlowSample) :
    (t.put key s).1.idleTimeout = t.idleTimeout := by
  unfold put
  split <;> rfl

@[simp] theorem activeTimeout_put (t : FlowTable) (key : FlowKey) (s : FlowSample) :
    (t.put key s).1.activeTimeout = t.activeTimeout := by
  unfold put
  split <;> rfl

/-- The record that a packet is accounted in: the flow's own, or a new one. -/
theorem record_put (t : FlowTable) (key : FlowKey) (s : FlowSample) :
    (t.put key s).2 = (((t.find? key).map (·.add s)).getD (.opening key s)) := by
  unfold put
  split
  · next r found => simp [found]
  · next absent => simp [absent]

/-- A record that is found has the key that was asked for. -/
theorem key_of_find? {t : FlowTable} {key : FlowKey} {r : FlowRecord}
    (found : t.find? key = some r) : r.key = key := by
  simpa using List.find?_some found

/-- The record that a packet is accounted in belongs to the packet's flow. -/
theorem key_put (t : FlowTable) (key : FlowKey) (s : FlowSample) : (t.put key s).2.key = key := by
  rw [record_put]
  cases found : t.find? key with
  | none => rfl
  | some r => simpa using key_of_find? found

theorem records_put (t : FlowTable) (key : FlowKey) (s : FlowSample) :
    (t.put key s).1.records = store (t.put key s).2 t.records := by
  unfold put
  split <;> rfl

theorem distinct_put {t : FlowTable} (distinct : t.Distinct) (key : FlowKey) (s : FlowSample) :
    (t.put key s).1.Distinct := by
  unfold Distinct
  rw [records_put]
  exact nodup_keys_store _ distinct

/-- Accounting a packet changes the record of its own flow only. -/
theorem find?_put (t : FlowTable) (key other : FlowKey) (s : FlowSample) :
    (t.put key s).1.find? other =
      if key = other then some (t.put key s).2 else t.find? other := by
  unfold find?
  rw [records_put, find?_store, key_put]

/-- The flow of a packet that is accounted is open. -/
theorem find?_put_self (t : FlowTable) (key : FlowKey) (s : FlowSample) :
    (t.put key s).1.find? key = some (t.put key s).2 := by
  rw [find?_put, if_pos rfl]

theorem distinct_close {t : FlowTable} (distinct : t.Distinct) (key : FlowKey) :
    (t.close key).Distinct :=
  nodup_keys_filter distinct _

/-- Closing a flow takes its own record only. -/
theorem find?_close {t : FlowTable} (distinct : t.Distinct) (key other : FlowKey) :
    (t.close key).find? other = if key = other then none else t.find? other := by
  have seen : (t.close key).find? other =
      (t.find? other).filter fun r => decide (r.key ≠ key) :=
    find?_filter_key distinct _ other
  rw [seen]
  cases found : t.find? other with
  | none => simp
  | some r =>
    have own := key_of_find? found
    by_cases same : key = other
    · simp [own, same]
    · simp [own, same, Ne.symm same]

theorem distinct_account {t : FlowTable} (distinct : t.Distinct) (p : Packet) (now : Duration) :
    (t.account p now).1.Distinct := by
  unfold account
  split
  · exact distinct
  · next key keyed =>
    have stored := distinct_put distinct key (.ofPacket p)
    simp only
    split
    · exact distinct_close stored key
    · exact stored

/-- No step gives a flow a second record. -/
theorem distinct_step {t : FlowTable} (distinct : t.Distinct) (e : Event) :
    (t.step e).1.Distinct := by
  cases e with
  | packet p now => exact distinct_account distinct p now
  | sweep now => exact nodup_keys_filter distinct _
  | drain => exact List.nodup_nil
  | readCounts => exact distinct

@[simp] theorem idleTimeout_account (t : FlowTable) (p : Packet) (now : Duration) :
    (t.account p now).1.idleTimeout = t.idleTimeout := by
  unfold account
  split
  · rfl
  · simp only
    split <;> simp

@[simp] theorem activeTimeout_account (t : FlowTable) (p : Packet) (now : Duration) :
    (t.account p now).1.activeTimeout = t.activeTimeout := by
  unfold account
  split
  · rfl
  · simp only
    split <;> simp

@[simp] theorem idleTimeout_step (t : FlowTable) (e : Event) :
    (t.step e).1.idleTimeout = t.idleTimeout := by
  cases e with
  | packet p now => exact idleTimeout_account t p now
  | _ => rfl

@[simp] theorem activeTimeout_step (t : FlowTable) (e : Event) :
    (t.step e).1.activeTimeout = t.activeTimeout := by
  cases e with
  | packet p now => exact activeTimeout_account t p now
  | _ => rfl

theorem distinct_empty (idle active : Duration) : (empty idle active).Distinct := List.nodup_nil

theorem run_cons (t : FlowTable) (e : Event) (es : List Event) :
    t.run (e :: es) =
      (((t.step e).1.run es).1, (t.step e).2 :: ((t.step e).1.run es).2) := rfl

theorem run_append (t : FlowTable) (es later : List Event) :
    t.run (es ++ later) =
      (((t.run es).1.run later).1, (t.run es).2 ++ ((t.run es).1.run later).2) := by
  induction es generalizing t with
  | nil => rfl
  | cons e es ih => rw [List.cons_append, run_cons, ih, run_cons, List.cons_append]

@[simp] theorem idleTimeout_run (t : FlowTable) (es : List Event) :
    (t.run es).1.idleTimeout = t.idleTimeout := by
  induction es generalizing t with
  | nil => rfl
  | cons e es ih => rw [run_cons, ih, idleTimeout_step]

@[simp] theorem activeTimeout_run (t : FlowTable) (es : List Event) :
    (t.run es).1.activeTimeout = t.activeTimeout := by
  induction es generalizing t with
  | nil => rfl
  | cons e es ih => rw [run_cons, ih, activeTimeout_step]

/-- No history gives a flow a second record. -/
theorem distinct_run {t : FlowTable} (distinct : t.Distinct) (es : List Event) :
    (t.run es).1.Distinct := by
  induction es generalizing t with
  | nil => exact distinct
  | cons e es ih =>
    rw [run_cons]
    exact ih (distinct_step distinct e)

end FlowTable

/-! ## The cell of one flow -/

namespace FlowCell

open FlowTable (Event)

variable (idle active : Duration) (key : FlowKey)

/-- What a step does to the cell of a flow: the record that is then open, and the record that has
left. -/
def step (cell : Option FlowRecord) : Event → Option FlowRecord × Option FlowRecord
  | .packet p now =>
    if FlowKey.ofPacket? p = some key then
      let r := (cell.map (·.add (.ofPacket p))).getD (.opening key (.ofPacket p))
      if active ≤ now.since r.first then (none, some r) else (some r, none)
    else (cell, none)
  | .sweep now =>
    (cell.filter fun r => ¬ idle ≤ now.since r.last, cell.filter fun r => idle ≤ now.since r.last)
  | .drain => (none, cell)
  | .readCounts => (cell, none)

/-- What a history does to the cell of a flow: the record that is then open, and the records that
have left, in order. -/
def run : Option FlowRecord → List Event → Option FlowRecord × List FlowRecord
  | cell, [] => (cell, [])
  | cell, e :: es =>
    let after := step idle active key cell e
    let later := run after.1 es
    (later.1, after.2.toList ++ later.2)

theorem run_cons (cell : Option FlowRecord) (e : Event) (es : List Event) :
    run idle active key cell (e :: es) =
      ((run idle active key (step idle active key cell e).1 es).1,
        (step idle active key cell e).2.toList ++
          (run idle active key (step idle active key cell e).1 es).2) := rfl

/-- A packet of another flow, or of none, leaves the cell alone. -/
theorem step_packet_of_ne {p : Packet} (foreign : FlowKey.ofPacket? p ≠ some key)
    (cell : Option FlowRecord) (now : Duration) :
    step idle active key cell (.packet p now) = (cell, none) := by
  rw [step, if_neg foreign]

end FlowCell

namespace FlowTable

/-! ## A table seen at one flow -/

/-- What a step takes out of the table, seen at one flow. -/
def leaving (key : FlowKey) (closed : List FlowRecord) : List FlowRecord :=
  closed.filter fun r => r.key = key

/-- Accounting a packet, seen at one flow. -/
theorem account_cell {t : FlowTable} (distinct : t.Distinct) (key : FlowKey) (p : Packet)
    (now : Duration) :
    (t.account p now).1.find? key =
        (FlowCell.step t.idleTimeout t.activeTimeout key (t.find? key) (.packet p now)).1 ∧
      leaving key (t.account p now).2.toList =
        (FlowCell.step t.idleTimeout t.activeTimeout key (t.find? key) (.packet p now)).2.toList := by
  unfold account
  cases keyed : FlowKey.ofPacket? p with
  | none =>
    rw [FlowCell.step_packet_of_ne _ _ _ (by simp [keyed])]
    exact ⟨rfl, rfl⟩
  | some own =>
    -- The record is stored before it is asked whether it has been active for too long.
    have ownKey := key_put t own (.ofPacket p)
    by_cases same : own = key
    · subst same
      have overdue : (t.put own (.ofPacket p)).1.isOverdue now (t.put own (.ofPacket p)).2 =
          decide (t.activeTimeout ≤ now.since (t.put own (.ofPacket p)).2.first) := by
        rw [isOverdue, activeTimeout_put]
      rw [FlowCell.step, if_pos keyed, ← record_put]
      simp only [overdue, decide_eq_true_eq]
      split
      · rw [find?_close (distinct_put distinct own _), if_pos rfl]
        simp [leaving, ownKey]
      · rw [find?_put, if_pos rfl]
        simp [leaving]
    · rw [FlowCell.step_packet_of_ne _ _ _ (by simpa [keyed] using same)]
      simp only
      split
      · rw [find?_close (distinct_put distinct own _), if_neg same, find?_put, if_neg same]
        simp [leaving, ownKey, same]
      · rw [find?_put, if_neg same]
        simp [leaving]

/-- **Seen at one flow, a step of a table is the step of that flow's cell.** -/
theorem step_cell {t : FlowTable} (distinct : t.Distinct) (key : FlowKey) (e : Event) :
    (t.step e).1.find? key =
        (FlowCell.step t.idleTimeout t.activeTimeout key (t.find? key) e).1 ∧
      leaving key (t.step e).2 =
        (FlowCell.step t.idleTimeout t.activeTimeout key (t.find? key) e).2.toList := by
  cases e with
  | packet p now => exact account_cell distinct key p now
  | sweep now =>
    constructor
    · have kept := find?_filter_key distinct (fun r => !t.isIdle now r) key
      simpa [step, FlowCell.step, find?, isIdle] using kept
    -- A sweep returns a list of records, of which a flow has at most one.
    · have gone := find?_filter_key distinct (t.isIdle now) key
      have single := filter_key_eq_toList (nodup_keys_filter distinct (t.isIdle now)) key
      rw [gone] at single
      exact single
  | drain => exact ⟨rfl, filter_key_eq_toList distinct key⟩
  | readCounts => exact ⟨rfl, rfl⟩

/-- **Seen at one flow, the run of a table is the run of that flow's cell.** -/
theorem run_cell {t : FlowTable} (distinct : t.Distinct) (key : FlowKey) (es : List Event) :
    (t.run es).1.find? key =
        (FlowCell.run t.idleTimeout t.activeTimeout key (t.find? key) es).1 ∧
      leaving key (t.run es).2.flatten =
        (FlowCell.run t.idleTimeout t.activeTimeout key (t.find? key) es).2 := by
  induction es generalizing t with
  | nil => exact ⟨rfl, rfl⟩
  | cons e es ih =>
    obtain ⟨openAfter, closedNow⟩ := step_cell distinct key e
    obtain ⟨openLater, closedLater⟩ := ih (distinct_step distinct e)
    -- The timeouts that the cell is given are those of the table, which no step changes.
    rw [idleTimeout_step, activeTimeout_step, openAfter] at openLater closedLater
    rw [run_cons, FlowCell.run_cons]
    refine ⟨openLater, ?_⟩
    rw [← closedLater, ← closedNow, List.flatten_cons]
    exact List.filter_append ..

end FlowTable

end Wiretap
