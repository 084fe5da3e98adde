import Mathlib.Data.List.Perm.Basic
import Wiretap.Proofs.Flow.Counts

/-!
# Flows do not disturb each other

What becomes of a flow depends on its own packets, and on when the table is swept and drained.  The
packets of other flows make no difference, neither to the record that is open nor to the records
that leave.

## Main definitions

* `FlowTable.Event.concerns` - whether a step says something of a flow.
* `FlowTable.view` - what is seen of one flow along a history.
* `FlowTable.Same` - tables with the same flows and counts, in any order.

## Main statements

* `FlowTable.view_filter_concerns` - steps that do not concern a flow may be left out of its view.
* `FlowTable.Same.run` - tables with the same flows go on alike.
* `FlowTable.account_comm` - packets of different flows may be accounted in either order.
* `FlowTable.flows_separate` - both, for every history of a new table.

## Design notes

A table is known by what it holds of each flow, up to the order of its records: `perm_of_leaving`.
So both results are read off the cell of one flow at a time, where a foreign packet does nothing,
and no case analysis of the operations is left.  Only the counts belong to no flow.  They are
determined by the numbers of records that are open and that have left, which is what conservation
says.
-/

namespace Wiretap

namespace FlowTable

/-! ## What is seen of a flow -/

/-- Whether a step says something of a flow: every packet of the flow does, and every step that is
about no single flow. -/
def Event.concerns (key : FlowKey) : Event → Bool
  | .packet p _ => FlowKey.ofPacket? p = some key
  | _ => true

/-- What is seen of a flow at a step of a history. -/
structure Sight where
  event : Event
  /-- The record that is open after the step. -/
  record : Option FlowRecord
  /-- The records that leave at the step. -/
  closed : List FlowRecord

/-- What is seen of a flow along a history, step by step. -/
def view (key : FlowKey) : FlowTable → List Event → List Sight
  | _, [] => []
  | t, e :: es =>
    { event := e, record := (t.step e).1.find? key, closed := leaving key (t.step e).2 } ::
      view key (t.step e).1 es

variable {t u : FlowTable} {key : FlowKey}

/-- Of a step that does not concern a flow nothing is seen. -/
theorem step_of_not_concerns (distinct : t.Distinct) {e : Event}
    (foreign : ¬ e.concerns key = true) :
    (t.step e).1.find? key = t.find? key ∧ leaving key (t.step e).2 = [] := by
  obtain ⟨found, left⟩ := step_cell distinct key e
  cases e with
  | packet p now =>
    have other : FlowKey.ofPacket? p ≠ some key := by simpa [Event.concerns] using foreign
    rw [FlowCell.step_packet_of_ne _ _ _ other] at found left
    exact ⟨found, left⟩
  | _ => exact absurd rfl foreign

/-- Tables that hold the same of a flow do the same to it at a step, whatever else they hold. -/
theorem step_congr_of_find? (tDistinct : t.Distinct) (uDistinct : u.Distinct)
    (idle : t.idleTimeout = u.idleTimeout) (active : t.activeTimeout = u.activeTimeout)
    (found : t.find? key = u.find? key) (e : Event) :
    (t.step e).1.find? key = (u.step e).1.find? key ∧
      leaving key (t.step e).2 = leaving key (u.step e).2 := by
  obtain ⟨tFound, tLeft⟩ := step_cell tDistinct key e
  obtain ⟨uFound, uLeft⟩ := step_cell uDistinct key e
  rw [idle, active, found] at tFound tLeft
  exact ⟨tFound.trans uFound.symm, tLeft.trans uLeft.symm⟩

/-- **Steps that do not concern a flow may be left out** of what is seen of the flow at others. -/
theorem view_filter_concerns (tDistinct : t.Distinct) (uDistinct : u.Distinct)
    (idle : t.idleTimeout = u.idleTimeout) (active : t.activeTimeout = u.activeTimeout)
    (found : t.find? key = u.find? key) (es : List Event) :
    (t.view key es).filter (·.event.concerns key) = u.view key (es.filter (·.concerns key)) := by
  induction es generalizing t u with
  | nil => rfl
  | cons e es ih =>
    have tNext := distinct_step tDistinct e
    by_cases concerned : e.concerns key = true
    · obtain ⟨sameFound, sameLeft⟩ := step_congr_of_find? tDistinct uDistinct idle active found e
      have later := ih tNext (distinct_step uDistinct e) (by simpa using idle)
        (by simpa using active) sameFound
      rw [view, List.filter_cons_of_pos (by exact concerned), later,
        List.filter_cons_of_pos concerned, view, sameFound, sameLeft]
    -- Left out, the step leaves the other table as it is, and the flow as it was in this one.
    · have kept := (step_of_not_concerns tDistinct concerned).1
      have later := ih tNext uDistinct (by simpa using idle) (by simpa using active)
        (kept.trans found)
      rw [view, List.filter_cons_of_neg (by exact concerned), later,
        List.filter_cons_of_neg concerned]

/-! ## Tables with the same flows -/

/-- Records are known by those of each flow, up to their order. -/
theorem perm_of_leaving {records others : List FlowRecord}
    (same : ∀ key, leaving key records = leaving key others) : records.Perm others := by
  rw [List.perm_iff_count]
  intro r
  have own (rs : List FlowRecord) : (leaving r.key rs).count r = rs.count r :=
    List.count_filter (by simp)
  rw [← own records, ← own others, same]

/-- Optional values are the same if they make up the same list, which has at most one element. -/
theorem eq_of_perm_toList {one other : Option FlowRecord}
    (same : one.toList.Perm other.toList) : one = other := by
  cases other with
  | none => exact Option.toList_eq_nil_iff.mp same.eq_nil
  | some r => exact Option.toList_eq_singleton_iff.mp (List.perm_singleton.mp same)

/-- Tables that hold the same of each flow hold the same records, and the other way round. -/
theorem find?_eq_iff_perm (tDistinct : t.Distinct) (uDistinct : u.Distinct) :
    (∀ key, t.find? key = u.find? key) ↔ t.records.Perm u.records := by
  have single (key : FlowKey) : leaving key t.records = (t.find? key).toList :=
    filter_key_eq_toList tDistinct key
  have other (key : FlowKey) : leaving key u.records = (u.find? key).toList :=
    filter_key_eq_toList uDistinct key
  constructor
  · intro same
    apply perm_of_leaving
    intro key
    rw [single, other, same]
  · intro same key
    apply eq_of_perm_toList
    rw [← single, ← other]
    exact same.filter _

/-- Tables with the same flows, in any order, and the same timeouts and counts. -/
structure Same (t u : FlowTable) : Prop where
  records : t.records.Perm u.records
  idleTimeout : t.idleTimeout = u.idleTimeout
  activeTimeout : t.activeTimeout = u.activeTimeout
  counts : t.counts = u.counts

/-- Tables with the same flows do the same at a step. -/
theorem Same.step (same : t.Same u) (tSound : t.Sound) (uSound : u.Sound) (e : Event) :
    (t.step e).1.Same (u.step e).1 ∧ (t.step e).2.Perm (u.step e).2 := by
  have found := (find?_eq_iff_perm tSound.distinct uSound.distinct).mpr same.records
  have cells (key : FlowKey) := step_congr_of_find? tSound.distinct uSound.distinct
    same.idleTimeout same.activeTimeout (found key) e
  have records : (t.step e).1.records.Perm (u.step e).1.records :=
    (find?_eq_iff_perm (distinct_step tSound.distinct e) (distinct_step uSound.distinct e)).mp
      fun key => (cells key).1
  have returned := perm_of_leaving fun key => (cells key).2
  have told : t.readings [e] = u.readings [e] := by
    cases e with
    | readCounts => exact congrArg (fun counts => [counts]) same.counts
    | _ => rfl
  refine ⟨⟨records, ?_, ?_, ?_⟩, returned⟩
  · simpa using same.idleTimeout
  · simpa using same.activeTimeout
  · exact counts_run_congr tSound uSound same.counts [e] [e] told (.refl _)
      (returned.append (.refl [])) records

/-- **Tables with the same flows go on alike.** -/
theorem Same.run (same : t.Same u) (tSound : t.Sound) (uSound : u.Sound) (es : List Event) :
    (t.run es).1.Same (u.run es).1 ∧ List.Forall₂ List.Perm (t.run es).2 (u.run es).2 := by
  induction es generalizing t u with
  | nil => exact ⟨same, .nil⟩
  | cons e es ih =>
    obtain ⟨next, returned⟩ := same.step tSound uSound e
    obtain ⟨later, returnedLater⟩ := ih next (sound_step tSound e) (sound_step uSound e)
    rw [run_cons, run_cons]
    exact ⟨later, .cons returned returnedLater⟩

end FlowTable

/-! ## Packets of different flows -/

/-- Of packets of different flows one at most says something of a flow, so their order does not
matter to it. -/
theorem FlowCell.step_comm (idle active : Duration) (key : FlowKey) (cell : Option FlowRecord)
    {p q : Packet} (different : FlowKey.ofPacket? p ≠ FlowKey.ofPacket? q) (pNow qNow : Duration) :
    (step idle active key (step idle active key cell (.packet p pNow)).1 (.packet q qNow)).1 =
        (step idle active key (step idle active key cell (.packet q qNow)).1 (.packet p pNow)).1 ∧
      (step idle active key (step idle active key cell (.packet q qNow)).1 (.packet p pNow)).2 =
        (step idle active key cell (.packet p pNow)).2 ∧
      (step idle active key (step idle active key cell (.packet p pNow)).1 (.packet q qNow)).2 =
        (step idle active key cell (.packet q qNow)).2 := by
  by_cases own : FlowKey.ofPacket? p = some key
  · have foreign : FlowKey.ofPacket? q ≠ some key := fun same => different (own.trans same.symm)
    simp only [step_packet_of_ne _ _ _ foreign, and_self]
  · simp only [step_packet_of_ne _ _ _ own, and_self]

namespace FlowTable

variable {t : FlowTable}

/-- Packets of different flows may be accounted in either order, seen at one flow. -/
theorem account_comm_cell (distinct : t.Distinct) (key : FlowKey) {p q : Packet}
    (different : FlowKey.ofPacket? p ≠ FlowKey.ofPacket? q) (pNow qNow : Duration) :
    ((t.account p pNow).1.account q qNow).1.find? key =
        ((t.account q qNow).1.account p pNow).1.find? key ∧
      leaving key ((t.account q qNow).1.account p pNow).2.toList =
        leaving key (t.account p pNow).2.toList ∧
      leaving key ((t.account p pNow).1.account q qNow).2.toList =
        leaving key (t.account q qNow).2.toList := by
  obtain ⟨pFound, pLeft⟩ := account_cell distinct key p pNow
  obtain ⟨qFound, qLeft⟩ := account_cell distinct key q qNow
  obtain ⟨pqFound, pqLeft⟩ := account_cell (distinct_account distinct p pNow) key q qNow
  obtain ⟨qpFound, qpLeft⟩ := account_cell (distinct_account distinct q qNow) key p pNow
  rw [idleTimeout_account, activeTimeout_account, pFound] at pqFound pqLeft
  rw [idleTimeout_account, activeTimeout_account, qFound] at qpFound qpLeft
  obtain ⟨found, left, left'⟩ := FlowCell.step_comm t.idleTimeout t.activeTimeout key (t.find? key)
    different pNow qNow
  refine ⟨?_, ?_, ?_⟩
  · rw [pqFound, qpFound, found]
  · rw [qpLeft, pLeft, left]
  · rw [pqLeft, qLeft, left']

/-- **Packets of different flows may be accounted in either order**, each at its own time: the
tables are the same, and each packet returns what it returns when it comes first. -/
theorem account_comm (sound : t.Sound) {p q : Packet}
    (different : FlowKey.ofPacket? p ≠ FlowKey.ofPacket? q) (pNow qNow : Duration) :
    ((t.account p pNow).1.account q qNow).1.Same ((t.account q qNow).1.account p pNow).1 ∧
      ((t.account q qNow).1.account p pNow).2 = (t.account p pNow).2 ∧
      ((t.account p pNow).1.account q qNow).2 = (t.account q qNow).2 := by
  have cells (key : FlowKey) := account_comm_cell sound.distinct key different pNow qNow
  have pReturned := eq_of_perm_toList (perm_of_leaving fun key => (cells key).2.1)
  have qReturned := eq_of_perm_toList (perm_of_leaving fun key => (cells key).2.2)
  have after (packet : Packet) (now : Duration) := distinct_account sound.distinct packet now
  have records := (find?_eq_iff_perm (distinct_account (after p pNow) q qNow)
    (distinct_account (after q qNow) p pNow)).mp fun key => (cells key).1
  let pEvent : Event := .packet p pNow
  let qEvent : Event := .packet q qNow
  have returned : (t.run [pEvent, qEvent]).2.flatten.Perm (t.run [qEvent, pEvent]).2.flatten := by
    change ((t.account p pNow).2.toList ++
        (((t.account p pNow).1.account q qNow).2.toList ++ [])).Perm
      ((t.account q qNow).2.toList ++ (((t.account q qNow).1.account p pNow).2.toList ++ []))
    rw [pReturned, qReturned, List.append_nil, List.append_nil]
    exact List.perm_append_comm
  have counts := counts_run_congr sound sound rfl [pEvent, qEvent] [qEvent, pEvent] rfl
    (.swap q p []) returned records
  exact ⟨⟨records, by simp, by simp, counts⟩, pReturned, qReturned⟩

/-- **Flows do not disturb each other.**  Along every history of a new table, what is seen of a flow
is what is seen of it without the packets of other flows and those of none.  So neighbouring packets
of different flows may change places, each with its own time: they return what they returned, and
the table is the same then and later on. -/
theorem flows_separate (idle active : Duration) (es : List Event) :
    (∀ key, ((empty idle active).view key es).filter (·.event.concerns key) =
      (empty idle active).view key (es.filter (·.concerns key))) ∧
    ∀ (p q : Packet) (pNow qNow : Duration), FlowKey.ofPacket? p ≠ FlowKey.ofPacket? q →
      let t := ((empty idle active).run es).1
      let pThenQ := (t.account p pNow).1.account q qNow
      let qThenP := (t.account q qNow).1.account p pNow
      pThenQ.1.Same qThenP.1 ∧
        qThenP.2 = (t.account p pNow).2 ∧ pThenQ.2 = (t.account q qNow).2 ∧
        ∀ later, (pThenQ.1.run later).1.Same (qThenP.1.run later).1 ∧
          List.Forall₂ List.Perm (pThenQ.1.run later).2 (qThenP.1.run later).2 := by
  constructor
  · intro key
    have new := distinct_empty idle active
    exact view_filter_concerns new new rfl rfl rfl es
  · intro p q pNow qNow different t pThenQ qThenP
    have sound : t.Sound := sound_run (sound_empty idle active) es
    have pEvent := sound_step (sound_step sound (.packet p pNow)) (.packet q qNow)
    have qEvent := sound_step (sound_step sound (.packet q qNow)) (.packet p pNow)
    obtain ⟨same, pReturned, qReturned⟩ := account_comm sound different pNow qNow
    exact ⟨same, pReturned, qReturned, same.run pEvent qEvent⟩

/-- A packet that ends its flow, before and after a packet of the other direction. -/
theorem flows_separate_overdue :
    let p : Packet := { srcIp := some (.v4 default), dstIp := some (.v4 default), srcPort := 53 }
    let q : Packet := { p with srcPort := 0, dstPort := 53 }
    let t := ((empty (.ofSecs 15) (.ofSecs 60)).run [.packet p .zero, .packet q .zero]).1
    FlowKey.ofPacket? p ≠ FlowKey.ofPacket? q ∧ (t.account p (.ofSecs 60)).2.isSome ∧
      ((t.account q .zero).1.account p (.ofSecs 60)).2 = (t.account p (.ofSecs 60)).2 ∧
      ((t.account p (.ofSecs 60)).1.account q .zero).1.Same
        ((t.account q .zero).1.account p (.ofSecs 60)).1 := by
  intro p q t
  have different : FlowKey.ofPacket? p ≠ FlowKey.ofPacket? q := by decide
  obtain ⟨same, returned, -, -⟩ :=
    (flows_separate (.ofSecs 15) (.ofSecs 60) [.packet p .zero, .packet q .zero]).2 p q
      (.ofSecs 60) .zero different
  exact ⟨different, by decide, returned, same⟩

end FlowTable

end Wiretap
