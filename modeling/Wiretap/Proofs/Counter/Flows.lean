import Wiretap.Proofs.Counter.Shown
import Wiretap.Proofs.Flow.Counts

/-!
# What the counters of a flow table show

A flow table counts the flows that it opens and closes, the packets that it skips and the flows that
are open.  Reading the counters sets all but the last to zero.  Whatever is read when, the counters
agree with the table.

## Main definitions

* `FlowCounts.amounts` - the counts of a table under the names of their counters.
* `Packet.hasIpv4Pair` - whether both addresses of a packet are of version 4.
* `FlowTable.told` - what readings and the present counts tell of a count together.

## Main statements

* `FlowTable.told_opened_le` - a history opens no more flows than it has steps.
* `FlowTable.counters_match_table` - the counters along a history.

## Design notes

The equations between the counts hold of natural numbers, by the laws of a single step.  A counter
shows a count modulo 2 ^ 64.  That nothing is lost there rests on every count being bounded by the
number of steps: a step opens one flow at most, and what was opened is returned or open.
-/

namespace Wiretap

namespace FlowCounts

/-- The counts under the names of their counters. -/
def amounts : List (String × (FlowCounts → Nat)) :=
  [("new", (·.opened)), ("closed", (·.closed)), ("skipped", (·.skipped)),
   ("concurrent", (·.concurrent))]

/-- Every count is shown under its name. -/
theorem shown_counters {name : String} {amount : FlowCounts → Nat}
    (named : (name, amount) ∈ amounts) (c : FlowCounts) :
    Counter.shown name c.counters = Counter.wrapped (amount c) := by
  simp only [amounts, List.mem_cons, Prod.mk.injEq, List.not_mem_nil, or_false] at named
  rcases named with ⟨rfl, rfl⟩ | ⟨rfl, rfl⟩ | ⟨rfl, rfl⟩ | ⟨rfl, rfl⟩ <;>
    simp [Counter.shown, counters, Counter.gauge]

end FlowCounts

/-- Whether an address is of version 4. -/
def IpAddr.isV4 : IpAddr → Bool
  | v4 _ => true
  | v6 _ => false

/-- Whether both addresses of a packet are of version 4. -/
def Packet.hasIpv4Pair (p : Packet) : Bool := p.srcIp.any IpAddr.isV4 && p.dstIp.any IpAddr.isV4

/-- The packets without a flow are those without two addresses of version 4. -/
theorem FlowKey.isNone_ofPacket? (p : Packet) :
    (FlowKey.ofPacket? p).isNone = !p.hasIpv4Pair := by
  unfold FlowKey.ofPacket? Packet.hasIpv4Pair
  rcases p.srcIp with _ | src | src <;> rcases p.dstIp with _ | dst | dst <;> rfl

namespace FlowTable

/-! ## What is told of a count -/

/-- What the readings along a history and the counts after it tell of a count together. -/
def told (t : FlowTable) (amount : FlowCounts → Nat) (es : List Event) : Nat :=
  ((t.readings es).map amount).sum + amount (t.run es).1.counts

/-- What is told of a count is what its counter shows, if it fits into 64 bits. -/
theorem shownAll_told {name : String} {amount : FlowCounts → Nat}
    (named : (name, amount) ∈ FlowCounts.amounts) {t : FlowTable} {es : List Event}
    (fits : t.told amount es < 2 ^ 64) :
    Counter.shownAll name ((t.readings es ++ [(t.run es).1.counts]).map FlowCounts.counters) =
      t.told amount es := by
  have total : ((t.readings es ++ [(t.run es).1.counts]).map amount).sum = t.told amount es := by
    rw [List.map_append, List.sum_append, List.map_cons, List.map_nil, List.sum_singleton, told]
  rw [← total] at fits ⊢
  exact Counter.shownAll_eq_sum (FlowCounts.shown_counters named) fits

/-- A step opens one flow at most. -/
theorem opened_step_le (t : FlowTable) (e : Event) :
    ((t.reading e).map (·.opened)).sum + (t.step e).1.counts.opened ≤ t.counts.opened + 1 := by
  cases e with
  | packet p now =>
    have opened (key : FlowKey) (s : FlowSample) :
        (t.put key s).1.counts.opened ≤ t.counts.opened + 1 := by
      have opens := opened_put t key s
      have grows := length_records_put t key s
      split at grows <;> omega
    simp only [reading, step, account, List.map_nil, List.sum_nil, Nat.zero_add]
    split
    · exact Nat.le_succ _
    · next key keyed =>
      split
      · exact opened key (.ofPacket p)
      · exact opened key (.ofPacket p)
  | sweep now =>
    simp only [reading, step, sweep, List.map_nil, List.sum_nil, Nat.zero_add]
    split <;> simp
  | drain => simp [reading, step, drain]
  | readCounts => simp [reading, step, readCounts, FlowCounts.afterReading]

/-- A history opens no more flows than it has steps. -/
theorem told_opened_le (t : FlowTable) (es : List Event) :
    t.told (·.opened) es ≤ t.counts.opened + es.length := by
  induction es generalizing t with
  | nil => simp [told, readings, run]
  | cons e es ih =>
    have now := opened_step_le t e
    have later := ih (t.step e).1
    simp only [told, readings, run_cons, List.map_append, List.sum_append, List.length_cons]
      at later ⊢
    omega

section Empty

variable (idle active : Duration) (es : List Event)

/-- Of a new table as many flows are told to be closed as records are returned. -/
theorem told_closed_empty :
    (empty idle active).told (·.closed) es = ((empty idle active).run es).2.flatten.length := by
  have closed := closed_run (distinct_empty idle active) es
  rwa [show (empty idle active).counts.closed = 0 from rfl, Nat.zero_add] at closed

/-- Of a new table the flows that are told to be opened are closed or open. -/
theorem told_opened_empty :
    (empty idle active).told (·.opened) es =
      (empty idle active).told (·.closed) es + ((empty idle active).run es).1.size := by
  have opened := opened_run (distinct_empty idle active) es
  have nothing : (empty idle active).counts.opened = 0 ∧ (empty idle active).records.length = 0 :=
    ⟨rfl, rfl⟩
  rw [told_closed_empty, told, size]
  omega

/-- Of a new table the packets that are told to be skipped are those without two addresses of
version 4. -/
theorem told_skipped_empty :
    (empty idle active).told (·.skipped) es =
      ((packetsIn es).filter fun p => !p.hasIpv4Pair).length := by
  have skipped := skipped_run (empty idle active) es
  simp only [FlowKey.isNone_ofPacket?] at skipped
  rwa [show (empty idle active).counts.skipped = 0 from rfl, Nat.zero_add] at skipped

end Empty

/-- **The counters of a flow table agree with the table**, however often they are read.  After every
history of fewer than 2 ^ 64 steps the number of open flows is shown as it is.  What all readings
and the present counters show together of the flows that were opened are those that were closed and
those that are open; the flows that were closed are the records that were returned, and the packets
that were skipped those without two addresses of version 4.  A reading leaves zeros, and the number
of open flows. -/
theorem counters_match_table (idle active : Duration) {es : List Event}
    (few : es.length < 2 ^ 64) :
    let t := ((empty idle active).run es).1
    let returned := ((empty idle active).run es).2.flatten
    let all := ((empty idle active).readings es ++ [t.counts]).map FlowCounts.counters
    Counter.shown "concurrent" t.counts.counters = t.size ∧
      Counter.shownAll "new" all = Counter.shownAll "closed" all + t.size ∧
      Counter.shownAll "closed" all = returned.length ∧
      Counter.shownAll "skipped" all = ((packetsIn es).filter fun p => !p.hasIpv4Pair).length ∧
      t.readCounts.1.counts = { concurrent := t.size } := by
  intro t returned all
  have opened := told_opened_empty idle active es
  have closed := told_closed_empty idle active es
  have skipped := told_skipped_empty idle active es
  -- All that is told is bounded by the number of steps, so that the counters show it.
  have flows : (empty idle active).told (·.opened) es ≤ es.length := by
    rw [← Nat.zero_add es.length]
    exact told_opened_le (empty idle active) es
  have packets : ((packetsIn es).filter fun p => !p.hasIpv4Pair).length ≤ es.length :=
    Nat.le_trans (List.length_filter_le ..) (List.length_filterMap_le ..)
  have newShown : Counter.shownAll "new" all = (empty idle active).told (·.opened) es :=
    shownAll_told (by simp [FlowCounts.amounts]) (by omega)
  have closedShown : Counter.shownAll "closed" all = (empty idle active).told (·.closed) es :=
    shownAll_told (by simp [FlowCounts.amounts]) (by omega)
  have skippedShown : Counter.shownAll "skipped" all = (empty idle active).told (·.skipped) es :=
    shownAll_told (by simp [FlowCounts.amounts]) (by omega)
  have counted : t.counts.concurrent = t.size := concurrent_run rfl es
  have present : Counter.wrapped t.counts.concurrent = t.size := by
    have size : t.size ≤ es.length := by
      rw [opened] at flows
      exact Nat.le_trans (Nat.le_add_left ..) flows
    rw [counted]
    exact Nat.mod_eq_of_lt (Nat.lt_of_le_of_lt size few)
  have named : ("concurrent", fun c : FlowCounts => c.concurrent) ∈ FlowCounts.amounts := by
    simp [FlowCounts.amounts]
  refine ⟨(FlowCounts.shown_counters named t.counts).trans present, ?_, closedShown.trans closed,
    skippedShown.trans skipped, ?_⟩
  · rw [newShown, closedShown, opened]
  · rw [readCounts, FlowCounts.afterReading, counted]

/-- Two flows, one of which is closed at once, a packet without addresses, and a reading between. -/
theorem counters_match_table_read_between :
    let p : Packet := { srcIp := some (.v4 default), dstIp := some (.v4 default) }
    let es : List Event := [.packet p .zero, .packet {} .zero, .readCounts,
      .packet { p with srcPort := 53 } (.ofSecs 60)]
    let ended := (empty (.ofSecs 15) (.ofSecs 60)).run es
    let all := ((empty (.ofSecs 15) (.ofSecs 60)).readings es ++ [ended.1.counts]).map
      FlowCounts.counters
    es.length < 2 ^ 64 ∧ Counter.shown "concurrent" ended.1.counts.counters = 1 ∧
      Counter.shownAll "new" all = 1 + 1 ∧ Counter.shownAll "closed" all = 1 ∧
      Counter.shownAll "skipped" all = 1 := by
  intro p es ended all
  have few : es.length < 2 ^ 64 := by decide
  obtain ⟨concurrent, new, closed, skipped, -⟩ :=
    counters_match_table (.ofSecs 15) (.ofSecs 60) few
  have size : ended.1.size = 1 := rfl
  have returned : Counter.shownAll "closed" all = 1 := closed
  exact ⟨few, concurrent.trans size, by rw [new, returned, size], returned, skipped⟩

end FlowTable

end Wiretap
