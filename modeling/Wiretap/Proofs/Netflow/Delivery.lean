import Wiretap.Netflow.Exporter
import Wiretap.Proofs.Counter.Flows
import Wiretap.Proofs.Flow.Summary
import Wiretap.Proofs.Netflow.ReadBack

/-!
# Every closed flow is sent once

Whatever leaves the table of an exporter is handed to its collector once and in the same order,
under consecutive sequence numbers, and the counts of both sides agree.

## Main definitions

* `Sender.handovers` - the handovers of records under consecutive numbers.
* `Exporter.fresh` - a new exporter.
* `Exporter.trace` - what is seen of a history when every step is looked at in turn.
* `Exporter.tableHistory` - the history of the table of an exporter.
* `SenderCounts.amounts` - the counts of a sender under the names of their counters.
* `Exporter.senderReadings`, `Exporter.flowReadings` - what is read of the counts in a history and
  once more at its end.
* `Exporter.IsLive` - the sweeper runs and the exporter has not been stopped.
* `Exporter.Delivers` - what is known of the handovers and the counters of a history.

## Main statements

* `Exporter.handed_step`, `Exporter.handed_run` - a step and a history hand over what leaves the
  table.
* `Exporter.total_run` - readings lose nothing of what is counted.
* `Exporter.isSpent_run_stop` - a first stop is the last thing that hands over.
* `Exporter.handed_run_stop` - what a live exporter hands over until it is stopped depends on its
  packets and sweeps alone.
* `Exporter.run_fresh_delivers` - exactly one handover for each record that leaves the table.

## Design notes

A reading resets what it tells, so no counter of an exporter grows along a history.  What does is a
counter together with all its readings: a total keeps step with the handovers, one step at a time,
and `total_run` carries that along a history for every counter at once.

A counter shows its count modulo 2 ^ 64, so the same holds of what readings show together, and all
of it is exact where no single reading has reached 2 ^ 64.
-/

namespace Wiretap.Netflow

namespace SenderCounts

/-- The counts under the names of their counters. -/
def amounts : List (String × (SenderCounts → Nat)) :=
  [("tx", (·.sent)), ("tx-bytes", (·.sentBytes)), ("dropped", (·.dropped))]

/-- Every count is shown under its name. -/
theorem shown_counters {name : String} {amount : SenderCounts → Nat}
    (named : (name, amount) ∈ amounts) (c : SenderCounts) :
    Counter.shown name c.counters = Counter.wrapped (amount c) := by
  simp only [amounts, List.mem_cons, Prod.mk.injEq, List.not_mem_nil, or_false] at named
  rcases named with ⟨rfl, rfl⟩ | ⟨rfl, rfl⟩ | ⟨rfl, rfl⟩ <;> rfl

end SenderCounts

namespace Sender

/-! ## Handovers under consecutive numbers -/

/-- The handover of a record after `n` others. -/
def handover (up : Uplink) (n : Nat) (r : FlowRecord) : Handover where
  record := r
  sequence := UInt32.ofNat n
  datagram := encodeRecord r (UInt32.ofNat n) (up.clock n)
  fault := up.refuses n

/-- The handovers of records after `n` others. -/
def handovers (up : Uplink) (n : Nat) : List FlowRecord → List Handover
  | [] => []
  | r :: rs => handover up n r :: handovers up (n + 1) rs

theorem handovers_append (up : Uplink) (n : Nat) (rs later : List FlowRecord) :
    handovers up n (rs ++ later) = handovers up n rs ++ handovers up (n + rs.length) later := by
  induction rs generalizing n with
  | nil => rfl
  | cons r rs ih =>
    rw [List.cons_append, handovers, ih, handovers, List.length_cons, List.cons_append,
      Nat.add_right_comm, Nat.add_assoc]

@[simp] theorem record_handovers (up : Uplink) (n : Nat) (rs : List FlowRecord) :
    (handovers up n rs).map (·.record) = rs := by
  induction rs generalizing n with
  | nil => rfl
  | cons r rs ih => rw [handovers, List.map_cons, ih, handover]

@[simp] theorem length_handovers (up : Uplink) (n : Nat) (rs : List FlowRecord) :
    (handovers up n rs).length = rs.length := by
  rw [← List.length_map (·.record), record_handovers]

/-- The handover at a place is the one of the record at that place. -/
theorem getElem?_handovers (up : Uplink) (n : Nat) (rs : List FlowRecord) (i : Nat) :
    (handovers up n rs)[i]? = rs[i]?.map (handover up (n + i)) := by
  induction rs generalizing n i with
  | nil => rfl
  | cons r rs ih =>
    cases i with
    | zero => rfl
    | succ i =>
      rw [handovers, List.getElem?_cons_succ, List.getElem?_cons_succ, ih, Nat.add_assoc,
        Nat.add_comm 1 i]

/-- Every handover hands over as many bytes as a datagram has. -/
theorem length_datagram {up : Uplink} {n : Nat} {rs : List FlowRecord} {h : Handover}
    (member : h ∈ handovers up n rs) : h.datagram.length = datagramSize := by
  induction rs generalizing n with
  | nil => cases member
  | cons r rs ih =>
    rw [handovers, List.mem_cons] at member
    rcases member with rfl | later
    · exact Datagram.length_encode _
    · exact ih later

/-- A sender numbers what it hands over, whether or not the network takes it. -/
theorem handovers_sendAll (up : Uplink) (s : Sender) (rs : List FlowRecord) :
    (s.sendAll up rs).2 = handovers up s.handed rs := by
  induction rs generalizing s with
  | nil => rfl
  | cons r rs ih =>
    rw [sendAll, handovers, ← handed_send up s r, ← ih]
    rfl

/-- What a handover adds to the number of datagrams that the network took. -/
def sentBy (h : Handover) : Nat := if h.fault.isNone then 1 else 0

/-- What a handover adds to the number of bytes that the network took. -/
def sentBytesBy (h : Handover) : Nat := if h.fault.isNone then h.datagram.length else 0

/-- What a handover adds to the number of datagrams that the network did not take. -/
def droppedBy (h : Handover) : Nat := if h.fault.isNone then 0 else 1

/-- The network takes a datagram or it does not. -/
theorem sentBy_add_droppedBy (handed : List Handover) :
    (handed.map sentBy).sum + (handed.map droppedBy).sum = handed.length := by
  induction handed with
  | nil => rfl
  | cons h handed ih =>
    have either : sentBy h + droppedBy h = 1 := by
      unfold sentBy droppedBy
      split <;> rfl
    simp only [List.map_cons, List.sum_cons, List.length_cons]
    omega

/-- What the network took are datagrams of one size. -/
theorem sentBytesBy_eq {handed : List Handover}
    (sized : ∀ h ∈ handed, h.datagram.length = datagramSize) :
    (handed.map sentBytesBy).sum = datagramSize * (handed.map sentBy).sum := by
  induction handed with
  | nil => rfl
  | cons h handed ih =>
    have own : sentBytesBy h = datagramSize * sentBy h := by
      unfold sentBytesBy sentBy
      rw [sized h List.mem_cons_self]
      split <;> rfl
    have rest := ih fun h' member => sized h' (List.mem_cons_of_mem h member)
    rw [List.map_cons, List.sum_cons, own, rest, List.map_cons, List.sum_cons, Nat.mul_add]

/-- Counting a handover adds what it stands for. -/
theorem counted_handover (c : SenderCounts) (h : Handover) :
    (counted c h.datagram.length h.fault).sent = c.sent + sentBy h ∧
      (counted c h.datagram.length h.fault).sentBytes = c.sentBytes + sentBytesBy h ∧
      (counted c h.datagram.length h.fault).dropped = c.dropped + droppedBy h := by
  obtain ⟨record, sequence, datagram, fault⟩ := h
  cases fault with
  | none => exact ⟨rfl, rfl, rfl⟩
  | some fault => exact ⟨rfl, rfl, rfl⟩

/-- A sender counts what it hands over. -/
theorem counts_sendAll (up : Uplink) (s : Sender) (rs : List FlowRecord) :
    (s.sendAll up rs).1.counts.sent = s.counts.sent + ((s.sendAll up rs).2.map sentBy).sum ∧
      (s.sendAll up rs).1.counts.sentBytes =
        s.counts.sentBytes + ((s.sendAll up rs).2.map sentBytesBy).sum ∧
      (s.sendAll up rs).1.counts.dropped =
        s.counts.dropped + ((s.sendAll up rs).2.map droppedBy).sum := by
  induction rs generalizing s with
  | nil => exact ⟨rfl, rfl, rfl⟩
  | cons r rs ih =>
    obtain ⟨sent, sentBytes, dropped⟩ := counted_handover s.counts (s.send up r).2
    have first : (s.send up r).1.counts =
        counted s.counts (s.send up r).2.datagram.length (s.send up r).2.fault := rfl
    rw [← first] at sent sentBytes dropped
    obtain ⟨sentLater, sentBytesLater, droppedLater⟩ := ih (s.send up r).1
    simp only [sendAll, List.map_cons, List.sum_cons]
    omega

end Sender

namespace Exporter

/-! ## What is seen of a history -/

/-- A new exporter. -/
def fresh (idle active : Duration) (collector : SocketAddr) : Exporter where
  table := .empty idle active
  sender := { collector }

/-- An exporter that could be opened is a new one. -/
theorem eq_fresh_of_open' {routing : Routing} {settings : NetflowSettings} {x : Exporter}
    (opened : open' routing settings = .ok x) :
    x = fresh settings.idle settings.active x.sender.collector := by
  unfold open' at opened
  split at opened
  · cases opened
  · split at opened
    · cases opened
    · split at opened
      · cases opened
      · cases opened
        rfl

/-- What a history shows when every step is looked at in turn, beginning with the exporter that the
step finds. -/
def trace {α : Type} (up : Uplink) (look : Exporter → Event → List α) (x : Exporter) :
    List Event → List α
  | [] => []
  | e :: es => look x e ++ trace up look (x.step up e).1 es

/-- What a step asks of the table. -/
def tableEvents (x : Exporter) : Event → List FlowTable.Event
  | .packet p now => [.packet p now]
  | .sweep now => if x.sweeping then [.sweep now] else []
  | .start => []
  | .stop => if x.stopped then [] else [.drain]
  | .readFlowCounts => [.readCounts]
  | .readSenderCounts => []

/-- The history of the table of an exporter. -/
def tableHistory (up : Uplink) (x : Exporter) (es : List Event) : List FlowTable.Event :=
  x.trace up tableEvents es

/-- What a step tells of the counts of the table. -/
def flowReading (x : Exporter) : Event → List FlowCounts
  | .readFlowCounts => [x.readFlowCounts.2]
  | _ => []

/-- What a step tells of the counts of the sender. -/
def senderReading (x : Exporter) : Event → List SenderCounts
  | .readSenderCounts => [x.readSenderCounts.2]
  | _ => []

/-- What a history and a reading at its end tell of the counts of the table. -/
def flowReadings (up : Uplink) (x : Exporter) (es : List Event) : List FlowCounts :=
  x.trace up flowReading es ++ [(x.run up es).1.readFlowCounts.2]

/-- What a history and a reading at its end tell of the counts of the sender. -/
def senderReadings (up : Uplink) (x : Exporter) (es : List Event) : List SenderCounts :=
  x.trace up senderReading es ++ [(x.run up es).1.readSenderCounts.2]

/-- What the counter of a name shows in all readings of the table. -/
def flowsShown (up : Uplink) (x : Exporter) (es : List Event) (name : String) : Nat :=
  Counter.shownAll name ((flowReadings up x es).map FlowCounts.counters)

/-- What the counter of a name shows in all readings of the sender. -/
def sendsShown (up : Uplink) (x : Exporter) (es : List Event) (name : String) : Nat :=
  Counter.shownAll name ((senderReadings up x es).map SenderCounts.counters)

/-- The records that a step takes out of the table. -/
def closedBy (x : Exporter) (e : Event) : List FlowRecord :=
  (x.table.run (x.tableEvents e)).2.flatten

/-! ## One step -/

/-- The table takes the step that it is asked to take. -/
theorem table_step (up : Uplink) (x : Exporter) (e : Event) :
    (x.step up e).1.table = (x.table.run (x.tableEvents e)).1 := by
  cases e with
  | packet p now => rfl
  | sweep now =>
    simp only [step, sweep, tableEvents]
    split <;> rfl
  | start => rfl
  | stop =>
    simp only [step, stop, tableEvents]
    split <;> rfl
  | readFlowCounts => rfl
  | readSenderCounts => rfl

/-- The sender, as a step leaves it before its counts are read, and what it hands over. -/
theorem sendAll_closedBy (up : Uplink) (x : Exporter) (e : Event) :
    (x.step up e).2 = (x.sender.sendAll up (x.closedBy e)).2 ∧
      (x.step up e).1.sender.handed = (x.sender.sendAll up (x.closedBy e)).1.handed ∧
      ∀ amount : SenderCounts → Nat, amount {} = 0 →
        ((x.senderReading e).map amount).sum + amount (x.step up e).1.sender.counts =
          amount (x.sender.sendAll up (x.closedBy e)).1.counts := by
  cases e with
  | packet p now => simp [step, process, export', closedBy, tableEvents, senderReading,
      FlowTable.run, FlowTable.step]
  | sweep now =>
    simp only [step, sweep, closedBy, tableEvents, senderReading]
    split <;> simp [export', FlowTable.run, FlowTable.step, Sender.sendAll]
  | start => exact ⟨rfl, rfl, fun amount _ => Nat.zero_add _⟩
  | stop =>
    simp only [step, stop, closedBy, tableEvents, senderReading]
    split <;> simp [export', FlowTable.run, FlowTable.step, Sender.sendAll]
  | readFlowCounts => exact ⟨rfl, rfl, fun amount _ => Nat.zero_add _⟩
  | readSenderCounts =>
    -- A reading tells all that was counted and leaves nothing to be read.
    refine ⟨rfl, rfl, fun amount unread => ?_⟩
    simp [step, readSenderCounts, senderReading, closedBy, tableEvents, Sender.readCounts,
      FlowTable.run, Sender.sendAll, unread]

/-- **A step hands over what it takes out of the table**, under the next numbers. -/
theorem handed_step (up : Uplink) (x : Exporter) (e : Event) :
    (x.step up e).2 = Sender.handovers up x.sender.handed (x.closedBy e) := by
  rw [(sendAll_closedBy up x e).1, Sender.handovers_sendAll]

/-- A step uses up a number for each record that it takes out of the table. -/
theorem senderHanded_step (up : Uplink) (x : Exporter) (e : Event) :
    (x.step up e).1.sender.handed = x.sender.handed + (x.closedBy e).length := by
  rw [(sendAll_closedBy up x e).2.1, Sender.handed_sendAll]

/-- A step tells of the table's counts what the table tells. -/
theorem flowReading_eq (x : Exporter) (e : Event) :
    x.flowReading e = x.table.readings (x.tableEvents e) := by
  cases e with
  | packet p now => rfl
  | sweep now =>
    simp only [flowReading, tableEvents]
    split <;> rfl
  | start => rfl
  | stop =>
    simp only [flowReading, tableEvents]
    split <;> rfl
  | readFlowCounts => rfl
  | readSenderCounts => rfl

/-- A step counts what it hands over. -/
theorem counts_step (up : Uplink) (x : Exporter) (e : Event) :
    ((x.senderReading e).map (·.sent)).sum + (x.step up e).1.sender.counts.sent =
        x.sender.counts.sent + ((x.step up e).2.map Sender.sentBy).sum ∧
      ((x.senderReading e).map (·.sentBytes)).sum + (x.step up e).1.sender.counts.sentBytes =
        x.sender.counts.sentBytes + ((x.step up e).2.map Sender.sentBytesBy).sum ∧
      ((x.senderReading e).map (·.dropped)).sum + (x.step up e).1.sender.counts.dropped =
        x.sender.counts.dropped + ((x.step up e).2.map Sender.droppedBy).sum := by
  obtain ⟨handed, _, told⟩ := sendAll_closedBy up x e
  obtain ⟨sent, sentBytes, dropped⟩ := Sender.counts_sendAll up x.sender (x.closedBy e)
  rw [handed]
  exact ⟨(told (·.sent) rfl).trans sent, (told (·.sentBytes) rfl).trans sentBytes,
    (told (·.dropped) rfl).trans dropped⟩

/-! ## Whole histories -/

theorem run_cons (up : Uplink) (x : Exporter) (e : Event) (es : List Event) :
    x.run up (e :: es) =
      (((x.step up e).1.run up es).1, (x.step up e).2 :: ((x.step up e).1.run up es).2) := rfl

theorem run_append (up : Uplink) (x : Exporter) (es later : List Event) :
    x.run up (es ++ later) =
      (((x.run up es).1.run up later).1, (x.run up es).2 ++ ((x.run up es).1.run up later).2) := by
  induction es generalizing x with
  | nil => rfl
  | cons e es ih => rw [List.cons_append, run_cons, ih, run_cons, List.cons_append]

theorem tableHistory_cons (up : Uplink) (x : Exporter) (e : Event) (es : List Event) :
    tableHistory up x (e :: es) = x.tableEvents e ++ tableHistory up (x.step up e).1 es := rfl

theorem trace_append {α : Type} (up : Uplink) (look : Exporter → Event → List α) (x : Exporter)
    (es later : List Event) :
    x.trace up look (es ++ later) = x.trace up look es ++ (x.run up es).1.trace up look later := by
  induction es generalizing x with
  | nil => rfl
  | cons e es ih => rw [List.cons_append, trace, ih, trace, List.append_assoc, run_cons]

theorem tableHistory_append (up : Uplink) (x : Exporter) (es later : List Event) :
    tableHistory up x (es ++ later) =
      tableHistory up x es ++ tableHistory up (x.run up es).1 later :=
  trace_append up tableEvents x es later

/-- The table takes the steps that it is asked to take. -/
theorem table_run (up : Uplink) (x : Exporter) (es : List Event) :
    (x.run up es).1.table = (x.table.run (tableHistory up x es)).1 := by
  induction es generalizing x with
  | nil => rfl
  | cons e es ih => rw [run_cons, tableHistory_cons, FlowTable.run_append, ih, table_step]

/-- **A history hands over what it takes out of the table**, in that order and under consecutive
numbers. -/
theorem handed_run (up : Uplink) (x : Exporter) (es : List Event) :
    (x.run up es).2.flatten =
      Sender.handovers up x.sender.handed (x.table.run (tableHistory up x es)).2.flatten := by
  induction es generalizing x with
  | nil => rfl
  | cons e es ih =>
    -- The later numbers go on where those of the first step end.
    rw [run_cons, tableHistory_cons, FlowTable.run_append, List.flatten_cons, ih, handed_step,
      senderHanded_step, table_step, List.flatten_append, Sender.handovers_append]
    rfl

/-- The exporter tells of the table's counts what the table tells. -/
theorem trace_flowReading (up : Uplink) (x : Exporter) (es : List Event) :
    x.trace up flowReading es = x.table.readings (tableHistory up x es) := by
  induction es generalizing x with
  | nil => rfl
  | cons e es ih =>
    rw [trace, ih, tableHistory_cons, FlowTable.readings_append, flowReading_eq, table_step]

/-- **Readings lose nothing of what is counted.**  If every step changes a counter by what it tells
and by what it hands over, then so does every history. -/
theorem total_run (up : Uplink) {α : Type} (told : Exporter → Event → List α) (amount : α → Nat)
    (left : Exporter → Nat) (gain : Handover → Nat)
    (counts : ∀ (x : Exporter) (e : Event), ((told x e).map amount).sum + left (x.step up e).1 =
      left x + ((x.step up e).2.map gain).sum)
    (x : Exporter) (es : List Event) :
    ((x.trace up told es).map amount).sum + left (x.run up es).1 =
      left x + ((x.run up es).2.flatten.map gain).sum := by
  induction es generalizing x with
  | nil => exact Nat.add_comm 0 (left x)
  | cons e es ih =>
    -- What the first step leaves to be read is what the later steps find.
    have now := counts x e
    have later := ih (x.step up e).1
    simp only [run_cons, trace, List.map_append, List.sum_append, List.flatten_cons]
    omega

section Fresh

variable (up : Uplink) (idle active : Duration) (collector : SocketAddr) (es : List Event)

/-- A new exporter tells of a count of its sender, over a whole history, what it hands over. -/
theorem sum_senderReadings {amount : SenderCounts → Nat} {gain : Handover → Nat}
    (unread : amount {} = 0)
    (counts : ∀ (x : Exporter) (e : Event),
      ((x.senderReading e).map amount).sum + amount (x.step up e).1.sender.counts =
        amount x.sender.counts + ((x.step up e).2.map gain).sum) :
    ((senderReadings up (fresh idle active collector) es).map amount).sum =
      (((fresh idle active collector).run up es).2.flatten.map gain).sum := by
  have total := total_run up senderReading amount (amount ·.sender.counts) gain counts
    (fresh idle active collector) es
  rw [senderReadings, List.map_append, List.sum_append, List.map_singleton, List.sum_singleton]
  refine total.trans ?_
  rw [show amount (fresh idle active collector).sender.counts = 0 from unread, Nat.zero_add]

/-- A new exporter tells that as many flows are closed as it hands over records. -/
theorem sum_flowReadings :
    ((flowReadings up (fresh idle active collector) es).map (·.closed)).sum =
      ((fresh idle active collector).run up es).2.flatten.length := by
  have present : ((fresh idle active collector).run up es).1.readFlowCounts.2 =
      ((fresh idle active collector).table.run
        (tableHistory up (fresh idle active collector) es)).1.counts := by
    rw [← table_run]
    rfl
  rw [handed_run, Sender.length_handovers, flowReadings, trace_flowReading, present,
    List.map_append, List.sum_append, List.map_singleton, List.sum_singleton]
  exact FlowTable.told_closed_empty idle active _

/-- A new exporter tells of every record that its datagram was taken or dropped, and of the bytes of
those that were taken. -/
theorem sums_senderReadings :
    let told := senderReadings up (fresh idle active collector) es
    (told.map (·.sent)).sum + (told.map (·.dropped)).sum =
        ((fresh idle active collector).run up es).2.flatten.length ∧
      (told.map (·.sentBytes)).sum = 72 * (told.map (·.sent)).sum := by
  intro told
  have sent : (told.map (·.sent)).sum = _ := sum_senderReadings up idle active collector es rfl
    fun x e => (counts_step up x e).1
  have sentBytes : (told.map (·.sentBytes)).sum = _ :=
    sum_senderReadings up idle active collector es rfl fun x e => (counts_step up x e).2.1
  have dropped : (told.map (·.dropped)).sum = _ :=
    sum_senderReadings up idle active collector es rfl fun x e => (counts_step up x e).2.2
  rw [sent, sentBytes, dropped]
  refine ⟨Sender.sentBy_add_droppedBy _, Sender.sentBytesBy_eq fun h member => ?_⟩
  rw [handed_run] at member
  exact Sender.length_datagram member

end Fresh

/-! ## After the first stop -/

/-- An exporter that nothing but a packet can make send. -/
structure IsSpent (x : Exporter) : Prop where
  stopped : x.stopped = true
  records : x.table.records = []

/-- The first stop spends an exporter. -/
theorem isSpent_stop (up : Uplink) {x : Exporter} (running : x.stopped = false) :
    (x.stop up).1.IsSpent where
  stopped := by simp [stop, running, export']
  records := records_stop up running

/-- A spent exporter hands over nothing but what a packet makes it hand over. -/
theorem isSpent_step (up : Uplink) {x : Exporter} (spent : x.IsSpent) {e : Event}
    (noPacket : ∀ p now, e ≠ .packet p now) : (x.step up e).1.IsSpent ∧ (x.step up e).2 = [] := by
  obtain ⟨stopped, records⟩ := spent
  cases e with
  | packet p now => exact absurd rfl (noPacket p now)
  | sweep now =>
    simp only [step, sweep]
    split
    · refine ⟨⟨stopped, ?_⟩, ?_⟩
      · simp [FlowTable.sweep, records]
      · simp [export', FlowTable.sweep, records, Sender.sendAll]
    · exact ⟨⟨stopped, records⟩, rfl⟩
  | start => exact ⟨⟨stopped, records⟩, rfl⟩
  | stop =>
    rw [step, stop, if_pos stopped]
    exact ⟨⟨stopped, records⟩, rfl⟩
  | readFlowCounts => exact ⟨⟨stopped, records⟩, rfl⟩
  | readSenderCounts => exact ⟨⟨stopped, records⟩, rfl⟩

/-- A spent exporter stays spent and hands over nothing while no packet comes. -/
theorem isSpent_run (up : Uplink) {x : Exporter} (spent : x.IsSpent) {es : List Event}
    (noPacket : ∀ p now, .packet p now ∉ es) :
    (x.run up es).1.IsSpent ∧ (x.run up es).2.flatten = [] := by
  induction es generalizing x with
  | nil => exact ⟨spent, rfl⟩
  | cons e es ih =>
    have first : ∀ p now, e ≠ .packet p now := by
      rintro p now rfl
      exact noPacket p now List.mem_cons_self
    have rest : ∀ p now, .packet p now ∉ es :=
      fun p now member => noPacket p now (List.mem_cons_of_mem e member)
    -- An empty table has nothing to give to a sweep or to another stop.
    obtain ⟨spentNow, handedNow⟩ := isSpent_step up spent first
    obtain ⟨spentLater, handedLater⟩ := ih spentNow rest
    rw [run_cons]
    exact ⟨spentLater, by rw [List.flatten_cons, handedNow, handedLater, List.nil_append]⟩

/-- Nothing but a stop stops an exporter. -/
theorem stopped_run (up : Uplink) {x : Exporter} (running : x.stopped = false) {es : List Event}
    (noStop : .stop ∉ es) : (x.run up es).1.stopped = false := by
  induction es generalizing x with
  | nil => exact running
  | cons e es ih =>
    have kept : (x.step up e).1.stopped = false := by
      cases e with
      | stop => exact absurd List.mem_cons_self noStop
      | sweep now =>
        simp only [step, sweep]
        split <;> exact running
      | _ => exact running
    exact ih kept fun member => noStop (List.mem_cons_of_mem e member)

/-- **A first stop is the last thing that hands over**, if no packet comes after it. -/
theorem isSpent_run_stop (up : Uplink) {x : Exporter} (running : x.stopped = false)
    {before after : List Event} (noStop : .stop ∉ before)
    (noPacket : ∀ p now, .packet p now ∉ after) :
    (x.run up (before ++ .stop :: after)).1.IsSpent ∧
      (x.run up (before ++ .stop :: after)).2.flatten =
        (x.run up (before ++ [.stop])).2.flatten := by
  have spent : (x.run up (before ++ [.stop])).1.IsSpent := by
    rw [run_append]
    exact isSpent_stop up (stopped_run up running noStop)
  obtain ⟨spentLater, silent⟩ := isSpent_run up spent noPacket
  have parts : before ++ .stop :: after = (before ++ [.stop]) ++ after := by
    rw [List.append_assoc, List.singleton_append]
  rw [parts, run_append up x _ after]
  refine ⟨spentLater, ?_⟩
  rw [List.flatten_append, silent, List.append_nil]

/-! ## From a start to the first stop -/

/-- Whether idle flows are looked for and the exporter has not been stopped. -/
structure IsLive (x : Exporter) : Prop where
  sweeping : x.sweeping = true
  running : x.stopped = false

/-- Nothing but a stop ends the life of an exporter. -/
theorem IsLive.step (up : Uplink) {x : Exporter} (live : x.IsLive) {e : Event}
    (goesOn : e ≠ .stop) : (x.step up e).1.IsLive := by
  obtain ⟨sweeping, running⟩ := live
  cases e with
  | stop => exact absurd rfl goesOn
  | sweep now =>
    rw [Exporter.step, sweep, if_pos sweeping]
    exact ⟨sweeping, running⟩
  | start => exact ⟨rfl, running⟩
  | packet p now => exact ⟨sweeping, running⟩
  | readFlowCounts => exact ⟨sweeping, running⟩
  | readSenderCounts => exact ⟨sweeping, running⟩

/-- What a step asks of the table of a live exporter, readings apart. -/
def flowEvent? : Event → Option FlowTable.Event
  | .packet p now => some (.packet p now)
  | .sweep now => some (.sweep now)
  | .stop => some .drain
  | _ => none

theorem filter_tableEvents {x : Exporter} (live : x.IsLive) (e : Event) :
    (x.tableEvents e).filter (!·.isReading) = (flowEvent? e).toList := by
  cases e with
  | sweep now =>
    rw [tableEvents, if_pos live.sweeping]
    rfl
  | stop =>
    rw [tableEvents, live.running]
    rfl
  | packet p now => rfl
  | start => rfl
  | readFlowCounts => rfl
  | readSenderCounts => rfl

/-- What the table of a live exporter is asked to do, readings apart. -/
theorem filter_tableHistory (up : Uplink) {x : Exporter} (live : x.IsLive) {es : List Event}
    (goesOn : .stop ∉ es) (last : Event) :
    (x.tableHistory up (es ++ [last])).filter (!·.isReading) =
      (es ++ [last]).filterMap flowEvent? := by
  induction es generalizing x with
  | nil =>
    rw [List.nil_append, tableHistory_cons, List.filter_append, filter_tableEvents live,
      filterMap_cons_toList]
    rfl
  | cons e es ih =>
    have now : e ≠ .stop := fun stops => goesOn (stops ▸ List.mem_cons_self)
    have later := ih (live.step up now) fun member => goesOn (List.mem_cons_of_mem e member)
    rw [List.cons_append, tableHistory_cons, List.filter_append, filter_tableEvents live, later,
      filterMap_cons_toList]

/-- **A live exporter hands over what its packets and sweeps let go, and at last all that is left.**
Readings make no difference. -/
theorem handed_run_stop (up : Uplink) {x : Exporter} (live : x.IsLive) {es : List Event}
    (goesOn : .stop ∉ es) :
    (x.run up (es ++ [.stop])).2.flatten =
      Sender.handovers up x.sender.handed
        (x.table.run (es.filterMap flowEvent? ++ [.drain])).2.flatten := by
  rw [handed_run, FlowTable.run_filter_isReading ⟨rfl, rfl, rfl⟩,
    filter_tableHistory up live goesOn, List.filterMap_append]
  rfl

/-! ## Exactly one handover for each closed flow -/

/-- Every record that leaves the table in a history is handed over once, and the counters tell. -/
structure Delivers (up : Uplink) (x : Exporter) (es : List Event) : Prop where
  table_eq : (x.run up es).1.table = (x.table.run (tableHistory up x es)).1
  /-- The records handed over are those that left the table, in the same order. -/
  records_eq :
    (x.run up es).2.flatten.map (·.record) = (x.table.run (tableHistory up x es)).2.flatten
  /-- A number is spent on every record, whatever became of the others. -/
  sequence_eq : ∀ i h, (x.run up es).2.flatten[i]? = some h →
    h.sequence.toNat = i % 2 ^ 32 ∧ h.datagram = encodeRecord h.record h.sequence (up.clock i) ∧
      Bytes.be32At? h.datagram 16 = some h.sequence
  tx_add_dropped : (x.sendsShown up es "tx" + x.sendsShown up es "dropped") % 2 ^ 64 =
    (x.run up es).2.flatten.length % 2 ^ 64
  closed : x.flowsShown up es "closed" % 2 ^ 64 = (x.run up es).2.flatten.length % 2 ^ 64
  txBytes : x.sendsShown up es "tx-bytes" % 2 ^ 64 = 72 * x.sendsShown up es "tx" % 2 ^ 64
  /-- Where no reading has reached the end of a register the sender's counters are exact. -/
  exact_sends : (∀ c ∈ SenderCounts.amounts, ∀ r ∈ senderReadings up x es, c.2 r < 2 ^ 64) →
    x.sendsShown up es "tx" + x.sendsShown up es "dropped" = (x.run up es).2.flatten.length ∧
      x.sendsShown up es "tx-bytes" = 72 * x.sendsShown up es "tx"
  /-- And so is the table's. -/
  exact_closed : (∀ r ∈ flowReadings up x es, r.closed < 2 ^ 64) →
    x.flowsShown up es "closed" = (x.run up es).2.flatten.length
  /-- The first stop is the last thing that hands over, unless a packet comes after it. -/
  afterStop : ∀ before after, es = before ++ .stop :: after → .stop ∉ before →
    (∀ p now, .packet p now ∉ after) →
    (x.run up es).1.table.records = [] ∧ ((x.run up es).1.stop up).2 = [] ∧
      (x.run up es).2.flatten = (x.run up (before ++ [.stop])).2.flatten

/-- **Every record that leaves the table is handed over once.**  In every history of a new exporter
the records handed over are those that left its table, in the same order.  The handover after `i`
others has the sequence number `i` modulo 2^32, whatever became of the others.  What the counters of
the sender and of the table show in all readings agrees with it, as far as 64 bits can say it.  Once
the exporter has been stopped, and if no packet comes after that, the table is empty and nothing
more is handed over, by another stop or otherwise. -/
theorem run_fresh_delivers (up : Uplink) (idle active : Duration) (collector : SocketAddr)
    (es : List Event) : Delivers up (fresh idle active collector) es := by
  let x := fresh idle active collector
  have numbered : (x.run up es).2.flatten =
      Sender.handovers up 0 (x.table.run (tableHistory up x es)).2.flatten := handed_run up x es
  obtain ⟨either, bytes⟩ := sums_senderReadings up idle active collector es
  have closed := sum_flowReadings up idle active collector es
  have sends {name : String} {amount : SenderCounts → Nat}
      (named : (name, amount) ∈ SenderCounts.amounts) := SenderCounts.shown_counters named
  have tx := sends (.head _)
  have txBytes := sends (.tail _ (.head _))
  have dropped := sends (.tail _ (.tail _ (.head _)))
  have closes := FlowCounts.shown_counters (.tail _ (.head _))
  exact {
    table_eq := table_run up x es
    records_eq := by rw [numbered, Sender.record_handovers]
    sequence_eq := fun i h here => by
      rw [numbered, Sender.getElem?_handovers, Option.map_eq_some_iff, Nat.zero_add] at here
      obtain ⟨r, _, rfl⟩ := here
      exact ⟨UInt32.toNat_ofNat', rfl, (Datagram.header_words _).2.2.2.2.2⟩
    tx_add_dropped := by
      rw [Nat.add_mod, sendsShown, sendsShown, Counter.shownAll_mod tx,
        Counter.shownAll_mod dropped, ← Nat.add_mod, either]
    closed := by rw [flowsShown, Counter.shownAll_mod closes, closed]
    txBytes := by
      rw [sendsShown, Counter.shownAll_mod txBytes, bytes, Nat.mul_mod, ← Counter.shownAll_mod tx,
        ← Nat.mul_mod, sendsShown]
    exact_sends := fun fits => by
      rw [sendsShown, sendsShown, sendsShown, Counter.shownAll_eq_sum_of_lt tx (fits _ (.head _)),
        Counter.shownAll_eq_sum_of_lt txBytes (fits _ (.tail _ (.head _))),
        Counter.shownAll_eq_sum_of_lt dropped (fits _ (.tail _ (.tail _ (.head _))))]
      exact ⟨either, bytes⟩
    exact_closed := fun fits => by
      rw [flowsShown, Counter.shownAll_eq_sum_of_lt closes fits, closed]
    afterStop := by
      rintro before after rfl noStop noPacket
      obtain ⟨spent, silent⟩ := isSpent_run_stop up (x := x) rfl noStop noPacket
      exact ⟨spent.records, (isSpent_step up (e := .stop) spent (by simp)).2, silent⟩ }

/-- A packet and two stops: one datagram, although the network does not take it. -/
theorem run_fresh_delivers_stopped_twice :
    let p : Packet := { srcIp := some (.v4 default), dstIp := some (.v4 default), length := 60 }
    let up : Uplink := { clock := fun _ => .zero, refuses := fun _ => some .connectionRefused }
    let es : List Event := [.packet p .zero, .stop, .readSenderCounts, .stop]
    let x := fresh (.ofSecs 15) (.ofSecs 60) { ip := .v4 default, port := 2055 }
    (x.run up es).2.flatten.length = 1 ∧
      x.sendsShown up es "tx" + x.sendsShown up es "dropped" = 1 ∧
      (x.run up es).1.table.records = [] ∧ ((x.run up es).1.stop up).2 = [] := by
  intro p up es x
  have delivers : Delivers up x es :=
    run_fresh_delivers up (.ofSecs 15) (.ofSecs 60) { ip := .v4 default, port := 2055 } es
  have told : senderReadings up x es = [{ dropped := 1 }, {}] := rfl
  obtain ⟨empty, silent, -⟩ :=
    delivers.afterStop [.packet p .zero] [.readSenderCounts, .stop] rfl (by simp) (by simp)
  obtain ⟨either, -⟩ := delivers.exact_sends (by rw [told]; simp [SenderCounts.amounts])
  exact ⟨rfl, either, empty, silent⟩

end Exporter

end Wiretap.Netflow
