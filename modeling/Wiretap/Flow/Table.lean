import Wiretap.Counter.Basic
import Wiretap.Flow.Record

/-!
# The table of open flows

Packets are accounted in a table with one record for each open flow.  A flow leaves the table
with its record when it has been open for the active timeout (found when a packet is accounted),
when it has been idle for the idle timeout (found by a sweep), or when the table is drained.

## Main definitions

* `FlowTable` - the open flows, the two timeouts and the counts.
* `FlowTable.find?` - the record of an open flow.
* `FlowTable.account` - accounts a packet.
* `FlowTable.sweep`, `FlowTable.drain` - close the idle flows, or all of them.
* `FlowTable.Event`, `FlowTable.run` - a history of a table and what it closes.

## Design notes

The clock is an argument of every operation, never read here, and need not be steady.  The active
timeout is measured from the time of the first packet of a flow and the idle timeout from the time
of the packet accounted last.  A time that lies in the future is never past a timeout, unless the
timeout is zero.

The records are a list in which every key occurs at most once; a flow keeps its place while it is
open.
-/

namespace Wiretap

/-- What a table has counted since the last reading, and how many flows are open. -/
structure FlowCounts where
  /-- Flows opened. -/
  opened : Nat := 0
  /-- Flows that left the table. -/
  closed : Nat := 0
  /-- Packets that belong to no flow. -/
  skipped : Nat := 0
  /-- Open flows. -/
  concurrent : Nat := 0
deriving DecidableEq, Repr, Inhabited

namespace FlowCounts

/-- The counts as counters. -/
def counters (c : FlowCounts) : List Counter :=
  [.gauge "new" c.opened, .gauge "closed" c.closed, .gauge "skipped" c.skipped,
   .gauge "concurrent" c.concurrent]

/-- The counts after a reading, which forgets all but the number of open flows. -/
def afterReading (c : FlowCounts) : FlowCounts := { concurrent := c.concurrent }

end FlowCounts

/-- The open flows. -/
structure FlowTable where
  records : List FlowRecord := []
  /-- How long a flow may be without packets. -/
  idleTimeout : Duration
  /-- How long a flow may be open. -/
  activeTimeout : Duration
  counts : FlowCounts := {}
deriving Repr

namespace FlowTable

/-- A table without flows. -/
def empty (idleTimeout activeTimeout : Duration) : FlowTable := { idleTimeout, activeTimeout }

/-- The number of open flows. -/
def size (t : FlowTable) : Nat := t.records.length

/-- The record of an open flow. -/
def find? (t : FlowTable) (key : FlowKey) : Option FlowRecord :=
  t.records.find? fun r => r.key = key

/-- The records of the flows other than the given one. -/
def without (records : List FlowRecord) (key : FlowKey) : List FlowRecord :=
  records.filter fun r => r.key ≠ key

/-- The records with one of them put in the place of the record of its flow. -/
def store (record : FlowRecord) : List FlowRecord → List FlowRecord
  | [] => [record]
  | r :: rest => if r.key = record.key then record :: rest else r :: store record rest

/-- Whether a flow has been open for the active timeout. -/
def isOverdue (t : FlowTable) (now : Duration) (r : FlowRecord) : Bool :=
  t.activeTimeout ≤ now.since r.first

/-- Whether a flow has been idle for the idle timeout. -/
def isIdle (t : FlowTable) (now : Duration) (r : FlowRecord) : Bool :=
  t.idleTimeout ≤ now.since r.last

/-- The table after a flow has left it. -/
def close (t : FlowTable) (key : FlowKey) : FlowTable :=
  let records := without t.records key
  { t with
    records
    counts := { t.counts with
      closed := t.counts.closed + (t.records.length - records.length)
      concurrent := records.length } }

/-- The table with a packet accounted in the given flow. -/
def put (t : FlowTable) (key : FlowKey) (sample : FlowSample) : FlowTable × FlowRecord :=
  match t.find? key with
  | some r => ({ t with records := store (r.add sample) t.records }, r.add sample)
  | none =>
    let r := FlowRecord.opening key sample
    ({ t with
        records := store r t.records
        counts := { t.counts with
          opened := t.counts.opened + 1
          concurrent := t.counts.concurrent + 1 } }, r)

/-- Accounts a packet.  The record of its flow is returned if the flow leaves the table. -/
def account (t : FlowTable) (p : Packet) (now : Duration) : FlowTable × Option FlowRecord :=
  match FlowKey.ofPacket? p with
  | none => ({ t with counts := { t.counts with skipped := t.counts.skipped + 1 } }, none)
  | some key =>
    let (t, r) := t.put key (FlowSample.ofPacket p)
    if t.isOverdue now r then (t.close key, some r) else (t, none)

/-- Closes all idle flows and returns their records. -/
def sweep (t : FlowTable) (now : Duration) : FlowTable × List FlowRecord :=
  let idle := t.records.filter (t.isIdle now)
  let kept := t.records.filter fun r => !t.isIdle now r
  let counts := { t.counts with closed := t.counts.closed + idle.length }
  let counts := if idle.isEmpty then counts else { counts with concurrent := kept.length }
  ({ t with records := kept, counts }, idle)

/-- Closes all flows and returns their records. -/
def drain (t : FlowTable) : FlowTable × List FlowRecord :=
  ({ t with
      records := []
      counts := { t.counts with closed := t.counts.closed + t.records.length, concurrent := 0 } },
    t.records)

/-- Reads the counts. -/
def readCounts (t : FlowTable) : FlowTable × FlowCounts :=
  ({ t with counts := t.counts.afterReading }, t.counts)

/-! ### Histories -/

/-- A step in the history of a table. -/
inductive Event where
  | packet (p : Packet) (now : Duration)
  | sweep (now : Duration)
  | drain
  | readCounts
deriving Repr

/-- The table after a step, and the records that left it. -/
def step (t : FlowTable) : Event → FlowTable × List FlowRecord
  | .packet p now => let (t, r) := t.account p now; (t, r.toList)
  | .sweep now => t.sweep now
  | .drain => t.drain
  | .readCounts => (t.readCounts.1, [])

/-- The table after a history, and the records that left it at each step. -/
def run (t : FlowTable) : List Event → FlowTable × List (List FlowRecord)
  | [] => (t, [])
  | e :: es =>
    let (t, closed) := t.step e
    let (t, later) := t.run es
    (t, closed :: later)

@[simp] theorem idleTimeout_close (t : FlowTable) (key : FlowKey) :
    (t.close key).idleTimeout = t.idleTimeout := rfl

@[simp] theorem activeTimeout_close (t : FlowTable) (key : FlowKey) :
    (t.close key).activeTimeout = t.activeTimeout := rfl

@[simp] theorem records_sweep (t : FlowTable) (now : Duration) :
    (t.sweep now).1.records = t.records.filter fun r => !t.isIdle now r := rfl

@[simp] theorem records_drain (t : FlowTable) : t.drain.1.records = [] := rfl

/-- A key that no record has is not found. -/
theorem find?_eq_none_iff {t : FlowTable} {key : FlowKey} :
    t.find? key = none ↔ ∀ r ∈ t.records, r.key ≠ key := by
  simp [find?]

end FlowTable

end Wiretap
