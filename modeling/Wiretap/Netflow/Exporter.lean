import Wiretap.Config.Basic
import Wiretap.Flow.Table
import Wiretap.Netflow.Sender

/-!
# Exporting flows

An exporter accounts packets in a flow table and sends every record that leaves the table to the
collector: at once when a flow has been open for too long, from time to time for the flows that
have been idle, and all that is left when it is stopped.

## Main definitions

* `Exporter` - a flow table, a sender and what is running.
* `Exporter.open'` - an exporter with an empty table, or an `ExporterError`.
* `Exporter.process`, `Exporter.sweep` - account a packet, end the idle flows.
* `Exporter.start`, `Exporter.stop` - the sweeper runs between them; `stop` ends all flows.
* `Exporter.Event`, `Exporter.run` - a history of an exporter and what it hands over.

## Design notes

Only the first stop drains the table.  A packet processed after it is accounted like any other and
may still be sent when its flow is overdue, but nobody asks for the rest of the table again.
-/

namespace Wiretap.Netflow

/-- Why there is no exporter. -/
inductive ExporterError where
  | unsupportedVersion (version : Nat)
  | invalidCollector (text : String) (reason : CollectorError)
  /-- The host has no way to the collector. -/
  | socket (fault : Fault)
deriving DecidableEq, Repr

/-- The wording of an error. -/
def ExporterError.message : ExporterError → String
  | unsupportedVersion version =>
    s!"unsupported netflow version {version}, only version 5 is supported"
  | invalidCollector text reason => s!"invalid collector address {text}: {reason.message}"
  | socket fault => "collector socket error: " ++ fault.message

/-- What the host does when a socket is to be connected. -/
structure Routing where
  /-- The address of a host name. -/
  resolve : String → Option IpAddr := fun _ => none
  /-- What the host answers if there is no way to an address. -/
  refuses : SocketAddr → Option Fault := fun _ => none

/-- A flow table whose records go to a collector. -/
structure Exporter where
  table : FlowTable
  sender : Sender
  /-- Whether idle flows are looked for. -/
  sweeping : Bool := false
  stopped : Bool := false
deriving Repr

namespace Exporter

/-- An exporter with an empty table. -/
def open' (routing : Routing) (settings : NetflowSettings) : Except ExporterError Exporter :=
  if settings.version ≠ version.toNat then .error (.unsupportedVersion settings.version)
  else
    match readCollector routing.resolve settings.collector with
    | .error reason => .error (.invalidCollector settings.collector reason)
    | .ok collector =>
      match routing.refuses collector with
      | some fault => .error (.socket fault)
      | none => .ok { table := .empty settings.idle settings.active, sender := { collector } }

/-- The number of open flows. -/
def flows (x : Exporter) : Nat := x.table.size

/-- Sends records that have left the table. -/
def export' (up : Uplink) (x : Exporter) (rs : List FlowRecord) : Exporter × List Handover :=
  let (sender, handed) := x.sender.sendAll up rs
  ({ x with sender }, handed)

/-- Accounts a packet and sends the record of its flow if that leaves the table. -/
def process (up : Uplink) (x : Exporter) (p : Packet) (now : Duration) :
    Exporter × List Handover :=
  let (table, closed) := x.table.account p now
  { x with table }.export' up closed.toList

/-- Ends the idle flows, if the sweeper is running. -/
def sweep (up : Uplink) (x : Exporter) (now : Duration) : Exporter × List Handover :=
  if x.sweeping then
    let (table, idle) := x.table.sweep now
    { x with table }.export' up idle
  else (x, [])

/-- Starts the sweeper. -/
def start (x : Exporter) : Exporter := { x with sweeping := true }

/-- Stops the sweeper and ends all flows.  Only the first stop does anything. -/
def stop (up : Uplink) (x : Exporter) : Exporter × List Handover :=
  if x.stopped then (x, [])
  else
    let (table, rest) := x.table.drain
    { x with table, sweeping := false, stopped := true }.export' up rest

/-- Reads the counts of the table. -/
def readFlowCounts (x : Exporter) : Exporter × FlowCounts :=
  let (table, counts) := x.table.readCounts
  ({ x with table }, counts)

/-- Reads the counts of the sender. -/
def readSenderCounts (x : Exporter) : Exporter × SenderCounts :=
  let (sender, counts) := x.sender.readCounts
  ({ x with sender }, counts)

/-! ### Histories -/

/-- A step in the history of an exporter. -/
inductive Event where
  | packet (p : Packet) (now : Duration)
  | sweep (now : Duration)
  | start
  | stop
  | readFlowCounts
  | readSenderCounts
deriving Repr

/-- The exporter after a step, and what it handed over. -/
def step (up : Uplink) (x : Exporter) : Event → Exporter × List Handover
  | .packet p now => x.process up p now
  | .sweep now => x.sweep up now
  | .start => (x.start, [])
  | .stop => x.stop up
  | .readFlowCounts => (x.readFlowCounts.1, [])
  | .readSenderCounts => (x.readSenderCounts.1, [])

/-- The exporter after a history, and what it handed over at each step. -/
def run (up : Uplink) (x : Exporter) : List Event → Exporter × List (List Handover)
  | [] => (x, [])
  | e :: es =>
    let (x, handed) := x.step up e
    let (x, later) := x.run up es
    (x, handed :: later)

@[simp] theorem table_export' (up : Uplink) (x : Exporter) (rs : List FlowRecord) :
    (x.export' up rs).1.table = x.table := rfl

/-- A stopped exporter has no flows left of those it had before. -/
theorem records_stop (up : Uplink) {x : Exporter} (h : x.stopped = false) :
    (x.stop up).1.table.records = [] := by
  simp [stop, h]

end Exporter

end Wiretap.Netflow
