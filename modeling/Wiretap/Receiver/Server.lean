import Wiretap.Counter.Registry
import Wiretap.Receiver.Pipeline

/-!
# Servers

A server listens on a socket while it is running.  Starting it opens the sinks that its settings
ask for, stopping it flushes them and exports the flows that are left.

## Main definitions

* `Host`, `RunFaults` - what the operating system does for a server, and what it does not.
* `Server` - settings, counts, and the run that is going on.
* `Server.start`, `Server.stop` - begin and end a run.
* `Server.strand` - what is left of a start that fails after all sinks were opened.
* `Server.receive`, `Server.sweep` - a datagram, and a look for idle flows, during a run.
* `Server.readTally`, `Server.readStats` - the counts, and all counters of the run.
* `Server.Event`, `Server.history` - a history of a server and what it exports.

## Design notes

Counts outlive a run, sinks do not: every run has new ones, and its exporter begins with an empty
table and sequence number zero.  The sinks are opened in the order file, capture, export; where
one cannot be opened, those before it are closed again, but what opening them did to the disk
remains.

Once all sinks are open a start can still fail: the socket may not tell its address, and there may
be no thread to receive.  Such a start answers with an error and yet leaves a run behind, one with
an exporter only, in which nothing is received until it is stopped.

A source of counters belongs to a run and is closed with it; only the counts of the server itself
are always open, so they take over their own name at every start but the first.
-/

namespace Wiretap

/-- What a run asks of the operating system and does not get. -/
structure RunFaults where
  /-- There is no thread that looks for idle flows. -/
  sweeper : Option Fault := none
  /-- The socket does not tell its address. -/
  address : Option Fault := none
  /-- There is no thread that receives. -/
  receiver : Option Fault := none

/-- The fault that ends a start when all sinks are open. -/
def RunFaults.late? (f : RunFaults) : Option Fault := f.address.or f.receiver

/-- What the operating system does for a server. -/
structure Host where
  routing : Netflow.Routing := {}
  /-- The address that a socket listens on when it is bound to a given one. -/
  bind : SocketAddr → Except Fault SocketAddr := .ok
  /-- What a run does not get. -/
  faults : (run : Nat) → RunFaults := fun _ => {}
  /-- The network as the exporter of a run sees it. -/
  uplink : (run : Nat) → Netflow.Uplink

/-- Why flows are not exported. -/
inductive ExportError where
  | opening (error : Netflow.ExporterError)
  /-- There is no thread that looks for idle flows. -/
  | sweeper (fault : Fault)
deriving DecidableEq, Repr

/-- The wording of an error. -/
def ExportError.message : ExportError → String
  | opening error => error.message
  | sweeper fault => s!"failed to spawn thread: {fault.message}"

/-- Why a server does not start. -/
inductive ServerError where
  | alreadyStarted
  | invalidListenAddr (text : String)
  /-- A file cannot be opened. -/
  | output (path : Path) (fault : Fault)
  | netflow (error : ExportError)
  /-- The socket cannot be bound or does not tell its address, or nobody can receive from it. -/
  | socket (fault : Fault)
deriving DecidableEq, Repr

/-- The wording of an error. -/
def ServerError.message : ServerError → String
  | alreadyStarted => "server already started"
  | invalidListenAddr text => s!"invalid listen address: {text}"
  | output path fault => s!"failed to open {path}: {fault.message}"
  | netflow error => s!"netflow exporter: {error.message}"
  | socket fault => fault.message

/-! ### Opening the sinks -/

/-- The sinks opened so far, and the error that ended opening them. -/
structure Opening where
  disk : Disk
  pipeline : Pipeline := {}
  notices : List Notice := []
  error : Option ServerError := none
deriving Repr

namespace Opening

/-- Goes on unless there was an error. -/
def andThen (o : Opening) (next : Opening → Opening) : Opening :=
  if o.error.isSome then o else next o

/-- Opens the metadata log. -/
def openLog (settings : FileSettings) (o : Opening) : Opening :=
  let path := Path.ofString settings.path
  if !settings.enabled then { o with notices := o.notices ++ [.fileDisabled] }
  else
    match MetadataLog.open' o.disk path settings.format with
    | .error e => { o with error := some (.output path e) }
    | .ok (disk, log) =>
      { o with
        disk
        pipeline := { o.pipeline with log := some log }
        notices := o.notices ++ [.fileOpened path settings.format] }

/-- Opens the capture archive. -/
def openArchive (settings : CaptureSettings) (o : Opening) : Opening :=
  let path := Path.ofString settings.path
  if !settings.enabled then { o with notices := o.notices ++ [.captureDisabled] }
  else
    match Archive.open' o.disk path settings.maxSize settings.maxBackups with
    | (disk, .error e) => { o with disk, error := some (.output path e) }
    | (disk, .ok archive) =>
      { o with
        disk
        pipeline := { o.pipeline with archive := some archive }
        notices := o.notices ++ [.captureOpened path] }

/-- Opens the exporter and starts its sweeper.  An exporter without a sweeper is dropped. -/
def openExporter (routing : Netflow.Routing) (sweeper : Option Fault)
    (settings : NetflowSettings) (o : Opening) : Opening :=
  if !settings.enabled then { o with notices := o.notices ++ [.netflowDisabled] }
  else
    match Netflow.Exporter.open' routing settings with
    | .error e => { o with error := some (.netflow (.opening e)) }
    | .ok exporter =>
      let notices := o.notices ++ [.netflowConnected exporter.sender.collector,
        .netflowOpened exporter.sender.collector settings]
      match sweeper with
      | some fault =>
        { o with
          notices := notices ++ [.netflowStopped exporter.flows]
          error := some (.netflow (.sweeper fault)) }
      | none =>
        { o with
          pipeline := { o.pipeline with exporter := some exporter.start }
          notices := notices ++ [.sweeperStarted] }

/-- Opens the sinks that settings ask for. -/
def sinks (routing : Netflow.Routing) (sweeper : Option Fault) (settings : OutputSettings)
    (disk : Disk) : Opening :=
  (openLog settings.file { disk } |>.andThen (openArchive settings.capture)).andThen
    (openExporter routing sweeper settings.netflow)

end Opening

/-! ### Servers -/

/-- What a source of counters counts. -/
inductive SourceKind where
  | archive
  | flows
  | sender
  | server
deriving DecidableEq, Repr

/-- A source of counters of a run. -/
structure ServerSource where
  kind : SourceKind
  run : Nat
deriving DecidableEq, Repr

/-- The time between a start and a stop. -/
structure Run where
  number : Nat
  /-- Where the server listens. -/
  address : SocketAddr
  pipeline : Pipeline
  /-- Whether there is a thread that receives. -/
  receiving : Bool := true
  /-- Whether there is a thread that reads all counters from time to time. -/
  reporting : Bool := true
deriving Repr

/-- A server and what is going on in it. -/
structure Server where
  config : Config
  tally : Tally := {}
  /-- How often sinks were opened. -/
  starts : Nat := 0
  run : Option Run := none
  registry : Registry ServerSource := {}
deriving Repr

/-- What has changed after a step of a server. -/
structure Effects where
  disk : Disk
  server : Server
  notices : List Notice := []
  /-- The flow records that were handed to the network. -/
  exported : List Netflow.Handover := []
deriving Repr

namespace Server

/-- Whether the server is running. -/
def isRunning (s : Server) : Bool := s.run.isSome

/-- Whether the server handles the datagrams that arrive. -/
def isReceiving (s : Server) : Bool := s.run.any (·.receiving)

/-! ### Counters -/

/-- Whether a source is closed while the run of the given number is going on. -/
def isClosedIn (current : Option Nat) (source : ServerSource) : Bool :=
  source.kind ≠ .server && current ≠ some source.run

/-- The sources of an opened pipeline, under the names of their modules. -/
def sourcesOf (p : Pipeline) : List (String × SourceKind) :=
  (if p.archive.isSome then [("pcap-writer", .archive)] else []) ++
  if p.exporter.isSome then [("flow-map", .flows), ("netflow-sender", .sender)] else []

/-- Registers sources of a run, one after the other. -/
def registerAll (registry : Registry ServerSource) (run : Nat) :
    List (String × SourceKind) → Registry ServerSource × List Notice
  | [] => (registry, [])
  | (module, kind) :: rest =>
    let first := registry.register (isClosedIn (some run)) module ⟨kind, run⟩
    let later := registerAll first.1 run rest
    (later.1, first.2.map .duplicateSource ++ later.2)

/-- The server with another pipeline in its run. -/
def withPipeline (s : Server) (p : Pipeline) : Server :=
  { s with run := s.run.map fun r => { r with pipeline := p } }

/-- The pipeline of the run. -/
def pipeline (s : Server) : Pipeline := (s.run.map (·.pipeline)).getD {}

/-- Reads the counts of the server itself. -/
def readTally (s : Server) : Server × Tally :=
  ({ s with tally := s.tally.read.1 }, s.tally.read.2)

/-- Reads a source. -/
def readSource (s : Server) (source : ServerSource) : Server × List Counter :=
  let p := s.pipeline
  match source.kind, p.archive, p.exporter with
  | .server, _, _ => (s.readTally.1, s.readTally.2.counters)
  | .archive, some a, _ =>
    (s.withPipeline { p with archive := some a.readCounts.1 }, a.readCounts.2.counters)
  | .flows, _, some x =>
    (s.withPipeline { p with exporter := some x.readFlowCounts.1 }, x.readFlowCounts.2.counters)
  | .sender, _, some x =>
    (s.withPipeline { p with exporter := some x.readSenderCounts.1 },
      x.readSenderCounts.2.counters)
  | _, _, _ => (s, [])

/-- Reads all counters of a run, while one is going on and somebody reads them. -/
def readStats (s : Server) : Server × List Notice :=
  match s.run with
  | none => (s, [])
  | some run =>
    if !run.reporting then (s, [])
    else
      let registry := s.registry.retain (isClosedIn (some run.number))
      let after := Registry.readAll readSource { s with registry } registry.sources
      (after.1, (Registry.lines after.2).map .counters)

/-! ### The life cycle -/

/-- Begins a run with the sinks that were opened for it. -/
def begin' (s : Server) (o : Opening) (address : SocketAddr) : Server × List Notice :=
  let sources := sourcesOf o.pipeline ++ [("server", .server)]
  let registered := registerAll s.registry s.starts sources
  ({ s with
      starts := s.starts + 1
      run := some { number := s.starts, address, pipeline := o.pipeline }
      registry := registered.1 },
    registered.2 ++ [.listening address s.config.server.bufferSize])

/-- Gives up the sinks that were opened before an error. -/
def giveUp (s : Server) (o : Opening) : Server × Disk :=
  ({ s with
      starts := s.starts + 1
      registry := (registerAll s.registry s.starts (sourcesOf o.pipeline)).1 },
    (o.pipeline.flush o.disk).1)

/-- Leaves a run behind that has the exporter of an opening and no receiver.  The other sinks are
given up, and the source that counts captures is closed with them.  Somebody reads the counters only
if the socket has told its address. -/
def strand (s : Server) (o : Opening) (address : SocketAddr) (reporting : Bool) : Effects :=
  let sources := sourcesOf o.pipeline ++ if reporting then [("server", .server)] else []
  let registered := registerAll s.registry s.starts sources
  { disk := (o.pipeline.flush o.disk).1
    server := { s with
      starts := s.starts + 1
      run := some
        { number := s.starts
          address
          pipeline := { exporter := o.pipeline.exporter }
          receiving := false
          reporting }
      registry := registered.1.retain (· = ⟨.archive, s.starts⟩) }
    notices := o.notices ++ registered.2 }

/-- Starts a server and gives the address that it listens on. -/
def start (host : Host) (disk : Disk) (s : Server) : Effects × Except ServerError SocketAddr :=
  if s.isRunning then ({ disk, server := s, notices := [.alreadyStarted] }, .error .alreadyStarted)
  else
    match SocketAddr.parse? s.config.server.listenAddr with
    | none => ({ disk, server := s }, .error (.invalidListenAddr s.config.server.listenAddr))
    | some address =>
      match host.bind address with
      | .error e => ({ disk, server := s }, .error (.socket e))
      | .ok address =>
        let faults := host.faults s.starts
        let o := Opening.sinks host.routing faults.sweeper s.config.output disk
        match o.error, faults.late? with
        | some e, _ =>
          let after := s.giveUp o
          ({ disk := after.2, server := after.1, notices := o.notices }, .error e)
        | none, some fault => (s.strand o address faults.address.isNone, .error (.socket fault))
        | none, none =>
          let after := s.begin' o address
          ({ disk := o.disk, server := after.1, notices := o.notices ++ after.2 }, .ok address)

/-- Stops the exporter of a run. -/
def stopExporter (host : Host) (run : Run) : List Netflow.Handover × List Notice :=
  match run.pipeline.exporter with
  | none => ([], [])
  | some exporter =>
    let after := exporter.stop (host.uplink run.number)
    (after.2, after.2.map (.exported exporter.sender.collector) ++ [.netflowStopped exporter.flows])

/-- Stops a server. -/
def stop (host : Host) (disk : Disk) (s : Server) : Effects :=
  match s.run with
  | none => { disk, server := s, notices := [.alreadyStopped] }
  | some run =>
    let stopped := stopExporter host run
    { disk := (run.pipeline.flush disk).1
      server := { s with run := none }
      notices := .stopping :: stopped.2 ++ [.stopped]
      exported := stopped.1 }

/-! ### During a run -/

/-- Handles a datagram, or what of it fits into the buffer.  A crash ends the run without a
flush. -/
def receive (host : Host) (disk : Disk) (s : Server) (a : Arrival) : Effects :=
  match s.run with
  | none => { disk, server := s }
  | some run =>
    if !run.receiving then { disk, server := s }
    else
      let a := { a with data := a.data.take s.config.server.bufferSize }
      let h := run.pipeline.handle (host.uplink run.number) disk s.tally a
      { disk := h.disk
        server := { s with
          tally := h.tally
          run := if h.crashed then none else some { run with pipeline := h.pipeline } }
        notices := h.notices
        exported := h.exported }

/-- Ends the idle flows. -/
def sweep (host : Host) (disk : Disk) (s : Server) (now : Duration) : Effects :=
  match s.run with
  | none => { disk, server := s }
  | some run =>
    match run.pipeline.exporter with
    | none => { disk, server := s }
    | some exporter =>
      let after := exporter.sweep (host.uplink run.number) now
      { disk
        server := s.withPipeline { run.pipeline with exporter := some after.1 }
        notices := after.2.map (.exported exporter.sender.collector)
        exported := after.2 }

/-- Moves what the sinks of a run have written to the disk. -/
def flush (disk : Disk) (s : Server) : Disk × Server :=
  let flushed := s.pipeline.flush disk
  (flushed.1, s.withPipeline flushed.2)

/-! ### Histories -/

/-- A step in the history of a server. -/
inductive Event where
  | start
  | stop
  | datagram (a : Arrival)
  | sweep (now : Duration)
  | readTally
  | readStats
deriving Repr

/-- What a step changes. -/
def step (host : Host) (disk : Disk) (s : Server) : Event → Effects
  | .start => (s.start host disk).1
  | .stop => s.stop host disk
  | .datagram a => s.receive host disk a
  | .sweep now => s.sweep host disk now
  | .readTally => { disk, server := s.readTally.1 }
  | .readStats => { disk, server := s.readStats.1, notices := s.readStats.2 }

/-- What each step of a history changes. -/
def history (host : Host) (disk : Disk) (s : Server) : List Event → List Effects
  | [] => []
  | e :: es =>
    let now := s.step host disk e
    now :: history host now.disk now.server es

/-- A server that is running does not start again and changes nothing. -/
theorem start_of_isRunning (host : Host) (disk : Disk) {s : Server} (h : s.isRunning) :
    (s.start host disk).1.server = s ∧ (s.start host disk).1.disk = disk ∧
      (s.start host disk).2 = .error .alreadyStarted := by
  simp [start, h]

/-- A stopped server is not running. -/
theorem not_isRunning_stop (host : Host) (disk : Disk) (s : Server) :
    (s.stop host disk).server.isRunning = false := by
  unfold stop
  cases h : s.run <;> simp [isRunning, h]

end Server

end Wiretap
