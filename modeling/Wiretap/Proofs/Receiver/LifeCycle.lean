import Mathlib.Data.List.Induction
import Wiretap.Proofs.Receiver.Counts

/-!
# The life of a server

A server is started and stopped any number of times, in any order.  What it does between a start and
the next stop is what its pipeline does, and nothing of it is left for a later run but the counts.

## Main definitions

* `Server.after`, `Server.exports` - disk and server after a history, and all that it exports.
* `Server.handled` - the datagrams that a history handles.
* `Server.Shows` - a server shows what a pipeline shows.
* `Server.metered` - what a step of a server asks of its pipeline.
* `Server.RunsUntilStop` - a run from a successful start to the next stop.
* `Server.RunsApart` - what can be told of a server after any history.
* `Pipeline.heldBack` - what was written and has not reached the disk.

## Main statements

* `Server.start_cases` - all that a start can do.
* `Server.Shows.step`, `Server.Shows.run_after` - a step and a history of a running server are those
  of its pipeline.
* `Server.exports_stop` - all that a run exports.
* `Server.isRunning_after` - a server that is running was started and has not been stopped since.
* `Server.exists_runsUntilStop` - what a successful start begins goes on until the next stop.
* `Server.runs_are_separate` - all of this together.

## Design notes

A reading of all counters reads those sources that the registry still holds, so what a step asks of
the pipeline depends on the server.  Readings make no difference to flows, which is why all that a
run exports can be told from its datagrams and sweeps.

A datagram that arrives beyond the calendar brings the receiver down and ends the run before its
stop.  Only the clock of the host could say such a time.

A start that fails once all sinks are open leaves the server running without a receiver, so what is
said of running servers after such a start has a premise that excludes it.
-/

namespace Wiretap

open Netflow (Uplink Exporter)

namespace Pipeline

/-- What was written and has not reached the disk, and where it belongs. -/
def heldBack (p : Pipeline) : List (Place × Bytes) :=
  p.log.toList.map (fun log => (log.place, log.heldBack)) ++
    p.archive.toList.map fun archive => (archive.place, archive.heldBack)

/-- A flush moves to the disk all that was held back. -/
theorem disk_flush (disk : Disk) (p : Pipeline) :
    (p.flush disk).1 = p.heldBack.foldl (fun disk w => disk.append w.1 w.2) disk := by
  obtain ⟨archive, log, exporter⟩ := p
  cases archive <;> cases log <;> rfl

/-- What a step asks of the flow table, readings apart. -/
def Metered.flowEvent? : Metered → Option FlowTable.Event
  | .event (.datagram a) =>
    (Envelope.frameAt? a.data a.time).map fun seen =>
      .packet (Packet.decode seen.1 seen.2).1 a.now
  | .event (.sweep now) => some (.sweep now)
  | .reading _ => none

theorem filterMap_flowEvent? (ms : List Metered) :
    (ms.flatMap Metered.exporterEvents).filterMap Exporter.flowEvent? =
      ms.filterMap Metered.flowEvent? := by
  induction ms with
  | nil => rfl
  | cons m ms ih =>
    rw [List.flatMap_cons, List.filterMap_append, ih, filterMap_cons_toList]
    congr 1
    match m with
    | .event (.datagram a) =>
      rw [Metered.exporterEvents, exporterEvent?, Metered.flowEvent?, Sighting.frameAt?_eq]
      cases (Sighting.ofDatagram a.data a.time).toOption <;> rfl
    | .event (.sweep now) => rfl
    | .reading .server => rfl
    | .reading .archive => rfl
    | .reading .flows => rfl
    | .reading .sender => rfl

/-- No step of a pipeline stops its exporter. -/
theorem stop_notMem_exporterEvents (ms : List Metered) :
    .stop ∉ ms.flatMap Metered.exporterEvents := by
  intro member
  obtain ⟨m, -, stops⟩ := List.mem_flatMap.mp member
  match m with
  | .event e =>
    have events : (exporterEvent? e).toList = [e].filterMap exporterEvent? := by
      rw [filterMap_cons_toList, List.filterMap_nil, List.append_nil]
    rw [Metered.exporterEvents, events] at stops
    exact stop_notMem [e] stops
  | .reading .server => simp [Metered.exporterEvents] at stops
  | .reading .archive => simp [Metered.exporterEvents] at stops
  | .reading .flows => simp [Metered.exporterEvents] at stops
  | .reading .sender => simp [Metered.exporterEvents] at stops

/-- Without an exporter nothing is exported. -/
theorem exporter_meter_of_none (up : Uplink) {h : Handled} (absent : h.pipeline.exporter = none)
    (m : Metered) :
    (meter up h m).pipeline.exporter = none ∧ (meter up h m).exported = h.exported := by
  match m with
  | .event (.datagram a) => exact exporter_step_of_none up absent a
  | .event (.sweep now) => simp [meter, step, absent]
  | .reading .server => exact ⟨absent, rfl⟩
  | .reading .archive => exact ⟨absent, rfl⟩
  | .reading .flows => simp [meter, absent]
  | .reading .sender => simp [meter, absent]

theorem exporter_meterAll_of_none (up : Uplink) {h : Handled}
    (absent : h.pipeline.exporter = none) (ms : List Metered) :
    (meterAll up h ms).pipeline.exporter = none ∧ (meterAll up h ms).exported = h.exported := by
  induction ms generalizing h with
  | nil => exact ⟨absent, rfl⟩
  | cons m ms ih =>
    obtain ⟨absentNow, exportedNow⟩ := exporter_meter_of_none up absent m
    rw [meterAll_cons, ← exportedNow]
    exact ih absentNow

theorem meterAll_append (up : Uplink) (h : Handled) (ms later : List Metered) :
    meterAll up h (ms ++ later) = meterAll up (meterAll up h ms) later := List.foldl_append

end Pipeline

namespace Server

open Pipeline (Metered meter meterAll)

/-! ## Histories -/

/-- Disk and server after a history. -/
def after (host : Host) (disk : Disk) (s : Server) : List Event → Disk × Server
  | [] => (disk, s)
  | e :: es => after host (s.step host disk e).disk (s.step host disk e).server es

/-- All that a history exports. -/
def exports (host : Host) (disk : Disk) (s : Server) (es : List Event) : List Netflow.Handover :=
  (history host disk s es).flatMap (·.exported)

/-- All that a history exports with a stop at its end. -/
def exportsUntilStop (host : Host) (disk : Disk) (s : Server) (es : List Event) :
    List Netflow.Handover :=
  exports host disk s es ++
    ((after host disk s es).2.stop host (after host disk s es).1).exported

/-- What of a datagram fits into the buffer. -/
def cut (s : Server) (a : Arrival) : Arrival :=
  { a with data := a.data.take s.config.server.bufferSize }

/-- The datagram that a step handles. -/
def handled? (s : Server) : Event → Option Arrival
  | .datagram a => if s.isReceiving then some (s.cut a) else none
  | _ => none

/-- The datagrams that a history handles. -/
def handled (host : Host) (disk : Disk) (s : Server) : List Event → List Arrival
  | [] => []
  | e :: es =>
    (s.handled? e).toList ++ handled host (s.step host disk e).disk (s.step host disk e).server es

/-- Whether the calendar can show when a datagram arrives. -/
def Event.IsDatable : Event → Prop
  | .datagram a => (Date.ofDays (a.time.secs / 86400)).year ≤ Calendar.lastYear
  | _ => True

/-- What a step asks of the pipeline of the run. -/
def metered (s : Server) : Event → List Metered
  | .datagram a => [.event (.datagram (s.cut a))]
  | .sweep now => [.event (.sweep now)]
  | .readTally => [.reading .server]
  | .readStats =>
    (s.registry.retain (isClosedIn (s.run.map (·.number)))).sources.map fun source =>
      .reading source.2.kind
  | .start => []
  | .stop => []

/-- What a history asks of the pipeline of the run. -/
def meteredIn (host : Host) (disk : Disk) (s : Server) : List Event → List Metered
  | [] => []
  | e :: es =>
    s.metered e ++ meteredIn host (s.step host disk e).disk (s.step host disk e).server es

theorem after_append (host : Host) (disk : Disk) (s : Server) (es later : List Event) :
    after host disk s (es ++ later) =
      after host (after host disk s es).1 (after host disk s es).2 later := by
  induction es generalizing disk s with
  | nil => rfl
  | cons e es ih => exact ih _ _

/-! ## Starts -/

/-- **All that a start can do.**  While the server is running it does nothing.  Otherwise there may
be no socket, and then nothing happens either; a sink may not open, and then those before it are
given up; or all of them open.  Then a run begins, if nothing is missing for it; what is missing
leaves a run without a receiver. -/
theorem start_cases (host : Host) (disk : Disk) (s : Server) :
    let faults := host.faults s.starts
    let opened := Opening.sinks host.routing faults.sweeper s.config.output disk
    (s.isRunning = true ∧ s.start host disk =
        ({ disk, server := s, notices := [.alreadyStarted] }, .error .alreadyStarted)) ∨
      s.run = none ∧
        ((∃ e, (e = .invalidListenAddr s.config.server.listenAddr ∨ ∃ fault, e = .socket fault) ∧
            s.start host disk = ({ disk, server := s }, .error e)) ∨
          (∃ e, opened.error = some e ∧ s.start host disk =
            ({ disk := (s.giveUp opened).2, server := (s.giveUp opened).1,
               notices := opened.notices }, .error e)) ∨
          (∃ address fault, opened.error = none ∧ faults.late? = some fault ∧ s.start host disk =
            (s.strand opened address faults.address.isNone, .error (.socket fault))) ∨
          ∃ address, opened.error = none ∧ faults.late? = none ∧ s.start host disk =
            ({ disk := opened.disk, server := (s.begin' opened address).1,
               notices := opened.notices ++ (s.begin' opened address).2 }, .ok address)) := by
  intro faults opened
  unfold start
  by_cases running : s.isRunning
  · exact Or.inl ⟨running, if_pos running⟩
  refine Or.inr ⟨Option.not_isSome_iff_eq_none.mp running, ?_⟩
  rw [if_neg running]
  cases SocketAddr.parse? s.config.server.listenAddr with
  | none => exact Or.inl ⟨_, Or.inl rfl, rfl⟩
  | some wanted =>
    cases bound : host.bind wanted with
    | error e => exact Or.inl ⟨.socket e, Or.inr ⟨e, rfl⟩, by simp only [bound]⟩
    | ok address =>
      simp only [bound]
      cases failed : opened.error with
      | some e =>
        exact Or.inr (Or.inl ⟨e, rfl, rfl⟩)
      | none =>
        cases late : faults.late? with
        | some fault =>
          exact Or.inr (Or.inr (Or.inl ⟨address, fault, rfl, rfl, rfl⟩))
        | none =>
          exact Or.inr (Or.inr (Or.inr ⟨address, rfl, rfl, rfl⟩))

/-- A start leaves the counts as they are, and what it exports is nothing. -/
theorem tally_start (host : Host) (disk : Disk) (s : Server) :
    (s.start host disk).1.server.tally = s.tally ∧ (s.start host disk).1.exported = [] := by
  rcases s.start_cases host disk with
    ⟨-, h⟩ | ⟨-, ⟨e, -, h⟩ | ⟨e, -, h⟩ | ⟨address, fault, -, -, h⟩ | ⟨address, -, -, h⟩⟩ <;>
    exact h ▸ ⟨rfl, rfl⟩

/-- A server that does not start is stopped, if it was and nothing was missing once all sinks were
open. -/
theorem run_start_of_error {host : Host} {disk : Disk} {s : Server} {e : ServerError}
    (stopped : s.run = none) (failed : (s.start host disk).2 = .error e)
    (noLate : (host.faults s.starts).late? = none) :
    (s.start host disk).1.server.run = none := by
  rcases s.start_cases host disk with
    ⟨running, -⟩ | ⟨-, ⟨e, -, h⟩ | ⟨e, -, h⟩ | ⟨address, fault, -, late, -⟩ | ⟨address, -, -, h⟩⟩
  · simp [isRunning, stopped] at running
  · exact h ▸ stopped
  · exact h ▸ stopped
  · rw [noLate] at late
    cases late
  · rw [h] at failed
    cases failed

theorem config_readAll (s : Server) (sources : List (String × ServerSource)) :
    (Registry.readAll Server.readSource s sources).1.config = s.config := by
  induction sources generalizing s with
  | nil => rfl
  | cons source rest ih =>
    have now : (s.readSource source.2).1.config = s.config := by
      unfold readSource
      simp only
      split <;> rfl
    exact (ih _).trans now

/-- A server keeps its settings. -/
theorem config_step (host : Host) (disk : Disk) (s : Server) (e : Event) :
    (s.step host disk e).server.config = s.config := by
  cases e with
  | start =>
    rw [step]
    rcases s.start_cases host disk with
      ⟨-, h⟩ | ⟨-, ⟨e, -, h⟩ | ⟨e, -, h⟩ | ⟨address, fault, -, -, h⟩ | ⟨address, -, -, h⟩⟩ <;>
      exact h ▸ rfl
  | stop =>
    simp only [step, stop]
    split <;> rfl
  | datagram a =>
    simp only [step, receive]
    split
    · rfl
    · split <;> rfl
  | sweep now =>
    simp only [step, sweep]
    split
    · rfl
    · split <;> rfl
  | readTally => rfl
  | readStats =>
    simp only [step, readStats]
    split
    · rfl
    · split
      · rfl
      · exact config_readAll _ _

theorem config_after (host : Host) (disk : Disk) (s : Server) (es : List Event) :
    (after host disk s es).2.config = s.config := by
  induction es generalizing disk s with
  | nil => rfl
  | cons e es ih => exact (ih _ _).trans (config_step host disk s e)

/-! ## Datagrams -/

/-- A server that receives handles what of a datagram fits into its buffer. -/
theorem receive_of_run (host : Host) (disk : Disk) {s : Server} {run : Run}
    (running : s.run = some run) (receiving : run.receiving = true) (a : Arrival) :
    let h := run.pipeline.handle (host.uplink run.number) disk s.tally (s.cut a)
    s.receive host disk a =
      { disk := h.disk
        server := { s with
          tally := h.tally
          run := if h.crashed then none else some { run with pipeline := h.pipeline } }
        notices := h.notices
        exported := h.exported } := by
  unfold receive
  rw [running]
  exact if_neg (by simp [receiving])

/-- Where nobody receives a datagram is lost. -/
theorem receive_of_not_isReceiving (host : Host) (disk : Disk) {s : Server}
    (deaf : s.isReceiving = false) (a : Arrival) :
    s.receive host disk a = { disk, server := s } := by
  unfold receive
  cases running : s.run with
  | none => rfl
  | some run =>
    rw [isReceiving, running, Option.any_some] at deaf
    exact if_pos (by simp [deaf])

theorem isRunning_of_run {s : Server} {run : Run} (running : s.run = some run) :
    s.isRunning = true := by
  rw [isRunning, running]
  rfl

/-- A server that receives has a run. -/
theorem exists_run_of_isReceiving {s : Server} (receiving : s.isReceiving = true) :
    ∃ run, s.run = some run ∧ run.receiving = true := by
  rw [isReceiving, Option.any_eq_true] at receiving
  exact receiving

/-! ## Runs -/

/-- A server shows what a pipeline shows: the run of a given number has its sinks, with its disk and
its counts. -/
structure Shows (number : Nat) (now : Disk × Server) (h : Handled) : Prop where
  disk : now.1 = h.disk
  tally : now.2.tally = h.tally
  run : ∃ address, now.2.run = some { number, address, pipeline := h.pipeline }

/-- Reading a source of a server is reading a source of its pipeline. -/
theorem Shows.readSource {number : Nat} {disk : Disk} {s : Server} {h : Handled}
    (up : Uplink) (shows : Shows number (disk, s) h) (source : ServerSource) :
    Shows number (disk, (s.readSource source).1) (meter up h (.reading source.kind)) ∧
      (meter up h (.reading source.kind)).exported = h.exported := by
  obtain ⟨config, tally, starts, run, registry⟩ := s
  obtain ⟨hostDisk, counts, ⟨archive, log, exporter⟩, notices, exported, crashed⟩ := h
  obtain ⟨sameDisk, sameTally, address, running⟩ := shows
  change disk = hostDisk at sameDisk
  change tally = counts at sameTally
  change run = some { number, address, pipeline := ⟨archive, log, exporter⟩ } at running
  subst sameDisk sameTally running
  obtain ⟨kind, owner⟩ := source
  cases kind <;> cases archive <;> cases exporter <;>
    exact ⟨⟨rfl, rfl, address, rfl⟩, rfl⟩

/-- Reading sources of a server is reading sources of its pipeline. -/
theorem Shows.readAll {number : Nat} {disk : Disk} {s : Server} {h : Handled} (up : Uplink)
    (shows : Shows number (disk, s) h) (sources : List (String × ServerSource)) :
    let last := (Registry.readAll Server.readSource s sources).1
    let ms : List Metered := sources.map fun source => .reading source.2.kind
    Shows number (disk, last) (meterAll up h ms) ∧ (meterAll up h ms).exported = h.exported := by
  induction sources generalizing s h with
  | nil => exact ⟨shows, rfl⟩
  | cons source rest ih =>
    obtain ⟨showsNow, exportedNow⟩ := shows.readSource up source.2
    obtain ⟨showsLater, exportedLater⟩ := ih showsNow
    exact ⟨showsLater, exportedLater.trans exportedNow⟩

/-- A stopped server is not changed by anything but a start or a reading of its counts. -/
theorem step_of_run_eq_none (host : Host) (disk : Disk) {s : Server} (stopped : s.run = none)
    {e : Event} (noStart : e ≠ .start) (noReading : e ≠ .readTally) :
    (s.step host disk e).disk = disk ∧ (s.step host disk e).server = s ∧
      (s.step host disk e).exported = [] := by
  cases e with
  | start => exact absurd rfl noStart
  | readTally => exact absurd rfl noReading
  | stop => simp [step, stop, stopped]
  | datagram a => simp [step, receive, stopped]
  | sweep now => simp [step, sweep, stopped]
  | readStats => simp [step, readStats, stopped]

/-- **A step of a running server is a step of its pipeline**, as long as nobody stops it and nothing
brings it down. -/
theorem Shows.step {number : Nat} {disk : Disk} {s : Server} {h : Handled} (host : Host)
    (shows : Shows number (disk, s) h) {e : Event} (goesOn : e ≠ .stop) (datable : e.IsDatable) :
    let last := s.step host disk e
    let pipeline := meterAll (host.uplink number) h (s.metered e)
    Shows number (last.disk, last.server) pipeline ∧
      pipeline.exported = h.exported ++ last.exported := by
  obtain ⟨sameDisk, sameTally, address, running⟩ := id shows
  change disk = h.disk at sameDisk
  change s.tally = h.tally at sameTally
  change s.run = some { number, address, pipeline := h.pipeline } at running
  intro last pipeline
  cases e with
  | stop => exact absurd rfl goesOn
  | start =>
    have same : last = { disk, server := s, notices := [.alreadyStarted] } := by
      simp [last, Server.step, Server.start, isRunning, running]
    rw [same]
    exact ⟨shows, (List.append_nil _).symm⟩
  | datagram a =>
    let handled := h.pipeline.handle (host.uplink number) disk s.tally (s.cut a)
    have lasting : handled.crashed = false :=
      Pipeline.crashed_step (host.uplink number)
        { disk, tally := s.tally, pipeline := h.pipeline } (a := s.cut a) datable
    have received : last.disk = handled.disk ∧ last.server = { s with
        tally := handled.tally
        run := some { number, address, pipeline := handled.pipeline } } ∧
        last.exported = handled.exported := by
      have whole : last = s.receive host disk a := rfl
      rw [whole, receive_of_run host disk running rfl]
      refine ⟨rfl, ?_, rfl⟩
      rw [if_neg (Bool.eq_false_iff.mp lasting)]
    have same : handled = h.pipeline.handle (host.uplink number) h.disk h.tally (s.cut a) := by
      rw [← sameDisk, ← sameTally]
    obtain ⟨disk_, server_, exported_⟩ := received
    rw [server_, exported_, disk_, same]
    exact ⟨⟨rfl, rfl, address, rfl⟩, rfl⟩
  | sweep now =>
    simp only [last, Server.step, Server.sweep, running, pipeline, metered, meterAll, List.foldl,
      meter, Pipeline.step]
    cases sink : h.pipeline.exporter with
    | none => exact ⟨shows, (List.append_nil _).symm⟩
    | some x =>
      refine ⟨⟨sameDisk, sameTally, address, ?_⟩, rfl⟩
      simp [withPipeline, running]
  | readTally =>
    exact ⟨⟨sameDisk, congrArg (·.read.1) sameTally, address, running⟩,
      (List.append_nil _).symm⟩
  | readStats =>
    -- Only the sources of runs that have not ended are read.
    have kept : Shows number
        (disk, { s with registry := s.registry.retain (isClosedIn (some number)) }) h :=
      ⟨sameDisk, sameTally, address, running⟩
    have read := kept.readAll (host.uplink number)
      (s.registry.retain (isClosedIn (some number))).sources
    have ms : s.metered .readStats = (s.registry.retain (isClosedIn (some number))).sources.map
        fun source => .reading source.2.kind := by
      rw [metered, running]
      rfl
    simp only [running] at read
    simp only [last, pipeline, ms, Server.step, Server.readStats, running]
    exact ⟨read.1, read.2.trans (List.append_nil _).symm⟩

/-- **A history of a running server is a history of its pipeline**, as long as nobody stops it and
nothing brings it down. -/
theorem Shows.run_after {number : Nat} {disk : Disk} {s : Server} {h : Handled} (host : Host)
    (shows : Shows number (disk, s) h) {es : List Event} (goesOn : .stop ∉ es)
    (datable : ∀ e ∈ es, e.IsDatable) :
    let pipeline := meterAll (host.uplink number) h (meteredIn host disk s es)
    Shows number (after host disk s es) pipeline ∧
      pipeline.exported = h.exported ++ exports host disk s es := by
  induction es generalizing disk s h with
  | nil => exact ⟨shows, (List.append_nil _).symm⟩
  | cons e es ih =>
    have now : e ≠ .stop := fun stops => goesOn (stops ▸ List.mem_cons_self)
    have later : .stop ∉ es := fun member => goesOn (List.mem_cons_of_mem e member)
    obtain ⟨showsNow, exportedNow⟩ := shows.step host now (datable e List.mem_cons_self)
    obtain ⟨showsLater, exportedLater⟩ := ih showsNow later
      fun e member => datable e (List.mem_cons_of_mem _ member)
    intro pipeline
    have parts : pipeline = meterAll (host.uplink number)
        (meterAll (host.uplink number) h (s.metered e))
        (meteredIn host (s.step host disk e).disk (s.step host disk e).server es) :=
      Pipeline.meterAll_append _ _ _ _
    rw [parts, exportedLater, exportedNow, List.append_assoc]
    exact ⟨showsLater, rfl⟩

/-- What a step of a server asks of the flow table, if the server is running and its buffer has a
given size. -/
def flowEvent? (bufferSize : Nat) : Event → Option FlowTable.Event
  | .datagram a =>
    (Envelope.frameAt? (a.data.take bufferSize) a.time).map fun seen =>
      .packet (Packet.decode seen.1 seen.2).1 a.now
  | .sweep now => some (.sweep now)
  | _ => none

theorem filterMap_metered (s : Server) (e : Event) :
    (s.metered e).filterMap Metered.flowEvent? =
      (flowEvent? s.config.server.bufferSize e).toList := by
  cases e with
  | datagram a =>
    rw [metered, filterMap_cons_toList, List.filterMap_nil, List.append_nil]
    rfl
  | sweep now => rfl
  | readStats => simp [metered, flowEvent?, Metered.flowEvent?, Function.comp_def]
  | start => rfl
  | stop => rfl
  | readTally => rfl

/-- What a history of a running server asks of the flow table, readings apart. -/
theorem filterMap_meteredIn {number : Nat} {disk : Disk} {s : Server} {h : Handled} (host : Host)
    (shows : Shows number (disk, s) h) {es : List Event} (goesOn : .stop ∉ es)
    (datable : ∀ e ∈ es, e.IsDatable) :
    (meteredIn host disk s es).filterMap Metered.flowEvent? =
      es.filterMap (flowEvent? s.config.server.bufferSize) := by
  induction es generalizing disk s h with
  | nil => rfl
  | cons e es ih =>
    have now : e ≠ .stop := fun stops => goesOn (stops ▸ List.mem_cons_self)
    have later : .stop ∉ es := fun member => goesOn (List.mem_cons_of_mem e member)
    obtain ⟨showsNow, -⟩ := shows.step host now (datable e List.mem_cons_self)
    rw [meteredIn, List.filterMap_append, filterMap_metered, filterMap_cons_toList,
      ih showsNow later fun e member => datable e (List.mem_cons_of_mem _ member), config_step]

/-! ## From a start to the next stop -/

/-- **A successful start begins with the sinks that were opened for it.** -/
theorem start_eq_ok {host : Host} {disk : Disk} {s : Server} {address : SocketAddr}
    (started : (s.start host disk).2 = .ok address) :
    let opened :=
      Opening.sinks host.routing (host.faults s.starts).sweeper s.config.output disk
    let now := (s.start host disk).1
    s.run = none ∧ opened.error = none ∧
      Shows s.starts (now.disk, now.server)
        { disk := opened.disk, tally := s.tally, pipeline := opened.pipeline } := by
  intro opened now
  rcases s.start_cases host disk with
    ⟨-, h⟩ | ⟨stopped, ⟨e, -, h⟩ | ⟨e, -, h⟩ | ⟨_, _, -, -, h⟩ | ⟨_, fine, -, h⟩⟩
  · rw [h] at started
    cases started
  · rw [h] at started
    cases started
  · rw [h] at started
    cases started
  · rw [h] at started
    cases started
  · refine ⟨stopped, fine, ?_⟩
    simp only [now, h]
    exact ⟨rfl, rfl, address, by rw [h] at started; cases started; rfl⟩

theorem exporter_openLog (settings : FileSettings) (o : Opening) :
    (o.openLog settings).pipeline.exporter = o.pipeline.exporter := by
  unfold Opening.openLog
  simp only
  split
  · rfl
  · split <;> rfl

theorem exporter_openArchive (settings : CaptureSettings) (o : Opening) :
    (o.openArchive settings).pipeline.exporter = o.pipeline.exporter := by
  unfold Opening.openArchive
  simp only
  split
  · rfl
  · split <;> rfl

/-- Sinks that could be opened have a new exporter exactly if the settings ask for one. -/
theorem exporter_sinks {routing : Netflow.Routing} {sweeper : Option Fault}
    {settings : OutputSettings} {disk : Disk}
    (opened : (Opening.sinks routing sweeper settings disk).error = none) :
    (settings.netflow.enabled = false →
        (Opening.sinks routing sweeper settings disk).pipeline.exporter = none) ∧
      (settings.netflow.enabled = true → ∃ collector,
        (Opening.sinks routing sweeper settings disk).pipeline.exporter =
          some (Exporter.fresh settings.netflow.idle settings.netflow.active collector).start) := by
  let files :=
    ({ disk } : Opening).openLog settings.file |>.andThen (·.openArchive settings.capture)
  have sinks : Opening.sinks routing sweeper settings disk =
      files.andThen (·.openExporter routing sweeper settings.netflow) := rfl
  have none_ : files.pipeline.exporter = none := by
    simp only [files, Opening.andThen]
    split <;> simp [exporter_openArchive, exporter_openLog]
  rw [sinks, Opening.andThen] at opened ⊢
  cases failed : files.error with
  | some e => simp [failed] at opened
  | none =>
    simp only [failed, Option.isSome_none, Bool.false_eq_true, if_false] at opened ⊢
    unfold Opening.openExporter at opened ⊢
    cases enabled : settings.netflow.enabled with
    | false => simp [none_]
    | true =>
      simp only [enabled, Bool.not_true, Bool.false_eq_true, if_false] at opened ⊢
      cases made : Exporter.open' routing settings.netflow with
      | error e => simp [made] at opened
      | ok x =>
        cases sweeper with
        | some fault => simp [made] at opened
        | none =>
          have new := Exporter.eq_fresh_of_open' made
          exact ⟨by simp, fun _ => ⟨x.sender.collector, congrArg (fun x => some x.start) new⟩⟩

/-- A stop ends the run and moves to the disk what its sinks held back. -/
theorem stop_of_run (host : Host) (disk : Disk) {s : Server} {run : Run}
    (running : s.run = some run) :
    (s.stop host disk).server = { s with run := none } ∧
      (s.stop host disk).disk =
        run.pipeline.heldBack.foldl (fun disk w => disk.append w.1 w.2) disk ∧
      (s.stop host disk).exported = (stopExporter host run).1 := by
  simp only [stop, running, Pipeline.disk_flush, and_self]

/-- Without an exporter a run exports nothing. -/
theorem exports_stop_of_none {number : Nat} {disk : Disk} {s : Server} {h : Handled} (host : Host)
    (shows : Shows number (disk, s) h) (absent : h.pipeline.exporter = none) {es : List Event}
    (goesOn : .stop ∉ es) (datable : ∀ e ∈ es, e.IsDatable) :
    exportsUntilStop host disk s es = [] := by
  let last := after host disk s es
  obtain ⟨⟨-, -, address, running⟩, exported⟩ := shows.run_after host goesOn datable
  obtain ⟨absentAtEnd, silent⟩ := Pipeline.exporter_meterAll_of_none (host.uplink number) absent
    (meteredIn host disk s es)
  have during : exports host disk s es = [] :=
    List.append_right_eq_self.mp (exported.symm.trans silent)
  rw [exportsUntilStop, during, (stop_of_run host last.1 running).2.2, stopExporter, absentAtEnd]
  rfl

/-- **All that a run exports.**  The records are those that its datagrams and sweeps, and the stop
at its end, take out of an empty table, under the numbers from zero. -/
theorem exports_stop {number : Nat} {disk : Disk} {s : Server} {h : Handled} {x : Exporter}
    (host : Host) (shows : Shows number (disk, s) h) (sink : h.pipeline.exporter = some x)
    (live : x.IsLive) {es : List Event} (goesOn : .stop ∉ es)
    (datable : ∀ e ∈ es, e.IsDatable) :
    exportsUntilStop host disk s es =
      Netflow.Sender.handovers (host.uplink number) x.sender.handed
        (x.table.run
          (es.filterMap (flowEvent? s.config.server.bufferSize) ++ [.drain])).2.flatten := by
  let last := after host disk s es
  let ms := meteredIn host disk s es
  let events := ms.flatMap Metered.exporterEvents
  obtain ⟨⟨-, -, address, running⟩, exported⟩ := shows.run_after host goesOn datable
  obtain ⟨sinkAtEnd, handed, -⟩ := Pipeline.exporter_meterAll (host.uplink number) sink ms
  have during : exports host disk s es = (x.run (host.uplink number) events).2.flatten :=
    List.append_cancel_left (exported.symm.trans handed)
  have atStop : (last.2.stop host last.1).exported =
      ((x.run (host.uplink number) events).1.stop (host.uplink number)).2 := by
    rw [(stop_of_run host last.1 running).2.2, stopExporter, sinkAtEnd]
  have flows : events.filterMap Exporter.flowEvent? =
      es.filterMap (flowEvent? s.config.server.bufferSize) :=
    (Pipeline.filterMap_flowEvent? ms).trans (filterMap_meteredIn host shows goesOn datable)
  rw [exportsUntilStop, ← flows, ← Exporter.handed_run_stop (host.uplink number) live
    (Pipeline.stop_notMem_exporterEvents ms), Exporter.run_append, List.flatten_append, during,
    atStop]
  exact congrArg (_ ++ ·) (List.append_nil _).symm

/-- A stop exports the open flows, each in its one record. -/
theorem exported_stop {number : Nat} {now : Disk × Server} {h : Handled} {x : Exporter}
    (host : Host) (shows : Shows number now h) (sink : h.pipeline.exporter = some x)
    (running : x.stopped = false) :
    (now.2.stop host now.1).exported =
      Netflow.Sender.handovers (host.uplink number) x.sender.handed x.table.records := by
  obtain ⟨-, -, address, running_⟩ := shows
  have drained : x.closedBy .stop = x.table.records := by
    rw [Exporter.closedBy, Exporter.tableEvents, running]
    exact List.append_nil _
  have handed := Exporter.handed_step (host.uplink number) x .stop
  rw [drained] at handed
  rw [(stop_of_run host now.1 running_).2.2, stopExporter, sink]
  exact handed

/-! ## What the counts tell of all runs -/

theorem greeted_readSource (s : Server) (source : ServerSource) :
    (s.readSource source).1.tally.greeted = s.tally.greeted := by
  unfold Server.readSource
  simp only
  split <;> rfl

theorem greeted_readAll (s : Server) (sources : List (String × ServerSource)) :
    (Registry.readAll Server.readSource s sources).1.tally.greeted = s.tally.greeted := by
  induction sources generalizing s with
  | nil => rfl
  | cons source rest ih => exact (ih _).trans (greeted_readSource s source.2)

/-- The datagram is counted, if it is handled. -/
theorem tally_receive (host : Host) (disk : Disk) (s : Server) (a : Arrival) :
    match s.handled? (.datagram a) with
    | none => (s.receive host disk a).server.tally = s.tally
    | some handled => ∃ h, (s.receive host disk a).server.tally =
        s.tally.plus (Pipeline.counted h handled) := by
  cases receives : s.isReceiving with
  | false => simp [handled?, receives, receive_of_not_isReceiving host disk receives]
  | true =>
    obtain ⟨run, running, receiving⟩ := exists_run_of_isReceiving receives
    simp only [handled?, receives, if_true, receive_of_run host disk running receiving]
    exact ⟨{ disk, tally := s.tally, pipeline := run.pipeline }, Pipeline.tally_step
      (host.uplink run.number) { disk, tally := s.tally, pipeline := run.pipeline } (s.cut a)⟩

/-- Whether a step reads counts. -/
def Event.isReading : Event → Bool
  | .readTally | .readStats => true
  | _ => false

/-- A step that reads no counts counts the datagram that it handles, and nothing else. -/
theorem tally_step (host : Host) (disk : Disk) (s : Server) {e : Event}
    (unread : e.isReading = false) :
    match s.handled? e with
    | none => (s.step host disk e).server.tally = s.tally
    | some handled => ∃ h, (s.step host disk e).server.tally =
        s.tally.plus (Pipeline.counted h handled) := by
  cases e with
  | start => exact (s.tally_start host disk).1
  | stop =>
    simp only [handled?, step, stop]
    split <;> rfl
  | datagram a => exact tally_receive host disk s a
  | sweep now =>
    simp only [handled?, step, sweep]
    split
    · rfl
    · split <;> rfl
  | readTally => cases unread
  | readStats => cases unread

theorem greeted_step (host : Host) (disk : Disk) (s : Server) (e : Event) :
    (s.step host disk e).server.tally.greeted = (s.tally.greeted || (s.handled? e).isSome) := by
  cases reads : e.isReading with
  | false =>
    have counted := tally_step host disk s reads
    cases handled : s.handled? e with
    | none =>
      rw [handled] at counted
      simp [counted]
    | some b =>
      rw [handled] at counted
      obtain ⟨h, counted⟩ := counted
      simp [counted, Tally.plus, Pipeline.counted]
  | true =>
    cases e with
    | readTally => simp [step, readTally, Tally.read, handled?]
    | readStats =>
      simp only [step, readStats, handled?, Option.isSome_none, Bool.or_false]
      split
      · rfl
      · split
        · rfl
        · exact greeted_readAll _ _
    | _ => cases reads

theorem received_step (host : Host) (disk : Disk) (s : Server) {e : Event}
    (unread : e.isReading = false) :
    let last := (s.step host disk e).server.tally
    let handled := (s.handled? e).toList
    last.received = s.tally.received + handled.length ∧
      last.receivedBytes = s.tally.receivedBytes + (handled.map (·.data.length)).sum := by
  have counted := tally_step host disk s unread
  cases handled : s.handled? e with
  | none =>
    rw [handled] at counted
    simp [counted]
  | some b =>
    rw [handled] at counted
    obtain ⟨h, counted⟩ := counted
    simp [counted, Tally.plus, Pipeline.counted]

/-- That a datagram was handled is not forgotten, in whatever run it was. -/
theorem greeted_after (host : Host) (disk : Disk) (s : Server) (es : List Event) :
    (after host disk s es).2.tally.greeted =
      (s.tally.greeted || !(handled host disk s es).isEmpty) := by
  induction es generalizing disk s with
  | nil => simp [after, handled]
  | cons e es ih =>
    rw [after, ih, greeted_step, handled]
    cases s.handled? e <;> simp

/-- The datagrams of all runs are counted together. -/
theorem received_after (host : Host) (disk : Disk) (s : Server) {es : List Event}
    (unread : ∀ e ∈ es, e.isReading = false) :
    let last := (after host disk s es).2.tally
    let datagrams := handled host disk s es
    last.received = s.tally.received + datagrams.length ∧
      last.receivedBytes = s.tally.receivedBytes + (datagrams.map (·.data.length)).sum := by
  induction es generalizing disk s with
  | nil => exact ⟨rfl, rfl⟩
  | cons e es ih =>
    obtain ⟨receivedNow, bytesNow⟩ := received_step host disk s (unread e List.mem_cons_self)
    obtain ⟨receivedLater, bytesLater⟩ := ih (s.step host disk e).disk (s.step host disk e).server
      fun e member => unread e (List.mem_cons_of_mem _ member)
    simp only [after, handled, List.length_append, List.map_append, List.sum_append] at *
    omega

/-! ## When a server is running -/

/-- A server that is running was started and has not been stopped since.  That start was a success,
if nothing was missing once all sinks were open. -/
theorem isRunning_after (host : Host) (disk : Disk) {s : Server} (stopped : s.run = none)
    {es : List Event} (running : (after host disk s es).2.isRunning) :
    ∃ earlier during, es = earlier ++ .start :: during ∧ .stop ∉ during ∧
      (after host disk s earlier).2.run = none ∧
      ((host.faults (after host disk s earlier).2.starts).late? = none → ∃ address,
        ((after host disk s earlier).2.start host (after host disk s earlier).1).2 =
          .ok address) := by
  induction es using List.reverseRecOn with
  | nil => simp [after, isRunning, stopped] at running
  | append_singleton es e ih =>
    rw [after_append] at running
    let now := after host disk s es
    have running : (now.2.step host now.1 e).server.isRunning := running
    -- Either the server was up before the last step, which is no stop, or that step is the start.
    cases before : now.2.run with
    | some run =>
      have wasUp : (after host disk s es).2.isRunning := isRunning_of_run before
      obtain ⟨earlier, during, rfl, noStop, rest⟩ := ih wasUp
      refine ⟨earlier, during ++ [e], by simp, ?_, rest⟩
      rw [List.mem_append, not_or, List.mem_singleton]
      refine ⟨noStop, ?_⟩
      rintro rfl
      rw [step, not_isRunning_stop] at running
      cases running
    | none =>
      have start_ : e = .start := by
        by_contra noStart
        have same : (now.2.step host now.1 e).server.run = now.2.run := by
          by_cases reading : e = .readTally
          · rw [reading]
            rfl
          · rw [(step_of_run_eq_none host now.1 before noStart reading).2.1]
        rw [isRunning, same, before] at running
        cases running
      subst start_
      refine ⟨es, [], rfl, List.not_mem_nil, before, fun noLate => ?_⟩
      cases started : (now.2.start host now.1).2 with
      | ok address => exact ⟨address, rfl⟩
      | error error =>
        rw [step, isRunning, run_start_of_error before started noLate] at running
        cases running

/-- The datagram that arrives with a step. -/
def Event.arrival? : Event → Option Arrival
  | .datagram a => some a
  | _ => none

/-- While a server is running it handles what arrives. -/
theorem handled_eq {number : Nat} {disk : Disk} {s : Server} {h : Handled} (host : Host)
    (shows : Shows number (disk, s) h) {es : List Event} (goesOn : .stop ∉ es)
    (datable : ∀ e ∈ es, e.IsDatable) :
    handled host disk s es = (es.filterMap Event.arrival?).map s.cut := by
  induction es generalizing disk s h with
  | nil => rfl
  | cons e es ih =>
    have now : e ≠ .stop := fun stops => goesOn (stops ▸ List.mem_cons_self)
    have later : .stop ∉ es := fun member => goesOn (List.mem_cons_of_mem e member)
    obtain ⟨showsNow, -⟩ := shows.step host now (datable e List.mem_cons_self)
    have own : s.handled? e = e.arrival?.map s.cut := by
      obtain ⟨-, -, address, running⟩ := shows
      cases e with
      | datagram a => exact if_pos (by rw [isReceiving, show s.run = _ from running]; rfl)
      | _ => rfl
    have cuts : (s.step host disk e).server.cut = s.cut := by
      funext a
      rw [cut, config_step, cut]
    rw [handled, own, ih showsNow later fun e member => datable e (List.mem_cons_of_mem _ member),
      cuts, filterMap_cons_toList, List.map_append]
    cases e.arrival? <;> rfl

/-! ## Runs do not touch each other -/

/-- A start that is refused because the server is running. -/
structure RefusesStart (host : Host) (now : Disk × Server) : Prop where
  answer : (now.2.start host now.1).2 = .error .alreadyStarted
  disk : (now.2.start host now.1).1.disk = now.1
  server : (now.2.start host now.1).1.server = now.2
  exported : (now.2.start host now.1).1.exported = []

/-- A step that changes nothing. -/
structure IsIdle (host : Host) (now : Disk × Server) (e : Event) : Prop where
  disk : (now.2.step host now.1 e).disk = now.1
  server : (now.2.step host now.1 e).server = now.2
  exported : (now.2.step host now.1 e).exported = []

/-- What the exporter of a run exports, `x` when it is opened and `y` when it is stopped. -/
structure ExportsFlows (host : Host) (config : Config) (begun : Disk × Server)
    (during : List Event) (atStart atStop : Run) (x y : Exporter) : Prop where
  opened : atStart.pipeline.exporter = some x
  empty : x.table = .empty config.output.netflow.idle config.output.netflow.active
  unnumbered : x.sender.handed = 0
  stopped : atStop.pipeline.exporter = some y
  distinct : y.table.Distinct
  /-- The stop exports each open flow in its one record. -/
  remaining : ((after host begun.1 begun.2 during).2.stop host
    (after host begun.1 begun.2 during).1).exported.map (·.record) = y.table.records
  /-- Nothing else than what the datagrams, the sweeps and the stop of this run take out of an empty
  table is exported, under the numbers from zero. -/
  all : exportsUntilStop host begun.1 begun.2 during =
    Netflow.Sender.handovers (host.uplink atStart.number) 0
      ((FlowTable.empty config.output.netflow.idle config.output.netflow.active).run
        (during.filterMap (flowEvent? config.server.bufferSize) ++ [.drain])).2.flatten

/-- A run from a successful start, which leaves `begun`, to the stop after a history. -/
structure RunsUntilStop (host : Host) (config : Config) (begun : Disk × Server)
    (during : List Event) (atStart atStop : Run) : Prop where
  first : begun.2.run = some atStart
  last : (after host begun.1 begun.2 during).2.run = some atStop
  /-- All that arrives is handled, as far as it fits into the buffer. -/
  handled : handled host begun.1 begun.2 during = (during.filterMap Event.arrival?).map
    fun a => { a with data := a.data.take config.server.bufferSize }
  /-- The stop ends the run and nothing else. -/
  server : ((after host begun.1 begun.2 during).2.stop host
    (after host begun.1 begun.2 during).1).server =
      { (after host begun.1 begun.2 during).2 with run := none }
  /-- The stop moves to the disk what the sinks held back. -/
  disk : ((after host begun.1 begun.2 during).2.stop host
    (after host begun.1 begun.2 during).1).disk =
      atStop.pipeline.heldBack.foldl (fun disk w => disk.append w.1 w.2)
        (after host begun.1 begun.2 during).1
  silent : config.output.netflow.enabled = false →
    exportsUntilStop host begun.1 begun.2 during = []
  exports : config.output.netflow.enabled = true →
    ∃ x y, ExportsFlows host config begun during atStart atStop x y

/-- What can be told of a server after a history `before`. -/
structure RunsApart (host : Host) (disk : Disk) (config : Config) (before : List Event)
    (now : Disk × Server) : Prop where
  /-- A server that is running does not start again. -/
  refuses : now.2.isRunning → RefusesStart host now
  /-- It was started and has not been stopped since. -/
  since : now.2.isRunning → ∃ earlier during, before = earlier ++ .start :: during ∧
    .stop ∉ during ∧ (after host disk { config } earlier).2.run = none ∧
    ((host.faults (after host disk { config } earlier).2.starts).late? = none → ∃ address,
      ((after host disk { config } earlier).2.start host (after host disk { config } earlier).1).2 =
        .ok address)
  /-- A stopped server is changed by nothing but a start and a reading of its counts. -/
  idle : now.2.run = none → ∀ e, e ≠ .start → e ≠ .readTally → IsIdle host now e
  /-- A start that fails leaves it stopped, if nothing was missing once all sinks were open. -/
  fails : now.2.run = none → ∀ error, (now.2.start host now.1).2 = .error error →
    (host.faults now.2.starts).late? = none → (now.2.start host now.1).1.server.run = none
  /-- A successful start begins a run that goes on until the next stop. -/
  runs : ∀ address during, (now.2.start host now.1).2 = .ok address → .stop ∉ during →
    (∀ e ∈ during, e.IsDatable) → ∃ atStart atStop,
      RunsUntilStop host config
        ((now.2.start host now.1).1.disk, (now.2.start host now.1).1.server) during atStart atStop
  /-- The counts do not know of runs. -/
  tally_start : (now.2.start host now.1).1.server.tally = now.2.tally
  tally_stop : (now.2.stop host now.1).server.tally = now.2.tally
  greeted : now.2.tally.greeted = !(Server.handled host disk { config } before).isEmpty
  received : (∀ e ∈ before, e.isReading = false) →
    now.2.tally.received = (Server.handled host disk { config } before).length ∧
      now.2.tally.receivedBytes =
        ((Server.handled host disk { config } before).map (·.data.length)).sum

/-- What a successful start begins goes on until the next stop. -/
theorem exists_runsUntilStop {host : Host} {disk : Disk} {s : Server} {address : SocketAddr}
    (opens : (s.start host disk).2 = .ok address) {during : List Event} (goesOn : .stop ∉ during)
    (datable : ∀ e ∈ during, e.IsDatable) :
    ∃ atStart atStop, RunsUntilStop host s.config
      ((s.start host disk).1.disk, (s.start host disk).1.server) during atStart atStop := by
  let started := (s.start host disk).1
  obtain ⟨-, noError, shows⟩ := start_eq_ok opens
  obtain ⟨disabled, enabled⟩ := exporter_sinks noError
  let faults := host.faults s.starts
  let opened := Opening.sinks host.routing faults.sweeper s.config.output disk
  let h : Handled := { disk := opened.disk, tally := s.tally, pipeline := opened.pipeline }
  have shows : Shows s.starts (started.disk, started.server) h := shows
  obtain ⟨-, -, _, running⟩ := id shows
  obtain ⟨shown, -⟩ := shows.run_after host goesOn datable
  obtain ⟨-, -, _, runningAtEnd⟩ := id shown
  obtain ⟨server, disk_, -⟩ :=
    stop_of_run host (after host started.disk started.server during).1 runningAtEnd
  have same : started.server.config = s.config := config_step host disk s .start
  refine ⟨_, _, running, runningAtEnd, ?_, server, disk_, fun off => ?_, fun on => ?_⟩
  · have cuts : started.server.cut =
        fun a => { a with data := a.data.take s.config.server.bufferSize } := by
      funext a
      rw [cut, same]
    exact (handled_eq host shows goesOn datable).trans (congrArg (List.map · _) cuts)
  · exact exports_stop_of_none host shows (disabled off) goesOn datable
  · obtain ⟨collector, sink⟩ := enabled on
    have sink : h.pipeline.exporter = _ := sink
    obtain ⟨sinkAtEnd, -, -⟩ := Pipeline.exporter_meterAll (host.uplink s.starts) sink
      (meteredIn host started.disk started.server during)
    have all := exports_stop host shows sink ⟨rfl, rfl⟩ goesOn datable
    rw [same] at all
    refine ⟨_, _, sink, rfl, rfl, sinkAtEnd, ?_, ?_, all⟩
    · rw [Exporter.table_run]
      exact FlowTable.distinct_run (FlowTable.distinct_empty _ _) _
    · have left := exported_stop host shown sinkAtEnd
        (Exporter.stopped_run _ rfl (Pipeline.stop_notMem_exporterEvents _))
      exact (congrArg _ left).trans (Netflow.Sender.record_handovers _ _ _)

/-- **A server runs from a start to the next stop.**  Take any settings, whatever the host answers,
and any history of starts, stops, datagrams, sweeps and readings.

A server that is running has been started and not stopped since; another start answers so and
changes nothing.  A server that is not running is changed by nothing but a start and a reading of
its counts, and a start that fails leaves it as it was, unless the host fails it once all sinks are
open.

After a successful start, and until the next stop, as long as the calendar can show when datagrams
arrive, the server is running and handles all that arrives.  The stop ends the run and moves to the
disk what the sinks held back.  The exporter of the run begins with an empty table and the number
zero; the stop exports each open flow in its one record; and all that the run exports is what its
own datagrams and sweeps, and the stop, take out of that table.

The counts do not know of runs: neither start nor stop changes them, and they tell of all datagrams
that were handled, in whatever run. -/
theorem runs_are_separate (host : Host) (disk : Disk) (config : Config) (before : List Event) :
    RunsApart host disk config before (after host disk { config } before) := by
  let now := after host disk { config } before
  have settings : now.2.config = config := config_after host disk { config } before
  refine ⟨fun running => ?_, isRunning_after host disk rfl, fun stopped e noStart noReading => ?_,
    fun stopped error => run_start_of_error stopped, fun address during opens goesOn datable => ?_,
    (now.2.tally_start host now.1).1, ?_, ?_, fun unread => ?_⟩
  · obtain ⟨server, disk_, answer⟩ := start_of_isRunning host now.1 running
    exact ⟨answer, disk_, server, (now.2.tally_start host now.1).2⟩
  · obtain ⟨disk_, server, exported⟩ :=
      step_of_run_eq_none host now.1 stopped noStart noReading
    exact ⟨disk_, server, exported⟩
  · have run := exists_runsUntilStop opens goesOn datable
    rw [settings] at run
    exact run
  · simp only [stop]
    split <;> rfl
  · simpa using greeted_after host disk { config } before
  · simpa using received_after host disk { config } unread

/-- One datagram between a start and a stop: the server does not start a second time, and its one
flow is exported under the number zero. -/
theorem runs_are_separate_one_datagram :
    let frame : Bytes := [2, 0, 0, 0, 0, 2, 2, 0, 0, 0, 0, 1, 8, 0] ++
      [69, 0, 0, 28, 0, 0, 0, 0, 64, 17, 0, 0, 10, 0, 0, 1, 10, 0, 0, 2] ++
      [19, 136, 0, 53, 0, 8, 0, 0]
    let a : Arrival :=
      { data := [1, 0, 0, 1, 1] ++ frame
        source := { ip := .v4 default, port := 37008 }
        time := .zero
        now := .zero }
    let host : Host := { uplink := fun _ => { clock := fun _ => .zero } }
    let config : Config := { output := { netflow := { enabled := true } } }
    let opened := (({ config } : Server).start host {}).1
    let last := after host opened.disk opened.server [.datagram a]
    let exported := exportsUntilStop host opened.disk opened.server [.datagram a]
    (({ config } : Server).step host {} .stop).server = { config } ∧
      (last.2.start host last.1).2 = .error .alreadyStarted ∧
      exported.map (fun h => (h.record.packets.toNat, h.sequence.toNat)) = [(1, 0)] := by
  intro frame a host config opened last exported
  have apart := runs_are_separate host {} config []
  obtain ⟨first, run, runs⟩ := apart.runs { ip := .v4 ⟨0, 0, 0, 0⟩, port := 37008 } [.datagram a]
    (by simp only [host, config, after]; rfl) (by simp) (by simp [Event.IsDatable, a]; decide)
  obtain ⟨x, y, flows⟩ := runs.exports rfl
  have again := runs_are_separate host {} config [.start, .datagram a]
  have up : (after host {} { config } [.start, .datagram a]).2.isRunning :=
    isRunning_of_run runs.last
  have seen : Envelope.frameAt? (a.data.take 65536) a.time = some (frame, .zero) := by
    simp [Envelope.frameAt?, Envelope.decode, Envelope.decodeTags, a, frame, TagKind.ofNumber,
      Envelope.supportedVersion, Envelope.seenAt]
  have events : [Event.datagram a].filterMap (flowEvent? 65536) =
      [.packet (Packet.decode frame .zero).1 .zero] := by
    rw [filterMap_cons_toList, flowEvent?, seen]
    rfl
  refine ⟨(apart.idle rfl .stop (by simp) (by simp)).server, (again.refuses up).answer, ?_⟩
  have handed : exported = _ := flows.all
  rw [handed, events]
  rfl

end Server
end Wiretap
