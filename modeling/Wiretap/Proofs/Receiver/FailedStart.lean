import Wiretap.Proofs.Capture.Opening
import Wiretap.Proofs.Receiver.LifeCycle

/-!
# Starts that fail

What is left on the disk by a start that answers with an error, and where the captures are after any
number of them.

## Main definitions

* `Server.LogOpened` - the disk on which the archive is opened, and the log.
* `Server.givenUp` - the disk after sinks were given up.
* `Server.Captures` - captures that are files of their own.
* `Server.LeavesFiles`, `Server.LeavesCaptures` - what one failed start leaves, and what many leave.

## Main statements

* `Server.givenUp_sinks` - all that sinks can leave on the disk when they are given up.
* `Server.spares_start` - a failed start touches the captures only.
* `Server.captures_start` - a failed start moves the captures up by one or leaves them alone.
* `Server.captures_starts` - any number of failed starts.
* `Server.isReceiving_start_of_error`, `Server.isRunning_start_of_late` - nobody receives after a
  failed start, but the server is not always stopped.
* `Server.failed_starts_move_captures` - all of this together.
* `Server.start_loses_capture` - a failed start that loses the last backup.

## Design notes

The log is opened first, then the archive, then the exporter, and each has an effect before the next
can fail.  The log makes its file and changes none that is there.  The archive moves the captures up
to make room for a new one, and keeps this even if it or the exporter fails afterwards, or the host
fails the start once all of them are open.  In the last case the server is left running, so what is
said of stopped servers has a premise that excludes it.

A log whose file is one of the captures would change what they hold, so that is excluded where their
contents are told.
-/

namespace Wiretap

open Disk (Spares Edits IsTidy Admits)

namespace Server

open Archive (IsPlace Holds file slot renewed rotated)

variable {disk d : Disk} {settings : OutputSettings} {path : Path} {folder : Place}
  {held : Nat → Option Bytes}

/-! ## What a failed start does to the disk -/

/-- The log that is opened at the start, with the disk on which the archive is opened then. -/
inductive LogOpened (settings : FileSettings) (disk : Disk) : Disk → Option MetadataLog → Prop
  | disabled (off : settings.enabled = false) : LogOpened settings disk disk none
  | opened {d : Disk} {log : MetadataLog} (on : settings.enabled = true)
      (result : MetadataLog.open' disk (.ofString settings.path) settings.format = .ok (d, log)) :
      LogOpened settings disk d (some log)

/-- The disk after sinks were given up. -/
def givenUp (o : Opening) : Disk := (o.pipeline.flush o.disk).1

theorem openLog_cases (settings : FileSettings) (disk : Disk) :
    (∃ fault, (Opening.openLog settings { disk }).disk = disk ∧
        (Opening.openLog settings { disk }).pipeline = {} ∧
        (Opening.openLog settings { disk }).error =
          some (.output (.ofString settings.path) fault)) ∨
      ∃ d log, LogOpened settings disk d log ∧
        (Opening.openLog settings { disk }).disk = d ∧
        (Opening.openLog settings { disk }).pipeline = { log } ∧
        (Opening.openLog settings { disk }).error = none := by
  unfold Opening.openLog
  cases on : settings.enabled with
  | false => exact Or.inr ⟨disk, none, .disabled on, rfl, rfl, rfl⟩
  | true =>
    simp only [Bool.not_true, Bool.false_eq_true, if_false]
    cases result : MetadataLog.open' disk (.ofString settings.path) settings.format with
    | error fault => exact Or.inl ⟨fault, rfl, rfl, rfl⟩
    | ok opened => exact Or.inr ⟨opened.1, some opened.2, .opened on result, rfl, rfl, rfl⟩

theorem openArchive_cases (settings : CaptureSettings) {o : Opening} (fine : o.error = none) :
    let path := Path.ofString settings.path
    let result := Archive.open' o.disk path settings.maxSize settings.maxBackups
    let next := o.openArchive settings
    (settings.enabled = false ∧ next.disk = o.disk ∧ next.pipeline = o.pipeline ∧
        next.error = none) ∨
      (settings.enabled = true ∧ ∃ fault, result.2 = .error fault ∧ next.disk = result.1 ∧
        next.pipeline = o.pipeline ∧ next.error = some (.output path fault)) ∨
      (settings.enabled = true ∧ ∃ a, result.2 = .ok a ∧ next.disk = result.1 ∧
        next.pipeline = { o.pipeline with archive := some a } ∧ next.error = none) := by
  intro path result next
  unfold next Opening.openArchive
  cases on : settings.enabled with
  | false => exact Or.inl ⟨rfl, rfl, rfl, fine⟩
  | true =>
    simp only [Bool.not_true, Bool.false_eq_true, if_false]
    rcases opened : result with ⟨d, fault | a⟩
    · rw [show Archive.open' o.disk (.ofString settings.path) settings.maxSize
        settings.maxBackups = (d, .error fault) from opened]
      exact Or.inr (Or.inl ⟨trivial, fault, rfl, rfl, rfl, rfl⟩)
    · rw [show Archive.open' o.disk (.ofString settings.path) settings.maxSize
        settings.maxBackups = (d, .ok a) from opened]
      exact Or.inr (Or.inr ⟨trivial, a, rfl, rfl, rfl, fine⟩)

/-- The exporter makes no difference to what is on the disk when the sinks are given up. -/
theorem givenUp_openExporter (routing : Netflow.Routing) (sweeper : Option Fault)
    (settings : NetflowSettings) (o : Opening) :
    givenUp (o.openExporter routing sweeper settings) = (o.pipeline.flush o.disk).1 := by
  unfold Opening.openExporter
  simp only
  split
  · rfl
  · split
    · rfl
    · split
      · rfl
      · rw [givenUp, Pipeline.disk_flush, Pipeline.disk_flush]
        rfl

theorem error_openExporter {routing : Netflow.Routing} {sweeper : Option Fault}
    {settings : NetflowSettings} {o : Opening} (fine : o.error = none) :
    (o.openExporter routing sweeper settings).error = none ∨
      ∃ error, (o.openExporter routing sweeper settings).error = some (.netflow error) := by
  unfold Opening.openExporter
  simp only
  split
  · exact Or.inl fine
  · split
    · exact Or.inr ⟨_, rfl⟩
    · split
      · exact Or.inr ⟨_, rfl⟩
      · exact Or.inl fine

theorem andThen_of_none {o : Opening} (fine : o.error = none) (next : Opening → Opening) :
    o.andThen next = next o := by
  rw [Opening.andThen, fine]
  rfl

theorem andThen_of_some {o : Opening} {e : ServerError} (failed : o.error = some e)
    (next : Opening → Opening) : o.andThen next = o := by
  rw [Opening.andThen, failed]
  rfl

/-- **All that opening sinks can leave on the disk when they are given up.**  The log may not open,
and nothing has happened; the archive may not open, after the log was opened; and otherwise both
were opened, whatever becomes of the exporter. -/
theorem givenUp_sinks (routing : Netflow.Routing) (sweeper : Option Fault)
    (settings : OutputSettings) (disk : Disk) :
    let path := Path.ofString settings.capture.path
    let result (d : Disk) :=
      Archive.open' d path settings.capture.maxSize settings.capture.maxBackups
    let opened := Opening.sinks routing sweeper settings disk
    (∃ fault, opened.error = some (.output (.ofString settings.file.path) fault) ∧
        givenUp opened = disk) ∨
      ∃ d log, LogOpened settings.file disk d log ∧
        ((settings.capture.enabled = true ∧ ∃ fault, (result d).2 = .error fault ∧
            opened.error = some (.output path fault) ∧
            givenUp opened = (Pipeline.flush (result d).1 { log }).1) ∨
          (opened.error = none ∨ ∃ error, opened.error = some (.netflow error)) ∧
            ((settings.capture.enabled = false ∧
                givenUp opened = (Pipeline.flush d { log }).1) ∨
              (settings.capture.enabled = true ∧ ∃ a, (result d).2 = .ok a ∧
                givenUp opened =
                  (Pipeline.flush (result d).1 { log, archive := some a }).1))) := by
  intro path result opened
  unfold opened
  rw [Opening.sinks]
  rcases openLog_cases settings.file disk with ⟨fault, disk_, pipeline, error⟩ |
    ⟨d, log, logged, disk_, pipeline, error⟩
  · rw [andThen_of_some error, andThen_of_some error]
    refine Or.inl ⟨fault, error, ?_⟩
    rw [givenUp, pipeline, disk_]
    rfl
  · rw [andThen_of_none error]
    refine Or.inr ⟨d, log, logged, ?_⟩
    have archived := openArchive_cases settings.capture error
    simp only [disk_, pipeline] at archived
    rcases archived with ⟨off, disk', pipeline', error'⟩ |
      ⟨on, fault, answer, disk', pipeline', error'⟩ | ⟨on, a, answer, disk', pipeline', error'⟩
    · rw [andThen_of_none error', givenUp_openExporter, disk', pipeline']
      exact Or.inr ⟨error_openExporter error', Or.inl ⟨off, rfl⟩⟩
    · rw [andThen_of_some error', givenUp, disk', pipeline']
      exact Or.inl ⟨on, fault, answer, error', rfl⟩
    · rw [andThen_of_none error', givenUp_openExporter, disk', pipeline']
      exact Or.inr ⟨error_openExporter error', Or.inr ⟨on, a, answer, rfl⟩⟩

/-- Opening a log makes its file if it is missing, and nothing else. -/
theorem LogOpened.edits {settings : FileSettings} {log : Option MetadataLog}
    (opened : LogOpened settings disk d log) (touched : Place → Prop) :
    Edits touched disk d ∧ ∀ l, log = some l → l.heldBack = [] ∧ settings.enabled = true ∧
      l.place = Disk.spot disk.home (.ofString settings.path) := by
  cases opened with
  | disabled off => exact ⟨.refl touched disk, fun l isSome => by cases isSome⟩
  | opened on result =>
    unfold MetadataLog.open' at result
    split at result
    · cases result
    · next d place file =>
      cases result
      have both : Edits touched disk d ∧ disk.locate (.ofString settings.path) = .ok place :=
        Disk.edits_openFile (fun place _ _ isTruncate => by cases isTruncate) file
      refine ⟨both.1, ?_⟩
      rintro l ⟨⟩
      exact ⟨rfl, on, Disk.eq_spot_of_locate both.2⟩

/-- A flush of a pipeline whose log holds nothing back touches the file of the archive. -/
theorem edits_flush {touched : Place → Prop} {p : Pipeline}
    (silent : ∀ l, p.log = some l → l.heldBack = [])
    (ours : ∀ a, p.archive = some a → touched a.place) :
    Edits touched disk (p.flush disk).1 := by
  rw [Pipeline.disk_flush, Pipeline.heldBack]
  have logged : Edits touched disk ((p.log.toList.map fun log => (log.place, log.heldBack)).foldl
      (fun disk w => disk.append w.1 w.2) disk) := by
    cases here : p.log with
    | none => exact .refl touched disk
    | some l => exact Disk.edits_append _ (Or.inl (silent l here))
  rw [List.foldl_append]
  refine logged.trans ?_
  cases here : p.archive with
  | none => exact .refl touched _
  | some a => exact Disk.edits_append _ (Or.inr (ours a here))

/-- Sinks that are given up have touched the captures only, and these only if there was something
to capture. -/
theorem spares_givenUp (routing : Netflow.Routing) (sweeper : Option Fault)
    (settings : OutputSettings) (disk : Disk) :
    Spares (fun place => settings.capture.enabled = true ∧
        IsPlace disk.home (.ofString settings.capture.path) settings.capture.maxBackups place)
      disk (givenUp (Opening.sinks routing sweeper settings disk)) := by
  let touched (place : Place) : Prop := settings.capture.enabled = true ∧
    IsPlace disk.home (.ofString settings.capture.path) settings.capture.maxBackups place
  change Spares touched _ _
  rcases givenUp_sinks routing sweeper settings disk with ⟨fault, -, last⟩ | ⟨d, log, opened, rest⟩
  · rw [last]
    exact .refl touched disk
  · obtain ⟨first, silent⟩ := opened.edits touched
    have archived := Archive.spares_open' d (.ofString settings.capture.path)
      settings.capture.maxSize settings.capture.maxBackups
    rw [first.home] at archived
    have ours (on : settings.capture.enabled = true) (place : Place)
        (here : IsPlace disk.home (.ofString settings.capture.path) settings.capture.maxBackups
          place) : touched place := ⟨on, here⟩
    rcases rest with ⟨on, fault, -, -, last⟩ | ⟨-, ⟨off, last⟩ | ⟨on, a, answer, last⟩⟩
    · rw [last]
      exact (first.toSpares.trans (archived.1.mono (ours on))).trans
        (edits_flush (fun l isSome => (silent l isSome).1) fun a none_ => by cases none_).toSpares
    · rw [last]
      exact first.toSpares.trans
        (edits_flush (fun l isSome => (silent l isSome).1) fun a none_ => by cases none_).toSpares
    · rw [last]
      refine (first.toSpares.trans (archived.1.mono (ours on))).trans
        (edits_flush (fun l isSome => (silent l isSome).1) ?_).toSpares
      rintro a ⟨⟩
      exact ours on _ (archived.2 a answer)

/-- **A failed start touches the captures only**, and these only if it was to capture. -/
theorem spares_start {host : Host} {s : Server} {e : ServerError}
    (failed : (s.start host disk).2 = .error e) :
    let capture := s.config.output.capture
    Spares (fun place => capture.enabled = true ∧
        IsPlace disk.home (.ofString capture.path) capture.maxBackups place)
      disk (s.start host disk).1.disk := by
  intro capture
  rcases s.start_cases host disk with
    ⟨-, h⟩ | ⟨-, ⟨_, -, h⟩ | ⟨_, -, h⟩ | ⟨_, _, -, -, h⟩ | ⟨_, -, -, h⟩⟩
  · exact h ▸ .refl _ disk
  · exact h ▸ .refl _ disk
  · exact h ▸ spares_givenUp host.routing _ s.config.output disk
  · exact h ▸ spares_givenUp host.routing _ s.config.output disk
  · rw [h] at failed
    cases failed

/-! ## What a failed start does to the captures -/

/-- Opening a log leaves the files of the archive alone, unless one of them is the log. -/
theorem LogOpened.holds {settings : FileSettings} {log : Option MetadataLog}
    (opened : LogOpened settings disk d log) (h : Holds disk path folder held)
    (sound : disk.IsSound)
    (apart : settings.enabled = true →
      ∀ i, Disk.spot disk.home (.ofString settings.path) ≠ slot path folder i) :
    Holds d path folder held ∧ d.IsSound := by
  obtain ⟨edits, places⟩ := opened.edits fun _ => False
  have soundNow := edits.isSound sound
  refine ⟨h.of_slots soundNow edits.home (fun place here => ?_) fun i => ?_, soundNow⟩
  · exact edits.node? place _ (fun _ never => never.elim) here
  · cases opened with
    | disabled off => rfl
    | @opened _ log on result =>
      have elsewhere := apart on i
      rw [← (places log rfl).2.2] at elsewhere
      unfold MetadataLog.open' at result
      split at result
      · cases result
      · next file =>
        cases result
        exact (Disk.of_openFile_extend file).2.2.2.2.2 _ elsewhere.symm

/-- A new archive that is given up leaves a file with a header only. -/
theorem holds_flush {log : Option MetadataLog} {a : Archive} {backups : Nat}
    (h : Holds d path folder (renewed backups held)) (sound : d.IsSound)
    (names : ∀ i ≤ backups, Admits (file path i).leaf)
    (silent : ∀ l, log = some l → l.heldBack = []) (place : a.place = slot path folder 0)
    (header : a.heldBack = Capture.fileHeader) :
    let last := (Pipeline.flush d { log, archive := some a }).1
    Holds last path folder (rotated backups held) ∧ last.IsSound := by
  intro last
  have own : IsPlace d.home path backups a.place :=
    Archive.isPlace_of_locate (i := 0) rfl (Nat.zero_le _)
      (place ▸ h.locate_of_admits (names 0 (Nat.zero_le _)))
  have edits : Edits (IsPlace d.home path backups) d last :=
    edits_flush silent fun a' isThis => by
      cases isThis
      exact own
  refine ⟨?_, (edits.tidy (h.isTidy sound names)).sound⟩
  have logged : Holds ((log.toList.map fun log => (log.place, log.heldBack)).foldl
      (fun disk w => disk.append w.1 w.2) d) path folder (renewed backups held) := by
    cases log with
    | none => exact h
    | some l =>
      change Holds (d.append l.place l.heldBack) _ _ _
      rw [silent l rfl]
      exact h.append_nil sound l.place
  have empty : renewed backups held 0 = some [] := rfl
  have written := logged.append empty a.heldBack
  have same : Function.update (renewed backups held) 0 (some ([] ++ a.heldBack)) =
      rotated backups held := by
    rw [header]
    funext i
    cases i with
    | zero => rfl
    | succ i => rfl
  rw [same, ← place] at written
  rw [show last = _ from Pipeline.disk_flush _ _, Pipeline.heldBack, List.foldl_append]
  exact written

/-- Captures that are files of their own: the host takes their names, and the log is none of
them. -/
structure Captures (settings : OutputSettings) (folder : Place) (held : Nat → Option Bytes)
    (disk : Disk) : Prop where
  enabled : settings.capture.enabled = true
  sound : disk.IsSound
  holds : Holds disk (.ofString settings.capture.path) folder held
  admits : ∀ i ≤ settings.capture.maxBackups,
    Admits (file (.ofString settings.capture.path) i).leaf
  apart : settings.file.enabled = true → ∀ i,
    Disk.spot disk.home (.ofString settings.file.path) ≠
      slot (.ofString settings.capture.path) folder i

/-- Sinks that are given up have left such captures alone or moved them up by one.  Only if the log
does not open are they left alone. -/
theorem Captures.givenUp {disk : Disk} (h : Captures settings folder held disk)
    (routing : Netflow.Routing) (sweeper : Option Fault) :
    let opened := Opening.sinks routing sweeper settings disk
    (Captures settings folder held (Server.givenUp opened) ∧
        ∃ fault, opened.error = some (.output (.ofString settings.file.path) fault)) ∨
      Captures settings folder (rotated settings.capture.maxBackups held)
        (Server.givenUp opened) := by
  intro opened
  rcases givenUp_sinks routing sweeper settings disk with
    ⟨fault, failed, same⟩ | ⟨d, log, logged, rest⟩
  · exact Or.inl ⟨same ▸ h, fault, failed⟩
  · -- The archive opens where its files are.
    obtain ⟨holds, sound⟩ := logged.holds h.holds h.sound h.apart
    have silent := (logged.edits fun _ => False).2
    obtain ⟨d', a, opens, -, sound', holds', place, header⟩ :=
      holds.open' sound h.admits settings.capture.maxSize
    have home := (spares_givenUp routing sweeper settings disk).home
    simp only [opens] at rest
    rcases rest with ⟨-, fault, wrong, -⟩ | ⟨-, ⟨off, -⟩ | ⟨-, b, answer, flushed⟩⟩
    · cases wrong
    · rw [h.enabled] at off
      cases off
    · cases answer
      obtain ⟨moved, soundNow⟩ := holds_flush holds' sound' h.admits
        (fun l isSome => (silent l isSome).1) place header
      rw [← flushed] at moved soundNow
      exact Or.inr ⟨h.enabled, soundNow, moved, h.admits, home ▸ h.apart⟩

/-- **A failed start moves the captures up by one or leaves them alone.**  If it fails for the
exporter, it moves them. -/
theorem captures_start {host : Host} {disk : Disk} {s : Server} {e : ServerError}
    (failed : (s.start host disk).2 = .error e)
    (h : Captures s.config.output folder held disk) :
    let last := (s.start host disk).1.disk
    (Captures s.config.output folder held last ∧ ∀ error, e ≠ .netflow error) ∨
      Captures s.config.output folder (rotated s.config.output.capture.maxBackups held) last := by
  rcases s.start_cases host disk with
    ⟨-, start_⟩ | ⟨-, ⟨_, why, start_⟩ | ⟨_, wrong, start_⟩ | ⟨_, _, fine, -, start_⟩ |
      ⟨_, -, -, start_⟩⟩
  all_goals
    rw [start_] at failed ⊢
    cases failed
  · exact Or.inl ⟨h, by simp⟩
  · exact Or.inl ⟨h, by rcases why with rfl | ⟨fault, rfl⟩ <;> simp⟩
  · rcases h.givenUp host.routing (host.faults s.starts).sweeper with ⟨same, fault, log⟩ | moved
    · rw [wrong] at log
      cases log
      exact Or.inl ⟨same, by simp⟩
    · exact Or.inr moved
  · rcases h.givenUp host.routing (host.faults s.starts).sweeper with ⟨-, fault, log⟩ | moved
    · rw [fine] at log
      cases log
    · exact Or.inr moved

/-- Failed starts move the captures up by as many numbers as there were starts, or fewer. -/
theorem captures_starts {host : Host} {disk : Disk} {s : Server}
    (h : Captures s.config.output folder held disk) {n : Nat}
    (fail : ∀ m < n, ∃ e, ((after host disk s (List.replicate m .start)).2.start host
      (after host disk s (List.replicate m .start)).1).2 = .error e) :
    ∃ m ≤ n, Captures s.config.output folder
      ((rotated s.config.output.capture.maxBackups)^[m] held)
      (after host disk s (List.replicate n .start)).1 := by
  induction n with
  | zero => exact ⟨0, le_rfl, h⟩
  | succ n ih =>
    obtain ⟨m, below, captures⟩ := ih fun m before => fail m (by omega)
    obtain ⟨e, failed⟩ := fail n (Nat.lt_succ_self n)
    let now := after host disk s (List.replicate n .start)
    have same : now.2.config.output = s.config.output :=
      congrArg (·.output) (config_after host disk s _)
    have next : (after host disk s (List.replicate (n + 1) .start)).1 =
        (now.2.start host now.1).1.disk := by
      rw [List.replicate_succ', after_append]
      rfl
    rw [← same] at captures ⊢
    rw [next]
    rcases captures_start failed captures with ⟨still, -⟩ | moved
    · exact ⟨m, by omega, still⟩
    · refine ⟨m + 1, by omega, ?_⟩
      rw [Function.iterate_succ_apply']
      exact moved

/-- A server that does not start stays stopped, if nothing is missing once all sinks are open. -/
theorem run_starts {host : Host} {disk : Disk} {s : Server} (stopped : s.run = none)
    (noLate : ∀ run, (host.faults run).late? = none) {n : Nat}
    (fail : ∀ m < n, ∃ e, ((after host disk s (List.replicate m .start)).2.start host
      (after host disk s (List.replicate m .start)).1).2 = .error e) :
    (after host disk s (List.replicate n .start)).2.run = none := by
  induction n with
  | zero => exact stopped
  | succ n ih =>
    obtain ⟨e, failed⟩ := fail n (Nat.lt_succ_self n)
    rw [List.replicate_succ', after_append]
    exact run_start_of_error (ih fun m before => fail m (by omega)) failed (noLate _)

/-! ## What a failed start does to the server -/

/-- A server that is not running does not answer that it was started already. -/
theorem start_ne_alreadyStarted {s : Server} (host : Host) (disk : Disk) (stopped : s.run = none) :
    (s.start host disk).2 ≠ .error .alreadyStarted := by
  rcases s.start_cases host disk with
    ⟨up, -⟩ | ⟨-, ⟨e, why, h⟩ | ⟨e, wrong, h⟩ | ⟨_, _, -, -, h⟩ | ⟨_, -, -, h⟩⟩
  · simp [isRunning, stopped] at up
  · rw [h]
    rcases why with rfl | ⟨fault, rfl⟩ <;> simp
  · rw [h]
    rcases givenUp_sinks host.routing (host.faults s.starts).sweeper s.config.output disk with
      ⟨fault, is, -⟩ | ⟨d, log, -, ⟨-, fault, -, is, -⟩ | ⟨is | ⟨error, is⟩, -⟩⟩ <;>
      · rw [wrong] at is
        cases is <;> simp
  · rw [h]
    simp
  · rw [h]
    simp

/-- Nobody receives after a failed start, if nobody did before. -/
theorem isReceiving_start_of_error {host : Host} {disk : Disk} {s : Server} {e : ServerError}
    (stopped : s.run = none) (failed : (s.start host disk).2 = .error e) :
    (s.start host disk).1.server.isReceiving = false := by
  rcases s.start_cases host disk with
    ⟨up, -⟩ | ⟨-, ⟨_, -, h⟩ | ⟨_, -, h⟩ | ⟨_, _, -, -, h⟩ | ⟨_, -, -, h⟩⟩
  · simp [isRunning, stopped] at up
  · simp [h, isReceiving, stopped]
  · simp [h, isReceiving, giveUp, stopped]
  · simp [h, isReceiving, strand]
  · rw [h] at failed
    cases failed

/-- A start that fails once all sinks are open leaves the server running: it refuses the next start,
and it takes a stop to end this. -/
theorem isRunning_start_of_late {host : Host} {disk : Disk} {s : Server} {fault : Fault}
    {wanted address : SocketAddr} (stopped : s.run = none)
    (listens : SocketAddr.parse? s.config.server.listenAddr = some wanted)
    (binds : host.bind wanted = .ok address)
    (fine : (Opening.sinks host.routing (host.faults s.starts).sweeper s.config.output
      disk).error = none)
    (late : (host.faults s.starts).late? = some fault) :
    (s.start host disk).2 = .error (.socket fault) ∧
      (s.start host disk).1.server.isRunning = true ∧
      ∀ d, ((s.start host disk).1.server.start host d).2 = .error .alreadyStarted := by
  have start_ : s.start host disk = (s.strand (Opening.sinks host.routing
      (host.faults s.starts).sweeper s.config.output disk) address
      (host.faults s.starts).address.isNone, .error (.socket fault)) := by
    unfold start
    rw [if_neg (by simp [isRunning, stopped])]
    simp only [listens, binds, fine, late]
  have up : (s.start host disk).1.server.isRunning = true := by
    rw [start_]
    rfl
  exact ⟨by rw [start_], up, fun d => (start_of_isRunning host d up).2.2⟩

/-- A start fails for the exporter if nothing else is in its way. -/
theorem start_eq_netflow {host : Host} {s : Server} {wanted address : SocketAddr}
    {error : Netflow.ExporterError} (stopped : s.run = none)
    (listens : SocketAddr.parse? s.config.server.listenAddr = some wanted)
    (binds : host.bind wanted = .ok address) (noLog : s.config.output.file.enabled = false)
    (h : Holds disk (.ofString s.config.output.capture.path) folder held) (sound : disk.IsSound)
    (names : ∀ i ≤ s.config.output.capture.maxBackups,
      Admits (file (.ofString s.config.output.capture.path) i).leaf)
    (on : s.config.output.netflow.enabled = true)
    (noExporter : Netflow.Exporter.open' host.routing s.config.output.netflow = .error error) :
    (s.start host disk).2 = .error (.netflow (.opening error)) := by
  have failed : (Opening.sinks host.routing (host.faults s.starts).sweeper s.config.output
      disk).error = some (.netflow (.opening error)) := by
    rw [Opening.sinks]
    rcases openLog_cases s.config.output.file disk with ⟨fault, -, -, wrong⟩ |
      ⟨d, log, opened, disk_, -, fine⟩
    · simp [Opening.openLog, noLog] at wrong
    · have same : d = disk := by
        cases opened with
        | disabled off => rfl
        | opened yes result =>
          rw [noLog] at yes
          cases yes
      obtain ⟨d', a, opens, -⟩ := h.open' sound names s.config.output.capture.maxSize
      have archived := openArchive_cases s.config.output.capture fine
      simp only [disk_, same, opens] at archived
      rw [andThen_of_none fine]
      have fine' : ((Opening.openLog s.config.output.file { disk }).openArchive
          s.config.output.capture).error = none := by
        rcases archived with ⟨-, -, -, fine'⟩ | ⟨-, fault, wrong, -⟩ | ⟨-, -, -, -, -, fine'⟩
        · exact fine'
        · cases wrong
        · exact fine'
      rw [andThen_of_none fine', Opening.openExporter, on, noExporter]
      rfl
  unfold start
  rw [if_neg (by simp [isRunning, stopped])]
  simp only [listens, binds, failed]

/-- Only where the exporter or the archive does not open, or something is missing after that, is the
disk another one. -/
theorem disk_start_of_ne {host : Host} {s : Server} {e : ServerError}
    (failed : (s.start host disk).2 = .error e) (noLate : (host.faults s.starts).late? = none)
    (noExporter : ∀ error, e ≠ .netflow error)
    (noArchive : ∀ fault, e ≠ .output (.ofString s.config.output.capture.path) fault) :
    (s.start host disk).1.disk = disk := by
  rcases s.start_cases host disk with
    ⟨-, h⟩ | ⟨-, ⟨_, -, h⟩ | ⟨_, wrong, h⟩ | ⟨_, _, -, late, -⟩ | ⟨_, -, -, h⟩⟩
  · rw [h]
  · rw [h]
  · rw [h] at failed ⊢
    cases failed
    rcases givenUp_sinks host.routing (host.faults s.starts).sweeper s.config.output disk with
      ⟨fault, -, last⟩ | ⟨d, log, -, ⟨-, fault, -, isArchive, -⟩ | ⟨fine | ⟨error, isExporter⟩, -⟩⟩
    · exact last
    · exact absurd (Option.some.inj (wrong.symm.trans isArchive)) (noArchive fault)
    · rw [wrong] at fine
      cases fine
    · exact absurd (Option.some.inj (wrong.symm.trans isExporter)) (noExporter error)
  · rw [noLate] at late
    cases late
  · rw [h] at failed
    cases failed

/-- What a start leaves that answers with the error `e`. -/
structure LeavesFiles (host : Host) (disk : Disk) (s : Server) (e : ServerError) : Prop where
  /-- A server that is running is not touched by it. -/
  running : s.isRunning → (s.start host disk).1.server = s ∧ (s.start host disk).1.disk = disk
  /-- A stopped server is stopped, if nothing is missing once all sinks are open. -/
  stopped : s.run = none → (host.faults s.starts).late? = none →
    (s.start host disk).1.server.run = none
  /-- No later start answers that the server was started already. -/
  later : s.run = none → (host.faults s.starts).late? = none →
    ∀ d, ((s.start host disk).1.server.start host d).2 ≠ .error .alreadyStarted
  tally : (s.start host disk).1.server.tally = s.tally
  config : (s.start host disk).1.server.config = s.config
  /-- Only a start that came as far as the archive has changed a file. -/
  unchanged : (host.faults s.starts).late? = none → (∀ error, e ≠ .netflow error) →
    (∀ fault, e ≠ .output (.ofString s.config.output.capture.path) fault) →
    (s.start host disk).1.disk = disk
  /-- All files stay that are not captures, and all files if there is nothing to capture. -/
  spared : ∀ place content, disk.content? place = some content →
    (s.config.output.capture.enabled = true → ∀ i ≤ s.config.output.capture.maxBackups,
      ¬ Disk.spot disk.home (file (.ofString s.config.output.capture.path) i) <+: place) →
    (s.start host disk).1.disk.content? place = some content

/-- What `n` starts leave, one after the other, where the captures hold `held`. -/
structure LeavesCaptures (host : Host) (disk : Disk) (s : Server) (held : Nat → Option Bytes)
    (n : Nat) : Prop where
  stopped : s.run = none → (∀ run, (host.faults run).late? = none) →
    (after host disk s (List.replicate n .start)).2.run = none
  /-- Each capture has moved by the same number of places, and is lost only beyond the last. -/
  moved : ∃ m ≤ n, ∀ i, i + m ≤ s.config.output.capture.maxBackups →
    ((after host disk s (List.replicate n .start)).1.read
      (file (.ofString s.config.output.capture.path) (i + m))).toOption = held i

/-- **A failed start can move the captures, and touches nothing else.**  Take any settings and any
files, and a start that answers with an error.

Counts and settings are then as they were.  All files keep name and content but the capture and its
backups up to the last that is kept, with what lies below them, and these are touched only where
frames are to be captured.  Unless the host fails the start once all sinks are open, a server that
was stopped is stopped and can be started later, and where the error is another one than that of the
exporter or of the archive, the files are those from before.

The archive is opened before the exporter, and by then the captures have moved up.  So any number of
failed starts moves every capture by the same number of places, at most as many as there were
starts, and all those are still there that have not moved beyond the last backup. -/
theorem failed_starts_move_captures (host : Host) (disk : Disk) (s : Server) :
    (∀ e, (s.start host disk).2 = .error e → LeavesFiles host disk s e) ∧
      ∀ folder held n, Captures s.config.output folder held disk →
        (∀ m < n, ∃ e, ((after host disk s (List.replicate m .start)).2.start host
          (after host disk s (List.replicate m .start)).1).2 = .error e) →
        LeavesCaptures host disk s held n := by
  refine ⟨fun e failed => ⟨fun up => ?_, fun stopped noLate => run_start_of_error stopped failed
    noLate, fun stopped noLate d => ?_, (s.tally_start host disk).1, config_step host disk s .start,
    disk_start_of_ne failed, fun place content found apart => ?_⟩,
    fun folder held n captures fail => ⟨fun stopped noLate => run_starts stopped noLate fail, ?_⟩⟩
  · obtain ⟨server, disk_, -⟩ := start_of_isRunning host disk up
    exact ⟨server, disk_⟩
  · exact start_ne_alreadyStarted host d (run_start_of_error stopped failed noLate)
  · refine (spares_start failed).content? ?_ found
    rintro t ⟨on, here⟩ above
    obtain ⟨i, below, rfl⟩ := here.eq_spot
    exact apart on i below above
  · obtain ⟨m, below, moved⟩ := captures_starts captures fail
    refine ⟨m, below, fun i within => ?_⟩
    rw [moved.holds.read, Archive.iterate_rotated within]

/-! ## Captures that a failed start moves -/

/-- A capture and its backup. -/
def twoCaptures : Disk :=
  (({} : Disk).put ["capture.pcap"] (.file [1])).put ["capture.pcap.1"] (.file [2])

/-- What the two captures hold. -/
def twoHeld : Nat → Option Bytes :=
  Function.update (Function.update (fun _ => none) 0 (some [1])) 1 (some [2])

/-- Settings that keep one backup, and with which no exporter is opened. -/
def unsupported : Config where
  output :=
    { capture := { enabled := true, maxBackups := 1 }
      netflow := { enabled := true, version := 9 } }

/-- A host that refuses nothing. -/
def plainHost : Host := { uplink := fun _ => { clock := fun _ => .zero } }

theorem path_unsupported :
    Path.ofString unsupported.output.capture.path = ⟨[], "capture.pcap"⟩ := by decide

theorem admits_twoCaptures {i : Nat} (below : i ≤ 1) :
    Admits (file (.ofString unsupported.output.capture.path) i).leaf := by
  rw [path_unsupported, Disk.admits_iff]
  match i, below with
  | 0, _ => decide
  | 1, _ => decide

theorem holds_twoCaptures :
    Holds twoCaptures (.ofString unsupported.output.capture.path) [] twoHeld := by
  have own := admits_twoCaptures (i := 0) (by decide)
  have backup := admits_twoCaptures (i := 1) le_rfl
  rw [path_unsupported] at own backup ⊢
  have named : (Path.mk [] "capture.pcap").IsNamed := ⟨by decide, by decide, by decide⟩
  have nothing := Archive.holds_of_absent Disk.isSound_empty named rfl (Archive.has_empty named)
  exact (nothing.put (i := 0) own [1]).put (i := 1) backup [2]

theorem isSound_twoCaptures : twoCaptures.IsSound where
  above e member place above apart := by
    have single : ∃ name, e.1 = [] ++ [name] := by
      rcases List.mem_append.mp member with first | second
      · rcases List.mem_append.mp (List.mem_filter.mp first).1 with nothing | first
        · cases nothing
        · exact ⟨_, by rw [List.mem_singleton.mp first]; rfl⟩
      · exact ⟨_, by rw [List.mem_singleton.mp second]; rfl⟩
    obtain ⟨name, here⟩ := single
    rw [here] at above apart
    rcases List.prefix_concat_iff.mp above with same | root
    · exact absurd same apart
    · rw [List.prefix_nil.mp root]
      rfl
  home := rfl

theorem captures_twoCaptures :
    Captures unsupported.output [] twoHeld twoCaptures where
  enabled := rfl
  sound := isSound_twoCaptures
  holds := holds_twoCaptures
  admits _ := admits_twoCaptures
  apart := by simp [unsupported]

/-- The exporter ends the start after the captures were opened. -/
theorem start_unsupported :
    (({ config := unsupported } : Server).start plainHost twoCaptures).2 =
      .error (.netflow (.opening (.unsupportedVersion 9))) := by
  have listens : SocketAddr.parse? unsupported.server.listenAddr =
      some { ip := .v4 ⟨0, 0, 0, 0⟩, port := 37008 } := rfl
  exact start_eq_netflow rfl listens rfl rfl holds_twoCaptures isSound_twoCaptures
    (fun _ => admits_twoCaptures) rfl rfl

/-- A failed start has moved the capture and lost its last backup. -/
theorem start_loses_capture :
    let now := ({ config := unsupported } : Server).start plainHost twoCaptures
    now.2 = .error (.netflow (.opening (.unsupportedVersion 9))) ∧
      (twoCaptures.content? ["capture.pcap"] = some [1] ∧
        now.1.disk.content? ["capture.pcap"] ≠ some [1]) ∧
      (twoCaptures.content? ["capture.pcap.1"] = some [2] ∧
        now.1.disk.content? ["capture.pcap.1"] ≠ some [2]) := by
  intro now
  rcases captures_start (s := { config := unsupported }) start_unsupported captures_twoCaptures with
    ⟨-, noExporter⟩ | ⟨-, -, moved, -, -⟩
  · exact absurd rfl (noExporter _)
  · have first : slot (.ofString unsupported.output.capture.path) [] 0 = ["capture.pcap"] := by
      decide
    have second : slot (.ofString unsupported.output.capture.path) [] 1 = ["capture.pcap.1"] := by
      decide
    refine ⟨start_unsupported, ⟨by decide, ?_⟩, by decide, ?_⟩
    · rw [← first, moved.content? (admits_twoCaptures (by decide))]
      decide
    · rw [← second, moved.content? (admits_twoCaptures le_rfl)]
      decide

/-- The capture itself is still there after one failed start, and the server is stopped. -/
theorem failed_starts_move_captures_unsupported :
    let last := after plainHost twoCaptures { config := unsupported } [.start]
    (({ config := unsupported } : Server).start plainHost twoCaptures).1.server.run = none ∧
      ∃ m ≤ 1, 0 + m ≤ 1 →
        (last.1.read (file (.ofString unsupported.output.capture.path) (0 + m))).toOption =
          some [1] := by
  obtain ⟨once, often⟩ :=
    failed_starts_move_captures plainHost twoCaptures { config := unsupported }
  obtain ⟨-, m, below, there⟩ := often [] twoHeld 1 captures_twoCaptures fun m before => by
    have first : m = 0 := Nat.lt_one_iff.mp before
    subst first
    exact ⟨_, start_unsupported⟩
  exact ⟨(once _ start_unsupported).stopped rfl rfl, m, below, there 0⟩

end Server

end Wiretap
