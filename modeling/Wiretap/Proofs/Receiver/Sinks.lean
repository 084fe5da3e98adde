import Wiretap.Proofs.Access.Pipeline
import Wiretap.Proofs.Receiver.Conservation

/-!
# All sinks are given the same frames

The datagrams that hold a frame decide what every sink is given, and nothing else does.  What a sink
does with a frame, and whether it is there at all, makes no difference to another one.

## Main definitions

* `Envelope.frameAt?` - the frame in a datagram and when it was seen.
* `Pipeline.given` - what a sink is given of datagrams, and for each sink what that is.
* `Archive.giveAll`, `MetadataLog.giveAll` - a sink, if it is there, after all that it is given.
* `Pipeline.archiveOf` - the archive of a pipeline with the disk that it writes to.

## Main statements

* `Sighting.frameAt?_eq` - a pipeline sees the frame at that time.
* `Pipeline.archiveOf_run`, `Pipeline.log_run`, `Pipeline.exporter_run_given` - what each sink is
  after a series of datagrams.
* `Pipeline.run_gives_all` - all of this together, and that no sink depends on another one.

## Design notes

Each sink has its own part of what has changed, and every step of `Pipeline.handle` but one leaves
that part alone.  So a sink after a run is a fold over what it is given, in which no other sink
occurs, and independence is read off it.
-/

namespace Wiretap

/-! ## Frames and their times -/

namespace Envelope

/-- When the frame of an envelope was seen: the first four bytes of the first timestamp tag, in
seconds, if that tag has as many, and when the envelope arrived if not. -/
def seenAt (e : Envelope) (arrival : Duration) : Duration :=
  match e.tags.find? fun t => t.kind = .timestamp with
  | some t =>
    if 4 ≤ t.data.length then .ofSecs (Bytes.ofBigEndian (t.data.take 4)) else arrival
  | none => arrival

/-- The frame in a datagram and when it was seen, if the datagram holds an envelope with a frame. -/
def frameAt? (datagram : Bytes) (arrival : Duration) : Option (Bytes × Duration) :=
  match decode datagram with
  | .error _ => none
  | .ok e => if e.payload = [] then none else some (e.payload, e.seenAt arrival)

end Envelope

/-- Four bytes hold a number of 32 bits. -/
theorem Bytes.ofBigEndian_lt {b : Bytes} (four : b.length = 4) : ofBigEndian b < 2 ^ 32 := by
  match b, four with
  | [b₀, b₁, b₂, b₃], _ =>
    have h₀ := b₀.toNat_lt
    have h₁ := b₁.toNat_lt
    have h₂ := b₂.toNat_lt
    have h₃ := b₃.toNat_lt
    simp only [ofBigEndian, List.foldl_cons, List.foldl_nil]
    omega

/-- The time that an envelope names is the one at which its frame was seen. -/
theorem Envelope.getD_timestamp? (e : Envelope) (arrival : Duration) :
    e.timestamp?.getD arrival = e.seenAt arrival := by
  rw [timestamp?, tag?, seenAt]
  cases e.tags.find? fun t => t.kind = .timestamp with
  | none => rfl
  | some t =>
    simp only [Option.bind_some]
    by_cases enough : 4 ≤ t.data.length
    · have four : (t.data.take 4).length = 4 := by rw [List.length_take, Nat.min_eq_left enough]
      rw [if_pos enough, Bytes.be32?, Bytes.first?_of_le enough, Option.map_some, Option.map_some,
        Option.getD_some, UInt32.toNat_ofNat_of_lt' (Bytes.ofBigEndian_lt four)]
    · rw [if_neg enough, Bytes.be32?, Bytes.first?_eq_none_iff.mpr (Nat.lt_of_not_le enough)]
      rfl

/-- What a pipeline sees in a datagram is its frame at its time. -/
theorem Sighting.frameAt?_eq (data : Bytes) (arrival : Duration) :
    Envelope.frameAt? data arrival =
      (ofDatagram data arrival).toOption.map fun s => (s.frame, s.time) := by
  rw [Envelope.frameAt?, ofDatagram]
  cases Envelope.decode data with
  | error e => rfl
  | ok e =>
    simp only
    by_cases empty : e.payload = []
    · rw [if_pos empty, if_pos empty]
      rfl
    · rw [if_neg empty, if_neg empty, Envelope.getD_timestamp?]
      rfl

/-! ## What the sinks are given -/

/-- Disk and archive, if there is one, after a frame was given to it. -/
def Archive.give (s : Disk × Option Archive) (w : Bytes × Duration × Option Archive.Refusal) :
    Disk × Option Archive :=
  match s.2 with
  | none => s
  | some archive =>
    let after := archive.write s.1 w.1 w.2.1 w.2.2
    (after.1, some after.2.1)

/-- Disk and archive, if there is one, after frames were given to it. -/
def Archive.giveAll (s : Disk × Option Archive)
    (ws : List (Bytes × Duration × Option Archive.Refusal)) : Disk × Option Archive :=
  ws.foldl give s

theorem Archive.giveAll_append (s : Disk × Option Archive)
    (vs ws : List (Bytes × Duration × Option Archive.Refusal)) :
    giveAll s (vs ++ ws) = giveAll (giveAll s vs) ws := List.foldl_append

/-- A log, if there is one, after a packet was given to it. -/
def MetadataLog.give (log : Option MetadataLog) (w : Packet × Option Fault) : Option MetadataLog :=
  log.map fun log => (log.write w.1 w.2).toOption.getD log

/-- A log, if there is one, after packets were given to it. -/
def MetadataLog.giveAll (log : Option MetadataLog) (ws : List (Packet × Option Fault)) :
    Option MetadataLog :=
  ws.foldl give log

theorem MetadataLog.giveAll_append (log : Option MetadataLog)
    (vs ws : List (Packet × Option Fault)) :
    giveAll log (vs ++ ws) = giveAll (giveAll log vs) ws := List.foldl_append

namespace Pipeline

open Netflow (Uplink Exporter)

/-- The archive, if there is one, with the disk that it writes to. -/
def archiveOf (h : Handled) : Disk × Option Archive := (h.disk, h.pipeline.archive)

/-- What a sink is given of datagrams: what is made of every frame, its time, and what of the
datagram concerns the sink alone. -/
def given {α β : Type} (part : Bytes → Duration → α → β) (own : Arrival → α) (as : List Arrival) :
    List β :=
  as.filterMap fun a =>
    (Envelope.frameAt? a.data a.time).map fun seen => part seen.1 seen.2 (own a)

/-- The archive is given every frame and its time. -/
def forArchive (as : List Arrival) : List (Bytes × Duration × Option Archive.Refusal) :=
  given (fun frame time refused => (frame, time, refused)) (·.captureFault) as

/-- The log is given the packet of every frame, as far as it could be read. -/
def forLog (as : List Arrival) : List (Packet × Option Fault) :=
  given (fun frame time refused => ((Packet.decode frame time).1, refused)) (·.metadataFault) as

/-- The exporter is given the packet of every frame, as far as it could be read. -/
def forExporter (as : List Arrival) : List Exporter.Event :=
  given (fun frame time now => .packet (Packet.decode frame time).1 now) (·.now) as

section

variable {α β : Type} (part : Bytes → Duration → α → β) (own : Arrival → α)

theorem given_cons (a : Arrival) (as : List Arrival) :
    given part own (a :: as) = given part own [a] ++ given part own as := by
  rw [given, filterMap_cons_toList, given, filterMap_cons_toList, List.filterMap_nil,
    List.append_nil]
  rfl

/-- No sink is given anything of a datagram without a frame. -/
theorem given_filter (as : List Arrival) :
    given part own (as.filter fun a => (Envelope.frameAt? a.data a.time).isSome) =
      given part own as := by
  rw [given, given, List.filterMap_filter]
  congr 1
  funext a
  cases Envelope.frameAt? a.data a.time <;> rfl

/-- What a sink is given depends on the datagrams, when they arrived, and what concerns the sink
alone. -/
theorem given_congr {as bs : List Arrival}
    (same : as.map (fun a => (a.data, a.time, own a)) = bs.map fun a => (a.data, a.time, own a)) :
    given part own as = given part own bs := by
  induction as generalizing bs with
  | nil => rw [List.map_eq_nil_iff.mp same.symm]
  | cons a as ih =>
    obtain ⟨b, rest, rfl, here, later⟩ := List.map_eq_cons_iff.mp same.symm
    simp only [Prod.mk.injEq] at here
    have heads : given part own [a] = given part own [b] := by
      simp only [given, List.filterMap_cons, here]
    rw [given_cons, given_cons part own b, heads, ih later.symm]

end

/-! ## Every step concerns one sink -/

theorem archiveOf_capture (h : Handled) (s : Sighting) (refused : Option Archive.Refusal) :
    archiveOf (capture h s refused) = Archive.give (archiveOf h) (s.frame, s.time, refused) := by
  unfold capture Archive.give archiveOf
  cases present : h.pipeline.archive with
  | none =>
    simp only
    rw [present]
  | some archive =>
    simp only
    obtain ⟨disk, archive, fault⟩ := archive.write h.disk s.frame s.time refused
    cases fault <;> rfl

theorem archiveOf_inspect (h : Handled) (source : SocketAddr) (p : Packet)
    (error : Option LayerError) : archiveOf (inspect h source p error) = archiveOf h := by
  cases error <;> rfl

theorem archiveOf_account (up : Uplink) (h : Handled) (p : Packet) (now : Duration) :
    archiveOf (account up h p now) = archiveOf h := by
  unfold account
  split <;> rfl

theorem archiveOf_describe (h : Handled) (p : Packet) (refused : Option Fault) :
    archiveOf (describe h p refused) = archiveOf h := by
  unfold describe
  split
  · rfl
  · next log _ =>
    match log.write p refused with
    | .ok _ => rfl
    | .error .beyondCalendar => rfl
    | .error (.refused _) => rfl

theorem log_capture (h : Handled) (s : Sighting) (refused : Option Archive.Refusal) :
    (capture h s refused).pipeline.log = h.pipeline.log := by
  unfold capture
  split
  · rfl
  · next archive _ =>
    obtain ⟨disk, archive, fault⟩ := archive.write h.disk s.frame s.time refused
    cases fault <;> rfl

theorem log_inspect (h : Handled) (source : SocketAddr) (p : Packet)
    (error : Option LayerError) : (inspect h source p error).pipeline.log = h.pipeline.log := by
  cases error <;> rfl

theorem log_account (up : Uplink) (h : Handled) (p : Packet) (now : Duration) :
    (account up h p now).pipeline.log = h.pipeline.log := by
  unfold account
  split <;> rfl

theorem log_describe (h : Handled) (p : Packet) (refused : Option Fault) :
    (describe h p refused).pipeline.log = MetadataLog.give h.pipeline.log (p, refused) := by
  unfold describe MetadataLog.give
  cases present : h.pipeline.log with
  | none => exact present
  | some log =>
    simp only [Option.map_some]
    match log.write p refused with
    | .ok _ => rfl
    | .error .beyondCalendar => exact present
    | .error (.refused _) => exact present

/-- A datagram gives the archive the frame that it holds, if it holds one. -/
theorem archiveOf_step (up : Uplink) (h : Handled) (a : Arrival) :
    archiveOf (step up h (.datagram a)) =
      Archive.giveAll (archiveOf h) (forArchive [a]) := by
  change archiveOf (handle up h.disk h.tally h.pipeline a) = _
  rw [handle, forArchive, given, List.filterMap_cons, Sighting.frameAt?_eq]
  cases Sighting.ofDatagram a.data a.time with
  | error reason => cases reason <;> rfl
  | ok s =>
    simp only
    rw [archiveOf_describe, archiveOf_account, archiveOf_inspect, archiveOf_capture]
    rfl

/-- A datagram gives the log the packet of the frame that it holds, if it holds one. -/
theorem log_step (up : Uplink) (h : Handled) (a : Arrival) :
    (step up h (.datagram a)).pipeline.log =
      MetadataLog.giveAll h.pipeline.log (forLog [a]) := by
  change (handle up h.disk h.tally h.pipeline a).pipeline.log = _
  rw [handle, forLog, given, List.filterMap_cons, Sighting.frameAt?_eq]
  cases Sighting.ofDatagram a.data a.time with
  | error reason => cases reason <;> rfl
  | ok s =>
    simp only
    rw [log_describe, log_account, log_inspect, log_capture]
    rfl

/-- Without an exporter nothing is exported. -/
theorem exporter_step_of_none (up : Uplink) {h : Handled} (absent : h.pipeline.exporter = none)
    (a : Arrival) :
    (step up h (.datagram a)).pipeline.exporter = none ∧
      (step up h (.datagram a)).exported = h.exported := by
  have handled : (handle up h.disk h.tally h.pipeline a).pipeline.exporter = none ∧
      (handle up h.disk h.tally h.pipeline a).exported = [] := by
    rw [handle]
    cases Sighting.ofDatagram a.data a.time with
    | error reason => cases reason <;> exact ⟨absent, rfl⟩
    | ok s => simp [arrived, sighted, account, absent]
  refine ⟨handled.1, ?_⟩
  change h.exported ++ (handle up h.disk h.tally h.pipeline a).exported = h.exported
  rw [handled.2, List.append_nil]

/-- A datagram whose arrival the calendar can show does not bring the receiver down. -/
theorem crashed_step (up : Uplink) (h : Handled) {a : Arrival}
    (within : (Date.ofDays (a.time.secs / 86400)).year ≤ Calendar.lastYear) :
    (step up h (.datagram a)).crashed = h.crashed := by
  have handled : (handle up h.disk h.tally h.pipeline a).crashed = false := by
    rw [handle]
    cases seen : Sighting.ofDatagram a.data a.time with
    | error reason => cases reason <;> rfl
    | ok s =>
      have shown : (Calendar.stamp? (Packet.decode s.frame s.time).1.time).isSome := by
        rw [Packet.decode_time]
        exact Checked.isSome_stamp?_sighting seen (Calendar.isSome_stamp? within)
      simp only
      rw [Checked.crashed_describe _ shown, Checked.crashed_account, Checked.crashed_inspect,
        Checked.crashed_capture]
      rfl
  change (h.crashed || (handle up h.disk h.tally h.pipeline a).crashed) = h.crashed
  rw [handled, Bool.or_false]

/-! ## Runs -/

/-- What has changed after a series of datagrams. -/
def receiveAll (up : Uplink) (h : Handled) (as : List Arrival) : Handled :=
  run up h (as.map .datagram)

theorem receiveAll_cons (up : Uplink) (h : Handled) (a : Arrival) (as : List Arrival) :
    receiveAll up h (a :: as) = receiveAll up (step up h (.datagram a)) as := rfl

/-- The archive after a run is the archive after the frames of the datagrams. -/
theorem archiveOf_run (up : Uplink) (h : Handled) (as : List Arrival) :
    archiveOf (receiveAll up h as) = Archive.giveAll (archiveOf h) (forArchive as) := by
  induction as generalizing h with
  | nil => rfl
  | cons a as ih =>
    have frames : forArchive (a :: as) = forArchive [a] ++ forArchive as := given_cons _ _ a as
    rw [receiveAll_cons, ih, archiveOf_step, frames, Archive.giveAll_append]

/-- The log after a run is the log after the packets of the datagrams. -/
theorem log_run (up : Uplink) (h : Handled) (as : List Arrival) :
    (receiveAll up h as).pipeline.log = MetadataLog.giveAll h.pipeline.log (forLog as) := by
  induction as generalizing h with
  | nil => rfl
  | cons a as ih =>
    have packets : forLog (a :: as) = forLog [a] ++ forLog as := given_cons _ _ a as
    rw [receiveAll_cons, ih, log_step, packets, MetadataLog.giveAll_append]

/-- The steps of the exporter are the packets of the datagrams. -/
theorem filterMap_exporterEvent? (as : List Arrival) :
    (as.map Event.datagram).filterMap exporterEvent? = forExporter as := by
  rw [List.filterMap_map, forExporter, given]
  congr 1
  funext a
  rw [Function.comp_apply, exporterEvent?, Sighting.frameAt?_eq, Option.map_map]
  rfl

/-- The exporter after a run is the exporter after the packets of the datagrams. -/
theorem exporter_run_given (up : Uplink) {h : Handled} {x : Exporter}
    (sink : h.pipeline.exporter = some x) (as : List Arrival) :
    (receiveAll up h as).pipeline.exporter = some (x.run up (forExporter as)).1 ∧
      (receiveAll up h as).exported =
        h.exported ++ (x.run up (forExporter as)).2.flatten := by
  rw [← filterMap_exporterEvent?]
  exact exporter_run up sink (as.map .datagram)

theorem exporter_run_of_none (up : Uplink) {h : Handled} (absent : h.pipeline.exporter = none)
    (as : List Arrival) :
    (receiveAll up h as).pipeline.exporter = none ∧
      (receiveAll up h as).exported = h.exported := by
  induction as generalizing h with
  | nil => exact ⟨absent, rfl⟩
  | cons a as ih =>
    obtain ⟨absentNow, exportedNow⟩ := exporter_step_of_none up absent a
    rw [receiveAll_cons, ← exportedNow]
    exact ih absentNow

theorem crashed_run (up : Uplink) (h : Handled) {as : List Arrival}
    (within : ∀ a ∈ as, (Date.ofDays (a.time.secs / 86400)).year ≤ Calendar.lastYear) :
    (receiveAll up h as).crashed = h.crashed := by
  induction as generalizing h with
  | nil => rfl
  | cons a as ih =>
    rw [receiveAll_cons, ih _ fun a member => within a (List.mem_cons_of_mem _ member),
      crashed_step up h (within a List.mem_cons_self)]

/-! ## Independence -/

/-- Two pipelines with the same archive and the same disk end with the same archive and the same
disk, if what the archive is given is the same. -/
theorem archiveOf_run_congr (up up' : Uplink) {h h' : Handled} (same : archiveOf h = archiveOf h')
    {as bs : List Arrival} (given : forArchive as = forArchive bs) :
    archiveOf (receiveAll up h as) = archiveOf (receiveAll up' h' bs) := by
  rw [archiveOf_run, archiveOf_run, same, given]

/-- Two pipelines with the same log end with the same log, if what the log is given is the same. -/
theorem log_run_congr (up up' : Uplink) {h h' : Handled} (same : h.pipeline.log = h'.pipeline.log)
    {as bs : List Arrival} (given : forLog as = forLog bs) :
    (receiveAll up h as).pipeline.log = (receiveAll up' h' bs).pipeline.log := by
  rw [log_run, log_run, same, given]

/-- Two pipelines with the same exporter on the same network end with the same exporter and have
exported the same, if what the exporter is given is the same. -/
theorem exporter_run_congr (up : Uplink) {h h' : Handled}
    (same : h.pipeline.exporter = h'.pipeline.exporter) (exported : h.exported = h'.exported)
    {as bs : List Arrival} (given : forExporter as = forExporter bs) :
    (receiveAll up h as).pipeline.exporter = (receiveAll up h' bs).pipeline.exporter ∧
      (receiveAll up h as).exported = (receiveAll up h' bs).exported := by
  cases sink : h.pipeline.exporter with
  | none =>
    obtain ⟨absent, before⟩ := exporter_run_of_none up sink as
    obtain ⟨absent', before'⟩ := exporter_run_of_none up (same ▸ sink) bs
    exact ⟨absent.trans absent'.symm, before.trans (exported.trans before'.symm)⟩
  | some x =>
    obtain ⟨after, before⟩ := exporter_run_given up sink as
    obtain ⟨after', before'⟩ := exporter_run_given up (same ▸ sink) bs
    rw [after, after', before, before', given, exported]
    exact ⟨rfl, rfl⟩

/-- **All sinks are given the same frames, each for itself.**  Let a series of datagrams come to any
pipeline, whatever sinks are open and whatever the host answers to them.  The archive then is what
the frames and their times make of it, in order; log and exporter are what the packets read from
those frames at those times make of them, in order, also where a layer was malformed.  Datagrams
without a frame could as well not have come.  A second pipeline that has one sink in common with the
first one has it in common afterwards, whatever its other sinks are and whatever happens to them.
While the calendar can show when datagrams arrive, none of this ends early. -/
theorem run_gives_all (up : Uplink) (h : Handled) (as : List Arrival) :
    let after := receiveAll up h as
    let held := receiveAll up h (as.filter fun a => (Envelope.frameAt? a.data a.time).isSome)
    (archiveOf after = Archive.giveAll (archiveOf h) (forArchive as) ∧
        after.pipeline.log = MetadataLog.giveAll h.pipeline.log (forLog as) ∧
        (∀ x, h.pipeline.exporter = some x →
          after.pipeline.exporter = some (x.run up (forExporter as)).1 ∧
            after.exported = h.exported ++ (x.run up (forExporter as)).2.flatten)) ∧
      (held.disk = after.disk ∧ held.pipeline = after.pipeline ∧ held.exported = after.exported) ∧
      (∀ (up' : Uplink) (h' : Handled) (bs : List Arrival), archiveOf h = archiveOf h' →
        as.map (fun a => (a.data, a.time, a.captureFault)) =
          bs.map (fun a => (a.data, a.time, a.captureFault)) →
        archiveOf after = archiveOf (receiveAll up' h' bs)) ∧
      (∀ (up' : Uplink) (h' : Handled) (bs : List Arrival), h.pipeline.log = h'.pipeline.log →
        as.map (fun a => (a.data, a.time, a.metadataFault)) =
          bs.map (fun a => (a.data, a.time, a.metadataFault)) →
        after.pipeline.log = (receiveAll up' h' bs).pipeline.log) ∧
      (∀ (h' : Handled) (bs : List Arrival), h.pipeline.exporter = h'.pipeline.exporter →
        h.exported = h'.exported →
        as.map (fun a => (a.data, a.time, a.now)) = bs.map (fun a => (a.data, a.time, a.now)) →
        after.pipeline.exporter = (receiveAll up h' bs).pipeline.exporter ∧
          after.exported = (receiveAll up h' bs).exported) ∧
      ((∀ a ∈ as, (Date.ofDays (a.time.secs / 86400)).year ≤ Calendar.lastYear) →
        after.crashed = h.crashed) := by
  intro after held
  refine ⟨⟨archiveOf_run up h as, log_run up h as, fun x sink => exporter_run_given up sink as⟩,
    ?_, ?_, ?_, ?_, crashed_run up h⟩
  · have archives : archiveOf held = archiveOf after :=
      archiveOf_run_congr up up rfl (given_filter _ _ as)
    have logs : held.pipeline.log = after.pipeline.log :=
      log_run_congr up up rfl (given_filter _ _ as)
    have exporters : held.pipeline.exporter = after.pipeline.exporter ∧
        held.exported = after.exported := exporter_run_congr up rfl rfl (given_filter _ _ as)
    obtain ⟨disks, archives⟩ := Prod.mk.inj archives
    refine ⟨disks, ?_, exporters.2⟩
    -- A pipeline is its three sinks.
    calc held.pipeline = ⟨held.pipeline.archive, held.pipeline.log, held.pipeline.exporter⟩ := rfl
      _ = after.pipeline := by rw [archives, logs, exporters.1]
  · intro up' h' bs sinks same
    exact archiveOf_run_congr up up' sinks (given_congr _ _ same)
  · intro up' h' bs sinks same
    exact log_run_congr up up' sinks (given_congr _ _ same)
  · intro h' bs sinks exported same
    exact exporter_run_congr up sinks exported (given_congr _ _ same)

/-- A datagram of another version, and a frame that is too short for its link layer: the archive is
given the frame at the time that its tag names, with an exporter open beside it or not. -/
theorem run_gives_all_malformed_frame :
    let source : SocketAddr := { ip := .v4 default, port := 37008 }
    let arrival (data : Bytes) : Arrival := { data, source, time := .zero, now := .zero }
    let as := [arrival [2, 0, 0, 1, 1, 7], arrival [1, 0, 0, 1, 13, 4, 0, 0, 0, 9, 1, 0xde, 0xad]]
    let archive : Archive :=
      { path := ⟨[], "capture"⟩, limit := 0, backups := 0, place := ["capture"], pending := [] }
    let exporter := Exporter.fresh .zero .zero { ip := .v4 default, port := 2055 }
    let up : Uplink := { clock := fun _ => .zero }
    let alone : Handled := { disk := {}, tally := {}, pipeline := { archive := some archive } }
    let beside : Handled :=
      { disk := {}, tally := {}, pipeline := { archive := some archive, exporter } }
    archiveOf (receiveAll up alone as) =
        Archive.giveAll ({}, some archive) [([0xde, 0xad], .ofSecs 9, none)] ∧
      archiveOf (receiveAll up beside as) = archiveOf (receiveAll up alone as) ∧
      (receiveAll up beside as).crashed = false := by
  intro source arrival as archive exporter up alone beside
  have frames : forArchive as = [([0xde, 0xad], .ofSecs 9, none)] := by
    simp [forArchive, given, as, arrival, Envelope.frameAt?, Envelope.decode, Envelope.decodeTags,
      Envelope.supportedVersion, TagKind.ofNumber, Envelope.seenAt, Bytes.ofBigEndian]
  obtain ⟨⟨given, -, -⟩, -⟩ := run_gives_all up alone as
  obtain ⟨-, -, independent, -, -, up⟩ := run_gives_all up beside as
  refine ⟨?_, independent _ alone as rfl rfl, up ?_⟩
  · rw [given, frames]
    rfl
  · simp [as, arrival]
    decide

end Pipeline

end Wiretap
