import Wiretap.Proofs.Counter.Shown
import Wiretap.Proofs.Flow.Counts
import Wiretap.Proofs.Receiver.Sinks
import Wiretap.Receiver.Server

/-!
# What a receiver counts

The receiver, the archive and the flow table each count on their own, and whoever reads their counts
sets them to zero.  Taken together, the readings tell of every datagram once.

## Main definitions

* `Pipeline.Metered`, `Pipeline.meter` - a step in which a datagram arrives, flows are swept or a
  source of counters is read.
* `Pipeline.told` - all that the readings of a source return, with one at the end.
* `Pipeline.counted` - what one datagram adds to the tally.
* `Pipeline.CountsOnce` - the sums that all readings together come to.

## Main statements

* `Pipeline.tally_step` - a datagram adds to the tally what is counted of it.
* `Pipeline.told_run` - readings lose nothing of what is counted.
* `Pipeline.exporter_meterAll` - what the exporter does in a history with readings.
* `Pipeline.told_partitions` - whatever is read when, every datagram is counted once.

## Design notes

A reading returns the counts and leaves zeros, so what was told and what a reading would tell are
kept together: their sum changes with a datagram only, and by what is counted of it.  The counts
here are natural numbers; a counter shows them modulo 2 ^ 64, so sums of what is shown are right
modulo 2 ^ 64, and altogether where no single reading has reached 2 ^ 64.
-/

namespace Wiretap

/-! ## Counts of several stretches of time -/

namespace Tally

/-- Every datagram is counted as received, and as one of rejected, empty and decoded. -/
def IsBalanced (t : Tally) : Prop := t.received = t.envelopeErrors + t.emptyPayload + t.decoded

/-- What is balanced in every stretch of time is balanced together. -/
theorem sum_of_isBalanced {ts : List Tally} (balanced : ∀ t ∈ ts, t.IsBalanced) :
    (ts.map (·.received)).sum =
      (ts.map (·.envelopeErrors)).sum + (ts.map (·.emptyPayload)).sum +
        (ts.map (·.decoded)).sum := by
  induction ts with
  | nil => rfl
  | cons t ts ih =>
    have first : t.received = t.envelopeErrors + t.emptyPayload + t.decoded :=
      balanced t List.mem_cons_self
    have rest := ih fun t member => balanced t (List.mem_cons_of_mem _ member)
    simp only [List.map_cons, List.sum_cons]
    omega

theorem IsBalanced.plus {a b : Tally} (ha : a.IsBalanced) (hb : b.IsBalanced) :
    (a.plus b).IsBalanced := by
  simp only [IsBalanced, Tally.plus] at ha hb ⊢
  omega

/-- An amount of a tally is one that stretches of time add up. -/
structure IsAmount (amount : Tally → Nat) : Prop where
  plus : ∀ a b, amount (a.plus b) = amount a + amount b
  none : ∀ greeted, amount { greeted } = 0

/-- A reading tells all that there is of an amount and leaves nothing of it. -/
theorem IsAmount.read {amount : Tally → Nat} (additive : IsAmount amount) (t : Tally) :
    amount t.read.2 = amount t ∧ amount t.read.1 = 0 := by
  have nothing : amount t.read.1 = 0 := additive.none t.greeted
  have all := additive.plus t.read.2 t.read.1
  rw [plus_read, nothing, Nat.add_zero] at all
  exact ⟨all.symm, nothing⟩

/-- The amounts of a tally under the names of their counters. -/
def amounts : List (String × (Tally → Nat)) :=
  [("received", (·.received)), ("received-bytes", (·.receivedBytes)), ("decoded", (·.decoded)),
   ("envelope-errors", (·.envelopeErrors)), ("empty-payload", (·.emptyPayload)),
   ("layer-errors", (·.layerErrors)), ("pcap-written", (·.captured)),
   ("output-errors", (·.outputErrors))]

/-- Every amount is shown under its name. -/
theorem shown_counters {c : String × (Tally → Nat)} (member : c ∈ amounts) (t : Tally) :
    Counter.shown c.1 t.counters = Counter.wrapped (c.2 t) := by
  simp only [amounts, List.mem_cons, List.not_mem_nil, or_false] at member
  rcases member with rfl | rfl | rfl | rfl | rfl | rfl | rfl | rfl <;>
    simp [Counter.shown, counters, Counter.count]

end Tally

/-! ## What the sinks answer -/

/-- What an archive, if there is one, answers to a frame: nothing if it takes it. -/
def Archive.answer? (s : Disk × Option Archive) (w : Bytes × Duration × Option Archive.Refusal) :
    Option (Option Fault) :=
  s.2.map fun archive => (archive.write s.1 w.1 w.2.1 w.2.2).2.2

/-- What a log, if there is one, answers to a packet whose line it does not take. -/
def MetadataLog.fault? (log : Option MetadataLog) (w : Packet × Option Fault) : Option Fault :=
  log.bind fun log =>
    match log.write w.1 w.2 with
    | .error (.refused fault) => some fault
    | _ => none

/-- An archive counts the frames that it takes. -/
theorem Archive.frames_write (d : Disk) (a : Archive) (frame : Bytes) (time : Duration)
    (refused : Option Archive.Refusal) :
    (a.write d frame time refused).2.1.counts.frames =
      a.counts.frames + (a.write d frame time refused).2.2.isNone.toNat := by
  have turned : (if a.isFull then a.rotate d refused else (d, a, none)).2.1.counts.frames =
      a.counts.frames := by
    split
    · unfold rotate
      split
      · rfl
      · rfl
      · simp only
        split <;> rfl
    · rfl
  unfold Archive.write
  simp only
  generalize (if a.isFull then a.rotate d refused else (d, a, none)) = answer at turned
  obtain ⟨disk, archive, fault⟩ := answer
  cases fault with
  | some e => simpa using turned
  | none =>
    match refused with
    | none => exact congrArg (· + 1) turned
    | some (.record fault kept) => exact turned
    | some (.flush fault kept) => exact congrArg (· + 1) turned
    | some (.file fault) => exact congrArg (· + 1) turned

namespace Pipeline

open Netflow (Uplink Exporter)

/-- The frames of datagrams and when they were seen. -/
def framesOf (as : List Arrival) : List (Bytes × Duration) :=
  as.filterMap fun a => Envelope.frameAt? a.data a.time

/-- Whether a layer of a frame is malformed. -/
def isMalformed (frame : Bytes × Duration) : Bool := (Packet.decode frame.1 frame.2).2.isSome

/-- What the archive, if there is one, answers to the frame of a datagram. -/
def captureAnswers (h : Handled) (a : Arrival) : List (Option Fault) :=
  (forArchive [a]).filterMap (Archive.answer? (archiveOf h))

/-- What the log answers to the packet of a datagram if it does not take its line. -/
def metadataFaults (h : Handled) (a : Arrival) : List Fault :=
  (forLog [a]).filterMap (MetadataLog.fault? h.pipeline.log)

/-- What a datagram adds to the counts. -/
def counted (h : Handled) (a : Arrival) : Tally where
  received := 1
  receivedBytes := a.data.length
  decoded := (framesOf [a]).length
  envelopeErrors := (Envelope.decode a.data).toOption.isNone.toNat
  emptyPayload := ((Envelope.decode a.data).toOption.any (·.payload = [])).toNat
  layerErrors := ((framesOf [a]).filter isMalformed).length
  captured := ((captureAnswers h a).filter Option.isNone).length
  outputErrors := ((captureAnswers h a).filter Option.isSome).length + (metadataFaults h a).length
  greeted := true

/-- A frame is counted as captured or as an output error, if there is an archive. -/
theorem tally_capture (h : Handled) (s : Sighting) (refused : Option Archive.Refusal) :
    let answer := (Archive.answer? (archiveOf h) (s.frame, s.time, refused)).toList
    (capture h s refused).tally = h.tally.plus
      { captured := (answer.filter Option.isNone).length
        outputErrors := (answer.filter Option.isSome).length } := by
  intro answer
  unfold answer capture Archive.answer? archiveOf
  cases h.pipeline.archive with
  | none => simp [Tally.plus]
  | some archive =>
    simp only [Option.map_some, Option.toList_some]
    obtain ⟨disk, archive, fault⟩ := archive.write h.disk s.frame s.time refused
    cases fault <;> simp [stored, Tally.plus]

theorem tally_inspect (h : Handled) (source : SocketAddr) (p : Packet)
    (error : Option LayerError) :
    (inspect h source p error).tally = h.tally.plus { layerErrors := error.isSome.toNat } := by
  cases error <;> simp [inspect, Tally.plus]

theorem tally_describe (h : Handled) (p : Packet) (refused : Option Fault) :
    (describe h p refused).tally = h.tally.plus
      { outputErrors := (MetadataLog.fault? h.pipeline.log (p, refused)).toList.length } := by
  unfold describe MetadataLog.fault?
  cases h.pipeline.log with
  | none => simp [Tally.plus]
  | some log =>
    simp only [Option.bind_some]
    cases log.write p refused with
    | ok _ => simp [described, Tally.plus]
    | error e => cases e <;> simp [described, Tally.plus]

theorem length_filter_singleton {α : Type} (keep : α → Bool) (a : α) :
    ([a].filter keep).length = (keep a).toNat := by
  cases kept : keep a <;> simp [kept]

/-- What a sink is given of one datagram. -/
theorem given_singleton {α β : Type} (part : Bytes → Duration → α → β) (own : Arrival → α)
    (a : Arrival) :
    given part own [a] =
      ((Envelope.frameAt? a.data a.time).map fun seen => part seen.1 seen.2 (own a)).toList := by
  rw [given, filterMap_cons_toList, List.filterMap_nil, List.append_nil]

theorem framesOf_singleton (a : Arrival) :
    framesOf [a] = (Envelope.frameAt? a.data a.time).toList := by
  rw [framesOf, filterMap_cons_toList, List.filterMap_nil, List.append_nil]

theorem tally_step (up : Uplink) (h : Handled) (a : Arrival) :
    (step up h (.datagram a)).tally = h.tally.plus (counted h a) := by
  change (handle up h.disk h.tally h.pipeline a).tally = _
  have seen := Sighting.frameAt?_eq a.data a.time
  rw [handle, counted, captureAnswers, metadataFaults, forArchive, forLog, given_singleton,
    given_singleton, framesOf_singleton]
  cases opened : Envelope.decode a.data with
  | error e =>
    have rejected : Sighting.ofDatagram a.data a.time = .error (.rejected e) := by
      rw [Sighting.ofDatagram, opened]
    rw [rejected] at seen
    simp [rejected, seen, dropped, arrived, received, Tally.plus, Except.toOption]
  | ok e =>
    by_cases empty : e.payload = []
    · have noFrame : Sighting.ofDatagram a.data a.time = .error (.noFrame e.purpose) := by
        rw [Sighting.ofDatagram, opened]
        exact if_pos empty
      rw [noFrame] at seen
      simp [noFrame, seen, dropped, arrived, received, Tally.plus, Except.toOption, empty]
    · have sees : Sighting.ofDatagram a.data a.time =
          .ok { envelope := e, frame := e.payload, time := e.timestamp?.getD a.time } := by
        rw [Sighting.ofDatagram, opened]
        exact if_neg empty
      rw [sees] at seen ⊢
      simp only
      rw [tally_describe, tally_account, tally_inspect, tally_capture, log_account, log_inspect,
        log_capture, seen]
      simp [sighted, arrived, received, Tally.plus, empty, archiveOf, isMalformed, Nat.add_assoc,
        Except.toOption, length_filter_singleton, filterMap_cons_toList]

/-- A datagram is counted once. -/
theorem isBalanced_counted (h : Handled) (a : Arrival) : (counted h a).IsBalanced := by
  have seen : framesOf [a] = ((Envelope.decode a.data).toOption.bind fun e =>
      if e.payload = [] then none else some (e.payload, e.seenAt a.time)).toList := by
    rw [framesOf_singleton, Envelope.frameAt?]
    cases Envelope.decode a.data <;> rfl
  rw [Tally.IsBalanced, counted]
  simp only [seen]
  cases (Envelope.decode a.data).toOption with
  | none => rfl
  | some e => by_cases empty : e.payload = [] <;> simp [empty]

/-! ## Histories in which counters are read -/

/-- A step in the history of a pipeline whose counters are read on the way. -/
inductive Metered where
  | event (e : Event)
  | reading (source : SourceKind)

/-- The datagram that arrives with a step. -/
def Metered.arrival? : Metered → Option Arrival
  | .event (.datagram a) => some a
  | _ => none

/-- The datagrams of a history. -/
def arrivalsOf (ms : List Metered) : List Arrival := ms.filterMap Metered.arrival?

theorem arrivalsOf_cons (m : Metered) (ms : List Metered) :
    arrivalsOf (m :: ms) = arrivalsOf [m] ++ arrivalsOf ms := by
  rw [arrivalsOf, filterMap_cons_toList, arrivalsOf, filterMap_cons_toList, List.filterMap_nil,
    List.append_nil]
  rfl

theorem arrivalsOf_singleton (m : Metered) : arrivalsOf [m] = m.arrival?.toList := by
  rw [arrivalsOf, filterMap_cons_toList, List.filterMap_nil, List.append_nil]

theorem framesOf_append (as later : List Arrival) :
    framesOf (as ++ later) = framesOf as ++ framesOf later := List.filterMap_append

/-- What has changed after one step more. -/
def meter (up : Uplink) (h : Handled) : Metered → Handled
  | .event e => step up h e
  | .reading .server => { h with tally := h.tally.read.1 }
  | .reading .archive =>
    { h with pipeline := { h.pipeline with
        archive := h.pipeline.archive.map (·.readCounts.1) } }
  | .reading .flows =>
    { h with pipeline := { h.pipeline with
        exporter := h.pipeline.exporter.map (·.readFlowCounts.1) } }
  | .reading .sender =>
    { h with pipeline := { h.pipeline with
        exporter := h.pipeline.exporter.map (·.readSenderCounts.1) } }

/-- What has changed after a history. -/
def meterAll (up : Uplink) (h : Handled) (ms : List Metered) : Handled := ms.foldl (meter up) h

/-- What a history shows when every step is looked at in turn, beginning with what the step
finds. -/
def trace {α : Type} (up : Uplink) (look : Handled → Metered → List α) (h : Handled) :
    List Metered → List α
  | [] => []
  | m :: ms => look h m ++ trace up look (meter up h m) ms

/-- What a step shows of a datagram. -/
def ofDatagram {α : Type} (look : Handled → Arrival → List α) (h : Handled) (m : Metered) :
    List α :=
  m.arrival?.toList.flatMap (look h)

/-- What a reading returns of the counts of the receiver itself. -/
def tallies (h : Handled) : List Tally := [h.tally.read.2]

/-- What a reading returns of the counts of the archive. -/
def archiveCounts (h : Handled) : List ArchiveCounts :=
  h.pipeline.archive.toList.map (·.readCounts.2)

/-- What a reading returns of the counts of the flow table. -/
def flowCounts (h : Handled) : List FlowCounts :=
  h.pipeline.exporter.toList.map (·.readFlowCounts.2)

/-- What a step returns of the counts of a source. -/
def reading {α : Type} (source : SourceKind) (counts : Handled → List α) (h : Handled) :
    Metered → List α
  | .reading other => if other = source then counts h else []
  | .event _ => []

/-- All that is returned of a source along a history, and by a reading at its end. -/
def told {α : Type} (up : Uplink) (source : SourceKind) (counts : Handled → List α) (h : Handled)
    (ms : List Metered) : List α :=
  trace up (reading source counts) h ms ++ counts (meterAll up h ms)

theorem meterAll_cons (up : Uplink) (h : Handled) (m : Metered) (ms : List Metered) :
    meterAll up h (m :: ms) = meterAll up (meter up h m) ms := rfl

/-- What a history gains when every step is looked at in turn. -/
def gained (up : Uplink) (gain : Handled → Metered → Nat) (h : Handled) : List Metered → Nat
  | [] => 0
  | m :: ms => gain h m + gained up gain (meter up h m) ms

theorem gained_add (up : Uplink) (gain other : Handled → Metered → Nat) (h : Handled)
    (ms : List Metered) :
    gained up (fun h m => gain h m + other h m) h ms =
      gained up gain h ms + gained up other h ms := by
  induction ms generalizing h with
  | nil => rfl
  | cons m ms ih =>
    simp only [gained, ih]
    omega

/-- What is gained by what every step shows is gained by all that is shown. -/
theorem gained_filter {α : Type} (up : Uplink) (look : Handled → Metered → List α)
    (keep : α → Bool) (h : Handled) (ms : List Metered) :
    gained up (fun h m => ((look h m).filter keep).length) h ms =
      ((trace up look h ms).filter keep).length := by
  induction ms generalizing h with
  | nil => rfl
  | cons m ms ih => rw [gained, ih, trace, List.filter_append, List.length_append]

/-- What every step gains by its datagram alone is gained by all datagrams. -/
theorem gained_arrivals (up : Uplink) {gain : Handled → Metered → Nat} {value : List Arrival → Nat}
    (nothing : value [] = 0)
    (append : ∀ as later, value (as ++ later) = value as + value later)
    (one : ∀ h m, gain h m = value (arrivalsOf [m])) (h : Handled) (ms : List Metered) :
    gained up gain h ms = value (arrivalsOf ms) := by
  induction ms generalizing h with
  | nil => exact nothing.symm
  | cons m ms ih => rw [gained, ih, one, arrivalsOf_cons m ms, append]

/-- **Readings lose nothing of what is counted.**  If every step changes an amount by what it tells
and by what it gains, then so does every history. -/
theorem told_run {α : Type} (up : Uplink) (source : SourceKind) (counts : Handled → List α)
    (amount : α → Nat) (gain : Handled → Metered → Nat)
    (one : ∀ h m, ((reading source counts h m).map amount).sum +
        ((counts (meter up h m)).map amount).sum =
      ((counts h).map amount).sum + gain h m)
    (h : Handled) (ms : List Metered) :
    ((told up source counts h ms).map amount).sum =
      ((counts h).map amount).sum + gained up gain h ms := by
  induction ms generalizing h with
  | nil => simp [told, trace, meterAll, gained]
  | cons m ms ih =>
    -- What the first step leaves to be read is what the later steps find.
    have now := one h m
    have later := ih (meter up h m)
    simp only [told, trace, meterAll_cons, gained, List.map_append, List.sum_append] at later ⊢
    omega

/-! ## The counts of the receiver -/

/-- What a step gains by its datagram. -/
def byDatagram (gain : Handled → Arrival → Nat) (h : Handled) (m : Metered) : Nat :=
  (m.arrival?.map (gain h)).getD 0

/-- What a step tells of the tally and leaves of it is what it found and what its datagram adds. -/
theorem tally_meter (up : Uplink) {amount : Tally → Nat} (additive : Tally.IsAmount amount)
    (h : Handled) (m : Metered) :
    ((reading .server tallies h m).map amount).sum + ((tallies (meter up h m)).map amount).sum =
      ((tallies h).map amount).sum + byDatagram (fun h a => amount (counted h a)) h m := by
  have all (t : Tally) : amount t.read.2 = amount t := (additive.read t).1
  match m with
  | .event (.datagram a) =>
    simp only [reading, meter, tallies, tally_step, List.map_cons, List.map_nil, List.sum_singleton,
      List.sum_nil, all, additive.plus]
    exact Nat.zero_add _
  | .event (.sweep now) =>
    have kept : (step up h (.sweep now)).tally = h.tally := by
      unfold step
      simp only
      split <;> rfl
    simp [reading, meter, tallies, kept, byDatagram, Metered.arrival?]
  | .reading .server =>
    simp [reading, meter, tallies, byDatagram, Metered.arrival?, all, (additive.read h.tally).2]
  | .reading .archive => simp [reading, meter, tallies, byDatagram, Metered.arrival?]
  | .reading .flows => simp [reading, meter, tallies, byDatagram, Metered.arrival?]
  | .reading .sender => simp [reading, meter, tallies, byDatagram, Metered.arrival?]

/-- All that is told of an amount of the tally is what the datagrams add to it. -/
theorem told_tallies (up : Uplink) {amount : Tally → Nat} (additive : Tally.IsAmount amount)
    (h : Handled) (ms : List Metered) :
    ((told up .server tallies h ms).map amount).sum =
      amount h.tally + gained up (byDatagram fun h a => amount (counted h a)) h ms := by
  have all := told_run up .server tallies amount _ (tally_meter up additive) h ms
  simpa [tallies, (additive.read h.tally).1] using all

/-- What is told of an amount that depends on the datagrams alone. -/
theorem told_arrivals (up : Uplink) {amount : Tally → Nat} (additive : Tally.IsAmount amount)
    (value : List Arrival → Nat) (append : ∀ as later, value (as ++ later) = value as + value later)
    (one : ∀ h a, amount (counted h a) = value [a]) {h : Handled} (unread : amount h.tally = 0)
    (ms : List Metered) :
    ((told up .server tallies h ms).map amount).sum = value (arrivalsOf ms) := by
  have nothing : value [] = 0 := by
    have twice := append [] []
    rw [List.append_nil] at twice
    omega
  rw [told_tallies up additive, unread, Nat.zero_add, gained_arrivals up nothing append]
  intro h m
  rw [byDatagram, arrivalsOf_singleton]
  cases m.arrival? with
  | none => exact nothing.symm
  | some a => exact one h a

/-- What is told of the datagrams themselves. -/
theorem told_datagrams (up : Uplink) {h : Handled} {greeted : Bool} (unread : h.tally = { greeted })
    (ms : List Metered) :
    let total (amount : Tally → Nat) : Nat := ((told up .server tallies h ms).map amount).sum
    let datagrams := arrivalsOf ms
    total (·.received) = datagrams.length ∧
      total (·.receivedBytes) = (datagrams.map (·.data.length)).sum ∧
      total (·.envelopeErrors) =
        (datagrams.filter fun a => (Envelope.decode a.data).toOption.isNone).length ∧
      total (·.decoded) = (framesOf datagrams).length ∧
      total (·.layerErrors) = ((framesOf datagrams).filter isMalformed).length := by
  intro total datagrams
  have sum_of (amount : Tally → Nat) (additive : Tally.IsAmount amount) (value : List Arrival → Nat)
      (append : ∀ as later, value (as ++ later) = value as + value later)
      (one : ∀ h a, amount (counted h a) = value [a]) : total amount = value datagrams :=
    told_arrivals up additive value append one (by rw [unread, additive.none]) ms
  refine ⟨?_, ?_, ?_, ?_, ?_⟩
  · exact sum_of (·.received) ⟨fun _ _ => rfl, fun _ => rfl⟩ List.length
      (fun _ _ => List.length_append) fun _ _ => rfl
  · exact sum_of (·.receivedBytes) ⟨fun _ _ => rfl, fun _ => rfl⟩
      (fun as => (as.map (·.data.length)).sum)
      (fun _ _ => by rw [List.map_append, List.sum_append]) fun _ _ => List.sum_singleton.symm
  · exact sum_of (·.envelopeErrors) ⟨fun _ _ => rfl, fun _ => rfl⟩
      (fun as => (as.filter fun a : Arrival => (Envelope.decode a.data).toOption.isNone).length)
      (fun _ _ => by rw [List.filter_append, List.length_append])
      fun _ a => (length_filter_singleton
        (fun a : Arrival => (Envelope.decode a.data).toOption.isNone) a).symm
  · exact sum_of (·.decoded) ⟨fun _ _ => rfl, fun _ => rfl⟩ (fun as => (framesOf as).length)
      (fun _ _ => by rw [framesOf_append, List.length_append]) fun _ _ => rfl
  · exact sum_of (·.layerErrors) ⟨fun _ _ => rfl, fun _ => rfl⟩
      (fun as => ((framesOf as).filter isMalformed).length)
      (fun _ _ => by rw [framesOf_append, List.filter_append, List.length_append]) fun _ _ => rfl

/-- What is told of the tally at any time is balanced. -/
theorem isBalanced_told (up : Uplink) {h : Handled} (balanced : h.tally.IsBalanced)
    (ms : List Metered) : ∀ t ∈ told up .server tallies h ms, t.IsBalanced := by
  induction ms generalizing h with
  | nil => simpa [told, trace, tallies, meterAll, Tally.read] using balanced
  | cons m ms ih =>
    have now : ∀ t ∈ reading .server tallies h m, t.IsBalanced := by
      intro t member
      cases m with
      | event e => cases member
      | reading source =>
        rw [reading] at member
        split at member
        · rw [tallies, List.mem_singleton] at member
          exact member ▸ balanced
        · cases member
    have next : (meter up h m).tally.IsBalanced := by
      cases m with
      | event e =>
        cases e with
        | datagram a =>
          simp only [meter, tally_step]
          exact balanced.plus (isBalanced_counted h a)
        | sweep now =>
          simp only [meter, step]
          split <;> exact balanced
      | reading source =>
        cases source with
        | server => exact (rfl : ({ greeted := h.tally.greeted } : Tally).received = _)
        | archive | flows | sender => exact balanced
    intro t member
    rw [told, trace, List.append_assoc, List.mem_append] at member
    rcases member with first | later
    · exact now t first
    · exact ih next t later

/-! ## The counts of the archive -/

/-- What is gained by what a datagram shows is gained by all that is shown. -/
theorem gained_byDatagram {α : Type} (up : Uplink) (look : Handled → Arrival → List α)
    (keep : α → Bool) (h : Handled) (ms : List Metered) :
    gained up (byDatagram fun h a => ((look h a).filter keep).length) h ms =
      ((trace up (ofDatagram look) h ms).filter keep).length := by
  rw [← gained_filter]
  congr 1
  funext h m
  rw [byDatagram, ofDatagram]
  cases m.arrival? with
  | none => rfl
  | some a => simp

/-- What a datagram does to the archive. -/
theorem archiveOf_step_cases (up : Uplink) (h : Handled) (a : Arrival) :
    (framesOf [a] = [] ∧ archiveOf (step up h (.datagram a)) = archiveOf h ∧
        captureAnswers h a = []) ∨
      ∃ w, (framesOf [a]).length = 1 ∧
        archiveOf (step up h (.datagram a)) = Archive.give (archiveOf h) w ∧
        captureAnswers h a = (Archive.answer? (archiveOf h) w).toList := by
  rw [archiveOf_step, captureAnswers, forArchive, given_singleton, framesOf_singleton]
  cases Envelope.frameAt? a.data a.time with
  | none => exact Or.inl ⟨rfl, rfl, rfl⟩
  | some seen =>
    refine Or.inr ⟨_, rfl, rfl, ?_⟩
    rw [Option.map_some, Option.toList_some, filterMap_cons_toList, List.filterMap_nil,
      List.append_nil]

/-- No step takes the archive away. -/
theorem isSome_archive_meter (up : Uplink) (h : Handled) (m : Metered) :
    (meter up h m).pipeline.archive.isSome = h.pipeline.archive.isSome := by
  match m with
  | .event (.datagram a) =>
    change (archiveOf (step up h (.datagram a))).2.isSome = (archiveOf h).2.isSome
    rcases archiveOf_step_cases up h a with ⟨-, same, -⟩ | ⟨w, -, after, -⟩
    · rw [same]
    · rw [after, Archive.give]
      cases present : (archiveOf h).2 <;> simp [present]
  | .event (.sweep now) =>
    simp only [meter, step]
    split <;> rfl
  | .reading .server => rfl
  | .reading .archive => simp [meter]
  | .reading .flows => rfl
  | .reading .sender => rfl

/-- A step tells of the archive's counts and leaves of them what it found and the frame that the
archive takes. -/
theorem archiveCounts_meter (up : Uplink) (h : Handled) (m : Metered) :
    ((reading .archive archiveCounts h m).map (·.frames)).sum +
        ((archiveCounts (meter up h m)).map (·.frames)).sum =
      ((archiveCounts h).map (·.frames)).sum +
        byDatagram (fun h a => ((captureAnswers h a).filter Option.isNone).length) h m := by
  match m with
  | .event (.datagram a) =>
    change 0 + (((archiveOf (step up h (.datagram a))).2.toList.map (·.counts)).map
        (·.frames)).sum = (((archiveOf h).2.toList.map (·.counts)).map (·.frames)).sum +
        ((captureAnswers h a).filter Option.isNone).length
    rcases archiveOf_step_cases up h a with ⟨-, same, none_⟩ | ⟨w, -, after, answers⟩
    · rw [same, none_]
      exact Nat.zero_add _
    · rw [after, answers, Archive.give, Archive.answer?]
      cases present : (archiveOf h).2 with
      | none => simp [present]
      | some archive =>
        have frames := archive.frames_write (archiveOf h).1 w.1 w.2.1 w.2.2
        simp [frames, length_filter_singleton]
  | .event (.sweep now) =>
    have kept : (step up h (.sweep now)).pipeline.archive = h.pipeline.archive := by
      simp only [step]
      split <;> rfl
    simp [reading, meter, archiveCounts, kept, byDatagram, Metered.arrival?]
  | .reading .server => simp [reading, meter, archiveCounts, byDatagram, Metered.arrival?]
  | .reading .archive =>
    cases present : h.pipeline.archive <;>
      simp [reading, meter, archiveCounts, byDatagram, Metered.arrival?, present,
        Archive.readCounts]
  | .reading .flows => simp [reading, meter, archiveCounts, byDatagram, Metered.arrival?]
  | .reading .sender => simp [reading, meter, archiveCounts, byDatagram, Metered.arrival?]

/-- The pipeline and the archive count the same frames as captured. -/
theorem told_captured (up : Uplink) {h : Handled} {greeted : Bool} (unread : h.tally = { greeted })
    (new : ∀ a, h.pipeline.archive = some a → a.counts = {}) (ms : List Metered) :
    ((told up .server tallies h ms).map (·.captured)).sum =
        ((trace up (ofDatagram captureAnswers) h ms).filter Option.isNone).length ∧
      ((told up .archive archiveCounts h ms).map (·.frames)).sum =
        ((trace up (ofDatagram captureAnswers) h ms).filter Option.isNone).length := by
  have none_ : ((archiveCounts h).map (·.frames)).sum = 0 := by
    rw [archiveCounts]
    cases present : h.pipeline.archive with
    | none => rfl
    | some a => simp [Archive.readCounts, new a present]
  constructor
  · rw [told_tallies up ⟨fun _ _ => rfl, fun _ => rfl⟩, unread, Nat.zero_add, ← gained_byDatagram]
    rfl
  · rw [told_run up .archive archiveCounts (·.frames) _ (archiveCounts_meter up), none_,
      Nat.zero_add, gained_byDatagram]

/-- Refused frames and refused lines are the output errors. -/
theorem told_outputErrors (up : Uplink) {h : Handled} {greeted : Bool}
    (unread : h.tally = { greeted }) (ms : List Metered) :
    ((told up .server tallies h ms).map (·.outputErrors)).sum =
      ((trace up (ofDatagram captureAnswers) h ms).filter Option.isSome).length +
        (trace up (ofDatagram metadataFaults) h ms).length := by
  have all (faults : List Fault) : (faults.filter fun _ => true).length = faults.length := by
    rw [List.filter_true]
  rw [told_tallies up ⟨fun _ _ => rfl, fun _ => rfl⟩, unread, Nat.zero_add, ← gained_byDatagram,
    ← all (trace up (ofDatagram metadataFaults) h ms), ← gained_byDatagram, ← gained_add]
  congr 1
  funext h m
  simp only [byDatagram]
  cases m.arrival? with
  | none => rfl
  | some a => simp [counted]

/-- An archive answers to every frame. -/
theorem length_captureAnswers (up : Uplink) {h : Handled} (present : h.pipeline.archive.isSome)
    (ms : List Metered) :
    (trace up (ofDatagram captureAnswers) h ms).length = (framesOf (arrivalsOf ms)).length := by
  induction ms generalizing h with
  | nil => rfl
  | cons m ms ih =>
    have one : (ofDatagram captureAnswers h m).length = (framesOf (arrivalsOf [m])).length := by
      rw [ofDatagram, arrivalsOf_singleton]
      cases m.arrival? with
      | none => rfl
      | some a =>
        rw [Option.toList_some, List.flatMap_cons, List.flatMap_nil, List.append_nil]
        rcases archiveOf_step_cases up h a with ⟨noFrame, -, none_⟩ | ⟨w, frame, -, answers⟩
        · rw [noFrame, none_]
          rfl
        · obtain ⟨archive, here⟩ := Option.isSome_iff_exists.mp present
          rw [frame, answers, Archive.answer?, archiveOf, here]
          rfl
    rw [trace, List.length_append, ih (by rwa [isSome_archive_meter]), arrivalsOf_cons m ms,
      framesOf_append, List.length_append, one]

/-! ## The counts of the flow table -/

/-- What a step asks of the exporter. -/
def Metered.exporterEvents : Metered → List Exporter.Event
  | .event e => (exporterEvent? e).toList
  | .reading .flows => [.readFlowCounts]
  | .reading .sender => [.readSenderCounts]
  | .reading _ => []

/-- A step of a pipeline is a step of its exporter, or none, also where counters are read. -/
theorem exporter_meter (up : Uplink) {h : Handled} {x : Exporter}
    (sink : h.pipeline.exporter = some x) (m : Metered) :
    (meter up h m).pipeline.exporter = some (x.run up m.exporterEvents).1 ∧
      (meter up h m).exported = h.exported ++ (x.run up m.exporterEvents).2.flatten ∧
      reading .flows flowCounts h m = x.trace up Exporter.flowReading m.exporterEvents := by
  match m with
  | .event e =>
    obtain ⟨after, exported⟩ := exporter_step up sink e
    refine ⟨after, exported, ?_⟩
    cases e with
    | datagram a =>
      rw [Metered.exporterEvents, exporterEvent?]
      cases (Sighting.ofDatagram a.data a.time).toOption <;> rfl
    | sweep now => rfl
  | .reading .server => exact ⟨sink, (List.append_nil _).symm, rfl⟩
  | .reading .archive => exact ⟨sink, (List.append_nil _).symm, rfl⟩
  | .reading .flows =>
    refine ⟨?_, (List.append_nil _).symm, ?_⟩
    · simp [meter, sink, Metered.exporterEvents, Exporter.run, Exporter.step]
    · simp [reading, flowCounts, sink, Metered.exporterEvents, Exporter.trace,
        Exporter.flowReading, Exporter.readFlowCounts, FlowTable.readCounts]
  | .reading .sender =>
    refine ⟨?_, (List.append_nil _).symm, rfl⟩
    simp [meter, sink, Metered.exporterEvents, Exporter.run, Exporter.step]

/-- A history of a pipeline is a history of its exporter, also where counters are read. -/
theorem exporter_meterAll (up : Uplink) {h : Handled} {x : Exporter}
    (sink : h.pipeline.exporter = some x) (ms : List Metered) :
    (meterAll up h ms).pipeline.exporter = some (x.run up (ms.flatMap Metered.exporterEvents)).1 ∧
      (meterAll up h ms).exported =
        h.exported ++ (x.run up (ms.flatMap Metered.exporterEvents)).2.flatten ∧
      trace up (reading .flows flowCounts) h ms =
        x.trace up Exporter.flowReading (ms.flatMap Metered.exporterEvents) := by
  induction ms generalizing h x with
  | nil => exact ⟨sink, (List.append_nil _).symm, rfl⟩
  | cons m ms ih =>
    obtain ⟨sinkNow, exportedNow, toldNow⟩ := exporter_meter up sink m
    obtain ⟨sinkLater, exportedLater, toldLater⟩ := ih sinkNow
    rw [List.flatMap_cons, Exporter.run_append, Exporter.trace_append]
    refine ⟨sinkLater, ?_, ?_⟩
    · rw [List.flatten_append, ← List.append_assoc, ← exportedNow]
      exact exportedLater
    · rw [trace, toldNow, toldLater]

/-- The packet that a step asks an exporter to account. -/
def packet? : Exporter.Event → Option Packet
  | .packet p _ => some p
  | _ => none

/-- The table is asked to account the packets that the exporter is asked to account. -/
theorem packetsIn_tableHistory (up : Uplink) (x : Exporter) (es : List Exporter.Event) :
    FlowTable.packetsIn (x.tableHistory up es) = es.filterMap packet? := by
  induction es generalizing x with
  | nil => rfl
  | cons e es ih =>
    have own : FlowTable.packetsIn (x.tableEvents e) = (packet? e).toList := by
      cases e with
      | packet p now => rfl
      | sweep now =>
        rw [Exporter.tableEvents]
        split <;> rfl
      | start => rfl
      | stop =>
        rw [Exporter.tableEvents]
        split <;> rfl
      | readFlowCounts => rfl
      | readSenderCounts => rfl
    rw [Exporter.tableHistory_cons, FlowTable.packetsIn_append, ih, own, filterMap_cons_toList]

/-- The exporter is asked to account the packets of the frames that arrive. -/
theorem filterMap_packet? (ms : List Metered) :
    (ms.flatMap Metered.exporterEvents).filterMap packet? =
      (framesOf (arrivalsOf ms)).map fun frame => (Packet.decode frame.1 frame.2).1 := by
  induction ms with
  | nil => rfl
  | cons m ms ih =>
    rw [List.flatMap_cons, List.filterMap_append, ih, arrivalsOf_cons m ms, framesOf_append,
      List.map_append, arrivalsOf_singleton]
    congr 1
    match m with
    | .event (.datagram a) =>
      rw [Metered.exporterEvents, exporterEvent?, Metered.arrival?, Option.toList_some,
        framesOf_singleton, Sighting.frameAt?_eq]
      cases (Sighting.ofDatagram a.data a.time).toOption <;> rfl
    | .event (.sweep now) => rfl
    | .reading .server => rfl
    | .reading .archive => rfl
    | .reading .flows => rfl
    | .reading .sender => rfl

/-- A frame whose packet has a flow, or has none, is one with a flow, or without. -/
theorem length_filter_decode (keep : Option FlowKey → Bool) (frames : List (Bytes × Duration)) :
    ((frames.map fun frame => (Packet.decode frame.1 frame.2).1).filter fun p =>
        keep (FlowKey.ofPacket? p)).length =
      (frames.filter fun frame => keep (Packet.flowOf? frame.1)).length := by
  rw [List.filter_map, List.length_map]
  congr 2
  funext frame
  rw [Function.comp_apply, Packet.ofPacket?_decode]

/-- What a new exporter counts as skipped are the frames without a flow. -/
theorem skipped_told (up : Uplink) {h : Handled} {x : Exporter}
    (sink : h.pipeline.exporter = some x) (ms : List Metered) :
    ((told up .flows flowCounts h ms).map (·.skipped)).sum =
      x.table.counts.skipped + ((framesOf (arrivalsOf ms)).filter fun frame =>
        (Packet.flowOf? frame.1).isNone).length := by
  obtain ⟨after, -, readings⟩ := exporter_meterAll up sink ms
  have skipped := FlowTable.skipped_run x.table
    (x.tableHistory up (ms.flatMap Metered.exporterEvents))
  rw [packetsIn_tableHistory, filterMap_packet?, length_filter_decode Option.isNone,
    ← Exporter.trace_flowReading, ← Exporter.table_run] at skipped
  rw [told, readings, flowCounts, after]
  simpa [Exporter.readFlowCounts, FlowTable.readCounts] using skipped

/-- The records that leave the table and the open ones tell of the frames with a flow. -/
theorem packetTotal_meterAll (up : Uplink) {h : Handled} (idle active : Duration)
    (collector : SocketAddr)
    (sink : h.pipeline.exporter = some (Exporter.fresh idle active collector).start)
    (silent : h.exported = []) (ms : List Metered) :
    ∀ x ∈ (meterAll up h ms).pipeline.exporter,
      (FlowTable.packetTotal ((meterAll up h ms).exported.map (·.record)) +
          FlowTable.packetTotal x.table.records) % 2 ^ 32 =
        ((framesOf (arrivalsOf ms)).filter fun frame =>
          (Packet.flowOf? frame.1).isSome).length % 2 ^ 32 := by
  obtain ⟨after, exported, -⟩ := exporter_meterAll up sink ms
  intro x here
  rw [after, Option.mem_some_iff] at here
  rw [exported, silent, List.nil_append, Exporter.handed_run, Netflow.Sender.record_handovers,
    ← here, Exporter.table_run]
  have accounted := FlowTable.packetTotal_run (FlowTable.distinct_empty idle active)
    ((Exporter.fresh idle active collector).start.tableHistory up
      (ms.flatMap Metered.exporterEvents))
  rw [packetsIn_tableHistory, filterMap_packet?, length_filter_decode Option.isSome] at accounted
  exact accounted.trans (congrArg (· % 2 ^ 32) (Nat.zero_add _))

/-- What all readings of an amount of the tally add up to. -/
def tallied (up : Uplink) (h : Handled) (ms : List Metered) (amount : Tally → Nat) : Nat :=
  ((told up .server tallies h ms).map amount).sum

/-- The frames with a flow among those of a history. -/
def keyedOf (ms : List Metered) : List (Bytes × Duration) :=
  (framesOf (arrivalsOf ms)).filter fun frame => (Packet.flowOf? frame.1).isSome

/-- The refusals of the archive in a history. -/
def refusalsIn (up : Uplink) (h : Handled) (ms : List Metered) : List (Option Fault) :=
  (trace up (ofDatagram captureAnswers) h ms).filter Option.isSome

/-- Every datagram of a history is counted once, in all readings together. -/
structure CountsOnce (up : Uplink) (h : Handled) (ms : List Metered) : Prop where
  received : tallied up h ms (·.received) = (arrivalsOf ms).length
  receivedBytes : tallied up h ms (·.receivedBytes) = ((arrivalsOf ms).map (·.data.length)).sum
  envelopeErrors : tallied up h ms (·.envelopeErrors) =
    ((arrivalsOf ms).filter fun a => (Envelope.decode a.data).toOption.isNone).length
  decoded : tallied up h ms (·.decoded) = (framesOf (arrivalsOf ms)).length
  partition : tallied up h ms (·.received) =
    tallied up h ms (·.envelopeErrors) + tallied up h ms (·.emptyPayload) +
      tallied up h ms (·.decoded)
  /-- Each single reading tells of whole datagrams. -/
  balanced : ∀ t ∈ told up .server tallies h ms,
    t.received = t.envelopeErrors + t.emptyPayload + t.decoded
  layerErrors :
    tallied up h ms (·.layerErrors) = ((framesOf (arrivalsOf ms)).filter isMalformed).length
  /-- Where there is an archive it takes a frame or refuses it. -/
  captured : h.pipeline.archive.isSome →
    tallied up h ms (·.captured) + (refusalsIn up h ms).length = tallied up h ms (·.decoded)
  /-- The archive counts the frames that it takes, too. -/
  written : h.pipeline.archive.isSome → tallied up h ms (·.captured) =
    ((told up .archive archiveCounts h ms).map (·.frames)).sum
  outputErrors : tallied up h ms (·.outputErrors) =
    (refusalsIn up h ms).length + (trace up (ofDatagram metadataFaults) h ms).length
  /-- Where there is an exporter it skips a frame or accounts it in a flow. -/
  skipped : h.pipeline.exporter.isSome → tallied up h ms (·.decoded) =
    ((told up .flows flowCounts h ms).map (·.skipped)).sum + (keyedOf ms).length
  /-- The records that were exported and the open ones tell so. -/
  accounted : h.pipeline.exporter.isSome → ∀ x ∈ (meterAll up h ms).pipeline.exporter,
    (FlowTable.packetTotal ((meterAll up h ms).exported.map (·.record)) +
      FlowTable.packetTotal x.table.records) % 2 ^ 32 = (keyedOf ms).length % 2 ^ 32
  shown : ∀ c ∈ Tally.amounts,
    let shown := Counter.shownAll c.1 ((told up .server tallies h ms).map (·.counters))
    shown % 2 ^ 64 = tallied up h ms c.2 % 2 ^ 64 ∧
      ((∀ t ∈ told up .server tallies h ms, c.2 t < 2 ^ 64) → shown = tallied up h ms c.2)
  shownWritten :
    let all := told up .archive archiveCounts h ms
    let shown := Counter.shownAll "written-count" (all.map (·.counters))
    shown % 2 ^ 64 = (all.map (·.frames)).sum % 2 ^ 64 ∧
      ((∀ c ∈ all, c.frames < 2 ^ 64) → shown = (all.map (·.frames)).sum)
  shownSkipped :
    let all := told up .flows flowCounts h ms
    let shown := Counter.shownAll "skipped" (all.map (·.counters))
    shown % 2 ^ 64 = (all.map (·.skipped)).sum % 2 ^ 64 ∧
      ((∀ c ∈ all, c.skipped < 2 ^ 64) → shown = (all.map (·.skipped)).sum)

/-- **Every datagram is counted once.**  Datagrams and sweeps come to a new pipeline in any order,
whatever sinks are open and whatever the host answers, and anybody reads any counters on the way.
Then all that the readings return, with one at the end, adds up to this: the datagrams are received,
with their bytes; each of them is rejected, empty or decoded, also in every single reading; the
malformed frames are layer errors; every frame is captured or refused, the archive counts as many as
the pipeline does, and refused frames and lines are the output errors; every frame is skipped or
accounted in a flow, and the records tell so.  The counters show these sums as far as 64 bits can
say them. -/
theorem told_partitions (up : Uplink) (disk : Disk) (greeted : Bool) {archive : Option Archive}
    (unread : ∀ a, archive = some a → a.counts = {}) (log : Option MetadataLog)
    (netflow : Option (Duration × Duration × SocketAddr)) (ms : List Metered) :
    let exporter := netflow.map fun n => (Exporter.fresh n.1 n.2.1 n.2.2).start
    CountsOnce up { disk, tally := { greeted }, pipeline := { archive, log, exporter } } ms := by
  intro exporter
  let opened : Handled := { disk, tally := { greeted }, pipeline := { archive, log, exporter } }
  have balanced : ∀ t ∈ told up .server tallies opened ms, t.IsBalanced :=
    isBalanced_told up (h := opened) (rfl : (0 : Nat) = _) ms
  obtain ⟨received, receivedBytes, envelopeErrors, decoded, layerErrors⟩ :=
    told_datagrams up (h := opened) rfl ms
  have decoded : tallied up opened ms (·.decoded) = (framesOf (arrivalsOf ms)).length := decoded
  obtain ⟨captured, written⟩ := told_captured up (h := opened) rfl unread ms
  exact {
    received, receivedBytes, envelopeErrors, decoded, layerErrors, balanced
    partition := Tally.sum_of_isBalanced balanced
    captured := fun present => by
      have answered := length_captureAnswers up (h := opened) present ms
      have either := List.length_eq_length_filter_add
        (l := trace up (ofDatagram captureAnswers) opened ms) Option.isNone
      simp only [Option.not_isNone] at either
      rw [decoded, show tallied up opened ms (·.captured) = _ from captured, ← answered, either]
      rfl
    written := fun _ => captured.trans written.symm
    outputErrors := told_outputErrors up (h := opened) rfl ms
    skipped := fun present => by
      obtain ⟨n, rfl⟩ := Option.isSome_iff_exists.mp (Option.isSome_map.symm.trans present)
      have skipped := skipped_told up (h := opened) rfl ms
      have either := List.length_eq_length_filter_add (l := framesOf (arrivalsOf ms)) fun frame =>
        (Packet.flowOf? frame.1).isNone
      simp only [Option.not_isNone] at either
      rw [decoded, skipped, either]
      exact congrArg (· + (keyedOf ms).length) (Nat.zero_add _).symm
    accounted := fun present => by
      obtain ⟨n, rfl⟩ := Option.isSome_iff_exists.mp (Option.isSome_map.symm.trans present)
      exact packetTotal_meterAll up n.1 n.2.1 n.2.2 (h := opened) rfl rfl ms
    shown := fun c member =>
      have shows := Tally.shown_counters member
      ⟨Counter.shownAll_mod shows _, Counter.shownAll_eq_sum_of_lt shows⟩
    shownWritten := ⟨Counter.shownAll_mod (fun _ => rfl) _,
      Counter.shownAll_eq_sum_of_lt fun _ => rfl⟩
    shownSkipped := ⟨Counter.shownAll_mod (fun _ => rfl) _,
      Counter.shownAll_eq_sum_of_lt fun _ => rfl⟩ }

/-- A datagram of another version and a frame that is too short for its link layer, with readings on
the way: two datagrams are received, one is rejected, and one frame is malformed, captured and
skipped. -/
theorem told_partitions_malformed_frame :
    let source : SocketAddr := { ip := .v4 default, port := 37008 }
    let arrival (data : Bytes) : Arrival := { data, source, time := .zero, now := .zero }
    let ms : List Metered :=
      [.event (.datagram (arrival [2, 0, 0, 1, 1, 7])), .reading .server,
        .event (.datagram (arrival [1, 0, 0, 1, 13, 4, 0, 0, 0, 9, 1, 0xde, 0xad])),
        .reading .archive, .reading .flows]
    let archive : Archive :=
      { path := ⟨[], "capture"⟩, limit := 0, backups := 0, place := ["capture"], pending := [] }
    let exporter := (Exporter.fresh .zero .zero { ip := .v4 default, port := 2055 }).start
    let up : Uplink := { clock := fun _ => .zero }
    let opened : Handled :=
      { disk := {}
        tally := { greeted := false }
        pipeline := { archive := some archive, exporter } }
    let total (amount : Tally → Nat) : Nat := ((told up .server tallies opened ms).map amount).sum
    total (·.received) = 2 ∧ total (·.envelopeErrors) = 1 ∧ total (·.decoded) = 1 ∧
      total (·.layerErrors) = 1 ∧
      ((told up .flows flowCounts opened ms).map (·.skipped)).sum = 1 := by
  intro source arrival ms archive exporter up opened total
  have datagrams : arrivalsOf ms = [arrival [2, 0, 0, 1, 1, 7],
      arrival [1, 0, 0, 1, 13, 4, 0, 0, 0, 9, 1, 0xde, 0xad]] := rfl
  have frames : framesOf (arrivalsOf ms) = [([0xde, 0xad], .ofSecs 9)] := by
    rw [datagrams]
    simp [framesOf, arrival, Envelope.frameAt?, Envelope.decode, Envelope.decodeTags,
      Envelope.supportedVersion, TagKind.ofNumber, Envelope.seenAt, Bytes.ofBigEndian]
  have unread : ∀ a, some archive = some a → a.counts = {} := by
    rintro _ ⟨⟩
    rfl
  have counts : CountsOnce up opened ms := told_partitions up {} false unread none
    (some (.zero, .zero, { ip := .v4 default, port := 2055 })) ms
  have decoded := counts.decoded
  have malformed := counts.layerErrors
  have partition := counts.skipped rfl
  rw [frames] at decoded malformed
  rw [keyedOf, frames] at partition
  refine ⟨counts.received, counts.envelopeErrors.trans ?_, decoded, malformed.trans ?_, ?_⟩
  · simp [datagrams, arrival, Envelope.decode, Envelope.decodeTags, Envelope.supportedVersion,
      TagKind.ofNumber, Except.toOption]
  · decide
  · rw [decoded] at partition
    have unkeyed : (Packet.flowOf? [0xde, 0xad]).isSome = false := by decide
    simpa [unkeyed] using partition.symm

end Pipeline

end Wiretap
