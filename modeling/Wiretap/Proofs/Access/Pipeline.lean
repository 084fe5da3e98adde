import Wiretap.Proofs.Access.Envelope
import Wiretap.Proofs.Access.Frame
import Wiretap.Proofs.Packet.Decode
import Wiretap.Proofs.Time.Calendar
import Wiretap.Receiver.Pipeline

/-!
# Datagrams are handled within their bounds

Handling a datagram, with every access to its bytes checked, is handling it as the library does.  So
no datagram makes an access lead out of range, whatever lengths it names.

## Main definitions

* `Checked.sighting`, `Checked.capture`, `Checked.describe` - the steps of a pipeline that look into
  a datagram or show its time.
* `Checked.handle` - what a datagram does to disk, counts and sinks.

## Main statements

* `Checked.sighting_eq`, `Checked.capture_eq`, `Checked.describe_eq` - no step leaves its range.
* `Checked.handle_eq` - no datagram does, and none brings the receiver down.

## Design notes

The one access that does not concern bytes is to the calendar, which ends.  The time of a frame is
the one that its envelope names, which 32 bits cannot lead out of the calendar, or the time of
arrival, of which the statement wants that the calendar can show it.
-/

namespace Wiretap

namespace Checked

/-! ## The steps of a pipeline -/

/-- The frame in a datagram that arrived at a given time. -/
def sighting (data : Bytes) (arrival : Duration) : Checked (Except DropReason Sighting) := do
  match ← envelope data with
  | .error e => return .error (.rejected e)
  | .ok envelope =>
    if envelope.payload = [] then return .error (.noFrame envelope.purpose)
    else
      let named ← timestamp envelope
      return .ok { envelope, frame := envelope.payload, time := named.getD arrival }

/-- The record of a frame, with the bytes that it has room for. -/
def record (frame : Bytes) (time : Duration) : Checked Capture.Record := do
  let data ← slice frame 0 (min frame.length Capture.snapLength)
  return { Capture.Record.ofFrame frame time with data }

/-- Appends the record of a frame to an archive. -/
def writeRecord (d : Disk) (a : Archive) (frame : Bytes) (time : Duration)
    (refused : Option Archive.Refusal) : Checked (Disk × Archive × Option Fault) :=
  let (d, a, fault) := if a.isFull then a.rotate d refused else (d, a, none)
  match fault with
  | some fault => return (d, a, some fault)
  | none => do
    let record ← record frame time
    match refused with
    | some (.record fault kept) => return (d, a.leave (record.encode.take kept), some fault)
    | _ => return (d, a.append record, none)

/-- Gives a frame to the capture archive. -/
def capture (h : Handled) (s : Sighting) (refused : Option Archive.Refusal) : Checked Handled :=
  match h.pipeline.archive with
  | none => return h
  | some archive => do
    let answer ← writeRecord h.disk archive s.frame s.time refused
    return Pipeline.stored h answer

/-- The line of a packet, whose time the calendar has to show. -/
def line (format : LineFormat) (p : Packet) : Checked String :=
  match Calendar.stamp? p.time with
  | none => .error (.calendar p.time)
  | some stamp => return Metadata.render format (Metadata.fields stamp p)

/-- Gives a packet to the metadata log. -/
def describe (h : Handled) (p : Packet) (refused : Option Fault) : Checked Handled :=
  match h.pipeline.log with
  | none => return h
  | some log => do
    let line ← line log.format p
    match refused with
    | some fault => return Pipeline.described h (.error (.refused fault))
    | none =>
      return Pipeline.described h (.ok { log with pending := (line ++ "\n") :: log.pending })

/-- Handles a datagram. -/
def handle (up : Netflow.Uplink) (disk : Disk) (tally : Tally) (pipeline : Pipeline) (a : Arrival) :
    Checked Handled := do
  let h := Pipeline.arrived disk tally pipeline a
  match ← sighting a.data a.time with
  | .error reason => return Pipeline.dropped h a.source reason
  | .ok s =>
    let captured ← capture (Pipeline.sighted h a s) s a.captureFault
    let (packet, error) ← frame s.frame s.time
    let inspected := Pipeline.inspect captured a.source packet error
    describe (Pipeline.account up inspected packet a.now) packet a.metadataFault

/-! ## Looking into a datagram -/

/-- Looking for the frame in a datagram stays within the datagram. -/
theorem sighting_eq (data : Bytes) (arrival : Duration) :
    sighting data arrival = .ok (Sighting.ofDatagram data arrival) := by
  rw [sighting, envelope_eq, ok_bind, Sighting.ofDatagram]
  cases Envelope.decode data with
  | error e => rfl
  | ok envelope =>
    simp only
    by_cases empty : envelope.payload = []
    · rw [if_pos empty, if_pos empty]
      rfl
    · rw [if_neg empty, if_neg empty, timestamp_eq]
      rfl

/-- The calendar can show the time of a frame if it can show the time of its arrival. -/
theorem isSome_stamp?_sighting {data : Bytes} {arrival : Duration} {s : Sighting}
    (seen : Sighting.ofDatagram data arrival = .ok s)
    (shown : (Calendar.stamp? arrival).isSome) : (Calendar.stamp? s.time).isSome := by
  unfold Sighting.ofDatagram at seen
  split at seen
  · cases seen
  · next envelope _ =>
    split at seen
    · cases seen
    · cases seen
      -- Whatever the envelope names has 32 bits; otherwise the time is the one of arrival.
      cases named : envelope.timestamp? with
      | none => exact shown
      | some time =>
        rw [Envelope.timestamp?, Option.bind_eq_some_iff] at named
        obtain ⟨tag, _, readable⟩ := named
        obtain ⟨secs, _, rfl⟩ := Option.map_eq_some_iff.mp readable
        exact Calendar.isSome_stamp?_of_secs secs

/-! ## Capture and metadata -/

/-- The bytes that a record has room for are there. -/
theorem record_eq (frame : Bytes) (time : Duration) :
    record frame time = .ok (.ofFrame frame time) := by
  have part : (frame.drop 0).take (min frame.length Capture.snapLength - 0) =
      frame.take Capture.snapLength := by
    rw [List.drop_zero, Nat.sub_zero, Nat.min_comm, ← List.take_take, List.take_length]
  rw [record, slice_of_le (Nat.zero_le _) (Nat.min_le_left _ _), ok_bind, part]
  rfl

/-- Appending the record of a frame stays within the frame. -/
theorem writeRecord_eq (d : Disk) (a : Archive) (frame : Bytes) (time : Duration)
    (refused : Option Archive.Refusal) :
    writeRecord d a frame time refused = .ok (a.write d frame time refused) := by
  unfold writeRecord Archive.write
  simp only
  -- Whether the archive was turned over first does not matter to the bytes of the record.
  generalize (if a.isFull then a.rotate d refused else (d, a, none)) = turned
  obtain ⟨disk, archive, fault⟩ := turned
  cases fault with
  | some e => rfl
  | none =>
    simp only
    rw [record_eq, ok_bind]
    cases refused with
    | none => rfl
    | some refusal => cases refusal <;> rfl

/-- Capturing a frame stays within the frame. -/
theorem capture_eq (h : Handled) (s : Sighting) (refused : Option Archive.Refusal) :
    capture h s refused = .ok (Pipeline.capture h s refused) := by
  unfold capture Pipeline.capture
  cases h.pipeline.archive with
  | none => rfl
  | some archive =>
    simp only
    rw [writeRecord_eq]
    rfl

/-- A packet whose time the calendar can show has a line. -/
theorem line_eq (format : LineFormat) {p : Packet} (shown : (Calendar.stamp? p.time).isSome) :
    ∃ text, Metadata.line? format p = some text ∧ line format p = .ok text := by
  obtain ⟨stamp, stamped⟩ := Option.isSome_iff_exists.mp shown
  refine ⟨Metadata.render format (Metadata.fields stamp p), ?_, ?_⟩
  · rw [Metadata.line?, stamped, Option.map_some]
  · rw [line, stamped]
    rfl

/-- What a log answers to a packet that has a line. -/
theorem write_of_line {log : MetadataLog} {p : Packet} {text : String}
    (read : Metadata.line? log.format p = some text) (refused : Option Fault) :
    log.write p refused =
      match refused with
      | some fault => .error (.refused fault)
      | none => .ok { log with pending := (text ++ "\n") :: log.pending } := by
  -- Unfolding `write` as a whole would have the kernel compare years with the end of the calendar.
  cases refused with
  | some fault => exact MetadataLog.write.eq_2 log p fault text read
  | none => exact MetadataLog.write.eq_3 log p text read

/-- Describing a packet stays within the calendar if its time does. -/
theorem describe_eq (h : Handled) {p : Packet} (shown : (Calendar.stamp? p.time).isSome)
    (refused : Option Fault) :
    describe h p refused = .ok (Pipeline.describe h p refused) := by
  unfold describe Pipeline.describe
  cases h.pipeline.log with
  | none => rfl
  | some log =>
    obtain ⟨text, read, checked⟩ := line_eq log.format shown
    simp only
    rw [checked, ok_bind, write_of_line read]
    cases refused <;> rfl

/-! ## The receiver stays up -/

theorem crashed_capture (h : Handled) (s : Sighting) (refused : Option Archive.Refusal) :
    (Pipeline.capture h s refused).crashed = h.crashed := by
  unfold Pipeline.capture
  split
  · rfl
  · next archive _ =>
    obtain ⟨disk, archive, fault⟩ := archive.write h.disk s.frame s.time refused
    cases fault <;> rfl

theorem crashed_inspect (h : Handled) (source : SocketAddr) (p : Packet)
    (error : Option LayerError) : (Pipeline.inspect h source p error).crashed = h.crashed := by
  cases error <;> rfl

theorem crashed_account (up : Netflow.Uplink) (h : Handled) (p : Packet) (now : Duration) :
    (Pipeline.account up h p now).crashed = h.crashed := by
  unfold Pipeline.account
  split <;> rfl

/-- A packet whose time the calendar can show does not bring the receiver down. -/
theorem crashed_describe (h : Handled) {p : Packet} (shown : (Calendar.stamp? p.time).isSome)
    (refused : Option Fault) : (Pipeline.describe h p refused).crashed = h.crashed := by
  unfold Pipeline.describe
  split
  · rfl
  · next log _ =>
    obtain ⟨text, read, _⟩ := line_eq log.format shown
    rw [write_of_line read]
    cases refused <;> rfl

/-- **No datagram leads out of range.**  Whatever bytes a datagram has, whatever the sinks hold and
whatever the host answers, handling it with every access checked comes to its end and does what the
library does, and the receiver stays up.  The calendar must be able to show the time of arrival. -/
theorem handle_eq (up : Netflow.Uplink) (disk : Disk) (tally : Tally) (pipeline : Pipeline)
    (a : Arrival) (within : (Date.ofDays (a.time.secs / 86400)).year ≤ Calendar.lastYear) :
    handle up disk tally pipeline a = .ok (pipeline.handle up disk tally a) ∧
      (pipeline.handle up disk tally a).crashed = false := by
  rw [handle, Pipeline.handle, sighting_eq, ok_bind]
  simp only
  cases seen : Sighting.ofDatagram a.data a.time with
  | error reason => cases reason <;> exact ⟨rfl, rfl⟩
  | ok s =>
    have shown : (Calendar.stamp? (Packet.decode s.frame s.time).1.time).isSome := by
      rw [Packet.decode_time]
      exact isSome_stamp?_sighting seen (Calendar.isSome_stamp? within)
    simp only
    constructor
    · rw [capture_eq, ok_bind, frame_eq, ok_bind]
      exact describe_eq _ shown a.metadataFault
    · rw [crashed_describe _ shown, crashed_account, crashed_inspect, crashed_capture]
      rfl

/-- A tag that names more bytes than follow, with a log open. -/
theorem handle_eq_overflow :
    let pipeline : Pipeline := { log := some { format := .text, place := [] } }
    let a : Arrival :=
      { data := [1, 0, 0, 1, 13, 200, 7]
        source := { ip := .v4 default, port := 37008 }
        time := .ofSecs 1700000000
        now := .ofSecs 1700000000 }
    let up : Netflow.Uplink := { clock := fun _ => .zero }
    handle up {} {} pipeline a = .ok (pipeline.handle up {} {} a) ∧
      (pipeline.handle up {} {} a).crashed = false := by
  intro pipeline a up
  exact handle_eq up {} {} pipeline a (by decide)

end Checked

end Wiretap
