import Wiretap.Capture.Archive
import Wiretap.Metadata.Log
import Wiretap.Packet.Decode
import Wiretap.Receiver.Notice
import Wiretap.Receiver.Tally

/-!
# From a datagram to the sinks

A datagram is taken out of its envelope, and the frame in it goes to all sinks that are open: as it
is to the capture archive, and as the fields read from it to the flow exporter and the metadata
log.

## Main definitions

* `Arrival` - a datagram with what the host says about it.
* `Pipeline` - the open sinks.
* `Pipeline.handle` - what a datagram does to disk, counts and sinks.
* `Pipeline.flush` - moves what was written to the disk.

## Design notes

A sink that refuses a frame costs an output error and changes nothing for the other sinks.  A
frame with a malformed layer goes to all sinks like any other.

A frame whose time lies beyond the calendar has no metadata line and brings the receiver down.
Only the clock of the host could say such a time: the time that an envelope names has 32 bits.
-/

namespace Wiretap

/-- A datagram with what the host says about it. -/
structure Arrival where
  data : Bytes
  source : SocketAddr
  /-- When the datagram arrived. -/
  time : Duration
  /-- When its packet is accounted. -/
  now : Duration
  /-- What the host answers if it does not take the write to the capture. -/
  captureFault : Option Archive.Refusal := none
  /-- What the host answers if it does not take the metadata line. -/
  metadataFault : Option Fault := none
deriving Repr

/-- The open sinks. -/
structure Pipeline where
  archive : Option Archive := none
  log : Option MetadataLog := none
  exporter : Option Netflow.Exporter := none
deriving Repr

/-- The frame that an envelope carries and the time at which it was seen. -/
structure Sighting where
  envelope : Envelope
  frame : Bytes
  time : Duration
deriving Repr

/-- Why a datagram is dropped. -/
inductive DropReason where
  | rejected (error : EnvelopeError)
  | noFrame (purpose : Purpose)
deriving DecidableEq, Repr

/-- The frame in a datagram that arrived at a given time. -/
def Sighting.ofDatagram (data : Bytes) (arrival : Duration) : Except DropReason Sighting :=
  match Envelope.decode data with
  | .error e => .error (.rejected e)
  | .ok envelope =>
    if envelope.payload = [] then .error (.noFrame envelope.purpose)
    else
      .ok { envelope, frame := envelope.payload, time := envelope.timestamp?.getD arrival }

/-- What has changed after a datagram was handled. -/
structure Handled where
  disk : Disk
  tally : Tally
  pipeline : Pipeline
  notices : List Notice := []
  /-- The flow records that were handed to the network. -/
  exported : List Netflow.Handover := []
  /-- Whether the receiver was brought down. -/
  crashed : Bool := false
deriving Repr

namespace Pipeline

/-- What the answer of the capture archive changes. -/
def stored (h : Handled) : Disk × Archive × Option Fault → Handled
  | (disk, archive, none) =>
    { h with
      disk
      pipeline := { h.pipeline with archive := some archive }
      tally := { h.tally with captured := h.tally.captured + 1 } }
  | (disk, archive, some e) =>
    { h with
      disk
      pipeline := { h.pipeline with archive := some archive }
      tally := { h.tally with outputErrors := h.tally.outputErrors + 1 }
      notices := h.notices ++ [.captureFailed e] }

/-- Gives a frame to the capture archive. -/
def capture (h : Handled) (s : Sighting) (refused : Option Archive.Refusal) : Handled :=
  match h.pipeline.archive with
  | none => h
  | some archive => stored h (archive.write h.disk s.frame s.time refused)

/-- Counts and reports how much of a frame could be read. -/
def inspect (h : Handled) (source : SocketAddr) (p : Packet) : Option LayerError → Handled
  | none => { h with notices := h.notices ++ [.packet source p] }
  | some e =>
    { h with
      tally := { h.tally with layerErrors := h.tally.layerErrors + 1 }
      notices := h.notices ++ [.malformedLayer source e, .packet source p] }

/-- Gives a packet to the flow exporter. -/
def account (up : Netflow.Uplink) (h : Handled) (p : Packet) (now : Duration) : Handled :=
  match h.pipeline.exporter with
  | none => h
  | some exporter =>
    let after := exporter.process up p now
    { h with
      pipeline := { h.pipeline with exporter := some after.1 }
      exported := h.exported ++ after.2
      notices := h.notices ++ after.2.map (.exported exporter.sender.collector) }

/-- What the answer of the metadata log changes. -/
def described (h : Handled) : Except LineError MetadataLog → Handled
  | .ok log => { h with pipeline := { h.pipeline with log := some log } }
  | .error .beyondCalendar => { h with crashed := true }
  | .error (.refused e) =>
    { h with
      tally := { h.tally with outputErrors := h.tally.outputErrors + 1 }
      notices := h.notices ++ [.metadataFailed e] }

/-- Gives a packet to the metadata log. -/
def describe (h : Handled) (p : Packet) (refused : Option Fault) : Handled :=
  match h.pipeline.log with
  | none => h
  | some log => described h (log.write p refused)

/-- The counts after a datagram of a number of bytes was received. -/
def received (t : Tally) (size : Nat) : Tally :=
  { t with received := t.received + 1, receivedBytes := t.receivedBytes + size, greeted := true }

/-- What a datagram changes before it is looked into. -/
def arrived (disk : Disk) (tally : Tally) (pipeline : Pipeline) (a : Arrival) : Handled where
  disk := disk
  tally := received tally a.data.length
  pipeline := pipeline
  notices := if tally.greeted then [] else [.firstDatagram a.source a.data.length]

/-- What a datagram changes that is dropped. -/
def dropped (h : Handled) (source : SocketAddr) : DropReason → Handled
  | .rejected e =>
    { h with
      tally := { h.tally with envelopeErrors := h.tally.envelopeErrors + 1 }
      notices := h.notices ++ [.rejected source e] }
  | .noFrame purpose =>
    { h with
      tally := { h.tally with emptyPayload := h.tally.emptyPayload + 1 }
      notices := h.notices ++ [.noFrame source purpose] }

/-- What a datagram with a frame changes before the frame goes to a sink. -/
def sighted (h : Handled) (a : Arrival) (s : Sighting) : Handled :=
  let e := s.envelope
  { h with
    tally := { h.tally with decoded := h.tally.decoded + 1 }
    notices := h.notices ++
      [.envelope a.source a.data.length e.encapsulation s.time e.rssi? e.sensor?] }

/-- Handles a datagram. -/
def handle (up : Netflow.Uplink) (disk : Disk) (tally : Tally) (pipeline : Pipeline) (a : Arrival) :
    Handled :=
  let h := arrived disk tally pipeline a
  match Sighting.ofDatagram a.data a.time with
  | .error reason => dropped h a.source reason
  | .ok s =>
    let captured := capture (sighted h a s) s a.captureFault
    let read := Packet.decode s.frame s.time
    let inspected := inspect captured a.source read.1 read.2
    describe (account up inspected read.1 a.now) read.1 a.metadataFault

/-- Moves what the log has written to the disk. -/
def flushLog (disk : Disk) (p : Pipeline) : Disk × Pipeline :=
  match p.log with
  | none => (disk, p)
  | some log =>
    let (disk, log) := log.flush disk
    (disk, { p with log := some log })

/-- Moves what the archive has written to the disk. -/
def flushArchive (disk : Disk) (p : Pipeline) : Disk × Pipeline :=
  match p.archive with
  | none => (disk, p)
  | some archive =>
    let (disk, archive) := archive.flush disk
    (disk, { p with archive := some archive })

/-- Moves what was written to the disk. -/
def flush (disk : Disk) (p : Pipeline) : Disk × Pipeline :=
  let (disk, p) := flushLog disk p
  flushArchive disk p

@[simp] theorem exporter_flush (disk : Disk) (p : Pipeline) :
    (flush disk p).2.exporter = p.exporter := by
  unfold flush flushLog flushArchive
  cases h : p.log <;> cases h' : p.archive <;> simp [h, h']

@[simp] theorem tally_account (up : Netflow.Uplink) (h : Handled) (p : Packet) (now : Duration) :
    (account up h p now).tally = h.tally := by
  unfold account
  cases h.pipeline.exporter <;> rfl

end Pipeline

end Wiretap
