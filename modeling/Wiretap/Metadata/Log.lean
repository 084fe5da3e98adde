import Wiretap.Metadata.Line
import Wiretap.Storage.Disk

/-!
# Metadata logs

A file that one line for each packet is appended to.

## Main definitions

* `MetadataLog` - a log whose file is open.
* `MetadataLog.open'` - opens a log; what the file held stays in front.
* `MetadataLog.write` - appends the line of a packet.
* `MetadataLog.flush` - moves what was written to the disk.
-/

namespace Wiretap

/-- A log whose file is open. -/
structure MetadataLog where
  format : LineFormat
  place : Place
  /-- The lines that have not reached the disk, the latest first. -/
  pending : List String := []
deriving Repr

/-- Why a line was not written. -/
inductive LineError where
  /-- The time of the packet lies beyond the calendar. -/
  | beyondCalendar
  /-- The host did not take the line. -/
  | refused (fault : Fault)
deriving DecidableEq, Repr

namespace MetadataLog

/-- Opens a log.  The file is made if it is missing, its folder is not. -/
def open' (d : Disk) (path : Path) (format : LineFormat) : Except Fault (Disk × MetadataLog) :=
  match d.openFile path .extend with
  | .error e => .error e
  | .ok (d, place) => .ok (d, { format, place })

/-- Appends the line of a packet.  `refused` is what the host answers if it does not take the
line. -/
def write (l : MetadataLog) (p : Packet) (refused : Option Fault := none) :
    Except LineError MetadataLog :=
  match Metadata.line? l.format p, refused with
  | none, _ => .error .beyondCalendar
  | some _, some fault => .error (.refused fault)
  | some line, none => .ok { l with pending := (line ++ "\n") :: l.pending }

/-- The lines that have not reached the disk, in order. -/
def heldBack (l : MetadataLog) : Bytes :=
  (l.pending.reverse.map fun line => line.toUTF8.toList).flatten

/-- Moves what was written to the disk. -/
def flush (d : Disk) (l : MetadataLog) : Disk × MetadataLog :=
  (d.append l.place l.heldBack, { l with pending := [] })

end MetadataLog

end Wiretap
