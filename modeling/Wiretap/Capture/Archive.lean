import Wiretap.Capture.Format
import Wiretap.Counter.Basic
import Wiretap.Storage.Disk

/-!
# Capture archives

A capture file that frames are appended to, with numbered backups of earlier files.  When more
than a limit of bytes has been written to the file, the next frame goes to a new file: the file
becomes backup 1, every backup moves up by one, and the last one is given up.

## Main definitions

* `Archive` - an archive whose file is open.
* `Archive.open` - opens an archive; an earlier file becomes a backup first.
* `Archive.write` - appends a frame, to a new file where the present one is full.
* `Archive.Refusal` - what the host answers to a write that it does not take.
* `Archive.flush` - moves what was written to the disk.
* `Archive.shift`, `Archive.placeAfterShift` - moves the file and its backups up by one, and where
  an open file is then.

## Design notes

What is written is held back and reaches the disk when the archive is flushed or the file changes.
Of a record that the host refuses, the bytes that it took before stay where they are, but the record
is neither accounted for nor counted.  Where the host refuses a new file, the archive goes on with
the old one, which has moved up by then, and tries again at the next write.
A backup that cannot be moved costs that backup only: the new file is made all the same.  The
limit is compared before a frame is written, so a file holds more than its limit by less than one
record, and a limit of zero is none.
-/

namespace Wiretap

/-- What an archive has counted since the last reading. -/
structure ArchiveCounts where
  /-- Frames written. -/
  frames : Nat := 0
  /-- Bytes of their records. -/
  bytes : Nat := 0
  /-- Changes of the file. -/
  rotations : Nat := 0
deriving DecidableEq, Repr, Inhabited

/-- The counts as counters. -/
def ArchiveCounts.counters (c : ArchiveCounts) : List Counter :=
  [.count "written-count" c.frames, .count "written-bytes" c.bytes,
   .count "rotations" c.rotations]

/-- An archive whose file is open. -/
structure Archive where
  path : Path
  /-- The bytes of records after which the file is full, zero for no limit. -/
  limit : Nat
  /-- The number of backups that are kept. -/
  backups : Nat
  /-- Where the file is. -/
  place : Place
  /-- What was written and has not reached the disk, the latest first. -/
  pending : List Bytes
  /-- The bytes of records written to the file. -/
  accounted : Nat := 0
  counts : ArchiveCounts := {}
deriving Repr

namespace Archive

/-! ### Backups -/

/-- Gives a file another path, if it is there and the disk allows it. -/
def renameIfPresent (d : Disk) (source target : Path) : Disk :=
  if d.has source then d.attempt (d.rename source target) else d

/-- Moves the backups 1 to `count` up by one, the last one first. -/
def shiftBackups (d : Disk) (path : Path) : (count : Nat) → Disk
  | 0 => d
  | count + 1 =>
    shiftBackups (renameIfPresent d (path.numbered (count + 1)) (path.numbered (count + 2))) path
      count

/-- Removes a file, if it is there and the disk allows it. -/
def removeIfPresent (d : Disk) (path : Path) : Disk :=
  if d.has path then d.attempt (d.remove path) else d

/-- Moves the file and its backups up by one; what would be a backup too many is given up. -/
def shift (d : Disk) (path : Path) : (backups : Nat) → Disk
  | 0 => d
  | backups + 1 =>
    let d := removeIfPresent d (path.numbered (backups + 1))
    renameIfPresent (shiftBackups d path backups) path (path.numbered 1)

/-- Where an open file is after the backups 1 to `count` have moved up. -/
def placeAfterShiftBackups (d : Disk) (path : Path) : (count : Nat) → Place → Place
  | 0, place => place
  | count + 1, place =>
    let source := path.numbered (count + 1)
    let target := path.numbered (count + 2)
    placeAfterShiftBackups (renameIfPresent d source target) path count
      (d.placeAfterRename source target place)

/-- Where an open file is after the file of an archive and its backups have moved up. -/
def placeAfterShift (d : Disk) (path : Path) : (backups : Nat) → Place → Place
  | 0, place => place
  | backups + 1, place =>
    let last := path.numbered (backups + 1)
    let rest := removeIfPresent d last
    (shiftBackups rest path backups).placeAfterRename path (path.numbered 1)
      (placeAfterShiftBackups rest path backups (d.placeAfterRemove last place))

@[simp] theorem shift_zero (d : Disk) (path : Path) : shift d path 0 = d := rfl

/-! ### Opening and writing -/

/-- The limit in bytes of a limit in mebibytes; it does not go beyond 64 bits. -/
def limitOf (mebibytes : Nat) : Nat := min (mebibytes * 1048576) (UInt64.size - 1)

/-- Opens an archive.  The folder is made if it is missing, and an earlier file becomes a
backup. -/
def open' (d : Disk) (path : Path) (mebibytes backups : Nat) : Disk × Except Fault Archive :=
  match d.makeFolderOf path with
  | (d, .error e) => (d, .error e)
  | (d, .ok ()) =>
    let d := shift d path backups
    match d.openFile path .truncate with
    | .error e => (d, .error e)
    | .ok (d, place) =>
      (d, .ok { path, limit := limitOf mebibytes, backups, place, pending := [Capture.fileHeader] })

/-- Everything that was written and has not reached the disk, in order. -/
def heldBack (a : Archive) : Bytes := a.pending.reverse.flatten

/-- Moves what was written to the disk. -/
def flush (d : Disk) (a : Archive) : Disk × Archive :=
  (d.append a.place a.heldBack, { a with pending := [] })

/-- Whether the file is full. -/
def isFull (a : Archive) : Bool := 0 < a.limit && a.limit < a.accounted

/-- What the host does not take of a write. -/
inductive Refusal where
  /-- The record, of which so many bytes were taken before. -/
  | record (fault : Fault) (kept : Nat)
  /-- What was held back, of which so many bytes were taken before, if the file is to be changed. -/
  | flush (fault : Fault) (kept : Nat)
  /-- The new file, if there is to be one. -/
  | file (fault : Fault)
deriving DecidableEq, Repr

/-- Moves to the disk some of what was written. -/
def flushPart (d : Disk) (a : Archive) (kept : Nat) : Disk × Archive :=
  (d.append a.place (a.heldBack.take kept), { a with pending := [a.heldBack.drop kept] })

/-- Makes the file a backup and gets no new one: the archive follows its file. -/
def moveUp (d : Disk) (a : Archive) : Disk × Archive :=
  (shift d a.path a.backups, { a with place := placeAfterShift d a.path a.backups a.place })

/-- Makes the file a backup and goes on with a new one, where the host does not refuse it. -/
def rotate (d : Disk) (a : Archive) (refused : Option Refusal := none) :
    Disk × Archive × Option Fault :=
  match refused with
  | some (.flush fault kept) =>
    let (d, a) := a.flushPart d kept
    (d, a, some fault)
  | some (.file fault) =>
    let (d, a) := a.flush d
    let (d, a) := a.moveUp d
    (d, a, some fault)
  | _ =>
    let (d, a) := a.flush d
    match (shift d a.path a.backups).openFile a.path .truncate with
    | .error fault =>
      let (d, a) := a.moveUp d
      (d, a, some fault)
    | .ok (d, place) =>
      (d, { a with
        place
        pending := [Capture.fileHeader]
        accounted := 0
        counts := { a.counts with rotations := a.counts.rotations + 1 } }, none)

@[simp] theorem rotate_flush (d : Disk) (a : Archive) (fault : Fault) (kept : Nat) :
    a.rotate d (some (.flush fault kept)) =
      ((a.flushPart d kept).1, (a.flushPart d kept).2, some fault) := rfl

@[simp] theorem rotate_file (d : Disk) (a : Archive) (fault : Fault) :
    a.rotate d (some (.file fault)) =
      (((a.flush d).2.moveUp (a.flush d).1).1, ((a.flush d).2.moveUp (a.flush d).1).2,
        some fault) := rfl

/-- Appends a record to the present file. -/
def append (a : Archive) (record : Capture.Record) : Archive :=
  let size := Capture.Record.headerSize + record.data.length
  { a with
    pending := record.encode :: a.pending
    accounted := a.accounted + size
    counts := { a.counts with
      frames := a.counts.frames + 1
      bytes := a.counts.bytes + size } }

/-- Appends the record of a frame to the present file. -/
def add (a : Archive) (frame : Bytes) (time : Duration) : Archive :=
  a.append (.ofFrame frame time)

/-- Leaves bytes in the present file that are of no record. -/
def leave (a : Archive) (bytes : Bytes) : Archive := { a with pending := bytes :: a.pending }

/-- Appends the record of a frame to the present file, or what the host takes of it. -/
def offer (a : Archive) (frame : Bytes) (time : Duration) : Option Refusal → Archive × Option Fault
  | some (.record fault kept) =>
    (a.leave ((Capture.Record.ofFrame frame time).encode.take kept), some fault)
  | _ => (a.add frame time, none)

@[simp] theorem offer_none (a : Archive) (frame : Bytes) (time : Duration) :
    a.offer frame time none = (a.add frame time, none) := rfl

/-- Appends the record of a frame, to a new file where the present one is full.  `refused` is what
the host answers if it does not take the write. -/
def write (d : Disk) (a : Archive) (frame : Bytes) (time : Duration)
    (refused : Option Refusal := none) : Disk × Archive × Option Fault :=
  let (d, a, fault) := if a.isFull then a.rotate d refused else (d, a, none)
  match fault with
  | some fault => (d, a, some fault)
  | none => (d, a.offer frame time refused)

/-- Reads the counts. -/
def readCounts (a : Archive) : Archive × ArchiveCounts := ({ a with counts := {} }, a.counts)

end Archive

end Wiretap
