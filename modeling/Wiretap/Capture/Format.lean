import Wiretap.Bytes
import Wiretap.Time.Duration

/-!
# Capture files

The classic format of files with captured frames: a header of 24 bytes and one record for each
frame, all numbers with their least significant byte first.

## Main definitions

* `Capture.Record` - one frame as a file holds it.
* `Capture.Record.ofFrame` - the record of a frame seen at a given time.
* `Capture.encode`, `Capture.read?` - a whole file to and from its bytes.

## Design notes

A record has room for the first 65536 bytes of a frame and says how long the frame was.  Its time
is in seconds, modulo 2^32, and microseconds, rounded down.
-/

namespace Wiretap.Capture

/-- The number at the front of a file, which tells the format and the order of bytes. -/
def magic : UInt32 := 0xa1b2c3d4

/-- The most bytes of a frame that a record holds. -/
def snapLength : Nat := 65536

/-- The link layer of the frames: Ethernet. -/
def linkType : UInt32 := 1

/-- The header of a file: format, version 2.4, no correction of times, room of a record and link
layer. -/
def fileHeader : Bytes :=
  Bytes.le32 magic ++ Bytes.le16 2 ++ Bytes.le16 4 ++ List.replicate 8 0 ++
    Bytes.le32 (UInt32.ofNat snapLength) ++ Bytes.le32 linkType

@[simp] theorem length_fileHeader : fileHeader.length = 24 := by
  simp [fileHeader, Bytes.le32, Bytes.le16]

/-- One frame as a file holds it. -/
structure Record where
  secs : UInt32
  micros : UInt32
  /-- The number of bytes that follow. -/
  included : UInt32
  /-- The length of the frame. -/
  frameLength : UInt32
  data : Bytes
deriving DecidableEq, Repr

namespace Record

/-- The number of bytes before the data. -/
def headerSize : Nat := 16

/-- The record of a frame seen at a given time. -/
def ofFrame (frame : Bytes) (time : Duration) : Record where
  secs := UInt32.ofNat time.secs
  micros := UInt32.ofNat time.subMicros
  included := UInt32.ofNat (min frame.length snapLength)
  frameLength := UInt32.ofNat frame.length
  data := frame.take snapLength

/-- The bytes of a record. -/
def encode (r : Record) : Bytes :=
  Bytes.le32 r.secs ++ Bytes.le32 r.micros ++ Bytes.le32 r.included ++ Bytes.le32 r.frameLength ++
    r.data

@[simp] theorem length_encode (r : Record) : r.encode.length = headerSize + r.data.length := by
  simp [encode, Bytes.le32, headerSize]
  omega

/-- The record at the front of a byte string, and what follows it. -/
def read? (b : Bytes) : Option (Record × Bytes) := do
  let secs ← Bytes.le32? b
  let micros ← Bytes.le32? (b.drop 4)
  let included ← Bytes.le32? (b.drop 8)
  let frameLength ← Bytes.le32? (b.drop 12)
  let data ← Bytes.first? included.toNat (b.drop headerSize)
  return (⟨secs, micros, included, frameLength, data⟩, b.drop (headerSize + included.toNat))

end Record

/-- The bytes of a file with the given records. -/
def encode (records : List Record) : Bytes := fileHeader ++ records.flatMap Record.encode

/-- The records that fill a byte string, if nothing is left over. -/
def readRecords? (b : Bytes) : Option (List Record) :=
  if b.isEmpty then some []
  else
    match Record.read? b with
    | none => none
    | some (record, rest) =>
      if rest.length < b.length then (readRecords? rest).map (record :: ·) else none
termination_by b.length

/-- The records of a file, if it has a header and nothing is left over. -/
def read? (b : Bytes) : Option (List Record) :=
  if b.take fileHeader.length = fileHeader then readRecords? (b.drop fileHeader.length) else none

end Wiretap.Capture
