import Wiretap.Capture.Format
import Wiretap.Proofs.Bytes

/-!
# Capture files read back

A reader of a capture file gets the records that were written, each with the values of its frame.

## Main definitions

* `Capture.Record.IsFramed` - a record says how many bytes it holds.

## Main statements

* `Capture.read?_encode` - reading a file undoes writing it, with nothing left over.
* `Capture.Record.fields_ofFrame` - the values in the record of a frame.

## Design notes

Nothing separates the records of a file.  A reader finds the next one only because a record says how
many bytes it holds, so that is all that is asked of the records.
-/

namespace Wiretap.Capture

open Bytes

namespace Record

variable {r : Record}

/-- A record says how many bytes it holds. -/
def IsFramed (r : Record) : Prop := r.included.toNat = r.data.length

theorem isFramed_ofFrame (frame : Bytes) (time : Duration) : (ofFrame frame time).IsFramed := by
  simp only [IsFramed, ofFrame, snapLength, List.length_take, UInt32.toNat_ofNat']
  omega

/-- The values in the record of a frame. -/
theorem fields_ofFrame {frame : Bytes} (short : frame.length < 2 ^ 32) (time : Duration) :
    (ofFrame frame time).secs.toNat = time.secs % 2 ^ 32 ∧
      (ofFrame frame time).micros.toNat = time.subMicros ∧
      (ofFrame frame time).included.toNat = min frame.length 65536 ∧
      (ofFrame frame time).frameLength.toNat = frame.length ∧
      (ofFrame frame time).data = frame.take 65536 := by
  have micros : time.subMicros < 2 ^ 32 := by
    simp only [Duration.subMicros, Duration.subNanos]
    omega
  refine ⟨UInt32.toNat_ofNat', ?_, ?_, ?_, rfl⟩
  · simpa only [ofFrame, UInt32.toNat_ofNat'] using Nat.mod_eq_of_lt micros
  · simp only [ofFrame, snapLength, UInt32.toNat_ofNat']
    omega
  · simpa only [ofFrame, UInt32.toNat_ofNat'] using Nat.mod_eq_of_lt short

/-- The record at the front of a byte string is read back, whatever follows it. -/
theorem read?_encode (framed : r.IsFramed) (rest : Bytes) :
    read? (r.encode ++ rest) = some (r, rest) := by
  have secs : le32? ((r.encode ++ rest).drop 0) = some r.secs := le32?_of_drop rfl
  have micros : le32? ((r.encode ++ rest).drop 4) = some r.micros := le32?_of_drop rfl
  have included : le32? ((r.encode ++ rest).drop 8) = some r.included := le32?_of_drop rfl
  have frameLength : le32? ((r.encode ++ rest).drop 12) = some r.frameLength := le32?_of_drop rfl
  have data : first? r.included.toNat ((r.encode ++ rest).drop headerSize) = some r.data := by
    have here : (r.encode ++ rest).drop headerSize = r.data ++ rest := rfl
    rw [here, framed, first?_append]
  have behind : (r.encode ++ rest).drop (headerSize + r.included.toNat) = rest := by
    rw [framed, ← length_encode, List.drop_left]
  rw [List.drop_zero] at secs
  simp [read?, secs, micros, included, frameLength, data, behind]

end Record

/-- The records that fill a byte string are read back. -/
theorem readRecords?_flatMap {records : List Record} (framed : ∀ r ∈ records, r.IsFramed) :
    readRecords? (records.flatMap Record.encode) = some records := by
  induction records with
  | nil =>
    rw [readRecords?]
    rfl
  | cons r records ih =>
    have first := Record.read?_encode (framed r List.mem_cons_self)
      (records.flatMap Record.encode)
    have others := ih fun r member => framed r (List.mem_cons_of_mem _ member)
    have some_ : (r.encode ++ records.flatMap Record.encode).isEmpty = false := rfl
    have shorter : (records.flatMap Record.encode).length <
        (r.encode ++ records.flatMap Record.encode).length := by
      rw [List.length_append, Record.length_encode, Record.headerSize]
      omega
    rw [List.flatMap_cons, readRecords?, some_, first]
    simp only [Bool.false_eq_true, if_false]
    rw [if_pos shorter, others, Option.map_some]

/-- **Reading a file undoes writing it**, with nothing left over. -/
theorem read?_encode {records : List Record} (framed : ∀ r ∈ records, r.IsFramed) :
    read? (encode records) = some records := by
  rw [read?, encode, List.take_left, if_pos rfl, List.drop_left, readRecords?_flatMap framed]

/-- A file without records. -/
theorem encode_nil : encode [] = fileHeader := List.append_nil _

/-- A file with one more record. -/
theorem encode_concat (records : List Record) (r : Record) :
    encode (records ++ [r]) = encode records ++ r.encode := by
  simp [encode]

end Wiretap.Capture
