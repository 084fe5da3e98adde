import Mathlib.Algebra.Ring.Nat
import Wiretap.Bytes

/-!
# Numbers read back from their bytes

Reading the bytes of a number gives the number back, as far as it fits into them, in either order of
the bytes.

## Main statements

* `Bytes.ofLittleEndian_littleEndian`, `Bytes.ofBigEndian_bigEndian` - a number modulo the numbers
  that so many bytes can hold.
* `Bytes.littleEndian_ofLittleEndian`, `Bytes.bigEndian_ofBigEndian` - bytes from their number.
* `Bytes.first?_drop_take`, `Bytes.first?_of_prefix` - reading does not depend on what lies behind.
* `Bytes.be16At?_of_drop`, `Bytes.be32At?_of_drop`, `Bytes.le32?_of_drop` - a word is read where it
  was written.
-/

namespace Wiretap.Bytes

/-- Reading the bytes of a number back gives it modulo `256 ^ width`. -/
theorem ofLittleEndian_littleEndian (width n : Nat) :
    ofLittleEndian (littleEndian width n) = n % 256 ^ width := by
  induction width generalizing n with
  | zero => simp [littleEndian, ofLittleEndian, Nat.mod_one]
  | succ width ih =>
    have step : ofLittleEndian (littleEndian (width + 1) n) =
        n % 256 + 256 * ofLittleEndian (littleEndian width (n / 256)) := by
      simp [littleEndian, ofLittleEndian]
    rw [step, ih, Nat.pow_succ, Nat.mul_comm (256 ^ width) 256, Nat.mod_mul]

/-- The most significant byte first is the least significant byte last. -/
theorem ofBigEndian_reverse (b : Bytes) : ofBigEndian b.reverse = ofLittleEndian b := by
  unfold ofBigEndian ofLittleEndian
  rw [List.foldl_reverse]
  congr 1
  funext byte n
  exact Nat.add_comm _ _

/-- Reading the bytes of a number back gives it modulo `256 ^ width`. -/
theorem ofBigEndian_bigEndian (width n : Nat) :
    ofBigEndian (bigEndian width n) = n % 256 ^ width := by
  rw [bigEndian, ofBigEndian_reverse, ofLittleEndian_littleEndian]

/-- Bytes are the digits of the number that they stand for. -/
theorem littleEndian_ofLittleEndian (b : Bytes) : littleEndian b.length (ofLittleEndian b) = b := by
  induction b with
  | nil => rfl
  | cons byte b ih =>
    have number : ofLittleEndian (byte :: b) = byte.toNat + 256 * ofLittleEndian b := rfl
    have bound := byte.toNat_lt
    have low : UInt8.ofNat (byte.toNat + 256 * ofLittleEndian b) = byte := by
      rw [← UInt8.toNat_inj, UInt8.toNat_ofNat']
      omega
    have high : (byte.toNat + 256 * ofLittleEndian b) / 256 = ofLittleEndian b := by omega
    rw [List.length_cons, littleEndian, number, low, high, ih]

/-- Bytes are the digits of the number that they stand for. -/
theorem bigEndian_ofBigEndian (b : Bytes) : bigEndian b.length (ofBigEndian b) = b := by
  have number : ofBigEndian b = ofLittleEndian b.reverse := by
    rw [← ofBigEndian_reverse, List.reverse_reverse]
  rw [bigEndian, number, ← List.length_reverse, littleEndian_ofLittleEndian, List.reverse_reverse]

/-- The bytes of a word that was read from two bytes. -/
theorem be16_ofBigEndian (hi lo : UInt8) :
    be16 (UInt16.ofNat (ofBigEndian [hi, lo])) = [hi, lo] := by
  have small : ofBigEndian [hi, lo] < UInt16.size := by
    have hiBound := hi.toNat_lt
    have loBound := lo.toNat_lt
    simp only [ofBigEndian, List.foldl_cons, List.foldl_nil, UInt16.size]
    omega
  rw [be16, UInt16.toNat_ofNat_of_lt' small]
  exact bigEndian_ofBigEndian [hi, lo]

/-- There is a front where there are as many bytes. -/
theorem first?_of_le {n : Nat} {b : Bytes} (fits : n ≤ b.length) : first? n b = some (b.take n) :=
  if_pos fits

/-- A front has the length that was asked for. -/
theorem length_of_first? {n : Nat} {b front : Bytes} (read : first? n b = some front) :
    front.length = n := by
  unfold first? at read
  split at read
  · cases read
    rw [List.length_take]
    omega
  · cases read

/-- Nothing is read from a front that is not there. -/
theorem first?_bind_of_lt {α : Type} {n : Nat} {b : Bytes} (short : b.length < n)
    (fields : Bytes → Option α) : (first? n b).bind fields = none := by
  rw [first?_eq_none_iff.mpr short, Option.bind_none]

/-- A front that a byte string has, every continuation of it has. -/
theorem first?_of_prefix {n : Nat} {b whole front : Bytes} (cut : b <+: whole)
    (read : first? n b = some front) : first? n whole = some front := by
  obtain ⟨rest, rfl⟩ := cut
  have long := first?_eq_none_iff.not.mp (read ▸ Option.some_ne_none front)
  rw [first?_of_le (Nat.not_lt.mp long)] at read
  rw [first?_of_le (by rw [List.length_append]; omega),
    List.take_append_of_le_length (Nat.not_lt.mp long), read]

/-- What is read of a front is read of every continuation. -/
theorem first?_bind_of_prefix {α : Type} {n : Nat} {b whole : Bytes} {fields : Bytes → Option α}
    {x : α} (cut : b <+: whole) (read : (first? n b).bind fields = some x) :
    (first? n whole).bind fields = some x := by
  obtain ⟨front, there, inside⟩ := Option.bind_eq_some_iff.mp read
  exact Option.bind_eq_some_iff.mpr ⟨front, first?_of_prefix cut there, inside⟩

/-- What lies within the first `n` bytes is read there as in the whole byte string. -/
theorem first?_drop_take {n offset width : Nat} (inside : offset + width ≤ n) (b : Bytes) :
    first? width ((b.take n).drop offset) = first? width (b.drop offset) := by
  have part : (b.take n).drop offset = (b.drop offset).take (n - offset) := List.drop_take
  have narrow : ((b.drop offset).take (n - offset)).take width = (b.drop offset).take width := by
    rw [List.take_take, Nat.min_eq_left (by omega)]
  unfold first?
  rw [part, narrow, List.length_take]
  congr 1
  exact propext ⟨fun fits => by omega, fun fits => by omega⟩

/-- A word within the first `n` bytes. -/
theorem be16At?_take {n offset : Nat} (inside : offset + 2 ≤ n) (b : Bytes) :
    be16At? (b.take n) offset = be16At? b offset := by
  rw [be16At?, be16?, first?_drop_take inside]
  rfl

/-- A slice within the first `n` bytes. -/
theorem sliceAt?_take {n offset width : Nat} (inside : offset + width ≤ n) (b : Bytes) :
    sliceAt? (b.take n) offset width = sliceAt? b offset width :=
  first?_drop_take inside b

/-- A slice that fits is there. -/
theorem sliceAt?_of_le {b : Bytes} {offset width : Nat} (fits : offset + width ≤ b.length) :
    sliceAt? b offset width = some ((b.drop offset).take width) := by
  rw [sliceAt?, first?, if_pos (by rw [List.length_drop]; omega)]

/-- A word is read where its bytes begin. -/
theorem be16At?_of_drop {b rest : Bytes} {offset : Nat} {word : UInt16}
    (here : b.drop offset = be16 word ++ rest) : be16At? b offset = some word := by
  have front : first? 2 (be16 word ++ rest) = some (be16 word) := first?_append (be16 word) rest
  have small : word.toNat % 256 ^ 2 = word.toNat := by
    have bound := word.toNat_lt
    omega
  rw [be16At?, here, be16?, front, Option.map_some, be16, ofBigEndian_bigEndian, small,
    UInt16.ofNat_toNat]

/-- A word is read where its bytes begin. -/
theorem be32At?_of_drop {b rest : Bytes} {offset : Nat} {word : UInt32}
    (here : b.drop offset = be32 word ++ rest) : be32At? b offset = some word := by
  have front : first? 4 (be32 word ++ rest) = some (be32 word) := first?_append (be32 word) rest
  have small : word.toNat % 256 ^ 4 = word.toNat := by
    have bound := word.toNat_lt
    omega
  rw [be32At?, here, be32?, front, Option.map_some, be32, ofBigEndian_bigEndian, small,
    UInt32.ofNat_toNat]

/-- A word is read where its bytes begin. -/
theorem le32?_of_drop {b rest : Bytes} {offset : Nat} {word : UInt32}
    (here : b.drop offset = le32 word ++ rest) : le32? (b.drop offset) = some word := by
  have front : first? 4 (le32 word ++ rest) = some (le32 word) := first?_append (le32 word) rest
  have small : word.toNat % 256 ^ 4 = word.toNat := by
    have bound := word.toNat_lt
    omega
  rw [here, le32?, front, Option.map_some, le32, ofLittleEndian_littleEndian, small,
    UInt32.ofNat_toNat]

end Wiretap.Bytes
