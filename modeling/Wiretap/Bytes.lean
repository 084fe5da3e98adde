/-!
# Byte strings and the numbers written in them

Everything this library reads from the network or writes to a file is a list of bytes.  This
module holds the two ways in which a number occupies a fixed number of bytes, most significant
byte first (`bigEndian`) and least significant byte first (`littleEndian`), and the readers that
take a word from the front of a byte string or from a given offset.

## Main definitions

* `Bytes` - a list of bytes.
* `bigEndian`, `littleEndian` - a number in `width` bytes, modulo `256 ^ width`.
* `ofBigEndian`, `ofLittleEndian` - the number that a byte string stands for.
* `be16At?`, `be32At?` - a word at an offset, `none` where the byte string is too short.
* `overwrite?` - a byte string with some of its bytes replaced, `none` where they do not fit.

## Design notes

A reader returns `none` when the bytes run out.  Decoders above this module derive their
"truncated" errors from that answer, so no decoder depends on a length check made elsewhere.
-/

namespace Wiretap

/-- A string of bytes, as it travels over the network or lies in a file. -/
abbrev Bytes := List UInt8

namespace Bytes

/-! ### Numbers in a fixed number of bytes -/

/-- The last `width` base-256 digits of a number, least significant first. -/
def littleEndian : Nat → Nat → Bytes
  | 0, _ => []
  | width + 1, n => UInt8.ofNat n :: littleEndian width (n / 256)

/-- The last `width` base-256 digits of a number, most significant first. -/
def bigEndian (width n : Nat) : Bytes := (littleEndian width n).reverse

/-- The number whose base-256 digits are the given bytes, most significant first. -/
def ofBigEndian (b : Bytes) : Nat :=
  b.foldl (fun n byte => 256 * n + byte.toNat) 0

/-- The number whose base-256 digits are the given bytes, least significant first. -/
def ofLittleEndian (b : Bytes) : Nat :=
  b.foldr (fun byte n => byte.toNat + 256 * n) 0

@[simp] theorem length_littleEndian (width n : Nat) :
    (littleEndian width n).length = width := by
  induction width generalizing n with
  | zero => rfl
  | succ width ih => simp [littleEndian, ih]

@[simp] theorem length_bigEndian (width n : Nat) : (bigEndian width n).length = width := by
  simp [bigEndian]

/-! ### Words -/

/-- A 16-bit word, most significant byte first. -/
def be16 (word : UInt16) : Bytes := bigEndian 2 word.toNat

/-- A 32-bit word, most significant byte first. -/
def be32 (word : UInt32) : Bytes := bigEndian 4 word.toNat

/-- A 16-bit word, least significant byte first. -/
def le16 (word : UInt16) : Bytes := littleEndian 2 word.toNat

/-- A 32-bit word, least significant byte first. -/
def le32 (word : UInt32) : Bytes := littleEndian 4 word.toNat

/-- The first `n` bytes, if there are as many. -/
def first? (n : Nat) (b : Bytes) : Option Bytes :=
  if n ≤ b.length then some (b.take n) else none

/-- The 16-bit word at the front, most significant byte first. -/
def be16? (b : Bytes) : Option UInt16 :=
  (first? 2 b).map fun w => UInt16.ofNat (ofBigEndian w)

/-- The 32-bit word at the front, most significant byte first. -/
def be32? (b : Bytes) : Option UInt32 :=
  (first? 4 b).map fun w => UInt32.ofNat (ofBigEndian w)

/-- The 16-bit word at the front, least significant byte first. -/
def le16? (b : Bytes) : Option UInt16 :=
  (first? 2 b).map fun w => UInt16.ofNat (ofLittleEndian w)

/-- The 32-bit word at the front, least significant byte first. -/
def le32? (b : Bytes) : Option UInt32 :=
  (first? 4 b).map fun w => UInt32.ofNat (ofLittleEndian w)

/-- The big-endian 16-bit word at an offset. -/
def be16At? (b : Bytes) (offset : Nat) : Option UInt16 := be16? (b.drop offset)

/-- The big-endian 32-bit word at an offset. -/
def be32At? (b : Bytes) (offset : Nat) : Option UInt32 := be32? (b.drop offset)

/-- The `n` bytes at an offset. -/
def sliceAt? (b : Bytes) (offset n : Nat) : Option Bytes := first? n (b.drop offset)

/-- The byte string with `field` written over the bytes at an offset, if it fits there. -/
def overwrite? (b : Bytes) (offset : Nat) (field : Bytes) : Option Bytes :=
  if offset + field.length ≤ b.length then
    some (b.take offset ++ field ++ b.drop (offset + field.length))
  else
    none

@[simp] theorem first?_append (a b : Bytes) : first? a.length (a ++ b) = some a := by
  simp [first?]

theorem first?_eq_none_iff {n : Nat} {b : Bytes} : first? n b = none ↔ b.length < n := by
  unfold first?
  split <;> simp_all

/-- Overwriting keeps the length. -/
theorem length_of_overwrite? {b field c : Bytes} {offset : Nat}
    (h : overwrite? b offset field = some c) : c.length = b.length := by
  unfold overwrite? at h
  split at h
  · next fits =>
    cases h
    simp only [List.length_append, List.length_take, List.length_drop]
    omega
  · cases h

end Bytes

end Wiretap
