import Wiretap.Address.Ip
import Wiretap.Mac
import Wiretap.Proofs.Bytes
import Wiretap.Time.Duration

/-!
# Checked accesses

The decoders of this library cut byte strings with operations that have an answer for every place.
A program that indexes an array has none where the place lies outside.  This module holds the
operations of such a program, each of which fails where it would, and says when they do not.

## Main definitions

* `AccessError` - an access that is out of range.
* `Checked` - a computation that stops at the first such access.
* `Checked.byteAt`, `Checked.slice`, `Checked.tail` - a byte and a part of a byte string.
* `Checked.wordAt`, `Checked.longWord` - words, which want enough bytes.
* `Checked.difference` - a difference of numbers that are not negative.

## Main statements

* `Checked.byteAt_of_lt`, `Checked.slice_of_le`, `Checked.tail_of_le`, `Checked.wordAt_of_le`,
  `Checked.longWord_of_le`, `Checked.difference_of_le` - an access within its range answers what the
  reader of the same place answers.

## Design notes

A decoder that is written with checked accesses keeps the byte string and a place in it, where the
decoder of the library keeps the bytes that are left.  That both agree is the statement that no
access of the former is out of range; there is nothing to prove about each access by itself.
-/

namespace Wiretap

/-- An access that is out of range. -/
inductive AccessError where
  /-- There is no byte at the position. -/
  | index (length position : Nat)
  /-- There is no part from `start` to `stop`. -/
  | slice (length start stop : Nat)
  /-- A word wants more bytes than there are. -/
  | word (length width : Nat)
  /-- A difference would be negative. -/
  | difference (minuend subtrahend : Nat)
  /-- A point in time lies beyond the calendar. -/
  | calendar (time : Duration)
deriving DecidableEq, Repr

/-- A computation that stops at the first access that is out of range. -/
abbrev Checked (α : Type) := Except AccessError α

namespace Checked

section

variable {α β : Type}

@[simp] theorem pure_eq_ok (a : α) : (pure a : Checked α) = .ok a := rfl

@[simp] theorem ok_bind (a : α) (f : α → Checked β) : (Except.ok a >>= f : Checked β) = f a := rfl

end

/-! ## The accesses -/

/-- The byte at a position. -/
def byteAt (b : Bytes) (position : Nat) : Checked UInt8 :=
  match b[position]? with
  | some byte => .ok byte
  | none => .error (.index b.length position)

/-- The bytes from `start` on and before `stop`. -/
def slice (b : Bytes) (start stop : Nat) : Checked Bytes :=
  if start ≤ stop ∧ stop ≤ b.length then .ok ((b.drop start).take (stop - start))
  else .error (.slice b.length start stop)

/-- The bytes from `start` on. -/
def tail (b : Bytes) (start : Nat) : Checked Bytes := slice b start b.length

/-- The 16-bit word at the front, most significant byte first. -/
def word (b : Bytes) : Checked UInt16 := do
  if b.length < 2 then .error (.word b.length 2)
  else
    let front ← slice b 0 2
    return UInt16.ofNat (Bytes.ofBigEndian front)

/-- The 32-bit word at the front, most significant byte first. -/
def longWord (b : Bytes) : Checked UInt32 := do
  if b.length < 4 then .error (.word b.length 4)
  else
    let front ← slice b 0 4
    return UInt32.ofNat (Bytes.ofBigEndian front)

/-- The 16-bit word at a position. -/
def wordAt (b : Bytes) (position : Nat) : Checked UInt16 := do
  let rest ← tail b position
  word rest

/-- How much larger one number is than another. -/
def difference (minuend subtrahend : Nat) : Checked Nat :=
  if subtrahend ≤ minuend then .ok (minuend - subtrahend)
  else .error (.difference minuend subtrahend)

/-! ## Accesses within their range -/

variable {b : Bytes}

theorem byteAt_of_lt {position : Nat} (inside : position < b.length) :
    ∃ byte, b[position]? = some byte ∧ byteAt b position = .ok byte := by
  refine ⟨b[position], List.getElem?_eq_getElem inside, ?_⟩
  rw [byteAt, List.getElem?_eq_getElem inside]

/-- The bytes from a position on begin with the byte at the position. -/
theorem drop_of_getElem? {position : Nat} {byte : UInt8} (place : b[position]? = some byte) :
    b.drop position = byte :: b.drop (position + 1) := by
  obtain ⟨inside, here⟩ := List.getElem?_eq_some_iff.mp place
  rw [List.drop_eq_getElem_cons inside, here]

theorem slice_of_le {start stop : Nat} (ordered : start ≤ stop) (fits : stop ≤ b.length) :
    slice b start stop = .ok ((b.drop start).take (stop - start)) :=
  if_pos ⟨ordered, fits⟩

theorem tail_of_le {start : Nat} (fits : start ≤ b.length) : tail b start = .ok (b.drop start) := by
  rw [tail, slice_of_le fits le_rfl, ← List.length_drop, List.take_length]

theorem word_of_le (fits : 2 ≤ b.length) :
    ∃ w, Bytes.be16? b = some w ∧ word b = .ok w := by
  refine ⟨UInt16.ofNat (Bytes.ofBigEndian (b.take 2)), ?_, ?_⟩
  · rw [Bytes.be16?, Bytes.first?_of_le fits, Option.map_some]
  · rw [word, if_neg (by omega), slice_of_le (by omega) fits]
    rfl

theorem longWord_of_le (fits : 4 ≤ b.length) :
    ∃ w, Bytes.be32? b = some w ∧ longWord b = .ok w := by
  refine ⟨UInt32.ofNat (Bytes.ofBigEndian (b.take 4)), ?_, ?_⟩
  · rw [Bytes.be32?, Bytes.first?_of_le fits, Option.map_some]
  · rw [longWord, if_neg (by omega), slice_of_le (by omega) fits]
    rfl

theorem wordAt_of_le {position : Nat} (fits : position + 2 ≤ b.length) :
    ∃ w, Bytes.be16At? b position = some w ∧ wordAt b position = .ok w := by
  have rest : 2 ≤ (b.drop position).length := by
    rw [List.length_drop]
    omega
  obtain ⟨w, read, checked⟩ := word_of_le rest
  refine ⟨w, read, ?_⟩
  rw [wordAt, tail_of_le (by omega), ok_bind, checked]

/-- A byte is read where the bytes begin with it. -/
theorem byteAt_of_drop {position : Nat} {byte : UInt8} {rest : Bytes}
    (here : b.drop position = byte :: rest) : byteAt b position = .ok byte := by
  have place : b[position]? = some byte := by
    rw [← Nat.add_zero position, ← List.getElem?_drop, here, List.getElem?_cons_zero]
  rw [byteAt, place]

/-- A word is read where the bytes begin with it. -/
theorem wordAt_of_drop {position : Nat} {hi lo : UInt8} {rest : Bytes}
    (here : b.drop position = hi :: lo :: rest) :
    wordAt b position = .ok (UInt16.ofNat (256 * hi.toNat + lo.toNat)) := by
  have inside : position ≤ b.length := by
    have size := congrArg List.length here
    rw [List.length_drop, List.length_cons] at size
    omega
  rw [wordAt, tail_of_le inside, here, ok_bind]
  simp [word, slice, Bytes.ofBigEndian]

/-- Two bytes are the digits of their word. -/
@[simp] theorem toNat_word (hi lo : UInt8) :
    (UInt16.ofNat (256 * hi.toNat + lo.toNat)).toNat = 256 * hi.toNat + lo.toNat := by
  have hiBound := hi.toNat_lt
  have loBound := lo.toNat_lt
  rw [UInt16.toNat_ofNat']
  omega

theorem difference_of_le {minuend subtrahend : Nat} (ordered : subtrahend ≤ minuend) :
    difference minuend subtrahend = .ok (minuend - subtrahend) :=
  if_pos ordered

/-- Bytes that are at least four begin with four bytes. -/
theorem exists_four {rest : Bytes} (long : 4 ≤ rest.length) :
    ∃ a b c d more, rest = a :: b :: c :: d :: more := by
  match rest, long with
  | a :: b :: c :: d :: more, _ => exact ⟨a, b, c, d, more, rfl⟩

/-! ## Accesses within a header -/

section

variable {n : Nat} (long : n ≤ b.length)

include long

/-- A byte of a header of `n` bytes. -/
theorem byteAt_header {position : Nat} (inside : position < n) :
    ∃ byte, (b.take n)[position]? = some byte ∧ byteAt b position = .ok byte := by
  obtain ⟨byte, place, checked⟩ := byteAt_of_lt (Nat.lt_of_lt_of_le inside long)
  refine ⟨byte, ?_, checked⟩
  rw [List.getElem?_take_of_lt inside, place]

/-- A word of a header of `n` bytes. -/
theorem wordAt_header {position : Nat} (inside : position + 2 ≤ n) :
    ∃ w, Bytes.be16At? (b.take n) position = some w ∧ wordAt b position = .ok w := by
  obtain ⟨w, read, checked⟩ := wordAt_of_le (Nat.le_trans inside long)
  refine ⟨w, ?_, checked⟩
  rw [Bytes.be16At?_take inside, read]

/-- A part of a header of `n` bytes. -/
theorem slice_header {start width stop : Nat} (ends : start + width = stop) (inside : stop ≤ n) :
    ∃ part, Bytes.sliceAt? (b.take n) start width = some part ∧
      slice b start stop = .ok part ∧ part.length = width := by
  subst ends
  refine ⟨(b.drop start).take width, ?_, ?_, ?_⟩
  · rw [Bytes.sliceAt?_take inside, Bytes.sliceAt?_of_le (Nat.le_trans inside long)]
  · rw [slice_of_le (by omega) (by omega), Nat.add_sub_cancel_left]
  · rw [List.length_take, List.length_drop]
    omega

end

/-! ## Addresses -/

/-- Four bytes are an address. -/
theorem ipv4_of_length {octets : Bytes} (size : octets.length = 4) :
    ∃ x, Ipv4Addr.ofBytes? octets = some x ∧ IpAddr.ofBytes? octets = some (.v4 x) := by
  match octets, size with
  | [a, b, c, d], _ => exact ⟨⟨a, b, c, d⟩, rfl, rfl⟩

/-- Six bytes are a hardware address. -/
theorem mac_of_length {octets : Bytes} (size : octets.length = 6) :
    ∃ m : Mac, Mac.ofBytes? octets = some m := by
  match octets, size with
  | [a, b, c, d, e, f], _ => exact ⟨⟨a, b, c, d, e, f⟩, rfl⟩

/-- Sixteen bytes are an address of the newer protocol. -/
theorem ipv6_of_length {octets : Bytes} (size : octets.length = 16) :
    ∃ x, Ipv6Addr.ofBytes? octets = some x ∧ IpAddr.ofBytes? octets = some (.v6 x) := by
  match octets, size with
  | [_, _, _, _, _, _, _, _, _, _, _, _, _, _, _, _], _ => exact ⟨_, rfl, rfl⟩

end Checked

end Wiretap
