import Mathlib.Algebra.Ring.Nat
import Mathlib.Data.Bool.AllAny
import Mathlib.Data.List.Forall2
import Mathlib.Data.Nat.Digits.Defs
import Wiretap.Text.Numeral

/-!
# Texts that tell what was written

Numbers are read back from their digits and parts from the text that joins them, as long as the
separator occurs in no part.

## Main definitions

* `Text.IsNumeral`, `Text.IsSignedNumeral` - the grammar of numerals, in any radix up to 16.
* `Text.digits` - the digits with which numbers are written.
* `Text.IsPlain` - a printable character that needs no escape and separates nothing.

## Main statements

* `Text.splitAt_joinWith`, `Text.joinWith_inj` - joined parts are found again.
* `Text.append_cons_inj` - what lies in front of the first separator and behind it.
* `Text.numeralFrom?_toDigits`, `Text.numeralFrom?_padded` - a number is read from its digits.
* `Text.signedNumeral?_eq_some_iff` - what is read as a number is what the grammar says.
* `Text.toList_toUTF8` - the bytes of a text are those of its characters.

## Design notes

Digits of all radixes up to 16 are in one list, so that no separator is a digit can be decided.
-/

namespace Wiretap.Text

variable {separator : Char} {parts parts' : List (List Char)} {radix n m : Nat}

/-! ## Parts between separators -/

/-- The parts between separators are those of the standard library. -/
theorem splitAt_eq_splitOn (separator : Char) (cs : List Char) :
    splitAt separator cs = cs.splitOn separator := by
  induction cs with
  | nil => rfl
  | cons c cs ih =>
    rw [splitAt, List.splitOn_cons_eq_if_modifyHead, ← ih]
    simp only [beq_iff_eq]
    split
    · rfl
    · cases found : splitAt separator cs with
      | nil => exact absurd found (splitAt_ne_nil separator cs)
      | cons part parts => rfl

theorem splitAt_of_notMem {cs : List Char} (without : separator ∉ cs) :
    splitAt separator cs = [cs] := by
  induction cs with
  | nil => rfl
  | cons c cs ih =>
    have apart : c ≠ separator := fun same => without (same ▸ List.mem_cons_self)
    have rest := ih fun inside => without (List.mem_cons_of_mem c inside)
    rw [splitAt, if_neg apart, rest]

theorem splitAt_append_cons {part : List Char} (without : separator ∉ part) (cs : List Char) :
    splitAt separator (part ++ separator :: cs) = part :: splitAt separator cs := by
  induction part with
  | nil => rw [List.nil_append, splitAt, if_pos rfl]
  | cons c part ih =>
    have apart : c ≠ separator := fun same => without (same ▸ List.mem_cons_self)
    have rest := ih fun inside => without (List.mem_cons_of_mem c inside)
    rw [List.cons_append, splitAt, if_neg apart, rest]

/-- A text that is cut at the first separator is cut in one way. -/
theorem append_cons_inj {part part' cs cs' : List Char} (without : separator ∉ part)
    (without' : separator ∉ part') :
    part ++ separator :: cs = part' ++ separator :: cs' ↔ part = part' ∧ cs = cs' := by
  constructor
  · intro same
    have parts := congrArg (splitAt separator) same
    rw [splitAt_append_cons without, splitAt_append_cons without', List.cons.injEq] at parts
    obtain ⟨rfl, -⟩ := parts
    exact ⟨rfl, List.tail_eq_of_cons_eq (List.append_cancel_left same)⟩
  · rintro ⟨rfl, rfl⟩
    rfl

theorem joinWith_cons (part : List Char) (some_ : parts ≠ []) :
    joinWith separator (part :: parts) = part ++ separator :: joinWith separator parts :=
  joinWith.eq_3 _ _ _ some_

theorem joinWith_append (some_ : parts ≠ []) (some' : parts' ≠ []) :
    joinWith separator (parts ++ parts') =
      joinWith separator parts ++ separator :: joinWith separator parts' := by
  induction parts with
  | nil => exact absurd rfl some_
  | cons part parts ih =>
    by_cases last : parts = []
    · rw [last, List.singleton_append, joinWith_cons part some', joinWith]
    · have more : parts ++ parts' ≠ [] := List.append_ne_nil_of_left_ne_nil last parts'
      rw [List.cons_append, joinWith_cons part more, joinWith_cons part last, ih last,
        List.append_assoc, List.cons_append]

/-- Splitting finds the parts that were joined, unless the separator occurs in one. -/
theorem splitAt_joinWith (some_ : parts ≠ []) (without : ∀ part ∈ parts, separator ∉ part) :
    splitAt separator (joinWith separator parts) = parts := by
  induction parts with
  | nil => exact absurd rfl some_
  | cons part parts ih =>
    have first := without part List.mem_cons_self
    have others := fun part inside => without part (List.mem_cons_of_mem _ inside)
    by_cases last : parts = []
    · rw [last]
      exact splitAt_of_notMem first
    · rw [joinWith_cons part last, splitAt_append_cons first, ih last others]

/-- Texts that are joined alike have the same parts. -/
theorem joinWith_inj (some_ : parts ≠ []) (some' : parts' ≠ [])
    (without : ∀ part ∈ parts, separator ∉ part) (without' : ∀ part ∈ parts', separator ∉ part) :
    joinWith separator parts = joinWith separator parts' ↔ parts = parts' := by
  constructor
  · intro same
    rw [← splitAt_joinWith some_ without, same, splitAt_joinWith some' without']
  · rintro rfl
    rfl

theorem joinWith_eq_intercalate (separator : Char) (parts : List (List Char)) :
    joinWith separator parts = [separator].intercalate parts := by
  induction parts with
  | nil => rfl
  | cons part parts ih =>
    by_cases last : parts = []
    · simp [last, joinWith]
    · rw [joinWith_cons part last, ih, List.intercalate_cons_of_ne_nil last, List.append_assoc,
        List.singleton_append]

/-- What occurs in a joined text occurs in a part or separates two. -/
theorem mem_joinWith {c : Char} (inside : c ∈ joinWith separator parts) :
    c = separator ∨ ∃ part ∈ parts, c ∈ part := by
  induction parts with
  | nil => cases inside
  | cons part parts ih =>
    by_cases last : parts = []
    · rw [last] at inside
      exact Or.inr ⟨part, List.mem_cons_self, inside⟩
    · rw [joinWith_cons part last, List.mem_append, List.mem_cons] at inside
      rcases inside with here | rfl | later
      · exact Or.inr ⟨part, List.mem_cons_self, here⟩
      · exact Or.inl rfl
      · rcases ih later with same | ⟨part, isPart, there⟩
        · exact Or.inl same
        · exact Or.inr ⟨part, List.mem_cons_of_mem _ isPart, there⟩

/-! ## Numbers -/

theorem digit?_digitChar (within : radix ≤ 16) (below : n < radix) :
    digit? radix n.digitChar = some n := by
  have all : ∀ radix ≤ 16, ∀ n < radix, digit? radix n.digitChar = some n := by decide +kernel
  exact all radix within n below

theorem numeralFrom?_append (radix n : Nat) (cs cs' : List Char) :
    numeralFrom? radix n (cs ++ cs') =
      (numeralFrom? radix n cs).bind fun m => numeralFrom? radix m cs' := by
  induction cs generalizing n with
  | nil => rfl
  | cons c cs ih =>
    rw [List.cons_append, numeralFrom?, numeralFrom?, Option.bind_assoc]
    simp only [ih]

/-- The digits of a number are read as that number. -/
theorem numeralFrom?_toDigits (two : 1 < radix) (within : radix ≤ 16) (n : Nat) :
    numeralFrom? radix 0 (Nat.toDigits radix n) = some n := by
  induction n using Nat.strongRecOn with
  | ind n ih =>
    rw [Nat.toDigits_eq_if two]
    split
    · next below => simp [numeralFrom?, digit?_digitChar within below]
    · next beyond =>
      have smaller : n / radix < n := Nat.div_lt_self (by omega) two
      have last := digit?_digitChar within (Nat.mod_lt n (by omega))
      rw [numeralFrom?_append, ih _ smaller]
      simp [numeralFrom?, last, Nat.div_add_mod]

theorem toDigits_inj (two : 1 < radix) (within : radix ≤ 16) :
    Nat.toDigits radix n = Nat.toDigits radix m ↔ n = m := by
  constructor
  · intro same
    have read := congrArg (numeralFrom? radix 0) same
    rwa [numeralFrom?_toDigits two within, numeralFrom?_toDigits two within,
      Option.some_inj] at read
  · rintro rfl
    rfl

/-- A number that was filled up with zeros is read as that number. -/
theorem numeralFrom?_padded (width n : Nat) : numeralFrom? 10 0 (padded width n) = some n := by
  have zeros (k : Nat) : numeralFrom? 10 0 (List.replicate k '0') = some 0 := by
    induction k with
    | zero => rfl
    | succ k ih => exact ih
  rw [padded, numeralFrom?_append, zeros]
  exact numeralFrom?_toDigits (by decide) (by decide) n

theorem padded_inj {width width' : Nat} (same : padded width n = padded width' m) : n = m := by
  have read := congrArg (numeralFrom? 10 0) same
  rwa [numeralFrom?_padded, numeralFrom?_padded, Option.some_inj] at read

/-- The two digits of a byte are read as that byte. -/
theorem numeralFrom?_hexByte (b : UInt8) : numeralFrom? 16 0 (hexByte b) = some b.toNat := by
  have below := b.toNat_lt
  have high := digit?_digitChar le_rfl (show b.toNat / 16 < 16 by omega)
  have low := digit?_digitChar le_rfl (show b.toNat % 16 < 16 by omega)
  simp [hexByte, numeralFrom?, high, low, Nat.div_add_mod]

theorem hexByte_inj {b b' : UInt8} (same : hexByte b = hexByte b') : b = b' := by
  have number := congrArg (numeralFrom? 16 0) same
  rw [numeralFrom?_hexByte, numeralFrom?_hexByte, Option.some_inj] at number
  exact UInt8.toNat_inj.mp number

/-! ## The grammar of numerals -/

/-- A character that is the digit of a number in a radix; a letter may stand in either case. -/
def IsDigitOf (radix : Nat) (c : Char) (n : Nat) : Prop :=
  n < radix ∧ (c = n.digitChar ∨ c = n.digitChar.toUpper)

/-- One or more digits, the most significant one first, and their number. -/
def IsNumeral (radix : Nat) (cs : List Char) (n : Nat) : Prop :=
  cs ≠ [] ∧ ∃ ds, List.Forall₂ (IsDigitOf radix) cs ds ∧ Nat.ofDigits radix ds.reverse = n

/-- A numeral with a plus sign in front of it or without. -/
def IsSignedNumeral (radix : Nat) (cs : List Char) (n : Nat) : Prop :=
  IsNumeral radix cs n ∨ ∃ digits, cs = '+' :: digits ∧ IsNumeral radix digits n

/-- A character of a range is told by its distance from the first one. -/
theorem exists_distance {first last c : Char} (within : first ≤ c ∧ c ≤ last) :
    ∃ k ≤ last.toNat - first.toNat,
      c.toNat - first.toNat = k ∧ c = Char.ofNat (first.toNat + k) := by
  have from_ : first.toNat ≤ c.toNat := UInt32.le_iff_toNat_le.mp within.1
  have to_ : c.toNat ≤ last.toNat := UInt32.le_iff_toNat_le.mp within.2
  refine ⟨c.toNat - first.toNat, Nat.sub_le_sub_right to_ _, rfl, ?_⟩
  rw [Nat.add_sub_cancel' from_, Char.ofNat_toNat]

/-- Exactly the digits of a radix are read as digits. -/
theorem digit?_eq_some_iff (within : radix ≤ 16) {c : Char} :
    digit? radix c = some n ↔ IsDigitOf radix c n := by
  have decimals : ∀ k ≤ 9, Char.ofNat ('0'.toNat + k) = k.digitChar := by decide
  have lowers : ∀ k ≤ 5, Char.ofNat ('a'.toNat + k) = (k + 10).digitChar := by decide
  have uppers : ∀ k ≤ 5, Char.ofNat ('A'.toNat + k) = (k + 10).digitChar.toUpper := by decide
  have uppers_read : ∀ radix ≤ 16, ∀ n < radix, digit? radix n.digitChar.toUpper = some n := by
    decide +kernel
  constructor
  · intro read
    rw [digit?, Option.filter_eq_some_iff, decide_eq_true_iff] at read
    obtain ⟨value, below⟩ := read
    refine ⟨below, ?_⟩
    split_ifs at value with decimal lower upper
    · obtain ⟨k, short, distance, rfl⟩ := exists_distance decimal
      rw [← Option.some.inj value, distance]
      exact Or.inl (decimals k short)
    · obtain ⟨k, short, distance, rfl⟩ := exists_distance lower
      rw [← Option.some.inj value, distance]
      exact Or.inl (lowers k short)
    · obtain ⟨k, short, distance, rfl⟩ := exists_distance upper
      rw [← Option.some.inj value, distance]
      exact Or.inr (uppers k short)
  · rintro ⟨below, rfl | rfl⟩
    · exact digit?_digitChar within below
    · exact uppers_read radix within n below

/-- What reading digits one after the other comes to. -/
theorem numeralFrom?_eq_some_iff (within : radix ≤ 16) {cs : List Char} :
    numeralFrom? radix n cs = some m ↔
      ∃ ds, List.Forall₂ (IsDigitOf radix) cs ds ∧ ds.foldl (fun n d => radix * n + d) n = m := by
  induction cs generalizing n with
  | nil => simp [numeralFrom?]
  | cons c cs ih =>
    simp only [numeralFrom?, Option.bind_eq_some_iff, digit?_eq_some_iff within, ih,
      List.forall₂_cons_left_iff]
    constructor
    · rintro ⟨d, digit, ds, rest, rfl⟩
      exact ⟨d :: ds, ⟨d, ds, digit, rest, rfl⟩, rfl⟩
    · rintro ⟨_, ⟨d, ds, digit, rest, rfl⟩, rfl⟩
      exact ⟨d, digit, ds, rest, rfl⟩

/-- The digits from the front are those of the positional value from the back. -/
theorem foldl_eq_ofDigits (radix : Nat) (ds : List Nat) :
    ds.foldl (fun n d => radix * n + d) 0 = Nat.ofDigits radix ds.reverse := by
  rw [Nat.ofDigits_eq_foldr, List.foldr_reverse]
  simp only [Nat.cast_id, Nat.add_comm]

theorem numeral?_eq_some_iff (within : radix ≤ 16) {cs : List Char} :
    numeral? radix cs = some n ↔ IsNumeral radix cs n := by
  rw [numeral?, IsNumeral]
  split
  · next empty =>
    rw [List.isEmpty_iff.mp empty]
    simp
  · next some_ =>
    rw [List.isEmpty_iff] at some_
    rw [numeralFrom?_eq_some_iff within, and_iff_right some_]
    simp only [foldl_eq_ofDigits]

/-- **The reader of numerals follows their grammar.** -/
theorem signedNumeral?_eq_some_iff (within : radix ≤ 16) {cs : List Char} :
    signedNumeral? radix cs = some n ↔ IsSignedNumeral radix cs n := by
  unfold signedNumeral?
  split
  · next digits =>
    rw [numeral?_eq_some_iff within]
    constructor
    · exact fun numeral => Or.inr ⟨digits, rfl, numeral⟩
    · rintro (⟨-, ds, alike, -⟩ | ⟨_, ⟨⟩, numeral⟩)
      · -- A sign is no digit, so the text is no numeral itself.
        obtain ⟨d, _, digit, -, -⟩ := List.forall₂_cons_left_iff.mp alike
        rw [← digit?_eq_some_iff within] at digit
        cases digit
      · exact numeral
  · next noSign =>
    rw [numeral?_eq_some_iff within]
    constructor
    · exact Or.inl
    · rintro (numeral | ⟨digits, rfl, -⟩)
      · exact numeral
      · exact absurd rfl (noSign digits)

/-! ## Characters of numbers -/

/-- The digits with which numbers are written. -/
def digits : List Char := (List.range 16).map Nat.digitChar

theorem digitChar_mem_digits (below : n < 16) : n.digitChar ∈ digits :=
  List.mem_map_of_mem (List.mem_range.mpr below)

theorem exists_digitChar {c : Char} (digit : c ∈ digits) : ∃ n < 16, n.digitChar = c := by
  simpa [digits] using digit

theorem mem_digits_of_toDigits (two : 1 < radix) (within : radix ≤ 16) {c : Char}
    (inside : c ∈ Nat.toDigits radix n) : c ∈ digits := by
  induction n using Nat.strongRecOn with
  | ind n ih =>
    rw [Nat.toDigits_eq_if two] at inside
    split at inside
    · next below =>
      rw [List.mem_singleton.mp inside]
      exact digitChar_mem_digits (by omega)
    · next beyond =>
      rcases List.mem_append.mp inside with before | last
      · exact ih _ (Nat.div_lt_self (by omega) two) before
      · have below : n % radix < radix := Nat.mod_lt n (by omega)
        rw [List.mem_singleton.mp last]
        exact digitChar_mem_digits (by omega)

theorem mem_digits_of_decimal {c : Char} (inside : c ∈ decimal n) : c ∈ digits :=
  mem_digits_of_toDigits (by decide) (by decide) inside

theorem mem_digits_of_hexadecimal {c : Char} (inside : c ∈ hexadecimal n) : c ∈ digits :=
  mem_digits_of_toDigits (by decide) (by decide) inside

theorem mem_digits_of_padded {width : Nat} {c : Char} (inside : c ∈ padded width n) :
    c ∈ digits := by
  rcases List.mem_append.mp inside with zero | digit
  · rw [(List.mem_replicate.mp zero).2]
    decide
  · exact mem_digits_of_decimal digit

theorem mem_digits_of_hexByte {b : UInt8} {c : Char} (inside : c ∈ hexByte b) : c ∈ digits := by
  have below := b.toNat_lt
  rcases List.mem_cons.mp inside with rfl | last
  · exact digitChar_mem_digits (by omega)
  · rw [List.mem_singleton.mp last]
    exact digitChar_mem_digits (by omega)

/-! ## Plain characters -/

/-- A printable character that needs no escape and separates nothing: no space, quote, comma or
backslash. -/
def IsPlain (c : Char) : Prop := 32 < c.toNat ∧ c.toNat < 127 ∧ c ∉ ['"', ',', '\\']

instance (c : Char) : Decidable (IsPlain c) := inferInstanceAs (Decidable (_ ∧ _ ∧ _))

theorem isPlain_of_mem_digits {c : Char} (digit : c ∈ digits) : IsPlain c := by
  -- Decided as it stands, this would go through all characters there are.
  have all : ∀ c ∈ digits, IsPlain c := List.all_iff_forall_prop.mp (by decide)
  exact all c digit

/-! ## The bytes of a text -/

theorem toList_loop (b : ByteArray) (i : Nat) (before : List UInt8) :
    ByteArray.toList.loop b i before = before.reverse ++ b.data.toList.drop i := by
  fun_induction ByteArray.toList.loop b i before with
  | case1 i before inside ih =>
    have here : b.data.toList.drop i = b.get! i :: b.data.toList.drop (i + 1) := by
      have below : i < b.data.toList.length := inside
      have same : b.get! i = b.data.toList[i] := getElem!_pos b.data i inside
      rw [same, List.drop_eq_getElem_cons below]
    rw [ih, here, List.reverse_cons, List.append_assoc, List.singleton_append]
  | case2 i before beyond =>
    have nothing : b.data.toList.drop i = [] := List.drop_eq_nil_of_le (Nat.le_of_not_lt beyond)
    rw [nothing, List.append_nil]

/-- The bytes of a text are those of its characters, one after the other. -/
theorem toList_toUTF8 (s : String) : s.toUTF8.toList = s.toList.flatMap String.utf8EncodeChar := by
  rw [ByteArray.toList, toList_loop, List.reverse_nil, List.nil_append, List.drop_zero,
    String.toUTF8, ← String.utf8Encode_toList, List.utf8Encode, List.toList_data_toByteArray]

theorem toList_toUTF8_append (s s' : String) :
    (s ++ s').toUTF8.toList = s.toUTF8.toList ++ s'.toUTF8.toList := by
  simp only [toList_toUTF8, String.toList_append, List.flatMap_append]

/-- A byte of an ASCII text is one of its characters. -/
theorem exists_char_of_byte {s : String} (ascii : ∀ c ∈ s.toList, c.toNat < 127) {b : UInt8}
    (inside : b ∈ s.toUTF8.toList) : ∃ c ∈ s.toList, b.toNat = c.toNat := by
  rw [toList_toUTF8] at inside
  obtain ⟨c, isChar, isByte⟩ := List.mem_flatMap.mp inside
  have below : c.toNat < 127 := ascii c isChar
  have single : c.utf8Size = 1 := by
    rw [Char.utf8Size_eq_one_iff, UInt32.le_iff_toNat_le]
    exact Nat.le_of_lt below
  rw [String.utf8EncodeChar_eq_singleton single, List.mem_singleton] at isByte
  refine ⟨c, isChar, ?_⟩
  rw [isByte]
  exact Nat.mod_eq_of_lt (Nat.lt_trans below (by decide))

end Wiretap.Text
