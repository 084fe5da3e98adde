import Wiretap.Proofs.Access.Basic
import Wiretap.Proofs.Address.Text

/-!
# Spellings of hardware addresses

A hardware address can be spelled in many ways: each byte may have a plus sign, zeros in front and
letters of either case.  Reading accepts exactly the spellings, and an address is written in the one
of them that has two lower-case digits for each byte.

## Main definitions

* `Mac.parts` - what stands between the colons of a text.
* `Mac.IsSpelling` - the grammar: six numerals of bytes.
* `Mac.Spells` - a text whose numerals are the bytes of an address.
* `Mac.IsCanonical` - a text with two lower-case digits between colons.

## Main statements

* `Mac.isSpelling_iff` - a text of six numerals spells an address.
* `Mac.parse_eq_ok_iff` - reading follows the grammar.
* `Mac.eq_text_iff` - the text of an address is its canonical spelling.
* `Mac.parse_follows_grammar` - what is read, what is refused and what is written.

## Design notes

The grammar is stated with the splitting, the digits and the positional values of the standard
library (`List.splitOn`, `Nat.digitChar`, `Nat.ofDigits`) and does not mention the reader.  Length
and case do not make a text canonical: `0:000:01:01:01:01` is as long as one, and the two characters
of a part may be a sign and a digit.
-/

namespace Wiretap

/-! ## Lists that are related element by element -/

section

variable {α β : Type} {R : α → β → Prop} {f : α → Option β} {xs : List α} {ys : List β}

theorem mapM_eq_some_iff : xs.mapM f = some ys ↔ List.Forall₂ (fun x y => f x = some y) xs ys := by
  induction xs generalizing ys with
  | nil => simp [eq_comm]
  | cons x xs ih =>
    simp only [List.mapM_cons, Option.bind_eq_bind, Option.bind_eq_some_iff, Option.pure_def,
      Option.some_inj, List.forall₂_cons_left_iff, exists_and_left, ← ih, @eq_comm _ ys]

/-- A list is related to another one if each of its elements is related to something. -/
theorem exists_forall₂_iff : (∃ ys, List.Forall₂ R xs ys) ↔ ∀ x ∈ xs, ∃ y, R x y := by
  induction xs with
  | nil => simp
  | cons x xs ih =>
    rw [List.forall_mem_cons, ← ih]
    constructor
    · rintro ⟨_, _ | ⟨first, others⟩⟩
      exact ⟨⟨_, first⟩, _, others⟩
    · rintro ⟨⟨y, first⟩, ys, others⟩
      exact ⟨y :: ys, .cons first others⟩

end

namespace Mac

variable {s : String} {m : Mac} {part : List Char} {b : UInt8}

/-! ## The grammar -/

/-- What stands between the colons of a text. -/
def parts (s : String) : List (List Char) := s.toList.splitOn ':'

/-- The grammar of hardware addresses: six parts, each the numeral of a byte. -/
def IsSpelling (s : String) : Prop :=
  (parts s).length = 6 ∧ ∀ part ∈ parts s, ∃ n ≤ 255, Text.IsSignedNumeral 16 part n

/-- The parts of the text are numerals of the bytes of the address, in their order. -/
def Spells (s : String) (m : Mac) : Prop :=
  List.Forall₂ (fun part b => Text.IsSignedNumeral 16 part b.toNat) (parts s) m.octets

/-- Two lower-case digits stand between colons. -/
def IsCanonical (s : String) : Prop :=
  ∀ part ∈ parts s, part.length = 2 ∧ part ⊆ Text.digits

/-- The parts of a text, joined again, are the text. -/
theorem parts_injective : Function.Injective parts := by
  intro s s' same
  have joined := congrArg [':'].intercalate same
  rw [parts, parts, List.intercalate_splitOn, List.intercalate_splitOn] at joined
  exact String.toList_inj.mp joined

/-! ## Reading -/

/-- A text of six numerals spells an address. -/
theorem isSpelling_iff : IsSpelling s ↔ ∃ m, Spells s m := by
  -- The numbers up to 255 are those of bytes, so that each part can be chosen a byte.
  have byte (part : List Char) : (∃ n ≤ 255, Text.IsSignedNumeral 16 part n) ↔
      ∃ b : UInt8, Text.IsSignedNumeral 16 part b.toNat := by
    constructor
    · rintro ⟨n, small, numeral⟩
      refine ⟨UInt8.ofNat n, ?_⟩
      rwa [UInt8.toNat_ofNat_of_lt' (Nat.lt_succ_of_le small)]
    · rintro ⟨b, numeral⟩
      exact ⟨b.toNat, Nat.le_of_lt_succ b.toNat_lt, numeral⟩
  simp only [IsSpelling, byte, ← exists_forall₂_iff]
  constructor
  · rintro ⟨six, octets, numerals⟩
    obtain ⟨m, same⟩ := Checked.mac_of_length (numerals.length_eq.symm.trans six)
    rw [ofBytes?_eq_some_iff] at same
    subst same
    exact ⟨m, numerals⟩
  · rintro ⟨m, spells⟩
    exact ⟨spells.length_eq, m.octets, spells⟩

theorem octet?_eq_some_iff : octet? part = some b ↔ Text.IsSignedNumeral 16 part b.toNat := by
  rw [← Text.signedNumeral?_eq_some_iff le_rfl, octet?, Option.map_eq_some_iff]
  simp only [Option.filter_eq_some_iff, decide_eq_true_iff]
  constructor
  · rintro ⟨n, ⟨numeral, below⟩, rfl⟩
    rwa [UInt8.toNat_ofNat_of_lt' below]
  · intro numeral
    exact ⟨b.toNat, ⟨numeral, b.toNat_lt⟩, UInt8.ofNat_toNat⟩

/-- Reading follows the grammar. -/
theorem parse_eq_ok_iff : parse s = .ok m ↔ Spells s m := by
  have read : parse s = .ok m ↔ parse? s = some m := by
    rw [parse]
    cases parse? s <;> simp
  rw [read, parse?, Option.bind_eq_some_iff]
  simp only [ofBytes?_eq_some_iff, exists_eq_right, mapM_eq_some_iff, octet?_eq_some_iff,
    Text.splitAt_eq_splitOn]
  rfl

/-- What is not read is the reason why it is not. -/
theorem parse_cases (s : String) : (∃ m, parse s = .ok m) ∨ parse s = .error (.malformed s) := by
  rw [parse]
  cases parse? s with
  | none => exact Or.inr rfl
  | some m => exact Or.inl ⟨m, rfl⟩

/-! ## Writing -/

theorem parts_text (m : Mac) : parts m.text = m.octets.map Text.hexByte := by
  rw [parts, text, String.toList_ofList, ← Text.splitAt_eq_splitOn, splitAt_chars]

theorem isNumeral_hexByte (b : UInt8) : Text.IsNumeral 16 (Text.hexByte b) b.toNat := by
  rw [← Text.numeral?_eq_some_iff le_rfl]
  exact Text.numeralFrom?_hexByte b

/-- An address is spelled by its text. -/
theorem spells_text (m : Mac) : Spells m.text m := by
  rw [Spells, parts_text, List.forall₂_map_left_iff, List.forall₂_same]
  intro b _
  exact Or.inl (isNumeral_hexByte b)

theorem length_text (m : Mac) : m.text.length = 17 := by
  rw [text, String.length_ofList]
  rfl

theorem text_subset (m : Mac) : m.text.toList ⊆ "0123456789abcdef:".toList := by
  intro c inside
  rw [text, String.toList_ofList] at inside
  have shown : "0123456789abcdef:".toList = Text.digits ++ [':'] := by decide
  rw [shown, List.mem_append, List.mem_singleton]
  exact (mem_chars inside).symm

/-- Two lower-case digits are a numeral of one byte only, which is written with them. -/
theorem eq_hexByte (two : part.length = 2) (lower : part ⊆ Text.digits)
    (numeral : Text.IsSignedNumeral 16 part b.toNat) : part = Text.hexByte b := by
  obtain ⟨c, c', rfl⟩ := List.length_eq_two.mp two
  obtain ⟨k, high, rfl⟩ := Text.exists_digitChar (lower List.mem_cons_self)
  obtain ⟨k', low, rfl⟩ := Text.exists_digitChar (lower (List.mem_cons_of_mem _ List.mem_cons_self))
  rcases numeral with numeral | ⟨digits, signed, -⟩
  · rw [← Text.numeral?_eq_some_iff le_rfl] at numeral
    have value : 16 * k + k' = b.toNat := by
      simpa [Text.numeral?, Text.numeralFrom?, Text.digit?_digitChar le_rfl high,
        Text.digit?_digitChar le_rfl low] using numeral
    have above : (16 * k + k') / 16 = k := by omega
    have below : (16 * k + k') % 16 = k' := by omega
    rw [Text.hexByte, ← value, above, below]
  · have plus : '+' ∈ Text.digits := lower (signed ▸ List.mem_cons_self)
    exact absurd plus (by decide)

/-- The text of an address is its canonical spelling. -/
theorem eq_text_iff (spells : Spells s m) : s = m.text ↔ IsCanonical s := by
  constructor
  · rintro rfl part inside
    rw [parts_text] at inside
    obtain ⟨b, -, rfl⟩ := List.mem_map.mp inside
    exact ⟨rfl, fun _ digit => Text.mem_digits_of_hexByte digit⟩
  · intro canonical
    -- Part by part the text is what is written for the address, and its parts tell the text.
    have written : List.Forall₂ (fun part b => part = Text.hexByte b) (parts s) m.octets :=
      ((List.forall₂_and_left _ _).mpr ⟨canonical, spells⟩).imp
        fun _ _ is => eq_hexByte is.1.1 is.1.2 is.2
    apply parts_injective
    rwa [parts_text, ← List.forall₂_eq_eq_eq, List.forall₂_map_right_iff]

/-- **Exactly the spellings of addresses are read, and the canonical one is written.**  A text is
accepted if six parts stand between its colons, each of them digits of base 16 for a number of at
most 255 with or without a plus sign; the address consists of these numbers in their order.  Any
other text is given back as the reason why it is none.  Each address is read from its own text,
which has 17 characters, none of them a capital, and is the canonical one among its spellings. -/
theorem parse_follows_grammar (s : String) :
    ((∃ m, parse s = .ok m) ↔ IsSpelling s) ∧
      (∀ m, parse s = .ok m ↔ Spells s m) ∧
      (¬ IsSpelling s → parse s = .error (.malformed s)) ∧
      (∀ m : Mac, parse m.text = .ok m) ∧
      ∀ m, parse s = .ok m →
        m.text.length = 17 ∧ m.text.toList ⊆ "0123456789abcdef:".toList ∧
          parse m.text = parse s ∧ (s = m.text ↔ IsCanonical s) := by
  have accepted : (∃ m, parse s = .ok m) ↔ IsSpelling s := by
    rw [isSpelling_iff]
    exact exists_congr fun _ => parse_eq_ok_iff
  refine ⟨accepted, fun _ => parse_eq_ok_iff, fun noSpelling => ?_,
    fun m => parse_eq_ok_iff.mpr (spells_text m), fun m read => ?_⟩
  · exact (parse_cases s).resolve_left fun read => noSpelling (accepted.mp read)
  · refine ⟨length_text m, text_subset m, ?_, eq_text_iff (parse_eq_ok_iff.mp read)⟩
    rw [read, parse_eq_ok_iff]
    exact spells_text m

/-- Signs, zeros and capitals, and a number that is just too large for a byte. -/
theorem parse_follows_grammar_signs_and_zeros :
    Spells "+00000:1A:fF:+0fE:9:07" ⟨0, 0x1a, 0xff, 0xfe, 9, 7⟩ ∧
      parse "00:1a:ff:fe:09:07" = parse "+00000:1A:fF:+0fE:9:07" ∧
      ¬ IsCanonical "+00000:1A:fF:+0fE:9:07" ∧
      ¬ IsSpelling "0:0:0:0:0:100" ∧
      parse "0:0:0:0:0:100" = .error (.malformed "0:0:0:0:0:100") := by
  have read : parse "+00000:1A:fF:+0fE:9:07" = .ok ⟨0, 0x1a, 0xff, 0xfe, 9, 7⟩ := rfl
  have noSpelling : ¬ IsSpelling "0:0:0:0:0:100" := by
    rintro ⟨-, numerals⟩
    obtain ⟨n, small, numeral⟩ := numerals "100".toList (by decide)
    rw [← Text.signedNumeral?_eq_some_iff le_rfl] at numeral
    have value : 256 = n := Option.some.inj numeral
    omega
  obtain ⟨-, spells, -, -, written⟩ := parse_follows_grammar "+00000:1A:fF:+0fE:9:07"
  obtain ⟨-, -, same, canonical⟩ := written _ read
  refine ⟨(spells _).mp read, same, fun isCanonical => ?_, noSpelling,
    (parse_follows_grammar "0:0:0:0:0:100").2.2.1 noSpelling⟩
  exact absurd (canonical.mpr isCanonical) (by decide)

end Mac

end Wiretap
