/-!
# Numerals

Reading a number from its digits in a given radix, and writing the fixed-width forms that
addresses and times use.  Only ASCII digits count: a digit of another script is no digit here.

## Main definitions

* `digit?` - the value of one digit, upper or lower case.
* `numeral?` - the value of a non-empty string of digits.
* `signedNumeral?` - the same after an optional plus sign.
* `hexByte` - a byte as two lower-case hexadecimal digits.
* `padded` - a decimal number filled up with zeros on the left.
-/

namespace Wiretap.Text

/-- The value of a digit in a radix of at most 16. -/
def digit? (radix : Nat) (c : Char) : Option Nat :=
  let value :=
    if '0' ≤ c ∧ c ≤ '9' then some (c.toNat - '0'.toNat)
    else if 'a' ≤ c ∧ c ≤ 'f' then some (c.toNat - 'a'.toNat + 10)
    else if 'A' ≤ c ∧ c ≤ 'F' then some (c.toNat - 'A'.toNat + 10)
    else none
  value.filter (· < radix)

/-- Whether a character is one of the ten decimal digits. -/
def isDigit (c : Char) : Bool := (digit? 10 c).isSome

/-- The value of a string of digits continued from `n`. -/
def numeralFrom? (radix : Nat) : Nat → List Char → Option Nat
  | n, [] => some n
  | n, c :: cs => (digit? radix c).bind fun d => numeralFrom? radix (radix * n + d) cs

/-- The value of a non-empty string of digits. -/
def numeral? (radix : Nat) (cs : List Char) : Option Nat :=
  if cs.isEmpty then none else numeralFrom? radix 0 cs

/-- The value of a non-empty string of digits, which one plus sign may precede. -/
def signedNumeral? (radix : Nat) : List Char → Option Nat
  | '+' :: cs => numeral? radix cs
  | cs => numeral? radix cs

/-- A byte as two lower-case hexadecimal digits. -/
def hexByte (b : UInt8) : List Char :=
  [Nat.digitChar (b.toNat / 16), Nat.digitChar (b.toNat % 16)]

/-- The decimal digits of a number. -/
def decimal (n : Nat) : List Char := Nat.toDigits 10 n

/-- The lower-case hexadecimal digits of a number. -/
def hexadecimal (n : Nat) : List Char := Nat.toDigits 16 n

/-- The decimal digits of a number, with zeros on the left up to the given width. -/
def padded (width n : Nat) : List Char :=
  let digits := decimal n
  List.replicate (width - digits.length) '0' ++ digits

/-- The parts of a text between the occurrences of a separator, at least one. -/
def splitAt (separator : Char) : List Char → List (List Char)
  | [] => [[]]
  | c :: cs =>
    if c = separator then [] :: splitAt separator cs
    else match splitAt separator cs with
      | [] => [[c]]
      | part :: parts => (c :: part) :: parts

/-- The text whose parts between separators are the given ones. -/
def joinWith (separator : Char) : List (List Char) → List Char
  | [] => []
  | [part] => part
  | part :: parts => part ++ separator :: joinWith separator parts

theorem splitAt_ne_nil (separator : Char) (cs : List Char) : splitAt separator cs ≠ [] := by
  cases cs with
  | nil => simp [splitAt]
  | cons c cs =>
    unfold splitAt
    split
    · simp
    · split <;> simp

/-- Splitting loses nothing: the parts joined again are the text. -/
theorem joinWith_splitAt (separator : Char) (cs : List Char) :
    joinWith separator (splitAt separator cs) = cs := by
  induction cs with
  | nil => rfl
  | cons c cs ih =>
    have hne := splitAt_ne_nil separator cs
    unfold splitAt
    split
    · next h =>
      cases hs : splitAt separator cs with
      | nil => exact absurd hs hne
      | cons p ps => rw [hs] at ih; simp [joinWith, ih, h]
    · cases hs : splitAt separator cs with
      | nil => exact absurd hs hne
      | cons p ps =>
        rw [hs] at ih
        cases ps with
        | nil => simpa [joinWith] using ih
        | cons q qs => simpa [joinWith] using ih

end Wiretap.Text
