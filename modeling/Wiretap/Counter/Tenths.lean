import Wiretap.Text.Numeral

/-!
# Binary fractions with one decimal

The text of a 64-bit binary floating-point number with exactly one decimal.  The number is a
fraction `m * 2 ^ e`, so its tenths are computed exactly and rounded once, a half going to the
even neighbour.

## Main definitions

* `Tenths.roundHalfEven` - a quotient rounded to the nearest whole number.
* `Tenths.Binary` - sign, significand and exponent of a number.
* `Tenths.text` - the text, such as `99.5` or `-0.0`; `inf`, `-inf` and `NaN` for the rest.
-/

namespace Wiretap.Tenths

/-- The whole number nearest to a quotient, the even one of two equally near. -/
def roundHalfEven (numerator denominator : Nat) : Nat :=
  let quotient := numerator / denominator
  let twice := 2 * (numerator % denominator)
  if twice < denominator then quotient
  else if denominator < twice then quotient + 1
  else if quotient % 2 = 0 then quotient else quotient + 1

/-- The result is within half a unit of the quotient. -/
theorem roundHalfEven_near (n : Nat) {d : Nat} (h : 0 < d) :
    2 * n ≤ 2 * d * roundHalfEven n d + d ∧ 2 * d * roundHalfEven n d ≤ 2 * n + d := by
  have split := Nat.div_add_mod n d
  have small := Nat.mod_lt n h
  have unit : 2 * d * (n / d + 1) = 2 * (d * (n / d)) + 2 * d := by
    rw [Nat.mul_add, Nat.mul_assoc, Nat.mul_one]
  have whole : 2 * d * (n / d) = 2 * (d * (n / d)) := Nat.mul_assoc ..
  unfold roundHalfEven
  simp only
  split
  · omega
  · split
    · omega
    · split <;> omega

/-- A finite number `(-1) ^ sign * significand * 2 ^ exponent`. -/
structure Binary where
  negative : Bool
  significand : Nat
  exponent : Int
deriving Repr

/-- The tenths of a number without its sign. -/
def Binary.tenths (x : Binary) : Nat :=
  if 0 ≤ x.exponent then (x.significand <<< x.exponent.toNat) * 10
  else roundHalfEven (x.significand * 10) (1 <<< (-x.exponent).toNat)

/-- What the 64 bits of a floating-point number stand for. -/
inductive Reading where
  | finite (x : Binary)
  | infinite (negative : Bool)
  | notANumber
deriving Repr

/-- The reading of 64 bits: one for the sign, eleven for the exponent, 52 for the fraction. -/
def read (bits : UInt64) : Reading :=
  let n := bits.toNat
  let negative : Bool := n >>> 63 = 1
  let exponent : Nat := (n >>> 52) % 2048
  let fraction : Nat := n % (1 <<< 52)
  if exponent = 2047 then
    if fraction = 0 then .infinite negative else .notANumber
  else if exponent = 0 then
    .finite ⟨negative, fraction, -1074⟩
  else
    .finite ⟨negative, (1 <<< 52) + fraction, (exponent : Int) - 1075⟩

/-- The sign in front of a number. -/
def signText (negative : Bool) : String := if negative then "-" else ""

/-- The text of a floating-point number with one decimal. -/
def text (x : Float) : String :=
  match read x.toBits with
  | .finite x => s!"{signText x.negative}{x.tenths / 10}.{x.tenths % 10}"
  | .infinite negative => signText negative ++ "inf"
  | .notANumber => "NaN"

end Wiretap.Tenths
