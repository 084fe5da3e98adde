import Wiretap.Text.Numeral

/-!
# Lengths of time

A length of time in whole nanoseconds.  A point in time is the length of time since the epoch
1970-01-01T00:00:00Z, so the same type serves for timestamps and for timeouts.

## Main definitions

* `Duration` - a number of nanoseconds.
* `Duration.secs`, `Duration.subNanos` - whole seconds and the nanoseconds beyond them.
* `Duration.since` - how long after another point in time, zero if it is not after it.
* `Duration.text` - the text in the largest fitting unit, such as `1.5µs` or `61.0001s`.
-/

namespace Wiretap

/-- A length of time, or the point in time that is so long after the epoch. -/
structure Duration where
  nanos : Nat
deriving DecidableEq, Repr, Inhabited, Ord

namespace Duration

/-- The length of a number of seconds and nanoseconds. -/
def of (secs nanos : Nat) : Duration := ⟨secs * 1000000000 + nanos⟩

/-- The length of a number of seconds. -/
def ofSecs (secs : Nat) : Duration := of secs 0

/-- No time at all, and the epoch. -/
def zero : Duration := ⟨0⟩

/-- The whole seconds. -/
def secs (d : Duration) : Nat := d.nanos / 1000000000

/-- The nanoseconds beyond the whole seconds. -/
def subNanos (d : Duration) : Nat := d.nanos % 1000000000

/-- The microseconds beyond the whole seconds, rounded down. -/
def subMicros (d : Duration) : Nat := d.subNanos / 1000

/-- The milliseconds beyond the whole seconds, rounded down. -/
def subMillis (d : Duration) : Nat := d.subNanos / 1000000

/-- How long `now` is after `past`; nothing if it is not after it. -/
def since (now past : Duration) : Duration := ⟨now.nanos - past.nanos⟩

instance : LE Duration := ⟨fun a b => a.nanos ≤ b.nanos⟩

instance : LT Duration := ⟨fun a b => a.nanos < b.nanos⟩

instance (a b : Duration) : Decidable (a ≤ b) := inferInstanceAs (Decidable (a.nanos ≤ b.nanos))

instance (a b : Duration) : Decidable (a < b) := inferInstanceAs (Decidable (a.nanos < b.nanos))

@[simp] theorem since_self (a : Duration) : a.since a = zero := by simp [since, zero]

/-- Seconds and nanoseconds below a second are read back. -/
theorem secs_of {secs nanos : Nat} (h : nanos < 1000000000) : (of secs nanos).secs = secs := by
  simp only [Duration.secs, of]
  omega

theorem subNanos_of {secs nanos : Nat} (h : nanos < 1000000000) :
    (of secs nanos).subNanos = nanos := by
  simp only [subNanos, of]
  omega

/-! ### Text -/

/-- A number of units and a fraction of `width` decimals, without the zeros at its end. -/
def decimalText (whole fraction width : Nat) (unit : String) : String :=
  let digits := (Text.padded width fraction).reverse.dropWhile (· == '0') |>.reverse
  let point := if digits.isEmpty then [] else '.' :: digits
  String.ofList (Text.decimal whole ++ point) ++ unit

/-- The text in the largest of seconds, milliseconds, microseconds and nanoseconds that has a
whole part other than zero. -/
def text (d : Duration) : String :=
  if d.nanos ≥ 1000000000 then decimalText d.secs d.subNanos 9 "s"
  else if d.nanos ≥ 1000000 then decimalText (d.nanos / 1000000) (d.nanos % 1000000) 6 "ms"
  else if d.nanos ≥ 1000 then decimalText (d.nanos / 1000) (d.nanos % 1000) 3 "µs"
  else decimalText d.nanos 0 0 "ns"

instance : ToString Duration := ⟨text⟩

end Duration

end Wiretap
