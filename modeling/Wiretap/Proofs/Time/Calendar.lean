import Mathlib.Algebra.Ring.Nat
import Wiretap.Time.Calendar

/-!
# Times that the calendar can show

## Main statements

* `Date.year_ofDays_le` - a cycle of 400 years has 146097 days, so days bound the year.
* `Calendar.isSome_stamp?` - a time within the calendar can be shown.
* `Calendar.isSome_stamp?_of_secs` - so can a time whose seconds fit into 32 bits.
-/

namespace Wiretap

/-- No date lies further ahead than the end of its cycle of 400 years. -/
theorem Date.year_ofDays_le (days : Nat) :
    (Date.ofDays days).year ≤ 400 * ((719468 + days) / 146097) + 401 := by
  have inCycle : (719468 + days) % 146097 < 146097 := Nat.mod_lt _ (by decide)
  unfold Date.ofDays
  simp only
  generalize (719468 + days) % 146097 = day at inCycle ⊢
  -- A cycle has 400 years, and the months behind the turn of a year belong to the next one.
  have yearOfCycle : (day - day / 1460 + day / 36524 - day / 146096) / 365 ≤ 400 := by omega
  generalize (day - day / 1460 + day / 36524 - day / 146096) / 365 = year at yearOfCycle ⊢
  have later : ∀ (month : Nat), (if month ≤ 2 then year + (719468 + days) / 146097 * 400 + 1
      else year + (719468 + days) / 146097 * 400) ≤ 400 * ((719468 + days) / 146097) + 401 := by
    intro month
    split <;> omega
  exact later _

namespace Calendar

/-- A time within the calendar can be shown. -/
theorem isSome_stamp? {t : Duration}
    (within : (Date.ofDays (t.secs / 86400)).year ≤ lastYear) : (stamp? t).isSome := by
  have shownWithin : (Date.ofDays ((shown t).secs / 86400)).year ≤ lastYear := by
    unfold shown
    split
    · exact within
    · decide
  unfold stamp? stampChars?
  simp only
  rw [if_pos shownWithin]
  rfl

/-- A time whose seconds fit into 32 bits can be shown. -/
theorem isSome_stamp?_of_secs (secs : UInt32) : (stamp? (.ofSecs secs.toNat)).isSome := by
  refine isSome_stamp? ?_
  have bound := secs.toNat_lt
  have year := Date.year_ofDays_le (secs.toNat / 86400)
  rw [show (Duration.ofSecs secs.toNat).secs = secs.toNat from Duration.secs_of (by decide),
    lastYear]
  omega

end Calendar

end Wiretap
