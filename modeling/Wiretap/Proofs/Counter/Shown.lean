import Mathlib.Algebra.Order.BigOperators.Group.List
import Mathlib.Algebra.Order.Group.Nat
import Mathlib.Algebra.Ring.Nat
import Wiretap.Counter.Basic

/-!
# What counters show

A counter shows an amount modulo 2 ^ 64.  Several readings of the same counter show together what
they say together.

## Main definitions

* `Counter.shown`, `Counter.shownAll` - what the counter of a name shows, in one reading and in
  several.

## Main statements

* `Counter.shownAll_mod` - several readings are right together as far as 64 bits can say it.
* `Counter.shownAll_eq_sum_of_lt` - readings that each fit into 64 bits are right altogether.
-/

namespace Wiretap.Counter

variable {α : Type} {name : String} {counters : α → List Counter} {amount : α → Nat}

/-- What the counter of a name shows. -/
def shown (name : String) (cs : List Counter) : Nat :=
  match cs.find? fun c => c.name = name with
  | some { value := .unsigned n, .. } => n
  | _ => 0

/-- What the counters of a name show in several readings, together. -/
def shownAll (name : String) (readings : List (List Counter)) : Nat :=
  (readings.map (shown name)).sum

/-- Counters show an amount as far as 64 bits can say it, and so do several readings together. -/
theorem shownAll_mod (shows : ∀ a, shown name (counters a) = wrapped (amount a)) (as : List α) :
    shownAll name (as.map counters) % 2 ^ 64 = (as.map amount).sum % 2 ^ 64 := by
  induction as with
  | nil => rfl
  | cons a as ih =>
    have first : shown name (counters a) % 2 ^ 64 = amount a % 2 ^ 64 := by
      rw [shows, wrapped, show UInt64.size = 2 ^ 64 from rfl, Nat.mod_mod]
    simp only [shownAll, List.map_cons, List.sum_cons] at ih ⊢
    omega

/-- Readings that each fit into 64 bits are right altogether. -/
theorem shownAll_eq_sum_of_lt (shows : ∀ a, shown name (counters a) = wrapped (amount a))
    {as : List α} (fits : ∀ a ∈ as, amount a < 2 ^ 64) :
    shownAll name (as.map counters) = (as.map amount).sum := by
  have each : as.map (shown name ∘ counters) = as.map amount :=
    List.map_congr_left fun a member => (shows a).trans (Nat.mod_eq_of_lt (fits a member))
  rw [shownAll, List.map_map, each]

/-- Readings that together fit into 64 bits are right altogether. -/
theorem shownAll_eq_sum (shows : ∀ a, shown name (counters a) = wrapped (amount a)) {as : List α}
    (fits : (as.map amount).sum < 2 ^ 64) :
    shownAll name (as.map counters) = (as.map amount).sum := by
  refine shownAll_eq_sum_of_lt shows fun a member => ?_
  exact Nat.lt_of_le_of_lt (List.le_sum_of_mem (List.mem_map_of_mem member)) fits

end Wiretap.Counter
