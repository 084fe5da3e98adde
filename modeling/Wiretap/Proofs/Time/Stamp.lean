import Mathlib.Data.List.Basic
import Wiretap.Proofs.Text.Numeral
import Wiretap.Proofs.Time.Calendar

/-!
# Stamps that tell the time

A date tells its day, and the text of a date and time of day tells its millisecond, as far as the
calendar reaches.

## Main definitions

* `Date.yearOfDay`, `Date.daysBefore` - the year of a cycle to which a day belongs, and the days of
  the cycle before it.
* `Duration.millis` - the whole milliseconds.
* `Calendar.Reaches` - the calendar reaches a point in time.

## Main statements

* `Date.yearOfDay_spec` - a day lies in the year to which it belongs.
* `Date.ofDays_injective`, `Date.chars_injective` - a date tells its day, and its text the date.
* `Calendar.stamp?_eq_iff` - a stamp tells its millisecond and nothing else.

## Design notes

A cycle of 400 years is cut into centuries of 36524 days and these into spans of 1461 days, so that
the leap days in front of a day are counted by the number of its span.
-/

namespace Wiretap

namespace Date

/-- The days of a cycle before a year of it. -/
def daysBefore (year : Nat) : Nat := 365 * year + year / 4 - year / 100

/-- The year of a cycle to which a day belongs. -/
def yearOfDay (day : Nat) : Nat := (day - day / 1460 + day / 36524 - day / 146096) / 365

theorem yearOfDay_of_parts {century leap rest : Nat} (centuries : century < 4) (leaps : leap < 25)
    (within : rest < 1461) (last : leap = 24 → rest < 1460) :
    yearOfDay (36524 * century + 1461 * leap + rest) =
      100 * century + 4 * leap + (rest - (24 * century + leap + rest) / 1460) / 365 := by
  have quarters : (36524 * century + 1461 * leap + rest) / 1460 =
      25 * century + leap + (24 * century + leap + rest) / 1460 := by omega
  have hundreds : (36524 * century + 1461 * leap + rest) / 36524 = century := by omega
  have cycles : (36524 * century + 1461 * leap + rest) / 146096 = 0 := by omega
  rw [yearOfDay, quarters, hundreds, cycles]
  omega

/-- A day lies in the year to which it belongs. -/
theorem yearOfDay_spec {day : Nat} (inCycle : day < 146097) :
    yearOfDay day < 400 ∧ daysBefore (yearOfDay day) ≤ day ∧
      day < daysBefore (yearOfDay day) + 366 := by
  by_cases isLast : day = 146096
  · rw [isLast]
    decide
  -- The cycle is cut into centuries and these into spans of four years, the last a day shorter.
  have parts : day = 36524 * (day / 36524) + 1461 * (day % 36524 / 1461) + day % 36524 % 1461 := by
    omega
  have centuries : day / 36524 < 4 := by omega
  have leaps : day % 36524 / 1461 < 25 := by omega
  have within : day % 36524 % 1461 < 1461 := by omega
  have last : day % 36524 / 1461 = 24 → day % 36524 % 1461 < 1460 := by omega
  rw [parts]
  generalize day / 36524 = century at centuries ⊢
  generalize day % 36524 % 1461 = rest at within last ⊢
  generalize day % 36524 / 1461 = leap at leaps last ⊢
  rw [yearOfDay_of_parts centuries leaps within last]
  have early : (rest - (24 * century + leap + rest) / 1460) / 365 < 4 := by omega
  have inYear : 365 * ((rest - (24 * century + leap + rest) / 1460) / 365) ≤ rest ∧
      rest < 365 * ((rest - (24 * century + leap + rest) / 1460) / 365) + 366 := by omega
  generalize (rest - (24 * century + leap + rest) / 1460) / 365 = year at early inYear ⊢
  have leapDays : (100 * century + 4 * leap + year) / 4 = 25 * century + leap := by omega
  have noLeapDays : (100 * century + 4 * leap + year) / 100 = century := by omega
  rw [daysBefore, leapDays, noLeapDays]
  omega

/-- The day of the year of a day, counted from the first of March. -/
def dayOfYear (days : Nat) : Nat :=
  (719468 + days) % 146097 - daysBefore (yearOfDay ((719468 + days) % 146097))

/-- The month of the calendar that is so many months after March. -/
def monthAfterMarch (months : Nat) : Nat := if months < 10 then months + 3 else months - 9

theorem monthAfterMarch_inj {months months' : Nat} (below : months < 12) (below' : months' < 12)
    (same : monthAfterMarch months = monthAfterMarch months') : months = months' := by
  unfold monthAfterMarch at same
  split at same <;> split at same <;> omega

theorem ofDays_eq (days : Nat) :
    let months := (5 * dayOfYear days + 2) / 153
    let year := yearOfDay ((719468 + days) % 146097) + (719468 + days) / 146097 * 400
    ofDays days = ⟨if monthAfterMarch months ≤ 2 then year + 1 else year, monthAfterMarch months,
      dayOfYear days - (153 * months + 2) / 5 + 1⟩ := rfl

/-- A day lies in its year. -/
theorem dayOfYear_spec (days : Nat) :
    dayOfYear days < 366 ∧ yearOfDay ((719468 + days) % 146097) < 400 ∧
      (719468 + days) % 146097 =
        daysBefore (yearOfDay ((719468 + days) % 146097)) + dayOfYear days := by
  have spec := yearOfDay_spec (Nat.mod_lt (719468 + days) (show 146097 > 0 by decide))
  unfold dayOfYear
  omega

/-- A date tells its day. -/
theorem ofDays_injective : Function.Injective ofDays := by
  intro days days' same
  obtain ⟨below, inCycle, split_⟩ := dayOfYear_spec days
  obtain ⟨below', inCycle', split'⟩ := dayOfYear_spec days'
  rw [ofDays_eq, ofDays_eq, mk.injEq] at same
  obtain ⟨year, month, day⟩ := same
  -- Month and day settle the day of the year, and this the years in front of it.
  have sameMonth := monthAfterMarch_inj (by omega) (by omega) month
  rw [sameMonth] at year day
  have sameDay : dayOfYear days = dayOfYear days' := by omega
  have sameYear : yearOfDay ((719468 + days) % 146097) + (719468 + days) / 146097 * 400 =
      yearOfDay ((719468 + days') % 146097) + (719468 + days') / 146097 * 400 := by
    split at year
    · exact Nat.succ_inj.mp year
    · exact year
  have sameYearOfCycle : yearOfDay ((719468 + days) % 146097) =
      yearOfDay ((719468 + days') % 146097) := by omega
  rw [sameYearOfCycle, sameDay] at split_
  omega

/-! ## The text of a date -/

theorem yearChars_injective : Function.Injective yearChars := by
  intro year year' same
  have noPlus (year : Nat) : ¬ '+' ∈ Text.padded 4 year := fun inside =>
    absurd (Text.mem_digits_of_padded inside) (by decide)
  unfold yearChars at same
  split at same <;> split at same
  · exact Text.padded_inj same
  · exact absurd (same ▸ List.mem_cons_self) (noPlus year)
  · exact absurd (same ▸ List.mem_cons_self) (noPlus year')
  · exact (Text.toDigits_inj (by decide) (by decide)).mp (List.tail_eq_of_cons_eq same)

theorem mem_yearChars {year : Nat} {c : Char} (inside : c ∈ yearChars year) :
    c = '+' ∨ c ∈ Text.digits := by
  unfold yearChars at inside
  split at inside
  · exact Or.inr (Text.mem_digits_of_padded inside)
  · exact (List.mem_cons.mp inside).imp_right Text.mem_digits_of_decimal

/-- The numbers of a date as they are written. -/
def parts (d : Date) : List (List Char) :=
  [yearChars d.year, Text.padded 2 d.month, Text.padded 2 d.day]

theorem chars_eq (d : Date) : d.chars = Text.joinWith '-' d.parts := List.append_assoc _ _ _

theorem mem_parts {d : Date} {part : List Char} (isPart : part ∈ d.parts) {c : Char}
    (inside : c ∈ part) : c = '+' ∨ c ∈ Text.digits := by
  rcases List.mem_cons.mp isPart with rfl | later
  · exact mem_yearChars inside
  · rcases List.mem_cons.mp later with rfl | last
    · exact Or.inr (Text.mem_digits_of_padded inside)
    · rw [List.mem_singleton.mp last] at inside
      exact Or.inr (Text.mem_digits_of_padded inside)

theorem mem_chars {d : Date} {c : Char} (inside : c ∈ d.chars) :
    c = '-' ∨ c = '+' ∨ c ∈ Text.digits := by
  rw [chars_eq] at inside
  rcases Text.mem_joinWith inside with dash | ⟨part, isPart, there⟩
  · exact Or.inl dash
  · exact Or.inr (mem_parts isPart there)

/-- The text of a date tells it. -/
theorem chars_injective : Function.Injective chars := by
  intro d d' same
  have without (d : Date) : ∀ part ∈ d.parts, '-' ∉ part := by
    intro part isPart dash
    rcases mem_parts isPart dash with plus | digit
    · exact absurd plus (by decide)
    · exact absurd digit (by decide)
  have some_ (d : Date) : d.parts ≠ [] := List.cons_ne_nil _ _
  rw [chars_eq, chars_eq,
    Text.joinWith_inj (some_ d) (some_ d') (without d) (without d')] at same
  obtain ⟨year, month, day⟩ : yearChars d.year = yearChars d'.year ∧
      Text.padded 2 d.month = Text.padded 2 d'.month ∧
      Text.padded 2 d.day = Text.padded 2 d'.day := by
    simpa [parts] using same
  cases d
  cases d'
  rw [mk.injEq]
  exact ⟨yearChars_injective year, Text.padded_inj month, Text.padded_inj day⟩

end Date

/-- The whole milliseconds. -/
def Duration.millis (t : Duration) : Nat := t.nanos / 1000000

namespace Calendar

variable {t t' : Duration}

/-- The calendar reaches a point in time. -/
def Reaches (t : Duration) : Prop := (Date.ofDays (t.secs / 86400)).year ≤ lastYear

instance (t : Duration) : Decidable (Reaches t) := inferInstanceAs (Decidable (_ ≤ _))

/-- The calendar ends before the seconds need more than 63 bits. -/
theorem Reaches.shown (reaches : Reaches t) : shown t = t := by
  have cycle : (719468 + t.secs / 86400) / 146097 * 400 ≤ lastYear := by
    refine le_trans ?_ reaches
    rw [Date.ofDays_eq]
    simp only
    split <;> omega
  have early : t.secs < UInt64.size / 2 := by
    have last : lastYear = 262142 := rfl
    have size : UInt64.size / 2 = 9223372036854775808 := rfl
    omega
  exact if_pos early

theorem Reaches.stampChars? (reaches : Reaches t) :
    stampChars? t = some
      ((Date.ofDays (t.secs / 86400)).chars ++ 'T' :: timeChars t ++ ['Z']) := by
  rw [Calendar.stampChars?]
  simp only [reaches.shown]
  exact if_pos reaches

/-- The numbers of a time of day as they are written. -/
def timeParts (t : Duration) : List (List Char) :=
  [Text.padded 2 (t.secs % 86400 / 3600), Text.padded 2 (t.secs % 86400 / 60 % 60),
    Text.padded 2 (t.secs % 86400 % 60) ++ '.' :: Text.padded 3 t.subMillis]

theorem timeChars_eq (t : Duration) : timeChars t = Text.joinWith ':' (timeParts t) := by
  simp [timeChars, timeParts, Text.joinWith]

theorem mem_timeParts {part : List Char} (isPart : part ∈ timeParts t) {c : Char}
    (inside : c ∈ part) : c = '.' ∨ c ∈ Text.digits := by
  rcases List.mem_cons.mp isPart with rfl | later
  · exact Or.inr (Text.mem_digits_of_padded inside)
  · rcases List.mem_cons.mp later with rfl | last
    · exact Or.inr (Text.mem_digits_of_padded inside)
    · rw [List.mem_singleton.mp last, List.mem_append, List.mem_cons] at inside
      rcases inside with second | dot | millis
      · exact Or.inr (Text.mem_digits_of_padded second)
      · exact Or.inl dot
      · exact Or.inr (Text.mem_digits_of_padded millis)

theorem mem_timeChars {c : Char} (inside : c ∈ timeChars t) :
    c = ':' ∨ c = '.' ∨ c ∈ Text.digits := by
  rw [timeChars_eq] at inside
  rcases Text.mem_joinWith inside with colon | ⟨part, isPart, there⟩
  · exact Or.inl colon
  · exact Or.inr (mem_timeParts isPart there)

/-- The text of a time of day tells its second and millisecond. -/
theorem timeChars_inj (same : timeChars t = timeChars t') :
    t.secs % 86400 = t'.secs % 86400 ∧ t.subMillis = t'.subMillis := by
  have without (t : Duration) : ∀ part ∈ timeParts t, ':' ∉ part := by
    intro part isPart colon
    rcases mem_timeParts isPart colon with dot | digit
    · exact absurd dot (by decide)
    · exact absurd digit (by decide)
  have noDot (n : Nat) : '.' ∉ Text.padded 2 n := fun inside =>
    absurd (Text.mem_digits_of_padded inside) (by decide)
  have some_ (t : Duration) : timeParts t ≠ [] := List.cons_ne_nil _ _
  rw [timeChars_eq, timeChars_eq,
    Text.joinWith_inj (some_ t) (some_ t') (without t) (without t')] at same
  simp only [timeParts, List.cons.injEq, and_true] at same
  obtain ⟨hour, minute, last⟩ := same
  obtain ⟨second, millis⟩ := (Text.append_cons_inj (noDot _) (noDot _)).mp last
  have sameHour := Text.padded_inj hour
  have sameMinute := Text.padded_inj minute
  have sameSecond := Text.padded_inj second
  exact ⟨by omega, Text.padded_inj millis⟩

/-- **A stamp tells its millisecond**, for all times that the calendar reaches. -/
theorem stamp?_eq_iff (reaches : Reaches t) (reaches' : Reaches t') :
    stamp? t = stamp? t' ↔ t.millis = t'.millis := by
  have whole (t : Duration) : t.millis = 1000 * t.secs + t.subMillis := by
    unfold Duration.millis Duration.secs Duration.subMillis Duration.subNanos
    omega
  rw [stamp?, stamp?, reaches.stampChars?, reaches'.stampChars?, Option.map_some, Option.map_some,
    Option.some_inj, String.ofList_inj, List.append_cancel_right_eq]
  constructor
  · intro same
    have noT (d : Date) : 'T' ∉ d.chars := by
      intro inside
      rcases Date.mem_chars inside with dash | plus | digit
      · exact absurd dash (by decide)
      · exact absurd plus (by decide)
      · exact absurd digit (by decide)
    obtain ⟨date, time⟩ := (Text.append_cons_inj (noT _) (noT _)).mp same
    have day := Date.ofDays_injective (Date.chars_injective date)
    obtain ⟨second, millis⟩ := timeChars_inj time
    rw [whole, whole]
    omega
  · intro same
    have bound (t : Duration) : t.subMillis < 1000 := by
      unfold Duration.subMillis Duration.subNanos
      omega
    have first := bound t
    have second := bound t'
    rw [whole, whole] at same
    have secs : t.secs = t'.secs := by omega
    have millis : t.subMillis = t'.subMillis := by omega
    rw [timeChars, timeChars, secs, millis]

theorem isPlain_of_stamp? {s : String} (reaches : Reaches t) (shown : stamp? t = some s) {c : Char}
    (inside : c ∈ s.toList) : Text.IsPlain c := by
  rw [stamp?, reaches.stampChars?, Option.map_some, Option.some_inj] at shown
  rw [← shown, String.toList_ofList, List.append_assoc, List.mem_append, List.cons_append,
    List.mem_cons, List.mem_append, List.mem_singleton] at inside
  rcases inside with date | rfl | time | rfl
  · rcases Date.mem_chars date with rfl | rfl | digit
    · decide
    · decide
    · exact Text.isPlain_of_mem_digits digit
  · decide
  · rcases mem_timeChars time with rfl | rfl | digit
    · decide
    · decide
    · exact Text.isPlain_of_mem_digits digit
  · decide

end Calendar

end Wiretap
