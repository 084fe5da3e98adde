import Wiretap.Time.Duration

/-!
# Calendar time

The date and time of day of a point in time, in the Gregorian calendar and in Coordinated
Universal Time, and the text of both.

## Main definitions

* `Date`, `Date.ofDays` - the date that lies a number of days after the epoch.
* `Calendar.stamp?` - the date and time of day to the millisecond, such as
  `2023-11-14T22:13:20.005Z`.

## Design notes

Days are counted from the first of March of the year zero, so that the leap day is the last day
of its year, and in cycles of 400 years, all of which have 146097 days.

The calendar ends with the year 262142.  A number of seconds that does not fit in 63 bits is
shown as the epoch itself.  A year beyond 9999 is written with a plus sign.
-/

namespace Wiretap

/-- A date in the Gregorian calendar. -/
structure Date where
  year : Nat
  month : Nat
  day : Nat
deriving DecidableEq, Repr

namespace Date

/-- The date a number of days after 1970-01-01. -/
def ofDays (days : Nat) : Date :=
  let shifted := 719468 + days
  let cycle := shifted / 146097
  let dayOfCycle := shifted % 146097
  let yearOfCycle :=
    (dayOfCycle - dayOfCycle / 1460 + dayOfCycle / 36524 - dayOfCycle / 146096) / 365
  let dayOfYear := dayOfCycle - (365 * yearOfCycle + yearOfCycle / 4 - yearOfCycle / 100)
  let monthOfYear := (5 * dayOfYear + 2) / 153
  let month := if monthOfYear < 10 then monthOfYear + 3 else monthOfYear - 9
  let year := yearOfCycle + cycle * 400
  { year := if month ≤ 2 then year + 1 else year
    month := month
    day := dayOfYear - (153 * monthOfYear + 2) / 5 + 1 }

/-- The characters of a year: four digits, or a plus sign before more. -/
def yearChars (year : Nat) : List Char :=
  if year ≤ 9999 then Text.padded 4 year else '+' :: Text.decimal year

/-- The characters of a date. -/
def chars (d : Date) : List Char :=
  yearChars d.year ++ '-' :: Text.padded 2 d.month ++ '-' :: Text.padded 2 d.day

end Date

namespace Calendar

/-- The last year of the calendar. -/
def lastYear : Nat := 262142

/-- The point in time that is shown for another one: itself, or the epoch where its seconds need
more than 63 bits. -/
def shown (t : Duration) : Duration := if t.secs < UInt64.size / 2 then t else Duration.zero

/-- The characters of the time of day, to the millisecond. -/
def timeChars (t : Duration) : List Char :=
  let second := t.secs % 86400
  Text.padded 2 (second / 3600) ++ ':' :: Text.padded 2 (second / 60 % 60) ++
    ':' :: Text.padded 2 (second % 60) ++ '.' :: Text.padded 3 t.subMillis

/-- The characters of a date and time of day, unless the date lies beyond the calendar. -/
def stampChars? (t : Duration) : Option (List Char) :=
  let t := shown t
  let date := Date.ofDays (t.secs / 86400)
  if date.year ≤ lastYear then some (date.chars ++ 'T' :: timeChars t ++ ['Z']) else none

/-- The text of a date and time of day, unless the date lies beyond the calendar. -/
def stamp? (t : Duration) : Option String := (stampChars? t).map String.ofList

end Calendar

end Wiretap
