/-!
# Dates

Days are counted from the first of January 1970 and months from the March of year 0, in the
Gregorian calendar extended to all years.  Counting years from March puts the leap day last, so
both counts have closed forms: **`yearStart`** and **`monthStart`** give the day on which a year
or a month begins, **`yearOf`** and **`monthOf`** find the year or the month that a day lies in.

**`Date`** is the written form, year, month and day of the month, with `Date.ofDay` and
`Date.toDay?` between the two.  Only the years from `firstYear` to `lastYear` can be used.
-/

namespace CandleFeed.Calendar

/-- The first year that can be used. -/
def firstYear : Int := -262143

/-- The last year that can be used. -/
def lastYear : Int := 262142

/-- The day of the first of March of a year. -/
def yearStart (year : Int) : Int := 365 * year + year / 4 - year / 100 + year / 400 - 719468

/-- The year, counted from March, that a day lies in. -/
def yearOf (day : Int) : Int :=
  let guess := 400 * (day + 719468) / 146097
  if day < yearStart guess then guess - 1
  else if yearStart (guess + 1) ≤ day then guess + 1
  else guess

/-- The first day of a month. -/
def monthStart (month : Int) : Int := yearStart (month / 12) + (153 * (month % 12) + 2) / 5

/-- The month that a day lies in. -/
def monthOf (day : Int) : Int :=
  let year := yearOf day
  12 * year + (5 * (day - yearStart year) + 2) / 153

/-- The month that year and month of the year name. -/
def monthIn (year : Int) (month : Int) : Int := 12 * year + month - 3

/-- How many days a month has. -/
def monthLength (month : Int) : Int := monthStart (month + 1) - monthStart month

/-- The day that lies as many days into the month, or the month's last one if it is shorter. -/
def dayInMonth (month : Int) (offset : Int) : Int :=
  monthStart month + min offset (monthLength month - 1)

/-- The Monday on or before a day. -/
def weekStart (day : Int) : Int := day - (day + 3) % 7

/-- The first day that can be used. -/
def firstDay : Int := monthStart (monthIn firstYear 1)

/-- The last day that can be used. -/
def lastDay : Int := monthStart (monthIn (lastYear + 1) 1) - 1

/-- A day as it is written. -/
structure Date where
  /-- The year, which has a sign. -/
  year : Int
  /-- The month of the year, from 1. -/
  month : Int
  /-- The day of the month, from 1. -/
  day : Int
deriving DecidableEq, Repr

namespace Date

/-- How a day is written. -/
def ofDay (day : Int) : Date :=
  let month := monthOf day
  let fromJanuary := month + 2
  ⟨fromJanuary / 12, fromJanuary % 12 + 1, day - monthStart month + 1⟩

/-- The day that is written, if there is such a date in a year that can be used. -/
def toDay? (d : Date) : Option Int :=
  let month := monthIn d.year d.month
  if firstYear ≤ d.year && d.year ≤ lastYear && 1 ≤ d.month && d.month ≤ 12 && 1 ≤ d.day &&
      d.day ≤ monthLength month then
    some (monthStart month + d.day - 1)
  else none

end Date

end CandleFeed.Calendar
