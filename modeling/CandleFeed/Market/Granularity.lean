import CandleFeed.Text.Case

/-!
# Granularities

A **`Granularity`** is the length of the periods that bars cover: six fixed lengths from a minute
to a day, of which the day follows the calendar, then the calendar week and the calendar month.
They are listed from fine to coarse in **`Granularity.all`**.

Each has one exact name.  **`Granularity.ofName?`** accepts only these, **`Granularity.parse`**
accepts further spellings in any case, except that `1M` alone is a month and `1m` a minute.
-/

namespace CandleFeed

/-- The length of the periods that bars cover. -/
inductive Granularity where
  | minute1 | minute5 | minute15 | hour1 | hour4 | day1 | week1 | month1
deriving DecidableEq, Repr

namespace Granularity

/-- All granularities, from fine to coarse. -/
def all : List Granularity := [minute1, minute5, minute15, hour1, hour4, day1, week1, month1]

/-- The position in `all`. -/
def rank : Granularity → Nat
  | minute1 => 0
  | minute5 => 1
  | minute15 => 2
  | hour1 => 3
  | hour4 => 4
  | day1 => 5
  | week1 => 6
  | month1 => 7

/-- From fine to coarse. -/
instance : Ord Granularity := ⟨compareOn rank⟩

instance : Std.TransOrd Granularity := inferInstanceAs (Std.TransCmp (compareOn rank))

instance : Std.LawfulEqOrd Granularity where
  eq_of_compare {a b} h := by
    have hrank : a.rank = b.rank := Std.LawfulEqOrd.eq_of_compare h
    cases a <;> cases b <;> first | rfl | exact absurd hrank (by decide)

/-- The exact name. -/
def name : Granularity → String
  | minute1 => "1m"
  | minute5 => "5m"
  | minute15 => "15m"
  | hour1 => "1h"
  | hour4 => "4h"
  | day1 => "1d"
  | week1 => "1w"
  | month1 => "1M"

/-- The length in seconds of periods that all last equally long; none for those of the
calendar. -/
def fixedSeconds : Granularity → Option Nat
  | minute1 => some 60
  | minute5 => some 300
  | minute15 => some 900
  | hour1 => some 3600
  | hour4 => some 14400
  | day1 => none
  | week1 => none
  | month1 => none

/-- The granularity with an exact name. -/
def ofName? (name : String) : Option Granularity := all.find? (·.name == name)

/-- The spellings that are accepted in any case. -/
def spellings : Granularity → List String
  | minute1 => ["1m", "m1", "minute"]
  | minute5 => ["5m", "m5"]
  | minute15 => ["15m", "m15"]
  | hour1 => ["1h", "h1", "hour"]
  | hour4 => ["4h", "h4"]
  | day1 => ["1d", "d1", "day", "daily"]
  | week1 => ["1w", "w1", "week", "weekly"]
  | month1 => ["mo1", "month", "monthly"]

/-- The granularity that a text names. -/
def parse (text : String) : Option Granularity :=
  if text == "1M" then some month1
  else
    let spelling := String.ofList (Text.lower text.toList)
    all.find? (·.spellings.contains spelling)

/-- The message for a text that names no granularity. -/
def unknownMessage (text : String) : String :=
  "unknown granularity '" ++ text ++ "', expected one of: " ++
    ", ".intercalate (all.map Granularity.name)

/-- The list from fine to coarse, each granularity once. -/
def sorted (gs : List Granularity) : List Granularity := all.filter gs.contains

end Granularity

end CandleFeed
