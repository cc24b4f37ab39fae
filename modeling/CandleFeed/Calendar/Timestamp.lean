import CandleFeed.Calendar.Date

/-!
# Points in time

**`Timestamp`** is a point in time: whole seconds since the first of January 1970 in universal
time, and nanoseconds within the second.  A leap second is the second before it with more than a
full second of nanoseconds.  Only the seconds of the usable years exist, and the type says so:
arithmetic that would leave them has no result.  Points are ordered in time.
-/

namespace CandleFeed

/-- How many seconds a day has. -/
def secondsPerDay : Int := 86400

/-- How many nanoseconds a second has. -/
def nanosPerSecond : Nat := 1000000000

/-- A point in time. -/
structure Timestamp where
  /-- Whole seconds since the first of January 1970. -/
  seconds : Int
  /-- Nanoseconds within the second; from one second up, within the leap second after it. -/
  nanos : Nat
  first_le : -8334601228800 ≤ seconds
  le_last : seconds ≤ 8210266876799
  nanos_lt : nanos < 2000000000
deriving DecidableEq, Repr

namespace Timestamp

/-- The point with the given seconds and nanoseconds, if it exists. -/
def ofParts? (seconds : Int) (nanos : Nat) : Option Timestamp :=
  if first_le : -8334601228800 ≤ seconds then
    if le_last : seconds ≤ 8210266876799 then
      if nanos_lt : nanos < 2000000000 then some ⟨seconds, nanos, first_le, le_last, nanos_lt⟩
      else none
    else none
  else none

/-- The point at the start of a second, if it exists. -/
def ofSeconds? (seconds : Int) : Option Timestamp := ofParts? seconds 0

/-- The first of January 1970. -/
def epoch : Timestamp := ⟨0, 0, by decide, by decide, by decide⟩

instance : Inhabited Timestamp := ⟨epoch⟩

/-- The day that the point lies in. -/
def day (t : Timestamp) : Int := t.seconds / secondsPerDay

/-- The start of a day, if it exists. -/
def ofDay? (day : Int) : Option Timestamp := ofSeconds? (day * secondsPerDay)

/-- The point a number of whole seconds later, if it exists.  From inside a leap second any step
forward counts from the second before it. -/
def addSeconds? (t : Timestamp) (n : Nat) : Option Timestamp :=
  if nanosPerSecond ≤ t.nanos && 0 < n then ofParts? (t.seconds + n) (t.nanos - nanosPerSecond)
  else ofParts? (t.seconds + n) t.nanos

/-- Earlier in time. -/
def before (a b : Timestamp) : Bool :=
  a.seconds < b.seconds || (a.seconds == b.seconds && a.nanos < b.nanos)

theorem ext {a b : Timestamp} (seconds : a.seconds = b.seconds) (nanos : a.nanos = b.nanos) :
    a = b := by
  cases a; cases b; simp_all

/-- By the second, then by the nanosecond. -/
instance : Ord Timestamp := ⟨compareLex (compareOn seconds) (compareOn nanos)⟩

instance : Std.TransOrd Timestamp :=
  inferInstanceAs (Std.TransCmp (compareLex (compareOn seconds) (compareOn nanos)))

instance : Std.LawfulEqOrd Timestamp where
  eq_of_compare h := by
    obtain ⟨hseconds, hnanos⟩ := Ordering.then_eq_eq.mp h
    exact ext (Std.LawfulEqOrd.eq_of_compare hseconds) (Std.LawfulEqOrd.eq_of_compare hnanos)

/-- What comes first in this order is earlier. -/
theorem compare_eq_lt_iff {a b : Timestamp} : compare a b = .lt ↔ a.before b = true := by
  have hlex : compare a b = .lt ↔
      a.seconds < b.seconds ∨ a.seconds = b.seconds ∧ a.nanos < b.nanos := by
    refine Ordering.then_eq_lt.trans ?_
    rw [compareOn, compareOn, Std.LawfulEqOrd.compare_eq_iff_eq, Int.compare_eq_lt,
      Nat.compare_eq_lt]
  rw [hlex]
  simp only [before, Bool.or_eq_true, Bool.and_eq_true, decide_eq_true_iff, beq_iff_eq]

end Timestamp

end CandleFeed
