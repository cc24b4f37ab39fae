import CandleFeed.Calendar.Timestamp
import CandleFeed.Market.Granularity

/-!
# Buckets

A granularity cuts time into buckets, and a bar covers one bucket.  **`Granularity.bucketStart`**
is the start of the bucket that a point lies in: a multiple of the length for fixed lengths, and
for the calendar the midnight of the day, of the Monday or of the first of the month.
**`Granularity.nextBucketStart?`** is the start of the bucket that follows.

At the ends of the usable time a start may not exist.  A bucket then starts at the point itself;
a following bucket of fixed length has no start, and one of the calendar starts where the given
one does.
-/

namespace CandleFeed.Granularity

/-- The start of the bucket that a point lies in. -/
def bucketStart (g : Granularity) (t : Timestamp) : Timestamp :=
  match g with
  | day1 => (Timestamp.ofDay? t.day).getD t
  | week1 =>
    let monday := Calendar.weekStart t.day
    (Timestamp.ofDay? (if Calendar.firstDay ≤ monday then monday else t.day)).getD t
  | month1 => (Timestamp.ofDay? (Calendar.monthStart (Calendar.monthOf t.day))).getD t
  | g =>
    match g.fixedSeconds with
    | some length => (Timestamp.ofSeconds? (t.seconds - t.seconds % length)).getD t
    | none => t

/-- The day after a number of days, or of the next month, on which a bucket that starts on the
given day is followed by another. -/
def nextDay (g : Granularity) (day : Int) : Int :=
  match g with
  | week1 => day + 7
  | month1 =>
    let month := Calendar.monthOf day
    Calendar.dayInMonth (month + 1) (day - Calendar.monthStart month)
  | _ => day + 1

/-- The start of the bucket after the one that starts at the point; none when a bucket of fixed
length would end after the last point in time. -/
def nextBucketStart? (g : Granularity) (start : Timestamp) : Option Timestamp :=
  match g.fixedSeconds with
  | some length => start.addSeconds? length
  | none =>
    let next := nextDay g start.day
    some (if next ≤ Calendar.lastDay then (Timestamp.ofDay? next).getD start else start)

end CandleFeed.Granularity
