import CandleFeed.Calendar.Timestamp
import CandleFeed.Market.Granularity
import CandleFeed.Market.Instrument

/-!
# Bars

A bar sums up the ticks of one instrument in one bucket as an **`Ohlcv`**: first, highest, lowest
and last price, and total volume.  An **`OpenBar`** is a view of a bar that may still take ticks,
a **`ClosedBar`** is final and says why it was closed.  Bars are told apart by their **`BarKey`**s,
which are ordered by instrument, granularity and start.
-/

namespace CandleFeed

/-- Opening, highest, lowest and closing price, and volume. -/
structure Ohlcv where
  /-- The first price. -/
  opening : Float
  /-- The highest price. -/
  high : Float
  /-- The lowest price. -/
  low : Float
  /-- The last price. -/
  closing : Float
  /-- The total volume. -/
  volume : Float
deriving DecidableEq

/-- Why a bar was closed. -/
inductive CloseReason where
  /-- A tick fell into another bucket. -/
  | rollover
  /-- All bars were closed. -/
  | flush
  /-- The instrument was unsubscribed. -/
  | unsubscribe
deriving DecidableEq, Repr

namespace CloseReason

/-- The name of a reason. -/
def name : CloseReason → String
  | rollover => "rollover"
  | flush => "flush"
  | unsubscribe => "unsubscribe"

/-- The reason with a name. -/
def ofName? (name : String) : Option CloseReason :=
  [rollover, flush, unsubscribe].find? (·.name == name)

end CloseReason

/-- A bar that may still take ticks. -/
structure OpenBar where
  /-- The instrument. -/
  instrument : Instrument
  /-- The length of its bucket. -/
  granularity : Granularity
  /-- The start of its bucket. -/
  bucketStart : Timestamp
  /-- The start of the bucket after it. -/
  bucketEnd : Timestamp
  /-- Prices and volume so far. -/
  ohlcv : Ohlcv
  /-- How many ticks it has taken. -/
  tickCount : Nat
deriving DecidableEq

/-- A bar that is final. -/
structure ClosedBar where
  /-- The instrument. -/
  instrument : Instrument
  /-- The length of its bucket. -/
  granularity : Granularity
  /-- The start of its bucket. -/
  bucketStart : Timestamp
  /-- Prices and volume. -/
  ohlcv : Ohlcv
  /-- How many ticks it took. -/
  tickCount : Nat
  /-- Why it was closed. -/
  reason : CloseReason
deriving DecidableEq

/-- What tells stored bars apart. -/
structure BarKey where
  /-- The instrument. -/
  instrument : Instrument
  /-- The length of the bucket. -/
  granularity : Granularity
  /-- The start of the bucket. -/
  bucketStart : Timestamp
deriving DecidableEq

namespace BarKey

/-- By instrument, then by granularity, then by start. -/
instance : Ord BarKey :=
  ⟨compareLex (compareOn instrument) (compareLex (compareOn granularity) (compareOn bucketStart))⟩

instance : Std.TransOrd BarKey :=
  inferInstanceAs (Std.TransCmp (compareLex (compareOn instrument)
    (compareLex (compareOn granularity) (compareOn bucketStart))))

instance : Std.LawfulEqOrd BarKey where
  eq_of_compare {a b} h := by
    obtain ⟨hinstrument, h⟩ := Ordering.then_eq_eq.mp h
    obtain ⟨hgranularity, hstart⟩ := Ordering.then_eq_eq.mp h
    cases a
    cases b
    cases Std.LawfulEqOrd.eq_of_compare hinstrument
    cases Std.LawfulEqOrd.eq_of_compare hgranularity
    cases Std.LawfulEqOrd.eq_of_compare hstart
    rfl

/-- Among the bars of an instrument and a granularity the start decides. -/
theorem compare_mk (i : Instrument) (g : Granularity) (start start' : Timestamp) :
    compare (mk i g start) (mk i g start') = compare start start' := by
  change (compare i i).then ((compare g g).then (compare start start')) = compare start start'
  rw [Std.ReflOrd.compare_self, Std.ReflOrd.compare_self]
  rfl

end BarKey

/-- The key that a bar in progress will have. -/
def OpenBar.key (b : OpenBar) : BarKey := ⟨b.instrument, b.granularity, b.bucketStart⟩

/-- The key of a bar. -/
def ClosedBar.key (b : ClosedBar) : BarKey := ⟨b.instrument, b.granularity, b.bucketStart⟩

end CandleFeed
