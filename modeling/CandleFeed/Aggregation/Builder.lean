import CandleFeed.Market.Bar
import CandleFeed.Market.Bucket

/-!
# Bars under construction

A **`Builder`** collects the ticks of one bucket.  `Builder.new?` starts one, where the bucket has
an end; `Builder.apply` takes a tick; `Builder.view` and `Builder.close?` give the bar so far and
the final one.

The running maximum and minimum pass over values that are not numbers, as long as one of the two
sides is a number.
-/

namespace CandleFeed

/-- The ticks of one bucket so far. -/
structure Builder where
  /-- The start of the bucket. -/
  bucketStart : Timestamp
  /-- The start of the bucket after it. -/
  bucketEnd : Timestamp
  /-- Prices and volume so far, all zero before the first tick. -/
  ohlcv : Ohlcv
  /-- How many ticks there were. -/
  tickCount : Nat
deriving DecidableEq

namespace Builder

/-- The larger of two values; one that is not a number only if both are not. -/
def larger (x y : Float) : Float := if x.isNaN || y > x then y else x

/-- The smaller of two values; one that is not a number only if both are not. -/
def smaller (x y : Float) : Float := if x.isNaN || y < x then y else x

/-- A builder without ticks; none if the bucket has no end. -/
def new? (g : Granularity) (start : Timestamp) : Option Builder :=
  (g.nextBucketStart? start).map fun bucketEnd =>
    { bucketStart := start, bucketEnd, ohlcv := ⟨0, 0, 0, 0, 0⟩, tickCount := 0 }

/-- There were no ticks. -/
def isEmpty (b : Builder) : Bool := b.tickCount == 0

/-- Takes a tick. -/
def apply (b : Builder) (price : Float) (volume : Option Float) : Builder :=
  let o := b.ohlcv
  { b with
    ohlcv := {
      opening := if b.isEmpty then price else o.opening
      high := if b.isEmpty then price else larger o.high price
      low := if b.isEmpty then price else smaller o.low price
      closing := price
      volume := match volume with
        | some v => o.volume + v
        | none => o.volume }
    tickCount := b.tickCount + 1 }

/-- The bar so far. -/
def view (b : Builder) (instrument : Instrument) (granularity : Granularity) : OpenBar :=
  { instrument, granularity, bucketStart := b.bucketStart, bucketEnd := b.bucketEnd,
    ohlcv := b.ohlcv, tickCount := b.tickCount }

/-- The final bar; none if there were no ticks. -/
def close? (b : Builder) (instrument : Instrument) (granularity : Granularity)
    (reason : CloseReason) : Option ClosedBar :=
  if b.isEmpty then none
  else some { instrument, granularity, bucketStart := b.bucketStart, ohlcv := b.ohlcv,
              tickCount := b.tickCount, reason }

end Builder

end CandleFeed
