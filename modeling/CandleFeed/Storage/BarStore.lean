import Std.Data.TreeMap
import CandleFeed.Market.Bar

/-!
# Stored bars

A **`BarStore`** holds the prices of final bars in the order of their keys; a bar that is written
again replaces the earlier one.  **`BarStore.series`** lists those of an instrument and a granularity
as they come in that order, which is from the oldest on.

A **`BarSink`** is a store that may refuse what it is offered.  It keeps everything that it was
offered, in turn.
-/

namespace CandleFeed

/-- Final bars by key. -/
structure BarStore where
  /-- The bars, in the order of their keys. -/
  bars : Std.TreeMap BarKey Ohlcv
  /-- How many times a bar was written. -/
  writes : Nat

namespace BarStore

/-- The store without bars. -/
def empty : BarStore := ⟨∅, 0⟩

/-- The bar under a key. -/
def get? (s : BarStore) (key : BarKey) : Option Ohlcv := s.bars[key]?

/-- Writes a bar. -/
def upsert (s : BarStore) (key : BarKey) (ohlcv : Ohlcv) : BarStore :=
  ⟨s.bars.insert key ohlcv, s.writes + 1⟩

/-- How many bars are stored. -/
def size (s : BarStore) : Nat := s.bars.size

/-- The stored bars of an instrument and a granularity, oldest first. -/
def series (s : BarStore) (i : Instrument) (g : Granularity) : List (Timestamp × Ohlcv) :=
  let mine := s.bars.toList.filter fun e => e.1.instrument == i && e.1.granularity == g
  mine.map fun e => (e.1.bucketStart, e.2)

end BarStore

/-- Why a bar was not written. -/
inductive SinkFault where
  /-- The write was refused. -/
  | writeFailed (reason : String)
deriving DecidableEq, Repr

/-- The message for a fault. -/
def SinkFault.message : SinkFault → String
  | writeFailed reason => "write failed: " ++ reason

/-- A store that may refuse bars. -/
structure BarSink where
  /-- The store. -/
  store : BarStore
  /-- The keys and prices that have been offered, in turn. -/
  offered : List (BarKey × Ohlcv)
  /-- Why the bar that is offered after a number of others is refused, if it is. -/
  refusal : Nat → BarKey → Option String

namespace BarSink

/-- An empty store that takes every bar. -/
def plain : BarSink := ⟨.empty, [], fun _ _ => none⟩

/-- An empty store that refuses the bars of some granularities. -/
def refusing (reason : String) (refused : Granularity → Bool) : BarSink :=
  ⟨.empty, [], fun _ key => if refused key.granularity then some reason else none⟩

/-- Offers a bar. -/
def upsert (s : BarSink) (key : BarKey) (ohlcv : Ohlcv) : BarSink × Except SinkFault Unit :=
  let asked := { s with offered := s.offered ++ [(key, ohlcv)] }
  match s.refusal s.offered.length key with
  | some reason => (asked, .error (.writeFailed reason))
  | none => ({ asked with store := s.store.upsert key ohlcv }, .ok ())

end BarSink

end CandleFeed
