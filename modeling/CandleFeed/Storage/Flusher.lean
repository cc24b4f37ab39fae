import CandleFeed.Monitoring.Metrics
import CandleFeed.Storage.BarStore

/-!
# Writing closed bars

**`Flusher.flush`** offers closed bars to a sink, one after another.  Every bar is offered once,
whatever became of those before it, and the **`FlushStats`** count how it went.
-/

namespace CandleFeed

/-- How many bars were written and how many were refused. -/
structure FlushStats where
  /-- The bars that were written. -/
  written : Nat
  /-- The bars that were refused. -/
  failed : Nat
deriving DecidableEq, Repr

/-- A sink in use. -/
structure Flusher where
  /-- The sink. -/
  sink : BarSink
  /-- How it went so far. -/
  stats : FlushStats

namespace Flusher

/-- A sink before its use. -/
def start (sink : BarSink) : Flusher := ⟨sink, ⟨0, 0⟩⟩

/-- Offers one bar; also what is counted. -/
def flushOne (f : Flusher) (bar : ClosedBar) : Flusher × List Counter :=
  let emitted := Counter.bars bar.granularity.name bar.reason.name
  match f.sink.upsert bar.key bar.ohlcv with
  | (sink, .ok ()) => (⟨sink, { f.stats with written := f.stats.written + 1 }⟩, [emitted])
  | (sink, .error _) =>
    (⟨sink, { f.stats with failed := f.stats.failed + 1 }⟩, [emitted, .sinkFailures])

/-- Offers bars in turn; also what is counted. -/
def flush (f : Flusher) : List ClosedBar → Flusher × List Counter
  | [] => (f, [])
  | bar :: bars =>
    let (f, counted) := f.flushOne bar
    let (f, more) := flush f bars
    (f, counted ++ more)

end Flusher

end CandleFeed
