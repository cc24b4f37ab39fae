import CandleFeed.History.Desk
import CandleFeed.Market.Bucket

/-!
# A scripted historical source

For a rehearsal, a source whose answers are known beforehand: **`HistoryScript.source`** fails,
breaks down, or returns bars counted from the start of the year 2024, the k-th with all its values
equal to k.
-/

namespace CandleFeed

/-- What a scripted source does. -/
inductive HistoryScript where
  /-- It has so many bars. -/
  | available (bars : Nat)
  /-- It fails. -/
  | failing (reason : String)
  /-- It breaks down. -/
  | breaking

namespace HistoryScript

/-- The start of the year 2024. -/
def origin : Timestamp := (Timestamp.ofSeconds? 1704067200).getD .epoch

/-- So many bars of successive buckets, the first of them numbered `k`. -/
def bars (g : Granularity) (start : Timestamp) (k : Nat) : Nat → List (Timestamp × Ohlcv)
  | 0 => []
  | n + 1 =>
    let x := Float.ofNat k
    (start, ⟨x, x, x, x, x⟩) :: bars g ((g.nextBucketStart? start).getD start) (k + 1) n

/-- The scripted source. -/
def source : HistoryScript → HistorySource
  | available n => fun r =>
    .bars (bars r.granularity (r.granularity.bucketStart origin) 0 (min r.limit n))
  | failing reason => fun _ => .failed reason
  | breaking => fun _ => .broken

end HistoryScript

end CandleFeed
