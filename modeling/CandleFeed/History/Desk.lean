import CandleFeed.Market.Bar

/-!
# Bars of the past

A historical source answers requests for the bars of an instrument up to now.  Asking it blocks, so
requests go through a pool of workers; a worker that breaks down takes its request with it.  The
**`HistoryDesk`** holds the source, if one is attached, and remembers what it was asked;
**`HistoryDesk.fetch`** makes a request, for a limited number of bars.
-/

namespace CandleFeed

/-- What a source is asked for. -/
structure HistoryRequest where
  /-- The instrument. -/
  instrument : Instrument
  /-- The length of the bars. -/
  granularity : Granularity
  /-- The largest number of bars. -/
  limit : Nat
deriving DecidableEq

/-- What a source does with a request. -/
inductive HistoryReply where
  /-- It returns bars. -/
  | bars (bars : List (Timestamp × Ohlcv))
  /-- It gives a reason why it cannot. -/
  | failed (reason : String)
  /-- It breaks down. -/
  | broken

/-- Where bars of the past come from. -/
abbrev HistorySource := HistoryRequest → HistoryReply

/-- Why a request has no bars. -/
inductive HistoryFault where
  /-- The source failed, or there is none. -/
  | failed (reason : String)
  /-- The worker broke down. -/
  | worker
deriving DecidableEq, Repr

/-- The message for a fault, where there is one. -/
def HistoryFault.message? : HistoryFault → Option String
  | failed reason => some ("history fetch failed: " ++ reason)
  | worker => none

/-- The largest number of bars that a request may ask for. -/
def historyLimit : Nat := 5000

/-- The number of workers of a pool that was asked to have so many. -/
def poolSize (wanted : Nat) : Nat := max wanted 1

/-- A source and what it was asked. -/
structure HistoryDesk where
  /-- The source, if one is attached. -/
  source : Option HistorySource
  /-- The requests so far, oldest first. -/
  asked : List HistoryRequest

/-- Makes a request, for no more bars than the limit. -/
def HistoryDesk.fetch (d : HistoryDesk) (r : HistoryRequest) :
    HistoryDesk × Except HistoryFault (List (Timestamp × Ohlcv)) :=
  match d.source with
  | none => (d, .error (.failed "no historical source attached"))
  | some source =>
    let r := { r with limit := min r.limit historyLimit }
    let result := match source r with
      | .bars bars => .ok bars
      | .failed reason => .error (.failed reason)
      | .broken => .error .worker
    ({ d with asked := d.asked ++ [r] }, result)

end CandleFeed
