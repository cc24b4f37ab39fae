import CandleFeed.Market.Records
import CandleFeed.Storage.Cache

/-!
# The latest quotes and the bars in progress

A **`QuoteCache`** keeps two kinds of records in a cache, as JSON: the latest quote of an
instrument under **`latestKey`**, and the bar in progress of an instrument and a granularity under
**`currentKey`**.  Each kind expires after its own time.  A text that does not read back as such a
record is a fault.
-/

namespace CandleFeed

/-- The key of an instrument's latest quote. -/
def latestKey (i : Instrument) : String := "quote:latest:" ++ i.exchange ++ ":" ++ i.symbol

/-- The key of a bar in progress. -/
def currentKey (i : Instrument) (g : Granularity) : String :=
  "bar:current:" ++ i.exchange ++ ":" ++ i.symbol ++ ":" ++ g.name

/-- Quotes and bars in a cache. -/
structure QuoteCache where
  /-- The cache. -/
  link : CacheLink
  /-- How long a quote lives. -/
  quoteTtl : Nat
  /-- How long a bar lives. -/
  barTtl : Nat

namespace QuoteCache

/-- A quote lives a minute and a bar five. -/
def standard (link : CacheLink) : QuoteCache := ⟨link, 60 * Clock.second, 300 * Clock.second⟩

/-- Reads the record under a key. -/
def fetch {α : Type} (q : QuoteCache) (now : Nat) (key : String) (read : Json → Option α) :
    QuoteCache × Except CacheFault (Option α) :=
  let (link, result) := q.link.get? now key
  let result := match result with
    | .error fault => .error fault
    | .ok none => .ok none
    | .ok (some text) =>
      match (Json.read text).bind read with
      | some record => .ok (some record)
      | none => .error .encoding
  ({ q with link }, result)

/-- Writes the latest quote. -/
def setLatest (q : QuoteCache) (now : Nat) (quote : Quote) : QuoteCache × Except CacheFault Unit :=
  let (link, result) := q.link.set now (latestKey quote.instrument) quote.toJson.render q.quoteTtl
  ({ q with link }, result)

/-- The latest quote. -/
def latest (q : QuoteCache) (now : Nat) (i : Instrument) :
    QuoteCache × Except CacheFault (Option Quote) :=
  q.fetch now (latestKey i) Quote.ofJson?

/-- Takes the latest quote away. -/
def clearLatest (q : QuoteCache) (i : Instrument) : QuoteCache × Except CacheFault Unit :=
  let (link, result) := q.link.erase (latestKey i)
  ({ q with link }, result)

/-- Writes a bar in progress. -/
def setCurrent (q : QuoteCache) (now : Nat) (bar : OpenBar) : QuoteCache × Except CacheFault Unit :=
  let (link, result) :=
    q.link.set now (currentKey bar.instrument bar.granularity) bar.toJson.render q.barTtl
  ({ q with link }, result)

/-- The bar in progress. -/
def current (q : QuoteCache) (now : Nat) (i : Instrument) (g : Granularity) :
    QuoteCache × Except CacheFault (Option OpenBar) :=
  q.fetch now (currentKey i g) OpenBar.ofJson?

end QuoteCache

end CandleFeed
