import CandleFeed.Aggregation.Engine
import CandleFeed.Monitoring.Metrics
import CandleFeed.Session.Registry
import CandleFeed.Storage.QuoteCache
import CandleFeed.Wire.Message

/-!
# The path of a tick

A payload that arrives on a session goes through three stages.  **`TickPath.classify`** decides what
it is; a quote goes on only if it belongs to the session it arrived on and has a price.
**`TickPath.accept`** brings the quote's tick to the engine, if its instrument is subscribed, in one
step with that check.  **`TickPath.record`** writes the quote and the bars in progress to the
cache; a failed write is counted and stops nothing.  **`TickPath.dispatch`** is all three.

A tick whose bucket has no end breaks off the path, and so does a cache entry whose deadline does
not exist.  What was done before stays.
-/

namespace CandleFeed

/-- Why a payload is dropped. -/
inductive DropReason where
  /-- It is no message. -/
  | malformed
  /-- Nothing is done about its method. -/
  | unhandledMethod
  /-- It belongs to another session. -/
  | staleSession
  /-- It has no last price, or names no instrument. -/
  | noLastPrice
  /-- Its instrument is not subscribed. -/
  | unsubscribed
deriving DecidableEq, Repr

/-- The name of a reason. -/
def DropReason.name : DropReason → String
  | malformed => "malformed"
  | unhandledMethod => "unhandled_method"
  | staleSession => "stale_session"
  | noLastPrice => "no_last_price"
  | unsubscribed => "unsubscribed"

/-- What a payload is. -/
inductive Classified where
  /-- A quote. -/
  | quote (quote : Quote)
  /-- A heartbeat. -/
  | heartbeat
  /-- A message about the session. -/
  | sessionControl
  /-- Nothing to act on. -/
  | dropped (reason : DropReason)
deriving DecidableEq

/-- What became of a payload. -/
inductive Dispatched where
  /-- Its tick has been taken. -/
  | tick (quote : Quote)
  /-- It was a heartbeat. -/
  | heartbeat
  /-- It was a message about the session. -/
  | sessionControl
  /-- It was dropped. -/
  | dropped (reason : DropReason)
  /-- A point in time that was needed does not exist. -/
  | brokenOff
deriving DecidableEq

/-- What payloads act on. -/
structure TickPath where
  /-- The bars under construction. -/
  engine : Engine
  /-- The cached quotes and bars. -/
  quotes : QuoteCache
  /-- Bars in progress are cached too. -/
  cachesBars : Bool

/-- A tick path after a stage. -/
structure PathStep (α : Type) where
  /-- The path. -/
  path : TickPath
  /-- The bars that were delivered, in order. -/
  delivered : List ClosedBar
  /-- What was counted, in order. -/
  counted : List Counter
  /-- How the stage went. -/
  result : α

namespace TickPath

/-- What a payload is that arrives on a session. -/
def classify (session : String) (payload : List Char) (receivedAt : Timestamp) : Classified :=
  match Message.parse payload with
  | .error _ => .dropped .malformed
  | .ok (.heartbeat _) => .heartbeat
  | .ok (.hello _) => .sessionControl
  | .ok (.quoteCompleted _ _) => .sessionControl
  | .ok (.error _ _) => .sessionControl
  | .ok (.other _) => .dropped .unhandledMethod
  | .ok (.quoteData addressed update) =>
    if addressed != session then .dropped .staleSession
    else
      match update.quote? receivedAt with
      | some quote => .quote quote
      | none => .dropped .noLastPrice

/-- Brings a quote's tick to the engine if its instrument is subscribed; the result is how the tick
went, if it went anywhere. -/
def accept (p : TickPath) (subscribed : Registry) (quote : Quote) : PathStep (Option TickOutcome) :=
  if subscribed.contains quote.instrument then
    let (emission, outcome) := p.engine.addTick quote.tick
    ⟨{ p with engine := emission.engine }, emission.delivered, [], some outcome⟩
  else ⟨p, [], [], none⟩

/-- A write to the cache; the result says whether the path goes on. -/
def noteWrite (p : TickPath) (kind : String) (write : QuoteCache × Except CacheFault Unit) :
    PathStep Bool :=
  let p := { p with quotes := write.1 }
  match write.2 with
  | .ok () => ⟨p, [], [], true⟩
  | .error .outOfTime => ⟨p, [], [], false⟩
  | .error _ => ⟨p, [], [.cacheFailures kind], true⟩

/-- Writes the latest quote; the result says whether the path goes on. -/
def recordQuote (p : TickPath) (now : Nat) (quote : Quote) : PathStep Bool :=
  p.noteWrite "latest_quote" (p.quotes.setLatest now quote)

/-- Writes a bar in progress; the result says whether the path goes on. -/
def recordBar (p : TickPath) (now : Nat) (bar : OpenBar) : PathStep Bool :=
  p.noteWrite "current_bar" (p.quotes.setCurrent now bar)

/-- Writes bars in progress in turn; the result says whether the path goes on. -/
def recordBars (p : TickPath) (now : Nat) : List OpenBar → PathStep Bool
  | [] => ⟨p, [], [], true⟩
  | bar :: bars =>
    let first := p.recordBar now bar
    if first.result then
      let rest := recordBars first.path now bars
      { rest with counted := first.counted ++ rest.counted }
    else first

/-- Writes a quote and, where these are cached, the bars in progress; the result says whether the
path goes on. -/
def record (p : TickPath) (now : Nat) (quote : Quote) (current : List OpenBar) : PathStep Bool :=
  let first := p.recordQuote now quote
  if first.result && p.cachesBars then
    let rest := first.path.recordBars now current
    { rest with counted := first.counted ++ rest.counted }
  else first

/-- Takes a quote. -/
def take (p : TickPath) (now : Nat) (subscribed : Registry) (quote : Quote) : PathStep Dispatched :=
  let accepted := p.accept subscribed quote
  match accepted.result with
  | none => ⟨p, [], [], .dropped .unsubscribed⟩
  | some .outOfTime => { accepted with result := .brokenOff }
  | some (.applied _ current) =>
    let recorded := accepted.path.record now quote current
    { path := recorded.path
      delivered := accepted.delivered
      counted := .ticks quote.instrument.exchange :: recorded.counted
      result := if recorded.result then .tick quote else .brokenOff }

/-- Takes a payload that arrives on a session; the result is what became of it. -/
def dispatch (p : TickPath) (now : Nat) (receivedAt : Timestamp) (subscribed : Registry)
    (session : String) (payload : List Char) : PathStep Dispatched :=
  let taken : PathStep Dispatched :=
    match classify session payload receivedAt with
    | .quote quote => p.take now subscribed quote
    | .heartbeat => ⟨p, [], [], .heartbeat⟩
    | .sessionControl => ⟨p, [], [], .sessionControl⟩
    | .dropped reason => ⟨p, [], [], .dropped reason⟩
  match taken.result with
  | .dropped reason => { taken with counted := taken.counted ++ [.dropped reason.name] }
  | _ => taken

end TickPath

end CandleFeed
