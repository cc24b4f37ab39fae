import CandleFeed.Json.Record
import CandleFeed.Market.Quote
import CandleFeed.Wire.Command

/-!
# Messages from the provider

A payload is a heartbeat, which starts with `~h~`, or a JSON object with a method and parameters;
only the provider's greeting has a session and no method.  **`Message.parse`** tells them apart.

A **`QuoteUpdate`** carries whatever fields of a quote have changed, all of them optional.
**`QuoteUpdate.quote?`** makes a quote of an update that has a last price and names an instrument;
the time of the last trade dates it, and the time of arrival where there is none that can be used.
-/

namespace CandleFeed

open Json (fields required optional defaulting)

/-- The fields of a quote that have changed. -/
structure QuoteValues where
  /-- The price of the last trade. -/
  lastPrice : Option Float
  /-- The volume traded. -/
  volume : Option Float
  /-- The best price bid. -/
  bid : Option Float
  /-- The best price asked. -/
  ask : Option Float
  /-- The change since the previous close. -/
  change : Option Float
  /-- The change in percent. -/
  changePercent : Option Float
  /-- The price at the opening. -/
  openPrice : Option Float
  /-- The highest price of the session. -/
  highPrice : Option Float
  /-- The lowest price of the session. -/
  lowPrice : Option Float
  /-- The price at the previous close. -/
  prevClose : Option Float
  /-- The time of the last trade, in seconds. -/
  lastTime : Option Float
deriving DecidableEq

namespace QuoteValues

/-- Nothing has changed. -/
def none : QuoteValues :=
  ⟨.none, .none, .none, .none, .none, .none, .none, .none, .none, .none, .none⟩

/-- The names under which the provider sends the fields. -/
def fieldNames : List String :=
  ["lp", "volume", "bid", "ask", "ch", "chp", "open_price", "high_price", "low_price",
    "prev_close_price", "lp_time"]

/-- The fields that a JSON value denotes. -/
def ofJson? (v : Json) : Option QuoteValues := do
  let [lastPrice, volume, bid, ask, change, changePercent, openPrice, highPrice, lowPrice,
    prevClose, lastTime] ← fields fieldNames 0 v | failure
  return {
    lastPrice := ← optional Json.float? lastPrice
    volume := ← optional Json.float? volume
    bid := ← optional Json.float? bid
    ask := ← optional Json.float? ask
    change := ← optional Json.float? change
    changePercent := ← optional Json.float? changePercent
    openPrice := ← optional Json.float? openPrice
    highPrice := ← optional Json.float? highPrice
    lowPrice := ← optional Json.float? lowPrice
    prevClose := ← optional Json.float? prevClose
    lastTime := ← optional Json.float? lastTime }

end QuoteValues

/-- A provider's news about an instrument. -/
structure QuoteUpdate where
  /-- The name of the instrument. -/
  name : String
  /-- The status that the provider reports. -/
  status : Option String
  /-- The fields that have changed. -/
  values : QuoteValues
deriving DecidableEq

namespace QuoteUpdate

/-- The update that a JSON value denotes; its status and its fields may be missing. -/
def ofJson? (v : Json) : Option QuoteUpdate := do
  let [name, status, values] ← fields ["n", "s", "v"] 2 v | none
  return {
    name := ← required Json.text? name
    status := ← optional Json.text? status
    values := ← defaulting QuoteValues.none QuoteValues.ofJson? values }

/-- The point in time that a number of seconds denotes, its fraction dropped. -/
def timeOf? (seconds : Float) : Option Timestamp :=
  if seconds.isNaN then some Timestamp.epoch
  else Timestamp.ofSeconds? (Binary64.ofFloat seconds).truncate

/-- The quote that an update amounts to. -/
def quote? (u : QuoteUpdate) (receivedAt : Timestamp) : Option Quote := do
  let lastPrice ← u.values.lastPrice
  let instrument ← (Instrument.parse u.name).toOption
  return {
    instrument
    timestamp := (u.values.lastTime.bind timeOf?).getD receivedAt
    lastPrice
    bid := u.values.bid
    ask := u.values.ask
    volume := u.values.volume
    change := u.values.change
    changePercent := u.values.changePercent
    openPrice := u.values.openPrice
    highPrice := u.values.highPrice
    lowPrice := u.values.lowPrice
    prevClose := u.values.prevClose }

end QuoteUpdate

/-- What a payload says. -/
inductive Message where
  /-- A sign of life, to be sent back as it is. -/
  | heartbeat (payload : List Char)
  /-- The provider's greeting. -/
  | hello (session : String)
  /-- News about an instrument. -/
  | quoteData (session : String) (update : QuoteUpdate)
  /-- The first quote of an instrument is complete. -/
  | quoteCompleted (session : String) (symbol : Option String)
  /-- The provider reports an error. -/
  | error (method : String) (parameters : List Json)
  /-- Any other method. -/
  | other (method : String)

/-- Why a payload is no message. -/
inductive MessageFault where
  /-- It is not the JSON that a message consists of. -/
  | malformed
  /-- It has neither a method nor a session; the payload's first characters. -/
  | noMethod (start : String)
deriving DecidableEq, Repr

namespace MessageFault

/-- The message for a fault, where there is one. -/
def message? : MessageFault → Option String
  | malformed => none
  | noMethod start => some ("connection error: payload without method: " ++ start)

end MessageFault

namespace Message

/-- The payload is a heartbeat. -/
def isHeartbeat (payload : List Char) : Bool := Command.heartbeatMark.isPrefixOf payload

/-- The parts of a message: its method, its parameters and its session. -/
structure Parts where
  /-- The method. -/
  method : Option String
  /-- The parameters; a free-form value keeps the last of repeated members. -/
  parameters : List Json
  /-- The session of a greeting. -/
  session : Option String

/-- The parameters that a JSON value denotes; they lie two levels deep in the message. -/
def parameters? (v : Json) : Option (List Json) := do
  let items ← v.items?
  if items.all (Json.readableWithin (Command.depthLimit - 2)) then
    some (items.map Json.settle)
  else none

/-- The parts that a JSON value denotes. -/
def parts? (v : Json) : Option Parts := do
  let [method, parameters, session] ← fields ["m", "p", "session_id"] 0 v | none
  return {
    method := ← optional Json.text? method
    parameters := ← defaulting [] parameters? parameters
    session := ← optional Json.text? session }

/-- The session that a parameter names, empty if it names none. -/
def sessionOf (parameter : Option Json) : String := (parameter.bind Json.text?).getD ""

/-- The message that a method and its parameters make. -/
def ofMethod (method : String) (parameters : List Json) : Except MessageFault Message :=
  if method == "qsd" then
    match QuoteUpdate.ofJson? (parameters[1]?.getD .null) with
    | some update => .ok (.quoteData (sessionOf parameters[0]?) update)
    | none => .error .malformed
  else if method == "quote_completed" then
    .ok (.quoteCompleted (sessionOf parameters[0]?) (parameters[1]?.bind Json.text?))
  else if method == "critical_error" || method == "protocol_error" then
    .ok (.error method parameters)
  else .ok (.other method)

/-- What a payload says. -/
def parse (payload : List Char) : Except MessageFault Message :=
  if isHeartbeat payload then .ok (.heartbeat payload)
  else
    match (Json.read (String.ofList payload)).bind parts? with
    | none => .error .malformed
    | some parts =>
      match parts.method, parts.session with
      | some method, _ => ofMethod method parts.parameters
      | none, some session => .ok (.hello session)
      | none, none => .error (.noMethod (String.ofList (payload.take 64)))

end Message

end CandleFeed
