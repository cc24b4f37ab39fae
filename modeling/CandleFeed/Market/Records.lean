import CandleFeed.Calendar.Rfc3339
import CandleFeed.Json.Printer
import CandleFeed.Json.Reader
import CandleFeed.Json.Record
import CandleFeed.Market.Bar
import CandleFeed.Market.Quote

/-!
# Market data as JSON

Every record of the market has a JSON form: an object of its fields in their order, points in time
as text, a granularity and a reason by their exact names, what is absent as null.  For each type
`toJson` writes that form and `ofJson?` reads it, from an object or from an array of the fields.
An instrument is made canonical when it is read.
-/

namespace CandleFeed

open Json (fields required optional)

namespace Timestamp

/-- A point in time as JSON. -/
def toJson (t : Timestamp) : Json := .str (String.ofList (Rfc3339.write t))

/-- The point in time that a JSON value denotes. -/
def ofJson? (v : Json) : Option Timestamp := v.text?.bind fun s => Rfc3339.read s.toList

end Timestamp

namespace Instrument

/-- An instrument as JSON. -/
def toJson (i : Instrument) : Json :=
  .obj [("exchange", .str i.exchange), ("symbol", .str i.symbol)]

/-- The instrument that a JSON value denotes. -/
def ofJson? (v : Json) : Option Instrument := do
  let [exchange, symbol] ← fields ["exchange", "symbol"] 0 v | none
  (make (← required Json.text? exchange) (← required Json.text? symbol)).toOption

end Instrument

namespace Granularity

/-- A granularity as JSON. -/
def toJson (g : Granularity) : Json := .str g.name

/-- The granularity that a JSON value denotes. -/
def ofJson? (v : Json) : Option Granularity := v.name?.bind ofName?

end Granularity

namespace CloseReason

/-- A reason as JSON. -/
def toJson (r : CloseReason) : Json := .str r.name

/-- The reason that a JSON value denotes. -/
def ofJson? (v : Json) : Option CloseReason := v.name?.bind ofName?

end CloseReason

namespace Ohlcv

/-- Prices and volume as JSON. -/
def toJson (o : Ohlcv) : Json :=
  .obj [("open", .ofFloat o.opening), ("high", .ofFloat o.high), ("low", .ofFloat o.low),
    ("close", .ofFloat o.closing), ("volume", .ofFloat o.volume)]

/-- The prices and volume that a JSON value denotes. -/
def ofJson? (v : Json) : Option Ohlcv := do
  let [opening, high, low, closing, volume] ← fields ["open", "high", "low", "close", "volume"] 0 v
    | none
  return {
    opening := ← required Json.float? opening
    high := ← required Json.float? high
    low := ← required Json.float? low
    closing := ← required Json.float? closing
    volume := ← required Json.float? volume }

end Ohlcv

namespace Tick

/-- A tick as JSON. -/
def toJson (t : Tick) : Json :=
  .obj [("instrument", t.instrument.toJson), ("price", .ofFloat t.price),
    ("volume", .ofOption .ofFloat t.volume), ("timestamp", t.timestamp.toJson)]

/-- The tick that a JSON value denotes. -/
def ofJson? (v : Json) : Option Tick := do
  let [instrument, price, volume, timestamp] ←
    fields ["instrument", "price", "volume", "timestamp"] 0 v | none
  return {
    instrument := ← required Instrument.ofJson? instrument
    price := ← required Json.float? price
    volume := ← optional Json.float? volume
    timestamp := ← required Timestamp.ofJson? timestamp }

end Tick

namespace Quote

/-- The names of a quote's fields. -/
def fieldNames : List String :=
  ["instrument", "timestamp", "last_price", "bid", "ask", "volume", "change", "change_percent",
    "open_price", "high_price", "low_price", "prev_close"]

/-- A quote as JSON. -/
def toJson (q : Quote) : Json :=
  .obj (fieldNames.zip [q.instrument.toJson, q.timestamp.toJson, .ofFloat q.lastPrice,
    .ofOption .ofFloat q.bid, .ofOption .ofFloat q.ask, .ofOption .ofFloat q.volume,
    .ofOption .ofFloat q.change, .ofOption .ofFloat q.changePercent,
    .ofOption .ofFloat q.openPrice, .ofOption .ofFloat q.highPrice,
    .ofOption .ofFloat q.lowPrice, .ofOption .ofFloat q.prevClose])

/-- The quote that a JSON value denotes. -/
def ofJson? (v : Json) : Option Quote := do
  let [instrument, timestamp, lastPrice, bid, ask, volume, change, changePercent, openPrice,
    highPrice, lowPrice, prevClose] ← fields fieldNames 0 v | none
  return {
    instrument := ← required Instrument.ofJson? instrument
    timestamp := ← required Timestamp.ofJson? timestamp
    lastPrice := ← required Json.float? lastPrice
    bid := ← optional Json.float? bid
    ask := ← optional Json.float? ask
    volume := ← optional Json.float? volume
    change := ← optional Json.float? change
    changePercent := ← optional Json.float? changePercent
    openPrice := ← optional Json.float? openPrice
    highPrice := ← optional Json.float? highPrice
    lowPrice := ← optional Json.float? lowPrice
    prevClose := ← optional Json.float? prevClose }

end Quote

namespace OpenBar

/-- A bar in progress as JSON. -/
def toJson (b : OpenBar) : Json :=
  .obj [("instrument", b.instrument.toJson), ("granularity", b.granularity.toJson),
    ("bucket_start", b.bucketStart.toJson), ("bucket_end", b.bucketEnd.toJson),
    ("ohlcv", b.ohlcv.toJson), ("tick_count", .ofInt b.tickCount)]

/-- The bar in progress that a JSON value denotes. -/
def ofJson? (v : Json) : Option OpenBar := do
  let [instrument, granularity, bucketStart, bucketEnd, ohlcv, tickCount] ←
    fields ["instrument", "granularity", "bucket_start", "bucket_end", "ohlcv", "tick_count"] 0 v
    | none
  return {
    instrument := ← required Instrument.ofJson? instrument
    granularity := ← required Granularity.ofJson? granularity
    bucketStart := ← required Timestamp.ofJson? bucketStart
    bucketEnd := ← required Timestamp.ofJson? bucketEnd
    ohlcv := ← required Ohlcv.ofJson? ohlcv
    tickCount := ← required Json.nat? tickCount }

end OpenBar

namespace ClosedBar

/-- A final bar as JSON. -/
def toJson (b : ClosedBar) : Json :=
  .obj [("instrument", b.instrument.toJson), ("granularity", b.granularity.toJson),
    ("bucket_start", b.bucketStart.toJson), ("ohlcv", b.ohlcv.toJson),
    ("tick_count", .ofInt b.tickCount), ("reason", b.reason.toJson)]

/-- The final bar that a JSON value denotes. -/
def ofJson? (v : Json) : Option ClosedBar := do
  let [instrument, granularity, bucketStart, ohlcv, tickCount, reason] ←
    fields ["instrument", "granularity", "bucket_start", "ohlcv", "tick_count", "reason"] 0 v
    | none
  return {
    instrument := ← required Instrument.ofJson? instrument
    granularity := ← required Granularity.ofJson? granularity
    bucketStart := ← required Timestamp.ofJson? bucketStart
    ohlcv := ← required Ohlcv.ofJson? ohlcv
    tickCount := ← required Json.nat? tickCount
    reason := ← required CloseReason.ofJson? reason }

end ClosedBar

end CandleFeed
