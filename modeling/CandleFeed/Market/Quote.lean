import CandleFeed.Calendar.Timestamp
import CandleFeed.Market.Instrument

/-!
# Quotes and ticks

A **`Quote`** is all that a provider says about an instrument at one time; only the last price is
always there.  A **`Tick`** is the part of it that bars are built from.
-/

namespace CandleFeed

/-- A price at a point in time, perhaps with a traded volume. -/
structure Tick where
  /-- What was traded. -/
  instrument : Instrument
  /-- The price. -/
  price : Float
  /-- The volume, where the provider gives one. -/
  volume : Option Float
  /-- When. -/
  timestamp : Timestamp
deriving DecidableEq

/-- What a provider says about an instrument at one time. -/
structure Quote where
  /-- The instrument. -/
  instrument : Instrument
  /-- When the quote holds. -/
  timestamp : Timestamp
  /-- The price of the last trade. -/
  lastPrice : Float
  /-- The best price bid. -/
  bid : Option Float
  /-- The best price asked. -/
  ask : Option Float
  /-- The volume traded. -/
  volume : Option Float
  /-- The change since the previous close. -/
  change : Option Float
  /-- The change in percent. -/
  changePercent : Option Float
  /-- The price at the opening. -/
  openPrice : Option Float
  /-- The highest price of the session. -/
  highPrice : Option Float
  /-- The lowest price of the session. -/
  lowPrice : Option Float
  /-- The price at the previous close. -/
  prevClose : Option Float
deriving DecidableEq

/-- The tick that a quote amounts to. -/
def Quote.tick (q : Quote) : Tick := ⟨q.instrument, q.lastPrice, q.volume, q.timestamp⟩

end CandleFeed
