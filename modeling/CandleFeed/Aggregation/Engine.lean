import CandleFeed.Aggregation.Builder
import CandleFeed.Market.Quote
import CandleFeed.Storage.Table

/-!
# The bar engine

An **`Engine`** keeps one builder for each instrument and each of its granularities.
**`Engine.addTick`** brings a tick to all builders of its instrument.  A builder whose bucket is not
the tick's is closed and replaced first, whether the tick is ahead of it or behind.
**`Engine.flushAll`** and **`Engine.remove`** close all builders, or those of one instrument.

Closed bars are handed out as an **`Emission`**: they are counted, and delivered for as long as
the engine is open.  Bars of several builders closed at once come in the order of their
instruments and from fine to coarse.

A tick whose bucket has no end breaks off where that bucket is reached.  What was done for finer
granularities stays, but the bars they closed are neither counted nor delivered.
-/

namespace CandleFeed

/-- Builders by instrument and granularity. -/
structure Engine where
  /-- The granularities, from fine to coarse, each once. -/
  granularities : List Granularity
  /-- The builders. -/
  builders : Table Instrument (Table Granularity Builder)
  /-- How many bars have been closed. -/
  emittedTotal : Nat
  /-- Closed bars are delivered. -/
  isOpen : Bool

/-- The engine after an operation that may close bars. -/
structure Emission where
  /-- The engine. -/
  engine : Engine
  /-- The bars that are delivered, in order. -/
  delivered : List ClosedBar
  /-- How many bars were closed. -/
  count : Nat

/-- How a tick went. -/
inductive TickOutcome where
  /-- Every granularity has taken the tick: how many bars it closed, and the bars in progress. -/
  | applied (rolled : Nat) (current : List OpenBar)
  /-- A bucket has no end. -/
  | outOfTime
deriving DecidableEq

namespace Engine

/-- An engine without builders. -/
def new (granularities : List Granularity) : Engine :=
  ⟨Granularity.sorted granularities, .empty, 0, true⟩

/-- Hands out bars that have been closed. -/
def emit (e : Engine) (bars : List ClosedBar) : Emission where
  engine := { e with emittedTotal := e.emittedTotal + bars.length }
  delivered := if e.isOpen then bars else []
  count := bars.length

/-- The builders of an instrument. -/
def buildersOf (e : Engine) (i : Instrument) : Table Granularity Builder :=
  (e.builders.get? i).getD .empty

/-- The builders of one instrument while a tick goes through them. -/
structure Pass where
  /-- The builders. -/
  builders : Table Granularity Builder
  /-- The bars closed so far. -/
  rolled : List ClosedBar
  /-- The bars in progress after the tick. -/
  current : List OpenBar
  /-- Every bucket so far has an end. -/
  complete : Bool

/-- Brings a tick to the builder of one granularity: the builder with the tick, and the bar that
was closed for it; none if the bucket of a new builder has no end. -/
def advance (tick : Tick) (g : Granularity) (builder : Option Builder) :
    Option (Builder × Option ClosedBar) :=
  let start := g.bucketStart tick.timestamp
  let fresh := (Builder.new? g start).map (·.apply tick.price tick.volume)
  match builder with
  | none => fresh.map fun b => (b, none)
  | some b =>
    if b.bucketStart = start then some (b.apply tick.price tick.volume, none)
    else fresh.map fun b' => (b', b.close? tick.instrument g .rollover)

/-- Brings a tick to the builders of the granularities in turn. -/
def pass (tick : Tick) (p : Pass) : List Granularity → Pass
  | [] => p
  | g :: gs =>
    match advance tick g (p.builders.get? g) with
    | none => { p with complete := false }
    | some (b, closed) =>
      pass tick
        { p with
          builders := p.builders.insert g b
          rolled := p.rolled ++ closed.toList
          current := p.current ++ [b.view tick.instrument g] }
        gs

/-- Brings a tick to all builders of its instrument. -/
def addTick (e : Engine) (tick : Tick) : Emission × TickOutcome :=
  let p := pass tick ⟨e.buildersOf tick.instrument, [], [], true⟩ e.granularities
  let e := { e with builders := e.builders.insert tick.instrument p.builders }
  if p.complete then (e.emit p.rolled, .applied p.rolled.length p.current)
  else (e.emit [], .outOfTime)

/-- The bar in progress, if there is one. -/
def current? (e : Engine) (i : Instrument) (g : Granularity) : Option OpenBar :=
  (((e.builders.get? i).bind (·.get? g)).filter (!·.isEmpty)).map (·.view i g)

/-- The bars that closing the builders of an instrument yields, from fine to coarse. -/
def closing (i : Instrument) (builders : Table Granularity Builder) (reason : CloseReason) :
    List ClosedBar :=
  Granularity.all.filterMap fun g => (builders.get? g).bind (·.close? i g reason)

/-- The instruments that have an entry, in their order. -/
def active (e : Engine) : List Instrument := e.builders.keys.mergeSort Instrument.le

/-- Closes all builders. -/
def flushAll (e : Engine) : Emission :=
  emit { e with builders := .empty }
    (e.active.flatMap fun i => closing i (e.buildersOf i) .flush)

/-- Closes all builders of an instrument. -/
def remove (e : Engine) (i : Instrument) : Emission :=
  emit { e with builders := e.builders.erase i } (closing i (e.buildersOf i) .unsubscribe)

/-- Delivers no more bars. -/
def close (e : Engine) : Engine := { e with isOpen := false }

end Engine

end CandleFeed
