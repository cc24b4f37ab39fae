import CandleFeed.Dispatch.TickPath
import CandleFeed.History.Desk
import CandleFeed.Session.Intake
import CandleFeed.Storage.Flusher

/-!
# The service

A **`Service`** is a client whose payloads go down a tick path and whose closed bars go to a store.
Three workers take turns in it.  The client's session puts payloads into the queue of its intake;
the dispatcher takes them out, one at a time, with **`Service.dispatchNext`**; and the bars that the
engine closes wait until the flusher writes them, one at a time, with **`Service.flushNext`**.

The owner starts the service once and stops it once.  **`Service.start`** subscribes the configured
instruments and starts the client.  Stopping has parts, because it waits in between:
**`Service.requestStop`**, then, when the session is over, **`Service.closeClient`**, and when the
dispatcher has taken what was queued, **`Service.finish`**, which closes all bars in progress and
writes what is left.

An instrument that is unsubscribed leaves in three parts too, and the dispatcher may take a payload
between any two of them: **`Service.leave`** takes it out of the registry, **`Service.closeBars`**
closes its bars in progress and **`Service.forget`** takes its latest quote away.
**`Service.unsubscribe`** is all three.
-/

namespace CandleFeed

/-- What the dispatcher of a service is doing. -/
inductive DispatcherState where
  /-- It has not been started. -/
  | idle
  /-- It takes payloads. -/
  | running
  /-- A tick broke off its path, and it takes no more. -/
  | broken
deriving DecidableEq, Repr

/-- A client, the path of its ticks, and a store. -/
structure Service where
  /-- The settings. -/
  config : FeedConfig
  /-- The instruments that a start subscribes. -/
  instruments : List Instrument
  /-- The client and the payloads that wait for the dispatcher. -/
  intake : Intake
  /-- The path of a tick. -/
  path : TickPath
  /-- The dispatcher. -/
  dispatcher : DispatcherState
  /-- The closed bars that wait to be written, oldest first. -/
  bars : List ClosedBar
  /-- The store, and how writing went. -/
  flusher : Flusher
  /-- The source of bars of the past. -/
  desk : HistoryDesk
  /-- A start has been made. -/
  begun : Bool
  /-- A stop has been requested. -/
  stopped : Bool

/-- Why there is no service, or why it does not start. -/
inductive ServiceFault where
  /-- The settings cannot be used. -/
  | config (fault : ConfigFault)
  /-- A queue or a pool cannot have the size that is asked for. -/
  | overCapacity
  /-- It has been stopped. -/
  | closed
  /-- It has been started before. -/
  | alreadyStarted
deriving DecidableEq, Repr

/-- The fault of a service that its client reports. -/
def ServiceFault.ofConnect : ConnectFault → ServiceFault
  | .closed => closed
  | .alreadyStarted => alreadyStarted

/-- The message for a fault, where there is one. -/
def ServiceFault.message? : ServiceFault → Option String
  | config fault => fault.message?.map ("configuration error: " ++ ·)
  | overCapacity => none
  | closed => some ConnectFault.closed.message
  | alreadyStarted => some ConnectFault.alreadyStarted.message

/-- A step of a service. -/
structure ServiceStep (α : Type) where
  /-- The service. -/
  service : Service
  /-- What was counted, in order. -/
  counted : List Counter
  /-- How the step went. -/
  result : α

namespace Service

/-- The tick path for some settings, with a cache. -/
def pathOf (config : FeedConfig) (link : CacheLink) : TickPath where
  engine := .new config.aggregation.granularities
  quotes := {
    link
    quoteTtl := config.cache.quoteTtlSecs * Clock.second
    barTtl := config.cache.barTtlSecs * Clock.second }
  cachesBars := config.aggregation.cacheCurrentBars

/-- A service before it is started. -/
def create (config : FeedConfig) (instruments : List Instrument) (link : CacheLink) (sink : BarSink)
    (source : Option HistorySource) : Service where
  config
  instruments
  intake := .new (.ofConfig config) config.connection.payloadBuffer
  path := pathOf config link
  dispatcher := .idle
  bars := []
  flusher := .start sink
  desk := ⟨source, []⟩
  begun := false
  stopped := false

/-- A service for settings that can be used. -/
def new (config : FeedConfig) (link : CacheLink) (sink : BarSink) (source : Option HistorySource) :
    Except ServiceFault Service :=
  match config.validate with
  | .error fault => .error (.config fault)
  | .ok _ =>
    if PayloadQueue.mostPlaces < poolSize config.workers.blockingPoolSize then .error .overCapacity
    else
      match config.instruments with
      | .error fault => .error (.config fault)
      | .ok instruments => .ok (create config instruments link sink source)

/-! ## The parts -/

/-- The client. -/
def client (s : Service) : Client := s.intake.client

/-- Changes the client. -/
def setClient (s : Service) (client : Client) : Service :=
  { s with intake := { s.intake with client } }

/-- The engine. -/
def engine (s : Service) : Engine := s.path.engine

/-- The subscriptions. -/
def registry (s : Service) : Registry := s.client.registry

/-- Takes over what the engine did; the bars it delivered wait to be written. -/
def emit (s : Service) (e : Emission) : Service :=
  { s with path := { s.path with engine := e.engine }, bars := s.bars ++ e.delivered }

/-! ## Subscriptions -/

/-- Subscribes an instrument; says whether it was not subscribed. -/
def subscribe (s : Service) (i : Instrument) : Service × Bool :=
  let (client, changed) := s.client.subscribe i
  (s.setClient client, changed)

/-- Takes an instrument out of the registry; says whether it was subscribed. -/
def leave (s : Service) (i : Instrument) : Service × Bool :=
  let (client, changed) := s.client.unsubscribe i
  (s.setClient client, changed)

/-- Closes the bars in progress of an instrument. -/
def closeBars (s : Service) (i : Instrument) : Service := s.emit (s.engine.remove i)

/-- Takes the latest quote of an instrument away. -/
def forget (s : Service) (i : Instrument) : ServiceStep Unit :=
  let (quotes, result) := s.path.quotes.clearLatest i
  let s := { s with path := { s.path with quotes } }
  match result with
  | .ok _ => ⟨s, [], ()⟩
  | .error _ => ⟨s, [.cacheFailures "clear_latest"], ()⟩

/-- Ends the subscription of an instrument, closes its bars in progress and takes its latest quote
away; says whether it was subscribed.  Nothing else happens if it was not. -/
def unsubscribe (s : Service) (i : Instrument) : ServiceStep Bool :=
  match s.leave i with
  | (s, false) => ⟨s, [], false⟩
  | (s, true) => { (s.closeBars i).forget i with result := true }

/-! ## The workers -/

/-- The dispatcher takes a payload, if one waits; the result is what became of it.  A tick that
breaks off ends the dispatcher, and there is no consumer any more. -/
def dispatchNext (s : Service) (now : Nat) (receivedAt : Timestamp) :
    Option (ServiceStep Dispatched) :=
  if s.dispatcher = .running then
    s.intake.pop?.map fun (p, intake) =>
      let taken := s.path.dispatch now receivedAt s.registry p.session p.payload
      let s := { s with intake, path := taken.path, bars := s.bars ++ taken.delivered }
      let s :=
        if taken.result = .brokenOff then
          { s with intake := s.intake.abandon, dispatcher := .broken }
        else s
      ⟨s, taken.counted, taken.result⟩
  else none

/-- The flusher writes a bar, if one waits. -/
def flushNext (s : Service) : Option (ServiceStep Unit) :=
  match s.bars with
  | [] => none
  | bar :: bars =>
    let (flusher, counted) := s.flusher.flushOne bar
    some ⟨{ s with bars, flusher }, counted, ()⟩

/-- The flusher writes all bars that wait. -/
def flush (s : Service) : ServiceStep Unit :=
  let (flusher, counted) := s.flusher.flush s.bars
  ⟨{ s with bars := [], flusher }, counted, ()⟩

/-! ## Start and stop -/

/-- Subscribes instruments in turn. -/
def subscribeAll (s : Service) (is : List Instrument) : Service :=
  is.foldl (fun s i => (s.subscribe i).1) s

/-- Starts the dispatcher, subscribes the configured instruments and starts the client.  A start
that cannot have its queue cannot be repeated. -/
def start (s : Service) : Service × Except ServiceFault Unit :=
  if s.stopped then (s, .error .closed)
  else if s.begun then (s, .error .alreadyStarted)
  else
    let s := { s with begun := true }
    if !PayloadQueue.isCapacity s.config.connection.payloadBuffer then (s, .error .overCapacity)
    else
      let s := { s with dispatcher := .running }.subscribeAll s.instruments
      match s.client.connect with
      | .ok client => (s.setClient client, .ok ())
      | .error fault => (s, .error (.ofConnect fault))

/-- Requests a stop; none if one has been requested before. -/
def requestStop (s : Service) : Option Service :=
  if s.stopped then none
  else some ({ s with stopped := true }.setClient s.client.requestStop)

/-- Closes the client, whose session is over. -/
def closeClient (s : Service) : Service := s.setClient s.client.close

/-- The session is over and the dispatcher will take nothing any more. -/
def isDrained (s : Service) : Bool :=
  s.client.isDone && (s.dispatcher != .running || s.intake.queue.waiting.isEmpty)

/-- Closes all bars in progress and writes what waits. -/
def finish (s : Service) : ServiceStep Unit :=
  let s := s.emit s.engine.flushAll
  { s with path := { s.path with engine := s.engine.close } }.flush

/-! ## Questions -/

/-- The latest quote of an instrument. -/
def latest (s : Service) (now : Nat) (i : Instrument) :
    Service × Except CacheFault (Option Quote) :=
  let (quotes, result) := s.path.quotes.latest now i
  ({ s with path := { s.path with quotes } }, result)

/-- The bar in progress, from the engine. -/
def current? (s : Service) (i : Instrument) (g : Granularity) : Option OpenBar :=
  s.engine.current? i g

/-- The stored bars. -/
def store (s : Service) : BarStore := s.flusher.sink.store

/-- Bars of the past. -/
def history (s : Service) (r : HistoryRequest) :
    Service × Except HistoryFault (List (Timestamp × Ohlcv)) :=
  let (desk, result) := s.desk.fetch r
  ({ s with desk }, result)

/-- What a service says about itself. -/
structure Status where
  /-- Its connection. -/
  connection : ConnectionState
  /-- Its subscriptions, in their order. -/
  subscribed : List Instrument
deriving DecidableEq

/-- What the service says about itself. -/
def status (s : Service) : Status := ⟨s.client.state, s.registry.order⟩

/-- The record of a status. -/
def Status.toJson (t : Status) : Json :=
  .obj [("connection_state", .str t.connection.name),
    ("subscribed_instruments", .arr (t.subscribed.map fun i => .str i.name))]

end Service

end CandleFeed
