import CandleFeed.Proofs.Aggregation.Calls
import CandleFeed.Proofs.Session.Moves
import CandleFeed.Service.Basic

/-!
# Moves of a service

A **`ServiceMove`** is what one of the parties to a service does at a time: its session goes a step,
the dispatcher takes a payload, the flusher writes a bar, or somebody makes a call.  The parts of a
stop and of an unsubscription are moves of their own, so that other moves may come between them.  A
stop waits where the service waits: for the session to be over, for the dispatcher to have taken
what was queued, and for the flusher to have written what was emitted.

A **`Ledger`** is a service with a record of what happened.  What its sink was offered is not part of
it: the sink itself keeps that.  **`Ledger.move`** makes a move; a dispatcher that breaks off has no
move.
-/

namespace CandleFeed

/-- A result that is there is a success. -/
theorem eq_ok_of_toOption {ε α : Type} {r : Except ε α} {a : α} (h : r.toOption = some a) :
    r = .ok a := by
  cases r with
  | error fault => exact absurd h (by simp [Except.toOption])
  | ok a' => exact congrArg Except.ok (Option.some.inj h)

/-! ## Parts of a stop -/

/-- How far the first stop of a service has come. -/
inductive StopStage where
  /-- It has not been requested. -/
  | running
  /-- It has been requested. -/
  | requested
  /-- The session is over, and the client is closed. -/
  | clientClosed
  /-- The dispatcher is done, and all bars in progress are closed. -/
  | barsClosed
  /-- The engine delivers no more bars. -/
  | engineClosed
  /-- The flusher is done, and the stop has returned. -/
  | returned
deriving DecidableEq

namespace StopStage

/-- A stop has been requested. -/
def isRequested : StopStage → Bool
  | running => false
  | _ => true

/-- The client is closed. -/
def clientIsClosed : StopStage → Bool
  | running => false
  | requested => false
  | _ => true

/-- All bars in progress have been closed. -/
def barsAreClosed : StopStage → Bool
  | barsClosed => true
  | engineClosed => true
  | returned => true
  | _ => false

/-- The engine delivers no more bars. -/
def engineIsClosed : StopStage → Bool
  | engineClosed => true
  | returned => true
  | _ => false

end StopStage

namespace Service

/-- Closes all bars in progress. -/
def closeAll (s : Service) : Service := s.emit s.engine.flushAll

/-- Has the engine deliver no more bars. -/
def closeEngine (s : Service) : Service :=
  { s with path := { s.path with engine := s.engine.close } }

/-- The end of a stop is made of parts. -/
theorem finish_eq (s : Service) : s.finish = s.closeAll.closeEngine.flush := rfl

/-- The bars that wait in a later state and did not wait in an earlier one. -/
def newBars (s s' : Service) : List ClosedBar := s'.bars.drop s.bars.length

end Service

/-! ## Moves -/

/-- What happens to a service. -/
inductive ServiceMove where
  /-- It is started. -/
  | start
  /-- Its session goes a step. -/
  | session (now : Nat) (e : Event)
  /-- The dispatcher takes a payload. -/
  | dispatch (now : Nat) (receivedAt : Timestamp)
  /-- The flusher writes a bar. -/
  | write
  /-- An instrument is subscribed. -/
  | subscribe (i : Instrument)
  /-- An instrument that is unsubscribed leaves the registry. -/
  | leave (i : Instrument)
  /-- The bars in progress of an instrument that is unsubscribed are closed. -/
  | closeBars (i : Instrument)
  /-- The latest quote of an instrument that is unsubscribed is taken away. -/
  | forget (i : Instrument)
  /-- Somebody asks for a latest quote. -/
  | latest (now : Nat) (i : Instrument)
  /-- Somebody asks for bars of the past. -/
  | history (r : HistoryRequest)
  /-- A stop is requested. -/
  | requestStop
  /-- The stop has seen the session end, and closes the client. -/
  | closeClient
  /-- The stop has seen the dispatcher end, and closes all bars in progress. -/
  | closeAll
  /-- The stop has the engine deliver no more bars. -/
  | closeEngine
  /-- The stop has seen the flusher end, and returns. -/
  | returnStop

/-- What is recorded of a service. -/
inductive Happening where
  /-- The client has queued a payload. -/
  | queued (p : SessionPayload)
  /-- The dispatcher has taken a payload. -/
  | dispatched (p : SessionPayload) (outcome : Dispatched)
  /-- A call of the engine has emitted bars. -/
  | called (c : EngineCall) (emitted : List ClosedBar)

namespace Happening

/-- The payload that was queued. -/
def queued? : Happening → Option SessionPayload
  | queued p => some p
  | _ => none

/-- The payload that was dispatched, and what became of it. -/
def dispatched? : Happening → Option (SessionPayload × Dispatched)
  | dispatched p outcome => some (p, outcome)
  | _ => none

/-- The call of the engine, and the bars that it emitted. -/
def called? : Happening → Option (EngineCall × List ClosedBar)
  | called c emitted => some (c, emitted)
  | _ => none

end Happening

/-- The quote whose tick was taken. -/
def Dispatched.tick? : Dispatched → Option Quote
  | tick quote => some quote
  | _ => none

/-- A service, how far its stop has come, and what happened. -/
structure Ledger where
  service : Service
  stage : StopStage
  trace : List Happening

namespace Ledger

/-- A service before anything happens. -/
def start (s : Service) : Ledger := ⟨s, .running, []⟩

/-- Goes on with a service to which happened nothing that is recorded. -/
def keep (l : Ledger) (s : Service) : Ledger := { l with service := s }

/-- Goes on with a service that has called its engine. -/
def call (l : Ledger) (c : EngineCall) (s : Service) : Ledger :=
  { l with service := s, trace := l.trace ++ [.called c (l.service.newBars s)] }

/-- Goes on with a service whose dispatcher has taken a payload. -/
def dispatched (l : Ledger) (p : SessionPayload) (step : ServiceStep Dispatched) : Ledger :=
  { l with
    service := step.service
    trace := l.trace ++ .dispatched p step.result :: step.result.tick?.toList.map fun quote =>
      .called (.tick quote.tick) (l.service.newBars step.service) }

/-- Makes a move, if it can be made. -/
def move (l : Ledger) : ServiceMove → Option Ledger
  | .start => some (l.keep l.service.start.1)
  | .session now e =>
    (l.service.intake.step now e).map fun (intake, effects) =>
      { l with
        service := { l.service with intake }
        trace := l.trace ++ (effects.filterMap Effect.queued?).map .queued }
  | .dispatch now receivedAt =>
    l.service.intake.queue.waiting.head?.bind fun p =>
      (l.service.dispatchNext now receivedAt).bind fun step =>
        if step.result = .brokenOff then none else some (l.dispatched p step)
  | .write => l.service.flushNext.map fun step => l.keep step.service
  | .subscribe i => some (l.keep (l.service.subscribe i).1)
  | .leave i => some (l.keep (l.service.leave i).1)
  | .closeBars i => some (l.call (.remove i) (l.service.closeBars i))
  | .forget i => some (l.keep (l.service.forget i).service)
  | .latest now i => some (l.keep (l.service.latest now i).1)
  | .history r => some (l.keep (l.service.history r).1)
  | .requestStop => l.service.requestStop.map fun s => { l.keep s with stage := .requested }
  | .closeClient =>
    if l.stage = .requested ∧ l.service.client.isDone then
      some { l.keep l.service.closeClient with stage := .clientClosed }
    else none
  | .closeAll =>
    if l.stage = .clientClosed ∧ l.service.isDrained then
      some { l.call .flush l.service.closeAll with stage := .barsClosed }
    else none
  | .closeEngine =>
    if l.stage = .barsClosed then
      some { l.keep l.service.closeEngine with stage := .engineClosed }
    else none
  | .returnStop =>
    if l.stage = .engineClosed ∧ l.service.bars = [] then some { l with stage := .returned }
    else none

/-- Makes moves in turn. -/
def run (l : Ledger) (moves : List ServiceMove) : Option Ledger := moves.foldlM move l

end Ledger

end CandleFeed
