import CandleFeed.Rehearsal.Stage
import CandleFeed.Service.Basic

/-!
# A service on stage

A **`ServiceStage`** is a service on the stage of its client.  The workers take turns:
**`ServiceStage.settle`** lets the client do what it can, then the dispatcher, then the flusher,
until nobody can do anything without time passing.
-/

namespace CandleFeed

/-- A service and the provider of its client. -/
structure ServiceStage where
  /-- The clock. -/
  now : Nat
  /-- The wall clock, which stands still. -/
  wallClock : Timestamp
  /-- The service. -/
  service : Service
  /-- The provider. -/
  provider : Provider
  /-- What the client did, and what was counted. -/
  log : StageLog

namespace ServiceStage

/-- A stage at the start of a rehearsal. -/
def new (service : Service) (provider : Provider) (wallClock : Timestamp) : ServiceStage :=
  ⟨0, wallClock, service, provider, .empty⟩

/-- The stage of the client. -/
def clientStage (s : ServiceStage) : Stage := ⟨s.now, s.service.intake, s.provider, s.log⟩

/-- Takes over what happened on the stage of the client. -/
def follow (s : ServiceStage) (c : Stage) : ServiceStage :=
  { s with
    service := { s.service with intake := c.intake }
    provider := c.provider
    log := c.log }

/-- Takes over a step of the service. -/
def take {α : Type} (s : ServiceStage) (step : ServiceStep α) : ServiceStage :=
  { s with
    service := step.service
    log := { s.log with counted := s.log.counted ++ step.counted } }

/-- Lets the dispatcher take at most so many payloads. -/
def dispatchWithin : Nat → ServiceStage → ServiceStage
  | 0, s => s
  | fuel + 1, s =>
    match s.service.dispatchNext s.now s.wallClock with
    | some step => dispatchWithin fuel (s.take step)
    | none => s

/-- Every worker does what it can, in turn. -/
def turn (s : ServiceStage) : ServiceStage :=
  let s := s.follow s.clientStage.settle
  let s := dispatchWithin s.service.intake.queue.waiting.length s
  s.take s.service.flush

/-- Lets the workers take at most so many turns. -/
def settleWithin : Nat → ServiceStage → ServiceStage
  | 0, s => s
  | fuel + 1, s =>
    let s := s.turn
    if s.clientStage.next.isSome then settleWithin fuel s else s

/-- Lets happen what can happen without time passing. -/
def settle (s : ServiceStage) : ServiceStage := settleWithin Stage.patience s

instance : Timed ServiceStage where
  now := now
  setClock s now := { s with now }
  settle := settle
  alarms s := s.clientStage.alarms

/-- Stops the service; whether it came to its end in time. -/
def stop (s : ServiceStage) : ServiceStage × Bool :=
  match s.service.requestStop with
  | none => (s, true)
  | some service =>
    let (s, ended) :=
      Timed.waitUntil { s with service } (fun s => s.service.isDrained) Stage.waitLimit
    if ended then (s.take (s.service.closeClient.finish), true) else (s, false)

end ServiceStage

end CandleFeed
