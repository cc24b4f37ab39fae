import CandleFeed.Rehearsal.Provider
import CandleFeed.Rehearsal.Timed
import CandleFeed.Session.Intake
import CandleFeed.Wire.SessionId

/-!
# A client on stage

A **`Stage`** is a client with its queue and a scripted provider, and a clock that only moves when
it is told to.  **`Stage.next`** is the next thing that happens without time passing: of several
events that are possible, the one that the client looks for first.  **`Stage.settle`** lets
everything happen that can, and **`Stage.alarms`** are the instants at which more will.

What the client writes, when it dials and what it counts is kept in a log.
-/

namespace CandleFeed

/-- What a client did. -/
structure StageLog where
  /-- The frames it wrote, each with the number of its connection. -/
  sent : List (Nat × List Char)
  /-- The instants at which it dialed. -/
  dials : List Nat
  /-- What it counted. -/
  counted : List Counter

/-- Nothing. -/
def StageLog.empty : StageLog := ⟨[], [], []⟩

/-- A client and its provider. -/
structure Stage where
  /-- The clock. -/
  now : Nat
  /-- The client with its queue. -/
  intake : Intake
  /-- The provider. -/
  provider : Provider
  /-- What the client did. -/
  log : StageLog

namespace Stage

/-- A stage at the start of a rehearsal. -/
def new (intake : Intake) (provider : Provider) : Stage := ⟨0, intake, provider, .empty⟩

/-- The client. -/
def client (s : Stage) : Client := s.intake.client

/-- Changes the client. -/
def setClient (s : Stage) (client : Client) : Stage :=
  { s with intake := { s.intake with client } }

/-- The connection that the client has. -/
def connection? (s : Stage) : Option Connection := s.provider.connection? s.provider.latest

/-- Changes the connection that the client has. -/
def updateConnection (s : Stage) (f : Connection → Connection) : Stage :=
  { s with provider := s.provider.update s.provider.latest f }

/-- Counts. -/
def count (s : Stage) (counters : List Counter) : Stage :=
  { s with log := { s.log with counted := s.log.counted ++ counters } }

/-- What an effect of the client does outside its queue. -/
def effect (s : Stage) : Effect → Stage
  | .dial =>
    { s with
      provider := s.provider.dial s.now
      log := { s.log with dials := s.log.dials ++ [s.now] } }
  | .wrote o =>
    { s.updateConnection fun c => { c with writes := c.writes + 1 } with
      log := { s.log with sent := s.log.sent ++ [(s.provider.latest, o.frame)] } }
  | .delivered _ _ => s
  | .counted counter => s.count [counter]

/-- Lets an event happen to the client. -/
def happen (s : Stage) (e : Event) : Option Stage :=
  (s.intake.step s.now e).map fun (intake, effects) => effects.foldl effect { s with intake }

/-- The first event of a list that can happen. -/
def first (s : Stage) (es : List Event) : Option Stage := es.findSome? s.happen

/-- What a listening client can read. -/
def read (s : Stage) : Option Stage :=
  match s.connection? with
  | none => none
  | some c =>
    match c.inbox with
    | .chunk text :: rest =>
      (s.updateConnection fun c => { c with inbox := rest }).happen (.received text)
    | .failure :: rest => (s.updateConnection fun c => { c with inbox := rest }).happen .lost
    | [] => if c.hungUp then s.happen .lost else none

/-- How the write under way goes. -/
def writeEvents (s : Stage) : List Event :=
  match s.connection? with
  | none => []
  | some c =>
    match c.writeOutcome with
    | .done => [.written]
    | .failed => [.writeFailed]
    | .never => []

/-- The next thing that happens without time passing, if anything does. -/
def next (s : Stage) : Option Stage :=
  match s.client.phase with
  | .starting | .opened _ | .subscribed _ => s.happen .goOn
  | .dialing =>
    match s.provider.answer? s.now with
    | some (provider, true) =>
      { s with provider }.happen (.dialed (SessionId.numbered provider.latest))
    | some (provider, false) => { s with provider }.happen .refused
    | none => s.happen .stopped
  | .writing _ _ _ _ => s.first (s.writeEvents ++ [.timeUp, .stopped])
  | .listening _ _ => (s.first [.stopped, .timeUp, .change, .stable]).or s.read
  | .delivering _ _ _ _ => s.first [.abandoned, .taken]
  | .closing _ _ =>
    if s.connection?.any (·.closes) then s.happen .closed else s.happen .timeUp
  | .waiting _ => s.first [.timeUp, .stopped]
  | _ => none

/-- Lets at most so many things happen. -/
def settleWithin : Nat → Stage → Stage
  | 0, s => s
  | fuel + 1, s =>
    match s.next with
    | some s => settleWithin fuel s
    | none => s

/-- More than ever happens without time passing, unless it never ends. -/
def patience : Nat := 1000000

/-- Lets happen what can happen without time passing. -/
def settle (s : Stage) : Stage := settleWithin patience s

/-- The instants at which something will happen by itself. -/
def alarms (s : Stage) : List Nat :=
  let dial := match s.client.phase with
    | .dialing => s.provider.answerTime.toList
    | _ => []
  s.client.deadline.toList ++ s.client.stability.toList ++ dial

/-! ## The consumer and the owner -/

/-- Takes payloads until none is left, at most so many; the client may send more meanwhile. -/
def collect : Nat → Stage → Stage × List SessionPayload
  | 0, s => (s, [])
  | fuel + 1, s =>
    match s.intake.pop? with
    | none => (s, [])
    | some (p, intake) =>
      let (s, ps) := collect fuel (settle { s with intake })
      (s, p :: ps)

instance : Timed Stage where
  now := now
  setClock s now := { s with now }
  settle := settle
  alarms := alarms

/-- How long a call may wait. -/
def waitLimit : Nat := 3600 * Clock.second

/-- Stops the client and closes it when its session is over; whether that happened in time. -/
def disconnect (s : Stage) : Stage × Bool :=
  let (s, ended) :=
    Timed.waitUntil (s.setClient s.client.requestStop) (fun s => s.client.isDone) waitLimit
  (if ended then s.setClient s.client.close else s, ended)

end Stage

end CandleFeed
