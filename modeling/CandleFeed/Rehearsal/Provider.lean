import CandleFeed.Storage.Clock
import CandleFeed.Wire.Frame

/-!
# A scripted provider

For a rehearsal, a **`Provider`** that does as it is told.  Each dial takes a **`DialPlan`** from a
list; each connection has a number, and what it does with reads, writes and its closing can be set
from outside.
-/

namespace CandleFeed

/-- What happens to a dial, and to the connection that comes of it. -/
inductive DialPlan where
  /-- It connects. -/
  | connect
  /-- It is refused. -/
  | refuse
  /-- It never ends. -/
  | hang
  /-- It connects after a length of time. -/
  | connectAfter (delay : Nat)
  /-- It connects; after so many writes the others fail. -/
  | failWrites (after : Nat)
  /-- It connects; after so many writes the others never complete. -/
  | stallWrites (after : Nat)
  /-- It connects; closing never completes. -/
  | hangOnClose
  /-- It connects; closing fails. -/
  | failOnClose
deriving DecidableEq, Repr

namespace DialPlan

/-- The text of a plan is a word, and a number behind a colon for the plans that have one. -/
def parse? (text : String) : Option DialPlan :=
  let word := String.ofList (text.toList.takeWhile (· != ':'))
  let number := (String.ofList ((text.toList.dropWhile (· != ':')).drop 1)).toNat?
  match word, number with
  | "ok", none => some connect
  | "refuse", none => some refuse
  | "hang", none => some hang
  | "delay", some n => some (connectAfter (n * Clock.millisecond))
  | "fail_write", some n => some (failWrites n)
  | "stall_write", some n => some (stallWrites n)
  | "close_hang", none => some hangOnClose
  | "close_fail", none => some failOnClose
  | _, _ => none

end DialPlan

/-- What a connection has to be read. -/
inductive Inbound where
  /-- A chunk of text. -/
  | chunk (text : List Char)
  /-- A failure. -/
  | failure

/-- The provider's side of a connection. -/
structure Connection where
  /-- How it was planned. -/
  plan : DialPlan
  /-- What has not been read yet. -/
  inbox : List Inbound
  /-- Nothing will be added to it. -/
  hungUp : Bool
  /-- Writes are not read any more. -/
  deaf : Bool
  /-- Writes fail. -/
  gone : Bool
  /-- How many writes have completed. -/
  writes : Nat

/-- How a write goes. -/
inductive WriteOutcome where
  /-- It completes. -/
  | done
  /-- It fails. -/
  | failed
  /-- It never completes. -/
  | never
deriving DecidableEq, Repr

namespace Connection

/-- A new connection. -/
def fresh (plan : DialPlan) : Connection := ⟨plan, [], false, false, false, 0⟩

/-- How the next write goes.  What was planned for it comes first, then whether the provider still
reads, then whether it is still there. -/
def writeOutcome (c : Connection) : WriteOutcome :=
  let unplanned : WriteOutcome := if c.deaf then .never else if c.gone then .failed else .done
  match c.plan with
  | .stallWrites n => if n ≤ c.writes then .never else unplanned
  | .failWrites n => if n ≤ c.writes then .failed else unplanned
  | _ => unplanned

/-- Closing ever completes. -/
def closes (c : Connection) : Bool := c.plan != .hangOnClose

/-- Adds something to be read, unless the provider has hung up. -/
def push (c : Connection) (i : Inbound) : Connection :=
  if c.hungUp then c else { c with inbox := c.inbox ++ [i] }

/-- The provider hangs up; what it sent before can still be read. -/
def hangUp (c : Connection) : Connection := { c with hungUp := true }

/-- The provider stops reading. -/
def stopReading (c : Connection) : Connection := { c with deaf := true }

/-- The provider goes away. -/
def drop (c : Connection) : Connection := { c with hungUp := true, gone := true }

end Connection

/-- How a dial goes. -/
inductive Dialing where
  /-- No dial is under way. -/
  | idle
  /-- It never ends. -/
  | hanging
  /-- It ends at an instant, unless refused then. -/
  | due (time : Nat) (plan : DialPlan)

/-- A provider that does as it is told. -/
structure Provider where
  /-- The plans for the next dials. -/
  plans : List DialPlan
  /-- How many of the next connections are refused. -/
  refusals : Nat
  /-- The connections, oldest first. -/
  connections : List Connection
  /-- The dial that is under way. -/
  dialing : Dialing

namespace Provider

/-- A provider without connections. -/
def new (plans : List DialPlan) (refusals : Nat) : Provider := ⟨plans, refusals, [], .idle⟩

/-- The number of the latest connection, zero without any. -/
def latest (p : Provider) : Nat := p.connections.length

/-- The connection with a number. -/
def connection? (p : Provider) (number : Nat) : Option Connection :=
  if number == 0 then none else p.connections[number - 1]?

/-- Changes the connection with a number. -/
def update (p : Provider) (number : Nat) (f : Connection → Connection) : Provider :=
  if number == 0 then p else { p with connections := p.connections.modify (number - 1) f }

/-- Does something on the provider's side of the connection with a number; none if there is no such
connection or the provider has gone away from it. -/
def act? (p : Provider) (number : Nat) (f : Connection → Connection) : Option Provider :=
  match p.connection? number with
  | some c => if c.gone then none else some (p.update number f)
  | none => none

/-- A dial begins. -/
def dial (p : Provider) (now : Nat) : Provider :=
  let plan := p.plans.head?.getD .connect
  let dialing : Dialing := match plan with
    | .hang => .hanging
    | .connectAfter delay => .due (now + delay) plan
    | plan => .due now plan
  { p with plans := p.plans.drop 1, dialing }

/-- The dial under way ends, if it is time: whether it connects.  A refusal that was planned takes
the place of those that were still due. -/
def answer? (p : Provider) (now : Nat) : Option (Provider × Bool) :=
  match p.dialing with
  | .due time plan =>
    if now < time then none
    else
      let p := { p with dialing := .idle }
      if plan == .refuse then some ({ p with refusals := 0 }, false)
      else if 0 < p.refusals then some ({ p with refusals := p.refusals - 1 }, false)
      else some ({ p with connections := p.connections ++ [.fresh plan] }, true)
  | _ => none

/-- The instant at which the dial under way ends, if it does. -/
def answerTime (p : Provider) : Option Nat :=
  match p.dialing with
  | .due time _ => some time
  | _ => none

end Provider

end CandleFeed
