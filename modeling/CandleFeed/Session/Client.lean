import CandleFeed.Monitoring.Metrics
import CandleFeed.Session.Registry
import CandleFeed.Session.Settings
import CandleFeed.Session.State
import CandleFeed.Wire.Message

/-!
# The client

A **`Client`** keeps up one session with the provider.  It dials, presents itself, sends the
subscriptions, then listens: it sends heartbeats back, hands every other payload to its consumer,
sends changes of the subscriptions, and gives the connection up when the provider is silent for too
long.  After a failure it closes the connection, waits, and dials again.

The session is a machine.  Its **`Phase`** is what it is waiting for; an **`Event`** is what may
happen then, and **`Client.step`** is what the machine does about it, in one go: it publishes one
state at most, and yields **`Effect`**s, ending in another phase.  An event that the phase does not
wait for has no step.  Which of several possible events happens first is decided outside.

The other side of the client are the calls that its owner makes between steps:
**`Client.connect`**, **`Client.requestStop`** and **`Client.close`**, **`Client.subscribe`** and
**`Client.unsubscribe`**.  A change of the subscriptions takes effect in the registry at once.  It
is queued for sending only when the list of subscriptions has already been taken for the current
connection; and what is queued is discarded when the list is taken for the next one.
-/

namespace CandleFeed

/-- A change of the subscriptions. -/
inductive SubscriptionChange where
  | add (i : Instrument)
  | remove (i : Instrument)
deriving DecidableEq

/-- What a client writes. -/
inductive Outgoing where
  /-- A command. -/
  | command (c : Command)
  /-- A heartbeat, as it came. -/
  | echo (payload : List Char)
deriving DecidableEq

namespace Outgoing

/-- The text of what is written. -/
def payload : Outgoing → List Char
  | command c => c.payload
  | echo p => p

/-- The frame of what is written. -/
def frame (o : Outgoing) : List Char := Frame.encode o.payload

end Outgoing

/-- The command that sends a change on a session. -/
def SubscriptionChange.command (session : String) : SubscriptionChange → Command
  | add i => .addSymbol session i
  | remove i => .removeSymbol session i

/-- What a listening client keeps of its connection. -/
structure Listening where
  /-- When the provider will have been silent for too long. -/
  silence : Nat
  /-- When the connection will count as stable, until it does. -/
  stability : Option Nat
  /-- Text that is part of a frame. -/
  pending : List Char
deriving DecidableEq

/-- What follows a write. -/
inductive AfterWrite where
  /-- The rest of the opening of the session. -/
  | greet (rest : List Command)
  /-- The rest of the subscriptions. -/
  | resubscribe (rest : List Instrument)
  /-- Listening. -/
  | listen (l : Listening)
  /-- The rest of the payloads that came with a heartbeat. -/
  | process (l : Listening) (rest : List (List Char))
deriving DecidableEq

/-- What a closed connection is followed by. -/
inductive Ending where
  /-- Nothing. -/
  | stop
  /-- Another attempt. -/
  | retry
deriving DecidableEq, Repr

/-- What the session waits for. -/
inductive Phase where
  /-- To be started. -/
  | idle
  /-- To run for the first time. -/
  | starting
  /-- To take the list of subscriptions; the session is open. -/
  | opened (session : String)
  /-- To begin to listen; the subscriptions have been sent. -/
  | subscribed (session : String)
  /-- A connection. -/
  | dialing
  /-- A write to complete, no longer than until the deadline. -/
  | writing (session : String) (outgoing : Outgoing) (deadline : Nat) (next : AfterWrite)
  /-- Whatever comes. -/
  | listening (session : String) (l : Listening)
  /-- The consumer to take a payload, which more payloads of the same chunk follow. -/
  | delivering (session : String) (l : Listening) (payload : List Char) (rest : List (List Char))
  /-- The connection to close, no longer than until the deadline. -/
  | closing (ending : Ending) (deadline : Nat)
  /-- The next attempt. -/
  | waiting (deadline : Nat)
  /-- Nothing any more. -/
  | finished
  /-- Nothing any more; the session broke down over a deadline that does not exist. -/
  | broken
deriving DecidableEq

/-- What may happen to a session. -/
inductive Event where
  /-- It goes on by itself. -/
  | goOn
  /-- The connection stands; its session gets a name. -/
  | dialed (session : String)
  /-- There is no connection. -/
  | refused
  /-- The write is complete. -/
  | written
  /-- The write has failed. -/
  | writeFailed
  /-- The deadline has come. -/
  | timeUp
  /-- The connection has been stable for long enough. -/
  | stable
  /-- A change of the subscriptions is taken from the queue. -/
  | change
  /-- A chunk of text has come. -/
  | received (chunk : List Char)
  /-- The connection has failed or ended. -/
  | lost
  /-- The consumer has taken the payload. -/
  | taken
  /-- There is no consumer any more. -/
  | abandoned
  /-- The connection is closed. -/
  | closed
  /-- The request to stop is noticed. -/
  | stopped
deriving DecidableEq

/-- What a session does outside. -/
inductive Effect where
  /-- It dials. -/
  | dial
  /-- It has written on its connection. -/
  | wrote (outgoing : Outgoing)
  /-- It has handed over a payload that came on a session. -/
  | delivered (session : String) (payload : List Char)
  /-- It counts. -/
  | counted (counter : Counter)
deriving DecidableEq

/-- A client. -/
structure Client where
  /-- The settings. -/
  settings : ClientSettings
  /-- What it says about its connection. -/
  state : ConnectionState
  /-- The subscriptions. -/
  registry : Registry
  /-- Changes that wait to be sent. -/
  changes : List SubscriptionChange
  /-- It has been started, or can be started no more. -/
  started : Bool
  /-- It has been asked to stop. -/
  stopRequested : Bool
  /-- What its session waits for. -/
  phase : Phase
  /-- How many attempts have failed since the last stable connection. -/
  failures : Nat

/-- Why a client does not start. -/
inductive ConnectFault where
  /-- It has been closed. -/
  | closed
  /-- It has been started before. -/
  | alreadyStarted
deriving DecidableEq, Repr

/-- The message for a fault. -/
def ConnectFault.message : ConnectFault → String
  | closed => "client is closed"
  | alreadyStarted => "client already started"

namespace Client

/-- How long closing a connection may take. -/
def closeLimit : Nat := 5 * Clock.second

/-- The largest number of failures that is told apart. -/
def mostFailures : Nat := Nat.pow 2 32 - 1

/-- A client before it is started. -/
def new (settings : ClientSettings) : Client where
  settings
  state := .disconnected
  registry := .empty
  changes := []
  started := false
  stopRequested := false
  phase := .idle
  failures := 0

/-- Publishes a state; a closed client stays closed. -/
def publish (c : Client) (s : ConnectionState) : Client :=
  if c.state = .closed then c else { c with state := s }

/-! ## The session -/

/-- Begins a write. -/
def write (c : Client) (now : Nat) (session : String) (o : Outgoing) (next : AfterWrite) : Client :=
  { c with phase := .writing session o (Clock.wakeUp now c.settings.heartbeatTimeout) next }

/-- Closes the connection. -/
def shut (c : Client) (now : Nat) (ending : Ending) : Client :=
  { c with phase := .closing ending (Clock.wakeUp now closeLimit) }

/-- Ends the session. -/
def finish (c : Client) : Client := { c.publish .disconnected with phase := .finished }

/-- Makes an attempt, unless a stop has been requested. -/
def attempt (c : Client) : Client × List Effect :=
  if c.stopRequested then (c.finish, [])
  else ({ c.publish .connecting with phase := .dialing }, [.dial])

/-- Waits for the next attempt, unless a stop has been requested. -/
def backOff (c : Client) (now : Nat) : Client :=
  if c.stopRequested then c.finish
  else
    { c.publish .backingOff with
      phase := .waiting (Clock.wakeUp now (c.settings.backoff.delay c.failures))
      failures := min (c.failures + 1) mostFailures }

/-- The commands that open a session. -/
def greeting (c : Client) (session : String) : List Command :=
  (c.settings.authToken.toList.map Command.setAuthToken) ++
    [.createSession session, .setFields session c.settings.quoteFields]

/-- Everything has been sent. -/
def listen (c : Client) (now : Nat) (session : String) : Client :=
  { c.publish .running with
    phase := .listening session {
      silence := Clock.wakeUp now c.settings.heartbeatTimeout
      stability := some (Clock.wakeUp now c.settings.stabilityWindow)
      pending := [] } }

/-- Sends the rest of the subscriptions. -/
def resubscribe (c : Client) (now : Nat) (session : String) : List Instrument → Client
  | [] => { c with phase := .subscribed session }
  | i :: rest => c.write now session (.command (.addSymbol session i)) (.resubscribe rest)

/-- Takes the list of subscriptions; changes that still wait are in it already. -/
def takeSubscriptions (c : Client) (now : Nat) (session : String) : Client :=
  let c := { c with changes := [] }.publish .resubscribing
  c.resubscribe now session c.registry.order

/-- Sends the rest of the opening of a session. -/
def greet (c : Client) (now : Nat) (session : String) : List Command → Client
  | [] => { c with phase := .opened session }
  | command :: rest => c.write now session (.command command) (.greet rest)

/-- Goes on with the payloads of a chunk.  After the last one the provider's silence counts from
now. -/
def process (c : Client) (now : Nat) (session : String) (l : Listening) : List (List Char) → Client
  | [] =>
    match Clock.deadline? now c.settings.heartbeatTimeout with
    | some silence => { c with phase := .listening session { l with silence } }
    | none => { c with phase := .broken }
  | p :: rest =>
    if Message.isHeartbeat p then c.write now session (.echo p) (.process l rest)
    else { c with phase := .delivering session l p rest }

/-- Goes on after a write. -/
def resume (c : Client) (now : Nat) (session : String) : AfterWrite → Client × List Effect
  | .greet rest => (c.greet now session rest, [])
  | .resubscribe rest => (c.resubscribe now session rest, [])
  | .listen l => ({ c with phase := .listening session l }, [])
  | .process l rest => (c.process now session l rest, [.counted .heartbeats])

/-- The deadline of what the session waits for, if it has one. -/
def deadline (c : Client) : Option Nat :=
  match c.phase with
  | .writing _ _ deadline _ => some deadline
  | .listening _ l => some l.silence
  | .closing _ deadline => some deadline
  | .waiting deadline => some deadline
  | _ => none

/-- When the connection will count as stable, as long as it is waited for. -/
def stability (c : Client) : Option Nat :=
  match c.phase with
  | .listening _ l => l.stability
  | _ => none

/-- The time has come for the event: a deadline has passed, or a stop has been requested. -/
def isDue (c : Client) (now : Nat) : Event → Bool
  | .timeUp => c.deadline.any (· ≤ now)
  | .stable => c.stability.any (· ≤ now)
  | .stopped => c.stopRequested
  | _ => true

/-- What the session does about an event whose time has come, if it waits for it. -/
def react (c : Client) (now : Nat) (e : Event) : Option (Client × List Effect) :=
  match c.phase, e with
  | .starting, .goOn => some c.attempt
  | .opened session, .goOn => some (c.takeSubscriptions now session, [])
  | .subscribed session, .goOn => some (c.listen now session, [])
  | .dialing, .dialed session =>
    let c := c.publish .connected
    some (c.greet now session (c.greeting session), [])
  | .dialing, .refused => some (c.backOff now, [])
  | .dialing, .stopped => some (c.finish, [])
  | .writing session o _ next, .written =>
    let (c, effects) := c.resume now session next
    some (c, .wrote o :: effects)
  | .writing _ _ _ _, .writeFailed => some (c.shut now .retry, [])
  | .writing _ _ _ _, .timeUp => some (c.shut now .retry, [])
  | .writing _ _ _ _, .stopped => some (c.shut now .stop, [])
  | .listening _ _, .stopped => some (c.shut now .stop, [])
  | .listening _ _, .timeUp => some (c.shut now .retry, [])
  | .listening session l, .change =>
    match c.changes with
    | [] => none
    | change :: rest =>
      let c := { c with changes := rest }
      some (c.write now session (.command (change.command session)) (.listen l), [])
  | .listening session l, .stable =>
    l.stability.map fun _ =>
      ({ c with failures := 0, phase := .listening session { l with stability := none } }, [])
  | .listening session l, .received chunk =>
    match Frame.feed l.pending chunk with
    | (.error _, _) => some (c.shut now .retry, [])
    | (.ok payloads, pending) => some (c.process now session { l with pending } payloads, [])
  | .listening _ _, .lost => some (c.shut now .retry, [])
  | .delivering session l p rest, .taken =>
    some (c.process now session l rest, [.delivered session p])
  | .delivering _ _ _ _, .abandoned => some (c.shut now .stop, [])
  | .closing .stop _, .closed => some (c.finish, [])
  | .closing .stop _, .timeUp => some (c.finish, [])
  | .closing .retry _, .closed => some (c.backOff now, [])
  | .closing .retry _, .timeUp => some (c.backOff now, [])
  | .waiting _, .timeUp =>
    let (c, effects) := c.attempt
    some (c, .counted .reconnects :: effects)
  | .waiting _, .stopped => some c.attempt
  | _, _ => none

/-- What the session does about an event, if it can happen now. -/
def step (c : Client) (now : Nat) (e : Event) : Option (Client × List Effect) :=
  if c.isDue now e then c.react now e else none

/-- A step makes of the client what the event makes of it. -/
theorem react_of_step {c c' : Client} {now : Nat} {e : Event} {effects : List Effect}
    (h : c.step now e = some (c', effects)) : c.react now e = some (c', effects) := by
  unfold step at h
  split at h
  · exact h
  · exact absurd h (by simp)

/-! ## The owner's calls -/

/-- Starts the session. -/
def connect (c : Client) : Except ConnectFault Client :=
  if c.state = .closed then .error .closed
  else if c.started then .error .alreadyStarted
  else .ok { c with started := true, phase := .starting }

/-- Asks the session to stop. -/
def requestStop (c : Client) : Client := { c with stopRequested := true, started := true }

/-- The session has ended, or never began. -/
def isDone (c : Client) : Bool :=
  match c.phase with
  | .idle => true
  | .finished => true
  | .broken => true
  | _ => false

/-- Closes a client whose session is over. -/
def close (c : Client) : Client := c.publish .closed

/-- Queues a change where the connection has its list of subscriptions already. -/
def queueChange (c : Client) (change : SubscriptionChange) : Client :=
  if c.state.sendsLive then { c with changes := c.changes ++ [change] } else c

/-- Subscribes an instrument; says whether it was not subscribed. -/
def subscribe (c : Client) (i : Instrument) : Client × Bool :=
  let (registry, changed) := c.registry.insert i
  if changed then ({ c with registry }.queueChange (.add i), true) else (c, false)

/-- Ends the subscription of an instrument; says whether it was subscribed. -/
def unsubscribe (c : Client) (i : Instrument) : Client × Bool :=
  let (registry, changed) := c.registry.remove i
  if changed then ({ c with registry }.queueChange (.remove i), true) else (c, false)

/-- The session runs and everything has been sent. -/
def isConnected (c : Client) : Bool := c.state = .running

end Client

end CandleFeed
