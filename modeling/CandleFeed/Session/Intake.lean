import CandleFeed.Session.Client
import CandleFeed.Session.PayloadQueue

/-!
# A client with its consumer

An **`Intake`** is a client together with the queue that its payloads go to.  **`Intake.step`** is a
step of the client, of which the two events about the consumer happen only when the queue says so:
a payload is taken while there is room for it, and given up once there is no consumer.  What the
client hands over is in the queue after the step.

The consumer's side is **`Intake.pop?`**.  It may take payloads that wait even after the session has
ended; **`Intake.isDrained`** says that none will come any more.
-/

namespace CandleFeed

/-- A client and the queue of its payloads. -/
structure Intake where
  /-- The client. -/
  client : Client
  /-- The payloads that wait for the consumer. -/
  queue : PayloadQueue

namespace Intake

/-- A client before it is started, with an empty queue. -/
def new (settings : ClientSettings) (capacity : Nat) : Intake := ⟨.new settings, .new capacity⟩

/-- The queue lets the event happen. -/
def admits (q : PayloadQueue) : Event → Bool
  | .taken => q.hasConsumer && q.hasRoom
  | .abandoned => !q.hasConsumer
  | _ => true

/-- What an effect of the client does to the queue. -/
def receive (q : PayloadQueue) : Effect → PayloadQueue
  | .delivered session payload => q.push ⟨session, payload⟩
  | _ => q

/-- What happens on an event, if it can happen now. -/
def step (i : Intake) (now : Nat) (e : Event) : Option (Intake × List Effect) :=
  if admits i.queue e then
    (i.client.step now e).map fun (client, effects) =>
      (⟨client, effects.foldl receive i.queue⟩, effects)
  else none

/-- Takes the oldest payload that waits. -/
def pop? (i : Intake) : Option (SessionPayload × Intake) :=
  i.queue.pop?.map fun (p, queue) => (p, { i with queue })

/-- No payload waits, and none will come. -/
def isDrained (i : Intake) : Bool := i.client.isDone && i.queue.waiting.isEmpty

/-- The consumer goes away. -/
def abandon (i : Intake) : Intake := { i with queue := i.queue.abandon }

end Intake

end CandleFeed
