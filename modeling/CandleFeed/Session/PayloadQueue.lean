/-!
# The queue between a client and its consumer

Payloads wait in a **`PayloadQueue`** of limited capacity, each with the session it came on.  The
client waits while the queue is full, and learns when nobody takes from it any more.
-/

namespace CandleFeed

/-- A payload and the session that it came on. -/
structure SessionPayload where
  /-- The name of the session. -/
  session : String
  /-- The text. -/
  payload : List Char
deriving DecidableEq, Repr

/-- Payloads that wait to be taken. -/
structure PayloadQueue where
  /-- How many may wait. -/
  capacity : Nat
  /-- Those that wait, oldest first. -/
  waiting : List SessionPayload
  /-- Somebody takes them. -/
  hasConsumer : Bool

namespace PayloadQueue

/-- The largest capacity of a queue, or of anything else that hands out places. -/
def mostPlaces : Nat := Nat.pow 2 61 - 1

/-- A queue can have this capacity. -/
def isCapacity (n : Nat) : Bool := 0 < n && n ≤ mostPlaces

/-- An empty queue. -/
def new (capacity : Nat) : PayloadQueue := ⟨capacity, [], true⟩

/-- There is room for another payload. -/
def hasRoom (q : PayloadQueue) : Bool := q.waiting.length < q.capacity

/-- Adds a payload. -/
def push (q : PayloadQueue) (p : SessionPayload) : PayloadQueue :=
  { q with waiting := q.waiting ++ [p] }

/-- Takes the oldest payload. -/
def pop? (q : PayloadQueue) : Option (SessionPayload × PayloadQueue) :=
  match q.waiting with
  | [] => none
  | p :: rest => some (p, { q with waiting := rest })

/-- Nobody takes payloads any more; those that wait are lost. -/
def abandon (q : PayloadQueue) : PayloadQueue := { q with waiting := [], hasConsumer := false }

end PayloadQueue

end CandleFeed
