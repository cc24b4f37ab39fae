/-!
# States of a connection

What a client says about its connection.  A **`ConnectionState`** has a name and a number for
reports; in the two states in which **`ConnectionState.sendsLive`** holds, a change of the
subscriptions is sent at once, in all others it waits for the next connection.
-/

namespace CandleFeed

/-- What a client says about its connection. -/
inductive ConnectionState where
  /-- There is none. -/
  | disconnected
  /-- It is being made. -/
  | connecting
  /-- It stands, and the session is being opened. -/
  | connected
  /-- The subscriptions are being sent. -/
  | resubscribing
  /-- Everything has been sent. -/
  | running
  /-- It failed, and another attempt will follow. -/
  | backingOff
  /-- There will be no other. -/
  | closed
deriving DecidableEq, Repr

namespace ConnectionState

/-- The name of a state. -/
def name : ConnectionState → String
  | disconnected => "disconnected"
  | connecting => "connecting"
  | connected => "connected"
  | resubscribing => "resubscribing"
  | running => "running"
  | backingOff => "backing_off"
  | closed => "closed"

/-- The number of a state. -/
def code : ConnectionState → Nat
  | disconnected => 0
  | connecting => 1
  | connected => 2
  | resubscribing => 3
  | running => 4
  | backingOff => 5
  | closed => 6

/-- The list of subscriptions for this connection has been taken. -/
def sendsLive : ConnectionState → Bool
  | resubscribing => true
  | running => true
  | _ => false

end ConnectionState

end CandleFeed
