import CandleFeed.Wire.Request

/-!
# Dialing an address

Why no connection comes about where nobody listens: a **`DialFault`**.  **`dialFault`** looks at the
address first, then at whether it can be requested, then at the origin that goes with the request;
only then would anybody be called.
-/

namespace CandleFeed

/-- Why a connection cannot be made. -/
inductive DialFault where
  /-- The address is no URL. -/
  | badAddress (fault : AddressFault)
  /-- The origin cannot stand in a request. -/
  | badOrigin
  /-- The transport refuses: the address cannot be requested, the scheme is unknown, or nobody
  listens. -/
  | refused
deriving DecidableEq, Repr

namespace DialFault

/-- The message for a fault; the transport's own messages are not ours. -/
def message? : DialFault → Option String
  | badAddress fault => some ("connection error: " ++ fault.message)
  | badOrigin => some "connection error: invalid origin: failed to parse header value"
  | refused => none

end DialFault

/-- The text can stand in a request as the origin: no control characters but tabs. -/
def isHeaderText (text : String) : Bool :=
  text.toList.all fun c => c == '\t' || (0x20 ≤ c.toNat && c.toNat != 0x7F)

/-- Why dialing an address fails where nobody listens. -/
def dialFault (address origin : String) : DialFault :=
  match Address.ofText address with
  | .error fault => .badAddress fault
  | .ok a => if isRequestable a && !isHeaderText origin then .badOrigin else .refused

end CandleFeed
