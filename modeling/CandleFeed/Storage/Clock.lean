/-!
# The clock

Points on the program's own clock are counted in nanoseconds from the start of a run, and so are
lengths of time.  The clock has a last instant, far beyond any run; **`Clock.deadline?`** adds a
length of time to an instant, where the sum still exists.
-/

namespace CandleFeed.Clock

/-- Nanoseconds in a second. -/
def second : Nat := 1000000000

/-- Nanoseconds in a millisecond. -/
def millisecond : Nat := 1000000

/-- The longest length of time. -/
def longest : Nat := (Nat.pow 2 64 - 1) * second + 999999999

/-- The last instant.  The clock reads a second at least when counting begins. -/
def lastInstant : Nat := (Nat.pow 2 63 - 2) * second + 999999999

/-- The instant that lies a length of time ahead, if it exists. -/
def deadline? (now length : Nat) : Option Nat :=
  if now + length ≤ lastInstant then some (now + length) else none

/-- The end of a wait: a wait beyond the last instant ends thirty years from now. -/
def wakeUp (now length : Nat) : Nat :=
  (deadline? now length).getD (now + 86400 * 365 * 30 * second)

end CandleFeed.Clock
