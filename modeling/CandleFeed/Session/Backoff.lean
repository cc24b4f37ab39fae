import CandleFeed.Storage.Clock

/-!
# Waiting before another attempt

After a failed attempt the client waits, and longer after each further failure: **`Backoff.delay`**
doubles a base length once for every earlier failure, up to a maximum.  From the thirty-second
doubling on the factor stays one below the power of two that 32 bits cannot hold.
-/

namespace CandleFeed

/-- A schedule of waits, in nanoseconds. -/
structure Backoff where
  /-- The wait after the first failure. -/
  base : Nat
  /-- The longest wait. -/
  longest : Nat
deriving DecidableEq, Repr

namespace Backoff

/-- A second at first, a minute at most. -/
def standard : Backoff := ⟨Clock.second, 60 * Clock.second⟩

/-- By how much the base is multiplied after a number of failures. -/
def factor (failures : Nat) : Nat := if failures < 32 then Nat.pow 2 failures else Nat.pow 2 32 - 1

/-- The wait after a number of earlier failures. -/
def delay (b : Backoff) (failures : Nat) : Nat :=
  min (min (b.base * factor failures) Clock.longest) b.longest

end Backoff

end CandleFeed
