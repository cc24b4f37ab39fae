/-!
# Time in a rehearsal

A rehearsal has a clock that moves only when it is told to.  **`Timed`** is what time passes for:
it has a clock, everything in it that can happen at once can be let happen, and it knows the
instants at which something will happen by itself.

**`Timed.advance`** moves the clock on by a length of time and stops at every such instant on the
way, the last one included.  **`Timed.waitUntil`** moves it from one such instant to the next until
something holds, but no further than a limit.
-/

namespace CandleFeed

/-- What time passes for. -/
class Timed (σ : Type) where
  /-- The clock. -/
  now : σ → Nat
  /-- Sets the clock. -/
  setClock : σ → Nat → σ
  /-- Lets everything happen that can happen at once. -/
  settle : σ → σ
  /-- The instants at which something happens by itself. -/
  alarms : σ → List Nat

namespace Timed

variable {σ : Type} [Timed σ]

/-- The first instant ahead, and not after the limit, at which something happens by itself. -/
def nextAlarm (s : σ) (limit : Nat) : Option Nat :=
  ((alarms s).filter fun t => now s < t && t ≤ limit).min?

/-- Moves the clock to an instant, and lets happen what can. -/
def moveTo (s : σ) (time : Nat) : σ := settle (setClock s time)

/-- Moves the clock from one alarm to the next, at most so many times, until something holds or no
alarm is left up to the limit. -/
def follow (done : σ → Bool) (limit : Nat) : Nat → σ → σ
  | 0, s => s
  | fuel + 1, s =>
    if done s then s
    else
      match nextAlarm s limit with
      | some time => follow done limit fuel (moveTo s time)
      | none => s

/-- Lets a length of time pass. -/
def advance (s : σ) (length : Nat) : σ :=
  let target := now s + length
  moveTo (follow (fun _ => false) target length (settle s)) target

/-- Lets time pass until something holds, but no more than a length of time; whether it holds
then. -/
def waitUntil (s : σ) (done : σ → Bool) (length : Nat) : σ × Bool :=
  let s := follow done (now s + length) (length + 1) (settle s)
  (s, done s)

end Timed

end CandleFeed
