/-!
# Binary floating-point values taken apart

A finite 64-bit value is a sign and a whole number of binary steps.  **`Binary64.ofFloat`** takes
a value apart into these pieces with nothing lost: the magnitude is `mantissa * 2 ^ exponent`
exactly.  The pieces are what the shortest decimal text of a value is computed from;
**`Binary64.truncate`** is the value without its fraction.
-/

namespace CandleFeed

/-- The pieces of a finite value: its magnitude is `mantissa * 2 ^ exponent`. -/
structure Binary64 where
  /-- The sign bit is set. -/
  negative : Bool
  /-- The whole number of steps. -/
  mantissa : Nat
  /-- The step is this power of two. -/
  exponent : Int
  /-- The next smaller value is nearer than the next larger one. -/
  atBoundary : Bool
deriving DecidableEq, Repr

namespace Binary64

/-- The pieces of a value; for infinities and NaN the result carries no meaning. -/
def ofFloat (x : Float) : Binary64 :=
  let bits := x.toBits.toNat
  let negative := bits / Nat.pow 2 63 == 1
  let biased : Nat := bits / Nat.pow 2 52 % 2048
  let fraction : Nat := bits % Nat.pow 2 52
  if biased == 0 then ⟨negative, fraction, -1074, false⟩
  else ⟨negative, Nat.pow 2 52 + fraction, (biased : Int) - 1075, fraction == 0 && 1 < biased⟩

/-- The whole number that is left of a value when its fraction is dropped. -/
def truncate (b : Binary64) : Int :=
  let size := b.mantissa * Nat.pow 2 b.exponent.toNat / Nat.pow 2 (-b.exponent).toNat
  if b.negative then -size else size

end Binary64

end CandleFeed
