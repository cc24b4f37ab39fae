import CandleFeed.Decimal.Binary64

/-!
# The shortest decimal that reads back

A value prints as the decimal with the fewest digits among those that round to it, and as the
nearest of these when there are several.  **`Decimal.shortest`** computes it in whole numbers: the
reals that round to `m * 2 ^ q` form an interval around it (its ends included when `m` is even),
and for one digit, two digits and so on the two neighbours of the value on that decimal grid are
tested against the interval.  Seventeen digits always suffice.
-/

namespace CandleFeed

/-- The non-negative number `digits * 10 ^ exponent`. -/
structure Decimal where
  /-- The digits, as one whole number. -/
  digits : Nat
  /-- The power of ten that the last digit counts. -/
  exponent : Int
deriving DecidableEq, Repr

namespace Decimal

/-- The same number without the zeros that its digits end in. -/
def trimmed (fuel : Nat) (d : Decimal) : Decimal :=
  match fuel with
  | 0 => d
  | fuel + 1 =>
    if d.digits != 0 && d.digits % 10 == 0 then trimmed fuel ⟨d.digits / 10, d.exponent + 1⟩
    else d

/-- The power `base ^ e`, and one when `e` is negative. -/
def power (base : Nat) (e : Int) : Nat := Nat.pow base e.toNat

/-- The `p` with `10 ^ p ≤ m * 2 ^ q < 10 ^ (p + 1)`, for a positive `m`. -/
def magnitude (m : Nat) (q : Int) : Int :=
  let guess := ((Nat.log2 m : Int) + q) * 30103 / 100000
  let p := guess + 1
  if power 10 p * power 2 (-q) ≤ m * power 2 q * power 10 (-p) then p else guess

/-- The decimal on the grid `10 ^ k` that rounds to the value and is nearest to it, if the grid
has one. -/
def onGrid (b : Binary64) (k : Int) : Option Decimal :=
  let quarter := power 2 (b.exponent - 2) * power 10 (-k)
  let unit := power 10 k * power 2 (2 - b.exponent)
  let value := 4 * b.mantissa * quarter
  let low := (4 * b.mantissa - (if b.atBoundary then 1 else 2)) * quarter
  let high := (4 * b.mantissa + 2) * quarter
  let inside (d : Nat) : Bool :=
    if b.mantissa % 2 == 0 then decide (low ≤ d * unit) && decide (d * unit ≤ high)
    else decide (low < d * unit) && decide (d * unit < high)
  let below := value / unit
  let above := below + 1
  let belowGap := value - below * unit
  let aboveGap := above * unit - value
  match inside below, inside above with
  | true, true =>
    if belowGap < aboveGap || (belowGap == aboveGap && below % 2 == 0) then some ⟨below, k⟩
    else some ⟨above, k⟩
  | true, false => some ⟨below, k⟩
  | false, true => some ⟨above, k⟩
  | false, false => none

/-- Tries grids of `n` digits, `n + 1` digits and so on, `fuel` of them. -/
def search (b : Binary64) (p : Int) (n : Nat) : Nat → Option Decimal
  | 0 => none
  | fuel + 1 =>
    match onGrid b (p - n) with
    | some d => some d
    | none => search b p (n + 1) fuel

/-- The fewest digits that read back as the magnitude of `x`. -/
def shortest (x : Float) : Decimal :=
  let b := Binary64.ofFloat x
  if b.mantissa == 0 then ⟨0, 0⟩
  else
    match search b (magnitude b.mantissa b.exponent) 0 17 with
    | some d => trimmed 20 d
    | none => ⟨b.mantissa * power 2 b.exponent, 0⟩

end Decimal

end CandleFeed
