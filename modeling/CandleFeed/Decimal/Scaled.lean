/-!
# Values scaled by powers of ten

A number's digits are read as one whole number of at most 64 bits, which is rounded to a
floating-point value once and then multiplied or divided by a power of ten, which rounds it a
second time.  **`Decimal.scaled?`** is that second step; up to fifteen digits and a power of ten
up to the twenty-second the two roundings are exact or one, so short decimals read as the nearest
value, while longer ones may end beside it.

**`Digits`** is the whole number while its digits arrive: the ones that 64 bits have no room for
are left out, and **`Digits.scale`** keeps the power of ten that the last digit counts.
-/

namespace CandleFeed

/-- Decimal digits as far as they have been read. -/
structure Digits where
  /-- The digits that were kept, as one whole number below two to the 64th. -/
  significand : Nat
  /-- The power of ten that the last digit kept counts. -/
  scale : Int
  /-- A digit had no room; those after it, up to a decimal point, are left out as well. -/
  full : Bool
deriving DecidableEq, Repr

namespace Digits

/-- No digits. -/
def none : Digits := ⟨0, 0, false⟩

/-- The digits leave room for one more. -/
def hasRoom (d : Digits) (digit : Nat) : Bool :=
  !d.full && decide (d.significand * 10 + digit < Nat.pow 2 64)

/-- One more digit before the decimal point; one that is left out still makes the number ten
times as large. -/
def push (d : Digits) (digit : Nat) : Digits :=
  if d.hasRoom digit then { d with significand := d.significand * 10 + digit }
  else { d with scale := d.scale + 1, full := true }

/-- One more digit after the decimal point; one that is left out changes nothing. -/
def pushPlace (d : Digits) (digit : Nat) : Digits :=
  if d.hasRoom digit then
    { d with significand := d.significand * 10 + digit, scale := d.scale - 1 }
  else { d with full := true }

/-- The digits at the decimal point: one after it may have room where one before it had none. -/
def point (d : Digits) : Digits := { d with full := false }

end Digits

namespace Decimal

/-- The largest power of ten that is a floating-point value. -/
def largestPower : Nat := 308

/-- The floating-point value nearest to a power of ten. -/
def powerOfTen (e : Nat) : Float := Float.ofScientific 1 false e

/-- A value times ten to the power `e`, rounded; none when it is too large.  A divisor beyond the
largest power of ten is divided out in steps, each of which rounds. -/
def scaled? (x : Float) (e : Int) : Option Float :=
  if e.natAbs ≤ largestPower then
    if 0 ≤ e then
      let y := x * powerOfTen e.natAbs
      if y.isInf then none else some y
    else some (x / powerOfTen e.natAbs)
  else if x == 0 then some x
  else if 0 ≤ e then none
  else scaled? (x / powerOfTen largestPower) (e + largestPower)
termination_by e.natAbs
decreasing_by simp only [largestPower] at *; omega

/-- The value of a number with the given sign, digits and further power of ten; none when it is
too large. -/
def toFloat? (negative : Bool) (d : Digits) (power : Int) : Option Float :=
  (scaled? (Float.ofNat d.significand) (d.scale + power)).map fun x => if negative then -x else x

end Decimal

end CandleFeed
