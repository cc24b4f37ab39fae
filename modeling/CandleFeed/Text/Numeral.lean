/-!
# Numbers written in digits

Hexadecimal digits and the numbers that digits of any base up to sixteen denote.  Escapes, host
addresses and character tables all write numbers this way; **`numberIn?`** is the one reader they
share.
-/

namespace CandleFeed.Text

/-- The value of a hexadecimal digit, in either case. -/
def digitValue? (c : Char) : Option Nat :=
  if c.isDigit then some (c.toNat - 48)
  else if 'a' ≤ c && c ≤ 'f' then some (c.toNat - 87)
  else if 'A' ≤ c && c ≤ 'F' then some (c.toNat - 55)
  else none

/-- The number that digits of a base denote; no digits denote zero. -/
def numberIn? (base : Nat) (cs : List Char) : Option Nat :=
  cs.foldl
    (fun n c => match n, digitValue? c with
      | some n, some d => if d < base then some (n * base + d) else none
      | _, _ => none)
    (some 0)

end CandleFeed.Text
