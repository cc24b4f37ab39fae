import CandleFeed.Text.Fields
import CandleFeed.Text.Numeral

/-!
# IPv6 addresses

Eight pieces of sixteen bits, written in hexadecimal with colons between them.  A double colon
stands for as many zeros as are missing, and the last two pieces may be written as an IPv4 address.
**`Ipv6.ofText?`** reads an address, and **`Ipv6.text`** writes the one form in which the longest
run of zeros is left out.
-/

namespace CandleFeed

/-- An IPv6 address, as its eight pieces. -/
structure Ipv6 where
  /-- The pieces. -/
  pieces : List Nat
deriving DecidableEq, Repr

namespace Ipv6

open CandleFeed.Text

/-! ## Reading -/

/-- A decimal number below 256 without leading zeros. -/
def byte? (cs : List Char) : Option Nat :=
  if cs.isEmpty || 3 < cs.length || (1 < cs.length && cs.head? == some '0') then none
  else (numberIn? 10 cs).bind fun n => if n < 256 then some n else none

/-- The two pieces that four bytes with points between them stand for. -/
def quad? (cs : List Char) : Option (List Nat) := do
  match ← (fields '.' cs).mapM byte? with
  | [a, b, c, d] => some [a * 256 + b, c * 256 + d]
  | _ => none

/-- Pieces as they are read, newest first. -/
structure Pieces where
  /-- Those before the double colon, if there is one. -/
  before : Option (List Nat)
  /-- Those after it, or all. -/
  after : List Nat

namespace Pieces

/-- How many places are taken; a double colon takes one. -/
def count (p : Pieces) : Nat :=
  p.after.length + ((p.before.map fun ps => ps.length + 1).getD 0)

/-- Adds a piece. -/
def push (p : Pieces) (n : Nat) : Pieces := { p with after := n :: p.after }

/-- Adds a double colon. -/
def pushGap (p : Pieces) : Pieces := ⟨some p.after, []⟩

/-- The address, if the pieces are eight or a double colon stands for those that are missing. -/
def finish? (p : Pieces) : Option Ipv6 :=
  match p.before with
  | none => if p.after.length == 8 then some ⟨p.after.reverse⟩ else none
  | some before =>
    some ⟨before.reverse ++ List.replicate (8 - before.length - p.after.length) 0 ++
      p.after.reverse⟩

end Pieces

/-- Reads the rest of an address, after some pieces. -/
def rest? (fuel : Nat) (p : Pieces) (cs : List Char) : Option Ipv6 :=
  match fuel with
  | 0 => none
  | fuel + 1 =>
    if cs.isEmpty then p.finish?
    else if 8 ≤ p.count then none
    else
      let digits := (cs.take 4).takeWhile fun c => (digitValue? c).isSome
      let piece := (numberIn? 16 digits).getD 0
      match cs.drop digits.length with
      | ':' :: rest =>
        if digits.isEmpty then
          if p.before.isNone then rest? fuel p.pushGap rest else none
        else if rest.isEmpty then none
        else rest? fuel (p.push piece) rest
      | '.' :: _ =>
        if digits.isEmpty || 6 < p.count then none
        else (quad? cs).bind fun pieces => (pieces.foldl Pieces.push p).finish?
      | [] => (p.push piece).finish?
      | _ => none

/-- The address that a text gives. -/
def ofText? (cs : List Char) : Option Ipv6 :=
  match cs with
  | ':' :: ':' :: rest => rest? (cs.length + 1) ⟨some [], []⟩ rest
  | ':' :: _ => none
  | cs => if cs.isEmpty then none else rest? (cs.length + 1) ⟨none, []⟩ cs

/-! ## Writing -/

/-- How many zeros the pieces begin with. -/
def zeros (pieces : List Nat) : Nat := (pieces.takeWhile (· == 0)).length

/-- The first place from which on the longest run of zeros stands, and its length. -/
def longestZeros (pieces : List Nat) : Nat × Nat :=
  (List.range pieces.length).foldl
    (fun best i => let n := zeros (pieces.drop i); if best.2 < n then (i, n) else best) (0, 0)

/-- Pieces with colons between them. -/
def colonized (pieces : List Nat) : List Char := joined ':' (pieces.map (Nat.toDigits 16))

/-- The form with the longest run of zeros left out. -/
def text (a : Ipv6) : List Char :=
  let (start, length) := longestZeros a.pieces
  if length ≤ 1 then colonized a.pieces
  else
    colonized (a.pieces.take start) ++ [':', ':'] ++ colonized (a.pieces.drop (start + length))

end Ipv6

end CandleFeed
