import CandleFeed.Text.Fields
import CandleFeed.Text.Numeral

/-!
# IPv4 addresses

Four bytes, usually written as decimal numbers with points between them.  In a URL there may be
fewer numbers, the last of which fills the bytes that are left, and each may be octal or
hexadecimal.  **`Ipv4.endsInNumber`** says which names are addresses, right or wrong;
**`Ipv4.ofText?`** reads them, and **`Ipv4.text`** writes the usual form.
-/

namespace CandleFeed

/-- An IPv4 address, as a number of four bytes. -/
structure Ipv4 where
  /-- The number. -/
  number : Nat
deriving DecidableEq, Repr

namespace Ipv4

open CandleFeed.Text

/-- A number of an address: octal after a zero, hexadecimal after `0x`, else decimal. -/
def number? (cs : List Char) : Option Nat :=
  match cs with
  | [] => none
  | '0' :: 'x' :: rest => numberIn? 16 rest
  | '0' :: 'X' :: rest => numberIn? 16 rest
  | '0' :: d :: rest => numberIn? 8 (d :: rest)
  | cs => numberIn? 10 cs

/-- The labels of a name, without an empty one at the end. -/
def labels (cs : List Char) : List (List Char) :=
  let parts := fields '.' cs
  if 1 < parts.length && parts.getLast? == some [] then parts.dropLast else parts

/-- The name is meant as an address: its last label is a number, or at least digits. -/
def endsInNumber (cs : List Char) : Bool :=
  match (labels cs).getLast? with
  | some label => (!label.isEmpty && label.all Char.isDigit) || (number? label).isSome
  | none => false

/-- The address that a name gives: at most four numbers, all but the last below 256, and the last
filling up the bytes that are left. -/
def ofText? (cs : List Char) : Option Ipv4 := do
  let numbers ← (labels cs).mapM number?
  let last ← numbers.getLast?
  let bytes := numbers.dropLast
  if 3 < bytes.length || bytes.any (256 ≤ ·) || Nat.pow 256 (4 - bytes.length) ≤ last then none
  else
    let head := bytes.foldl (fun n b => n * 256 + b) 0
    some ⟨head * Nat.pow 256 (4 - bytes.length) + last⟩

/-- The usual form. -/
def text (a : Ipv4) : List Char :=
  joined '.' ([16777216, 65536, 256, 1].map fun unit => Nat.toDigits 10 (a.number / unit % 256))

end Ipv4

end CandleFeed
