import CandleFeed.Calendar.Timestamp
import CandleFeed.Text.Blank

/-!
# Points in time as text

The standard form `2024-01-02T15:00:05.120Z`.  **`Rfc3339.write`** writes a point in universal
time with as few groups of three fraction digits as are exact; a year outside four digits shows
its sign.  **`Rfc3339.read`** accepts that form and is lenient in details: any offset, a blank or
a small letter between date and time, single digits, blanks before a number or a separator, and
any number of fraction digits, of which the first nine count.
-/

namespace CandleFeed.Rfc3339

/-- A number with at least `width` digits. -/
def padded (width n : Nat) : List Char :=
  let digits := Nat.toDigits 10 n
  List.replicate (width - digits.length) '0' ++ digits

/-- A year: four digits, or a sign and at least four digits. -/
def yearText (year : Int) : List Char :=
  if 0 ≤ year && year ≤ 9999 then padded 4 year.toNat
  else (if year < 0 then '-' else '+') :: padded 4 year.natAbs

/-- The fraction of a second: nothing, or a point and three, six or nine digits. -/
def fractionText (nanos : Nat) : List Char :=
  if nanos == 0 then []
  else if nanos % 1000000 == 0 then '.' :: padded 3 (nanos / 1000000)
  else if nanos % 1000 == 0 then '.' :: padded 6 (nanos / 1000)
  else '.' :: padded 9 nanos

/-- The text of a point in time. -/
def write (t : Timestamp) : List Char :=
  let date := Calendar.Date.ofDay t.day
  let second := (t.seconds % secondsPerDay).toNat
  let leap := t.nanos / nanosPerSecond
  yearText date.year ++ '-' :: padded 2 date.month.toNat ++ '-' :: padded 2 date.day.toNat ++
    'T' :: padded 2 (second / 3600) ++ ':' :: padded 2 (second / 60 % 60) ++
    ':' :: padded 2 (second % 60 + leap) ++ fractionText (t.nanos % nanosPerSecond) ++ ['Z']

/-- What a reader of a part of the text yields: the part's value and the text after it. -/
abbrev Step (α : Type) := Option (α × List Char)

/-- The number that a list of digits denotes. -/
def digitsValue (ds : List Char) : Nat := ds.foldl (fun n d => n * 10 + (d.toNat - 48)) 0

/-- One digit and more, `most` at the most. -/
def number (most : Nat) (cs : List Char) : Step Nat :=
  let ds := (cs.take most).takeWhile Char.isDigit
  if ds.isEmpty then none else some (digitsValue ds, cs.drop ds.length)

/-- One digit and more, as many as there are. -/
def longNumber (cs : List Char) : Step Nat := number cs.length cs

/-- A year: a sign and digits, or up to four digits. -/
def year (cs : List Char) : Step Int :=
  match Text.trimStart cs with
  | '-' :: rest => (longNumber rest).map fun (n, rest) => (-n, rest)
  | '+' :: rest => (longNumber rest).map fun (n, rest) => (n, rest)
  | rest => (number 4 rest).map fun (n, rest) => (n, rest)

/-- Up to two digits that denote a number in the given range. -/
def twoDigits (least most : Nat) (cs : List Char) : Step Nat :=
  (number 2 (Text.trimStart cs)).bind fun (n, rest) =>
    if least ≤ n && n ≤ most then some (n, rest) else none

/-- Blanks and the character. -/
def separator (c : Char) (cs : List Char) : Option (List Char) :=
  match Text.trimStart cs with
  | d :: rest => if d == c then some rest else none
  | [] => none

/-- The nanoseconds of an optional fraction: nine digits count, the others are passed over. -/
def fraction (cs : List Char) : Step Nat :=
  match cs with
  | '.' :: rest =>
    let ds := (rest.take 9).takeWhile Char.isDigit
    if ds.isEmpty then none
    else
      let nanos := digitsValue ds * Nat.pow 10 (9 - ds.length)
      some (nanos, (rest.drop ds.length).dropWhile Char.isDigit)
  | _ => some (0, cs)

/-- Exactly two digits. -/
def digitPair : List Char → Step Nat
  | a :: b :: rest => if a.isDigit && b.isDigit then some (digitsValue [a, b], rest) else none
  | _ => none

/-- The offset from universal time in seconds. -/
def offset (cs : List Char) : Step Int :=
  let named : Step Int :=
    match cs with
    | a :: b :: c :: rest =>
      if [a.toUpper, b.toUpper, c.toUpper] == ['U', 'T', 'C'] then some (0, rest) else none
    | _ => none
  match named with
  | some result => some result
  | none =>
    match cs with
    | 'Z' :: rest => some (0, rest)
    | 'z' :: rest => some (0, rest)
    | sign :: rest =>
      if sign == '+' || sign == '-' || sign.toNat == 0x2212 then
        (digitPair rest).bind fun (hours, rest) =>
          (digitPair (rest.dropWhile fun c => c == ':' || Text.isBlank c)).bind
            fun (minutes, rest) =>
              let size : Int := hours * 3600 + minutes * 60
              if minutes < 60 && size < secondsPerDay then
                some (if sign == '+' then size else -size, rest)
              else none
      else none
    | [] => none

/-- The date at the start of the text. -/
def date (cs : List Char) : Option (Calendar.Date × List Char) := do
  let (year, cs) ← year cs
  let cs ← separator '-' cs
  let (month, cs) ← twoDigits 1 12 cs
  let cs ← separator '-' cs
  let (day, cs) ← twoDigits 1 31 cs
  return (⟨year, month, day⟩, cs)

/-- The time of day at the start of the text, in seconds and nanoseconds.  Second sixty is the
leap second: the second before it with a full second of nanoseconds more. -/
def clock (cs : List Char) : Option ((Nat × Nat) × List Char) := do
  let (hour, cs) ← twoDigits 0 23 cs
  let cs ← separator ':' cs
  let (minute, cs) ← twoDigits 0 59 cs
  let cs ← separator ':' cs
  let (second, cs) ← twoDigits 0 60 cs
  let (nanos, cs) ← fraction cs
  let leap := second / 60
  return ((hour * 3600 + minute * 60 + (second - leap), nanos + leap * nanosPerSecond), cs)

/-- The point in time that a text denotes. -/
def read (cs : List Char) : Option Timestamp := do
  let (date, cs) ← date cs
  let cs ← match cs with
    | 't' :: rest => some rest
    | 'T' :: rest => some rest
    | ' ' :: rest => some rest
    | _ => none
  let ((second, nanos), cs) ← clock cs
  let (offset, cs) ← offset (Text.trimStart cs)
  let day ← date.toDay?
  if Text.isBlankText cs then Timestamp.ofParts? (day * secondsPerDay + second - offset) nanos
  else none

end CandleFeed.Rfc3339
