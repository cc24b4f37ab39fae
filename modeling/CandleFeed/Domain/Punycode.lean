/-!
# Punycode

A label of a domain name that is not ASCII travels as ASCII: first the ASCII characters it has, then
after a hyphen the others, each as a number that says how far on it comes in the list of all pairs
of a character and a place.  **`encode`** and **`decode?`** are the two directions.

The numbers are written with the digits `a` to `z` and `0` to `9`, least first.  How much a digit
counts, and which one ends a number, hangs on a bias that follows the sizes seen so far.
-/

namespace CandleFeed.Domain.Punycode

/-- Numbers stay below this bound. -/
def bound : Nat := 4294967296

/-- The digit of a value below 36. -/
def digit (n : Nat) : Char := if n < 26 then Char.ofNat (97 + n) else Char.ofNat (22 + n)

/-- The value of a digit, in either case. -/
def digitValue? (c : Char) : Option Nat :=
  if 'a' ≤ c && c ≤ 'z' then some (c.toNat - 97)
  else if 'A' ≤ c && c ≤ 'Z' then some (c.toNat - 65)
  else if c.isDigit then some (c.toNat - 22)
  else none

/-- A digit below the threshold ends a number; the threshold grows with the place of the digit,
counted in steps of 36. -/
def threshold (bias place : Nat) : Nat := max 1 (min 26 (place - bias))

/-- Divides a number until it is small, counting the steps in 36ths. -/
def settle (delta count : Nat) : Nat :=
  if 455 < delta then settle (delta / 35) (count + 36) else count + 36 * delta / (delta + 38)
termination_by delta
decreasing_by omega

/-- The bias after a number, given how many characters there are then. -/
def adapt (delta length : Nat) (isFirst : Bool) : Nat :=
  let delta := if isFirst then delta / 700 else delta / 2
  settle (delta + delta / length) 0

/-! ## Writing -/

/-- The digits of a number. -/
def digits (bias place n : Nat) : List Char :=
  let t := threshold bias place
  if n < t then [digit n]
  else digit (t + (n - t) % (36 - t)) :: digits bias (place + 36) ((n - t) / (36 - t))
termination_by n
decreasing_by
  have h : 1 ≤ threshold bias place := by unfold threshold; omega
  have := Nat.div_le_self (n - threshold bias place) (36 - threshold bias place)
  omega

/-- How far the text has been written. -/
structure Writing where
  /-- The digits so far, backwards. -/
  done : List Char
  /-- The steps since the last number. -/
  delta : Nat
  /-- The bias. -/
  bias : Nat
  /-- How many characters have been written. -/
  written : Nat

/-- Looks at one character of the text when those numbered `n` are written: smaller ones are places
to pass by. -/
def Writing.visit (basic n : Nat) (w : Writing) (c : Char) : Writing :=
  if c.toNat < n then { w with delta := w.delta + 1 }
  else if c.toNat == n then
    { done := (digits w.bias 36 w.delta).reverse ++ w.done
      delta := 0
      bias := adapt w.delta (w.written + 1) (w.written == basic)
      written := w.written + 1 }
  else w

/-- Writes the characters with the given numbers, after all those below `next`. -/
def Writing.run (cs : List Char) (basic : Nat) : List Nat → Nat → Writing → Writing
  | [], _, w => w
  | n :: ns, next, w =>
    let w := cs.foldl (visit basic n) { w with delta := w.delta + (n - next) * (w.written + 1) }
    Writing.run cs basic ns (n + 1) { w with delta := w.delta + 1 }

/-- The ASCII form of a text. -/
def encode (cs : List Char) : List Char :=
  let basic := cs.filter (·.toNat < 128)
  let numbers := ((cs.map Char.toNat).filter (128 ≤ ·)).eraseDups.mergeSort
  let w := Writing.run cs basic.length numbers 128 ⟨[], 0, 72, basic.length⟩
  (if basic.isEmpty then [] else basic ++ ['-']) ++ w.done.reverse

/-! ## Reading -/

/-- How far an ASCII form has been read. -/
structure Reading where
  /-- The text so far. -/
  done : List Char
  /-- The number of the last character. -/
  number : Nat
  /-- The bias. -/
  bias : Nat
  /-- The place of the next character, as far as its number has been read. -/
  position : Nat
  /-- The place where the number began to count. -/
  start : Nat
  /-- What the next digit counts. -/
  weight : Nat
  /-- The place of the next digit, in steps of 36. -/
  place : Nat

namespace Reading

/-- Reads one digit. -/
def push? (r : Reading) (c : Char) : Option Reading := do
  let v ← digitValue? c
  let position := r.position + v * r.weight
  if bound ≤ position then none
  let t := threshold r.bias r.place
  if v < t then
    let length := r.done.length + 1
    let number := r.number + position / length
    let spot := position % length
    if number < 0xD800 || (0xE000 ≤ number && number < 0x110000) then
      some
        { done := r.done.take spot ++ Char.ofNat number :: r.done.drop spot
          number
          bias := adapt (position - r.start) length (r.start == 0)
          position := spot + 1
          start := spot + 1
          weight := 1
          place := 36 }
    else none
  else
    let weight := r.weight * (36 - t)
    if bound ≤ weight then none
    else some { r with position, weight, place := r.place + 36 }

end Reading

/-- The text of an ASCII form.  The last hyphen is what separates, unless it stands first. -/
def decode? (cs : List Char) : Option (List Char) := do
  let tail := (cs.reverse.takeWhile (· != '-')).reverse
  let basic := (cs.take (cs.length - tail.length)).dropLast
  let tail := if basic.isEmpty then cs else tail
  let r ← tail.foldlM Reading.push? ⟨basic.map Char.toLower, 128, 72, 0, 0, 1, 36⟩
  if r.place == 36 then some r.done else none

end CandleFeed.Domain.Punycode
