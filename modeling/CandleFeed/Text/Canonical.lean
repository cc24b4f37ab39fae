import Std.Data.HashMap
import CandleFeed.Text.Composites

/-!
# Canonical composition

One and the same text can be written with a letter and its mark as one character or as two, and with
several marks in several orders.  **`composed`** gives the one form that all of them share: every
character is taken apart (**`decompose`**), the marks after each letter are put in the order of
their classes (**`ordered`**), and what can be one character is put together again (**`compose`**).

The syllables of Hangul are numbered so that their parts can be computed.
-/

namespace CandleFeed.Text

/-- The class of a mark; zero for whatever is none. -/
def combiningClass (c : Char) : Nat := ((combiningClasses.find? c).map (·.value)).getD 0

/-! ## Hangul -/

/-- The number of the first syllable. -/
def firstSyllable : Nat := 0xAC00

/-- How many syllables there are. -/
def syllableCount : Nat := 11172

/-- The number of the first leading consonant. -/
def firstLead : Nat := 0x1100

/-- The number of the first vowel. -/
def firstVowel : Nat := 0x1161

/-- The number before that of the first trailing consonant. -/
def beforeTrail : Nat := 0x11A7

/-- The parts of a syllable: a leading consonant, a vowel and perhaps a trailing consonant. -/
def syllableParts? (c : Char) : Option (List Char) :=
  let n := c.toNat - firstSyllable
  if firstSyllable ≤ c.toNat && n < syllableCount then
    let lead := Char.ofNat (firstLead + n / 588)
    let vowel := Char.ofNat (firstVowel + n % 588 / 28)
    if n % 28 == 0 then some [lead, vowel]
    else some [lead, vowel, Char.ofNat (beforeTrail + n % 28)]
  else none

/-- The syllable of a leading consonant and a vowel, or of a syllable without a trailing consonant
and one. -/
def syllable? (a b : Char) : Option Char :=
  let x := a.toNat
  let y := b.toNat
  if firstLead ≤ x && x < firstLead + 19 && firstVowel ≤ y && y < firstVowel + 21 then
    some (Char.ofNat (firstSyllable + (x - firstLead) * 588 + (y - firstVowel) * 28))
  else if firstSyllable ≤ x && x < firstSyllable + syllableCount &&
      (x - firstSyllable) % 28 == 0 && beforeTrail < y && y < beforeTrail + 28 then
    some (Char.ofNat (x + (y - beforeTrail)))
  else none

/-! ## Taking apart -/

/-- The characters that a character is made of, after at most `depth` steps. -/
def decomposeWithin (depth : Nat) (c : Char) : List Char :=
  match depth with
  | 0 => [c]
  | depth + 1 =>
    match composites.find? c with
    | some r => decomposeWithin depth (Char.ofNat r.value.1) ++ [Char.ofNat r.value.2]
    | none => [c]

/-- The characters that a character is made of.  None is made of more than a letter and three
marks. -/
def decompose (c : Char) : List Char := (syllableParts? c).getD (decomposeWithin 3 c)

/-! ## Order of marks -/

/-- Adds a character to a text given backwards: a mark goes before marks of greater classes. -/
def insertMark (classOf : Nat) (c : Char) : List Char → List Char
  | [] => [c]
  | d :: before =>
    if 0 < classOf && classOf < combiningClass d then d :: insertMark classOf c before
    else c :: d :: before

/-- The text with its marks in order. -/
def ordered (cs : List Char) : List Char :=
  (cs.foldl (fun before c => insertMark (combiningClass c) c before) []).reverse

/-! ## Putting together -/

/-- The characters that are made of two, by those two. -/
def compositeOf : Std.HashMap (Nat × Nat) Nat :=
  composites.ranges.foldl (fun m r => m.insert r.value r.first) ∅

/-- The character that two make. -/
def composite? (a b : Char) : Option Char :=
  match syllable? a b with
  | some c => some c
  | none => (compositeOf[(a.toNat, b.toNat)]?).map Char.ofNat

/-- How far a text has been put together. -/
structure Composing where
  /-- What cannot change any more, backwards. -/
  done : List Char
  /-- The last character that is no mark. -/
  base : Option Char
  /-- The marks after it that stay for themselves, backwards. -/
  marks : List Char
  /-- The class of the last of them. -/
  lastClass : Nat

namespace Composing

/-- All that has been put together so far, backwards. -/
def all (s : Composing) : List Char := s.marks ++ s.base.toList ++ s.done

/-- Adds a character.  It joins the base unless a mark between them keeps it off, which is one whose
class is not smaller. -/
def push (s : Composing) (c : Char) : Composing :=
  let k := combiningClass c
  let joint := if s.marks.isEmpty || s.lastClass < k then s.base.bind (composite? · c) else none
  match joint with
  | some p => { s with base := some p }
  | none =>
    if k == 0 then ⟨s.all, some c, [], 0⟩
    else { s with marks := c :: s.marks, lastClass := k }

end Composing

/-- The text with its characters put together. -/
def compose (cs : List Char) : List Char :=
  (cs.foldl Composing.push ⟨[], none, [], 0⟩).all.reverse

/-- The form that all ways to write the same text share. -/
def composed (cs : List Char) : List Char := compose (ordered (cs.flatMap decompose))

end CandleFeed.Text
