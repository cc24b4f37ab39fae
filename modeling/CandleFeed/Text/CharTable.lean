import CandleFeed.Text.Fields
import CandleFeed.Text.Numeral

/-!
# Tables of characters

What is said of thousands of characters is kept as ranges of character numbers in increasing order,
each with what is said of its characters.  A **`CharTable`** is such a list of ranges, and
**`CharTable.find?`** looks a character up by halving.

The data is written as text, since that is its shortest form that can be checked by eye: ranges with
blanks between them, such as `0030-0039` or `00B5`, each perhaps followed by `=` and a value.
**`CharTable.read`** reads it, **`CharSet`** is the case where nothing but membership is said.
-/

namespace CandleFeed.Text

/-- Characters with neighbouring numbers, and what is said of them. -/
structure CharRange (α : Type) where
  /-- The number of the first character. -/
  first : Nat
  /-- The number of the last character. -/
  last : Nat
  /-- What is said of them. -/
  value : α
deriving Repr

/-- Ranges of characters, in increasing order and apart from each other. -/
structure CharTable (α : Type) where
  /-- The ranges. -/
  ranges : Array (CharRange α)

namespace CharTable

variable {α : Type}

/-- The range that the number `n` lies in, among those from `low` to before `high`. -/
def search (t : CharTable α) (n : Nat) (fuel low high : Nat) : Option (CharRange α) :=
  match fuel with
  | 0 => none
  | fuel + 1 =>
    if low < high then
      let middle := (low + high) / 2
      (t.ranges[middle]?).bind fun r =>
        if n < r.first then t.search n fuel low middle
        else if r.last < n then t.search n fuel (middle + 1) high
        else some r
    else none

/-- The range that a character lies in.  Each step halves what is left to look at. -/
def find? (t : CharTable α) (c : Char) : Option (CharRange α) :=
  t.search c.toNat (t.ranges.size + 1) 0 t.ranges.size

/-- The text as a number in hexadecimal digits; zero stands for what is none. -/
def hexNumber (cs : List Char) : Nat := (numberIn? 16 cs).getD 0

/-- One range, with the value that is read from what follows the equals sign. -/
def readRange (value : List Char → α) (cs : List Char) : CharRange α :=
  let bounds := fields '-' (cs.takeWhile (· != '='))
  { first := hexNumber (bounds.headD [])
    last := hexNumber (bounds.getLastD [])
    value := value ((cs.dropWhile (· != '=')).drop 1) }

/-- The words of a text: what stands between blanks and ends of lines. -/
def words (text : String) : List (List Char) :=
  ((fields '\n' text.toList).flatMap (fields ' ')).filter (!·.isEmpty)

/-- The table that a text writes down. -/
def read (value : List Char → α) (text : String) : CharTable α :=
  ⟨((words text).map (readRange value)).toArray⟩

end CharTable

/-- A set of characters. -/
abbrev CharSet := CharTable Unit

namespace CharSet

/-- The set that a text writes down. -/
def ofText (text : String) : CharSet := CharTable.read (fun _ => ()) text

/-- The character is in the set. -/
def contains (s : CharSet) (c : Char) : Bool := (s.find? c).isSome

end CharSet

end CandleFeed.Text
