import CandleFeed.Text.CasePairs

/-!
# Upper and lower case

Case maps of whole texts, over the full character set: a character may become several, so the
maps send a character to a list and a text to the concatenation.  **`upper`** and **`lower`** are
the two maps.  Lower-casing has one rule that looks around: a capital sigma that ends a word
becomes the final form.
-/

namespace CandleFeed.Text

/-- The characters that `n` becomes under the given runs and expansions, itself if under none. -/
def changeCase (runs : List CaseRun) (expansions : List (Nat × List Nat)) (c : Char) : List Char :=
  match runs.find? (·.contains c.toNat) with
  | some r => [Char.ofNat (Int.toNat (c.toNat + r.shift))]
  | none =>
    match expansions.find? (·.1 == c.toNat) with
    | some e => e.2.map Char.ofNat
    | none => [c]

/-- The upper-case form of a character. -/
def upperChar (c : Char) : List Char := changeCase upperRuns upperExpansions c

/-- The lower-case form of a character, whatever stands around it. -/
def lowerChar (c : Char) : List Char := changeCase lowerRuns lowerExpansions c

/-- The upper-case form of a text. -/
def upper (cs : List Char) : List Char := cs.flatMap upperChar

/-- The character has a case of its own. -/
def isCased (c : Char) : Bool := upperChar c != [c] || lowerChar c != [c]

/-- Marks that stand inside a word without ending it. -/
def isWordMark (c : Char) : Bool :=
  c == '\'' || c == '.' || c == ':' || c == '^' || c.toNat == 0xAD || c.toNat == 0xB7 ||
    (0x300 ≤ c.toNat && c.toNat ≤ 0x36F) || c.toNat == 0x2019

/-- A letter follows before the word ends. -/
def continuesWord (cs : List Char) : Bool :=
  ((cs.dropWhile isWordMark).head?.map isCased).getD false

/-- Lower-cases a text, given the characters before it, nearest first. -/
def lowerAfter : List Char → List Char → List Char
  | _, [] => []
  | before, c :: rest =>
    let image :=
      if c.toNat == 0x3A3 && continuesWord before && !continuesWord rest then [Char.ofNat 0x3C2]
      else lowerChar c
    image ++ lowerAfter (c :: before) rest

/-- The lower-case form of a text. -/
def lower (cs : List Char) : List Char := lowerAfter [] cs

end CandleFeed.Text
