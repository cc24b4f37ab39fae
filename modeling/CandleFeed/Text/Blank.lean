/-!
# Blank characters and trimming

Names arrive with stray blanks around them, and the blanks need not be ASCII: an ideographic
space pasted from a spreadsheet is as blank as a tab.  **`isBlank`** is the White_Space property
of the standard character set, **`trim`** drops a text's blank characters at both ends, and
**`isBlankText`** says that nothing else is there.
-/

namespace CandleFeed.Text

/-- The character has the White_Space property. -/
def isBlank (c : Char) : Bool :=
  let n := c.toNat
  (9 ≤ n && n ≤ 13) || n == 0x20 || n == 0x85 || n == 0xA0 || n == 0x1680 ||
    (0x2000 ≤ n && n ≤ 0x200A) || n == 0x2028 || n == 0x2029 || n == 0x202F || n == 0x205F ||
    n == 0x3000

/-- The text without the blank characters it starts with. -/
def trimStart (cs : List Char) : List Char := cs.dropWhile isBlank

/-- The text without the blank characters it ends with. -/
def trimEnd (cs : List Char) : List Char := (cs.reverse.dropWhile isBlank).reverse

/-- The text without the blank characters at its two ends. -/
def trim (cs : List Char) : List Char := trimEnd (trimStart cs)

/-- The text consists of blank characters only. -/
def isBlankText (cs : List Char) : Bool := cs.all isBlank

/-- A text that begins with a character that is not blank stays as it is. -/
theorem trimStart_cons {c : Char} (h : isBlank c = false) (cs : List Char) :
    trimStart (c :: cs) = c :: cs := by
  rw [trimStart, List.dropWhile_cons_of_neg]
  rw [h]
  exact Bool.false_ne_true

end CandleFeed.Text
