/-!
# A place in a YAML text

A **`Cursor`** is what is left of a text, and the line, the column and the number of bytes that come
before it.  Indentation carries meaning, so columns do; what may be a key is measured in bytes.

**`Cursor.ofText?`** begins a text: it refuses characters that no text may hold and turns the
different ends of a line into one.
-/

namespace CandleFeed.Yaml

/-- The character is a space or a tab. -/
def isBlank (c : Char) : Bool := c == ' ' || c == '\t'

/-- The character ends a line. -/
def isBreak (c : Char) : Bool := c == '\n' || c.toNat == 0x2028 || c.toNat == 0x2029

/-- The text ends here, or a blank or the end of a line follows. -/
def isGap (cs : List Char) : Bool := cs.head?.all fun c => isBlank c || isBreak c

/-- The text ends here, or a line does. -/
def isLineEnd (cs : List Char) : Bool := cs.head?.all isBreak

/-- A place in a text. -/
structure Cursor where
  /-- The characters from here on. -/
  rest : List Char
  /-- How many they are. -/
  left : Nat
  /-- The number of the line. -/
  line : Nat
  /-- The number of characters before this one on the line. -/
  column : Nat
  /-- The number of bytes before this place; the end of a line counts as one. -/
  index : Nat

namespace Cursor

/-- One character further. -/
def skip (c : Cursor) : Cursor :=
  match c.rest with
  | [] => c
  | x :: rest =>
    if isBreak x then ⟨rest, c.left - 1, c.line + 1, 0, c.index + 1⟩
    else ⟨rest, c.left - 1, c.line, c.column + 1, c.index + x.utf8Size⟩

/-- A number of characters further. -/
def skipMany (c : Cursor) : Nat → Cursor
  | 0 => c
  | n + 1 => c.skip.skipMany n

/-- Behind the characters of a kind that stand here on this line. -/
def skipWhile (c : Cursor) (p : Char → Bool) : Cursor :=
  let ahead := c.rest.takeWhile fun x => !isBreak x && p x
  let size := ahead.foldl (fun n x => n + x.utf8Size) 0
  { c with
    rest := c.rest.drop ahead.length, left := c.left - ahead.length
    column := c.column + ahead.length, index := c.index + size }

/-- The end of this line. -/
def skipLine (c : Cursor) : Cursor := c.skipWhile fun _ => true

/-- Behind the blanks that stand here. -/
def skipBlanks (c : Cursor) : Cursor := c.skipWhile isBlank

/-- A line that begins here begins or ends a document. -/
def atMarker (c : Cursor) : Bool :=
  c.column == 0 &&
    (match c.rest with
      | '-' :: '-' :: '-' :: rest => isGap rest
      | '.' :: '.' :: '.' :: rest => isGap rest
      | _ => false)

/-- A text may hold the character. -/
def isAllowed (c : Char) : Bool :=
  let n := c.toNat
  n == 0x09 || n == 0x0A || n == 0x0D || (0x20 ≤ n && n ≤ 0x7E) || n == 0x85 ||
    (0xA0 ≤ n && n ≤ 0xFFFD) || 0x10000 ≤ n

/-- The text with all ends of lines alike, apart from the two separators that stay as they are. -/
def unifyBreaks : List Char → List Char
  | '\r' :: '\n' :: rest => '\n' :: unifyBreaks rest
  | c :: rest => (if c == '\r' || c.toNat == 0x85 then '\n' else c) :: unifyBreaks rest
  | [] => []

/-- The start of a text. -/
def ofText? (text : String) : Option Cursor :=
  let cs := text.toList
  if cs.all isAllowed then
    let lines := unifyBreaks cs
    some ⟨lines, lines.length, 0, 0, 0⟩
  else none

end Cursor

end CandleFeed.Yaml
