import CandleFeed.Yaml.Cursor
import CandleFeed.Text.Numeral

/-!
# Scalars of a YAML text

The five ways to write a text: plain, in single or double quotes, and as a block that keeps or folds
its lines.  **`plain`**, **`quoted`** and **`block`** read one each, from a cursor on its first
character, and yield its text and the cursor behind it.

A **`Style`** tells the ways apart.  Within a plain or quoted text a single end of a line reads as a
space, and further ends of lines as themselves; blanks around them do not count.
-/

namespace CandleFeed.Yaml

/-- How a scalar is written. -/
inductive Style where
  /-- As it is. -/
  | plain
  /-- In single quotes. -/
  | singleQuoted
  /-- In double quotes, with escapes. -/
  | doubleQuoted
  /-- As a block that keeps its lines. -/
  | literal
  /-- As a block whose lines are joined. -/
  | folded
deriving DecidableEq, Repr

/-- Blanks and ends of lines between two other characters. -/
structure Spacing where
  /-- The blanks, newest first, as long as no line has ended. -/
  blanks : List Char
  /-- A line has ended. -/
  broken : Bool
  /-- The first end of a line, unless it was written with a backslash. -/
  first : Option Char
  /-- The further ends of lines, newest first. -/
  more : List Char

namespace Spacing

/-- Nothing. -/
def none : Spacing := ⟨[], false, .none, []⟩

/-- Nothing but an end of a line that does not count. -/
def joined : Spacing := ⟨[], true, .none, []⟩

/-- There are no blanks and no ends of lines. -/
def isNone (s : Spacing) : Bool := s.blanks.isEmpty && !s.broken

/-- One more blank. -/
def blank (s : Spacing) (c : Char) : Spacing :=
  if s.broken then s else { s with blanks := c :: s.blanks }

/-- One more end of a line. -/
def lineBreak (s : Spacing) (c : Char) : Spacing :=
  if s.broken then { s with more := c :: s.more } else ⟨[], true, some c, []⟩

/-- What it reads as, newest first. -/
def text (s : Spacing) : List Char :=
  if !s.broken then s.blanks
  else if s.first == some '\n' then (if s.more.isEmpty then [' '] else s.more)
  else s.more ++ s.first.toList

end Spacing

/-- A scalar that has been read, and where the text goes on. -/
structure Scanned where
  /-- Its text. -/
  text : String
  /-- Where the text goes on. -/
  next : Cursor
  /-- A line has ended since the scalar's last character. -/
  broken : Bool

/-- Characters that end a plain scalar within brackets. -/
def flowMarks : List Char := [',', '[', ']', '\x7b', '\x7d']

/-- The plain scalar ends before the character at the cursor, given the spacing before it. -/
def endsPlain (inFlow : Bool) (indent : Int) (s : Spacing) (c : Cursor) : Bool :=
  let first := c.rest.head?
  (s.broken && !inFlow && (c.column : Int) < indent) || (s.broken && c.atMarker) ||
    (first == some '#' && !s.isNone) || (first == some ':' && isGap (c.rest.drop 1)) ||
    (inFlow && first.any flowMarks.contains)

/-- A colon stands where it may not, within brackets and directly before another mark. -/
def isStrayColon (inFlow : Bool) (c : Cursor) : Bool :=
  inFlow && c.rest.head? == some ':' && (c.rest.drop 1).head?.any ('?' :: flowMarks).contains

/-- A scalar with the given characters, newest first. -/
def Scanned.ofChars (acc : List Char) (next : Cursor) (broken : Bool) : Scanned :=
  ⟨String.ofList acc.reverse, next, broken⟩

/-- Reads the rest of a plain scalar, whose characters so far are given newest first. -/
def plainRest (inFlow : Bool) (indent : Int) (fuel : Nat) (acc : List Char) (s : Spacing)
    (c : Cursor) : Option Scanned :=
  match fuel, c.rest with
  | 0, _ => some (.ofChars acc c s.broken)
  | _, [] => some (.ofChars acc c s.broken)
  | fuel + 1, x :: _ =>
    if isBlank x then
      if s.broken && (c.column : Int) < indent && x == '\t' then none
      else plainRest inFlow indent fuel acc (s.blank x) c.skip
    else if isBreak x then plainRest inFlow indent fuel acc (s.lineBreak x) c.skip
    else if endsPlain inFlow indent s c then some (.ofChars acc c s.broken)
    else if isStrayColon inFlow c then none
    else plainRest inFlow indent fuel (x :: (s.text ++ acc)) .none c.skip

/-- Reads a plain scalar; its further lines are indented at least by `indent`. -/
def plain (inFlow : Bool) (indent : Int) (c : Cursor) : Option Scanned :=
  plainRest inFlow indent (c.left + 1) [] .none c

/-- The characters that a letter stands for after a backslash. -/
def escapes : List (Char × Nat) :=
  [('0', 0), ('a', 7), ('b', 8), ('t', 9), ('\t', 9), ('n', 10), ('v', 11), ('f', 12), ('r', 13),
    ('e', 0x1B), (' ', 0x20), ('"', 0x22), ('/', 0x2F), ('\\', 0x5C), ('N', 0x85), ('_', 0xA0),
    ('L', 0x2028), ('P', 0x2029)]

/-- How many hexadecimal digits follow a letter after a backslash. -/
def escapeDigits (c : Char) : Nat :=
  if c == 'x' then 2 else if c == 'u' then 4 else if c == 'U' then 8 else 0

/-- The character that exactly so many hexadecimal digits number. -/
def numbered? (digits : Nat) (cs : List Char) : Option Char :=
  let ds := cs.take digits
  if ds.length == digits then
    (Text.numberIn? 16 ds).bind fun n =>
      if n < 0xD800 || (0xE000 ≤ n && n < 0x110000) then some (Char.ofNat n) else none
  else none

/-- The character that an escape stands for, and the number of characters it takes after the
backslash. -/
def escaped? (cs : List Char) : Option (Char × Nat) :=
  match cs with
  | [] => none
  | c :: rest =>
    match escapes.find? (·.1 == c) with
    | some (_, n) => some (Char.ofNat n, 1)
    | none =>
      let digits := escapeDigits c
      if digits == 0 then none else (numbered? digits rest).map fun d => (d, digits + 1)

/-- Reads the rest of a quoted scalar, whose characters so far are given newest first. -/
def quotedRest (single : Bool) (fuel : Nat) (acc : List Char) (s : Spacing) (c : Cursor) :
    Option Scanned :=
  match fuel, c.rest with
  | 0, _ => none
  | _, [] => none
  | fuel + 1, x :: rest =>
    if isBlank x then quotedRest single fuel acc (s.blank x) c.skip
    else if isBreak x then quotedRest single fuel acc (s.lineBreak x) c.skip
    else if c.atMarker then none
    else
      let acc := s.text ++ acc
      if single then
        if x == '\'' then
          if rest.head? == some '\'' then quotedRest single fuel ('\'' :: acc) .none (c.skipMany 2)
          else some (.ofChars acc c.skip false)
        else quotedRest single fuel (x :: acc) .none c.skip
      else if x == '"' then some (.ofChars acc c.skip false)
      else if x == '\\' then
        if rest.head?.any isBreak then quotedRest single fuel acc .joined (c.skipMany 2)
        else
          match escaped? rest with
          | some (d, n) => quotedRest single fuel (d :: acc) .none (c.skipMany (n + 1))
          | none => none
      else quotedRest single fuel (x :: acc) .none c.skip

/-- Reads a quoted scalar from the character after the quote. -/
def quoted (single : Bool) (c : Cursor) : Option Scanned :=
  quotedRest single (c.left + 1) [] .none c

/-- How the end of a block is treated. -/
inductive Chomping where
  /-- All ends of lines are dropped. -/
  | strip
  /-- One is kept. -/
  | clip
  /-- All are kept. -/
  | keep
deriving DecidableEq

/-- What is said of a block at its start: what happens at its end, and by how much it is
indented. -/
def blockHeader (c : Cursor) : Option (Chomping × Option Nat × Cursor) :=
  let sign? (x : Char) : Option Chomping :=
    if x == '+' then some .keep else if x == '-' then some .strip else none
  let digit? (x : Char) : Option Nat := if x.isDigit then some (x.toNat - 48) else none
  let first := c.rest.head?
  let second := (c.rest.drop 1).head?
  let (chomping, increment, taken) : Chomping × Option Nat × Nat :=
    match first.bind sign?, first.bind digit?, second.bind sign?, second.bind digit? with
    | some h, _, _, some d => (h, some d, 2)
    | some h, _, _, none => (h, none, 1)
    | none, some d, some h, _ => (h, some d, 2)
    | none, some d, none, _ => (.clip, some d, 1)
    | none, none, _, _ => (.clip, none, 0)
  let c := (c.skipMany taken).skipBlanks
  let c := if c.rest.head? == some '#' then c.skipLine else c
  if increment == some 0 then none
  else if isLineEnd c.rest then some (chomping, increment, c.skip)
  else none

/-- Goes over empty lines and the indentation of the next line: the ends of lines, newest first,
the largest column reached, and where the text goes on.  An indentation of zero is not known. -/
def blockBreaks (indent : Nat) (fuel : Nat) (breaks : List Char) (widest : Nat) (c : Cursor) :
    Option (List Char × Nat × Cursor) :=
  match fuel with
  | 0 => none
  | fuel + 1 =>
    let spaces := (c.rest.takeWhile (· == ' ')).length
    let taken := if indent == 0 then spaces else min spaces (indent - c.column)
    let c := c.skipMany taken
    let widest := max widest c.column
    if (indent == 0 || c.column < indent) && c.rest.head? == some '\t' then none
    else
      match c.rest with
      | x :: _ =>
        if isBreak x then blockBreaks indent fuel (x :: breaks) widest c.skip
        else some (breaks, widest, c)
      | [] => some (breaks, widest, c)

/-- A block that is being read. -/
structure BlockText where
  /-- Its characters so far, newest first. -/
  chars : List Char
  /-- The end of its last line. -/
  lineBreak : List Char
  /-- The ends of the empty lines after it, newest first. -/
  more : List Char
  /-- Its last line starts with a blank. -/
  blankStart : Bool

/-- Reads the lines of a block that are indented by `indent`. -/
def blockLines (folded : Bool) (indent : Nat) (fuel : Nat) (t : BlockText) (c : Cursor) :
    Option (BlockText × Cursor) :=
  match fuel with
  | 0 => none
  | fuel + 1 =>
    if c.column == indent && !c.rest.isEmpty then
      let blankStart := c.rest.head?.any isBlank
      let between : List Char :=
        if folded && t.lineBreak == ['\n'] && !t.blankStart && !blankStart then
          if t.more.isEmpty then [' '] else t.more
        else t.more ++ t.lineBreak
      let line := c.rest.takeWhile (!isBreak ·)
      let after := c.skipLine
      let lineBreak := (after.rest.take 1)
      match blockBreaks indent (after.left + 1) [] 0 after.skip with
      | none => none
      | some (more, _, next) =>
        blockLines folded indent fuel
          ⟨line.reverse ++ between ++ t.chars, lineBreak, more, blankStart⟩ next
    else some (t, c)

/-- Reads a block from the character after its mark; `parent` is the indentation around it. -/
def block (folded : Bool) (parent : Int) (c : Cursor) : Option Scanned := do
  let (chomping, increment, c) ← blockHeader c
  let size := c.left + 2
  let given : Nat := match increment with
    | some n => (max parent 0).toNat + n
    | none => 0
  let (more, widest, c) ← blockBreaks given size [] 0 c
  let indent := if given == 0 then max widest (max (parent + 1).toNat 1) else given
  let (t, c) ← blockLines folded indent size ⟨[], [], more, false⟩ c
  let tail : List Char := match chomping with
    | .strip => []
    | .clip => t.lineBreak
    | .keep => t.more ++ t.lineBreak
  return ⟨String.ofList (tail ++ t.chars).reverse, c, true⟩

end CandleFeed.Yaml
