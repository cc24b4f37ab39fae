import CandleFeed.Yaml.Tag

/-!
# Tokens of a YAML text

A text is first cut into **`Token`**s: scalars, the marks between them, and marks that stand for
indentation, where a block of items or of entries begins or ends.  **`Token.ofText?`** lists them
in order.

What makes a key is only seen at the colon behind it.  So the scanner notes where a **key
candidate** starts, and puts a key mark there once the colon comes, on the same line and within 1024
bytes.
-/

namespace CandleFeed.Yaml

/-- A part of a text. -/
inductive Token where
  /-- An instruction about the document to come. -/
  | directive (d : Directive)
  | documentStart
  | documentEnd
  | blockListStart
  | blockMapStart
  /-- The end of a block of items or of entries. -/
  | blockEnd
  | flowListStart
  | flowListEnd
  | flowMapStart
  | flowMapEnd
  /-- A dash before an item. -/
  | item
  /-- A comma. -/
  | comma
  /-- A key follows. -/
  | key
  /-- A value follows. -/
  | value
  /-- The value that was named before. -/
  | reference (name : String)
  /-- The following value is named. -/
  | anchor (name : String)
  /-- What kind of value follows, as a handle and the rest of the tag. -/
  | tag (handle : String) (rest : List UInt8)
  /-- A scalar. -/
  | scalar (style : Style) (text : String)
deriving DecidableEq, Repr

/-- A place where a key may have started. -/
structure KeyCandidate where
  /-- A colon has to come, since an entry has to start here. -/
  required : Bool
  /-- How many tokens come before it. -/
  position : Nat
  /-- The line it is on. -/
  line : Nat
  /-- The column it starts at. -/
  column : Nat
  /-- The number of bytes before it. -/
  index : Nat

/-- The scanner between two tokens. -/
structure Scanner where
  /-- Where the text goes on. -/
  cursor : Cursor
  /-- The tokens so far, newest first. -/
  tokens : List Token
  /-- How many they are. -/
  count : Nat
  /-- The indentation of the innermost block, -1 outside. -/
  indent : Int
  /-- The indentations around it. -/
  outer : List Int
  /-- For each open bracket, innermost first, and outside all brackets the candidate for a key. -/
  candidates : List (Option KeyCandidate)
  /-- A key may start here. -/
  keyAllowed : Bool

namespace Scanner

/-- How many brackets are open. -/
def depth (s : Scanner) : Nat := s.candidates.length - 1

/-- Within brackets. -/
def inFlow (s : Scanner) : Bool := 0 < s.depth

/-- One more token. -/
def push (s : Scanner) (t : Token) : Scanner :=
  { s with tokens := t :: s.tokens, count := s.count + 1 }

/-- Puts a token in front of those from `position` on. -/
def insertAt (s : Scanner) (position : Nat) (t : Token) : Scanner :=
  let later := s.count - position
  { s with tokens := s.tokens.take later ++ t :: s.tokens.drop later, count := s.count + 1 }

/-- The candidate for a key here. -/
def candidate (s : Scanner) : Option KeyCandidate := s.candidates.head?.join

/-- Replaces the candidate for a key here. -/
def withCandidate (s : Scanner) (k : Option KeyCandidate) : Scanner :=
  { s with candidates := k :: s.candidates.drop 1 }

/-- Gives up the candidate for a key here, unless a key has to be there. -/
def dropCandidate (s : Scanner) : Option Scanner :=
  if s.candidate.any (·.required) then none else some (s.withCandidate none)

/-- Gives up candidates that are too far back. -/
def dropStale (s : Scanner) : Option Scanner :=
  let isStale (k : KeyCandidate) : Bool :=
    k.line < s.cursor.line || k.index + 1024 < s.cursor.index
  if s.candidates.any fun k => k.any fun k => isStale k && k.required then none
  else some { s with candidates := s.candidates.map fun k => k.filter (!isStale ·) }

/-- Notes that a key may start here. -/
def noteCandidate (s : Scanner) : Option Scanner :=
  if s.keyAllowed then
    s.dropCandidate.map fun s =>
      let c := s.cursor
      let required := !s.inFlow && s.indent == (c.column : Int)
      s.withCandidate (some ⟨required, s.count, c.line, c.column, c.index⟩)
  else some s

/-- Opens a block at a column, if it is further in, with its mark at a position. -/
def openBlock (s : Scanner) (column : Nat) (position : Nat) (mark : Token) : Scanner :=
  if !s.inFlow && s.indent < (column : Int) then
    { s with indent := column, outer := s.indent :: s.outer }.insertAt position mark
  else s

/-- Closes the blocks of the given indentations that are further in than a column. -/
def closeTo (column : Int) (s : Scanner) : List Int → Scanner
  | [] => s
  | i :: outer =>
    if column < s.indent then closeTo column { s.push .blockEnd with indent := i, outer } outer
    else s

/-- Closes the blocks that are further in than a column. -/
def closeBlocks (s : Scanner) (column : Int) : Scanner :=
  if s.inFlow then s else closeTo column s s.outer

/-- A number of characters further. -/
def advance (s : Scanner) (n : Nat) : Scanner := { s with cursor := s.cursor.skipMany n }

/-- Goes over blanks, comments and ends of lines, and over a byte order mark at the start of a
line. -/
def skipSpace (fuel : Nat) (s : Scanner) : Scanner :=
  match fuel with
  | 0 => s
  | fuel + 1 =>
    match s.cursor.rest with
    | ' ' :: _ => skipSpace fuel (s.advance 1)
    | '\t' :: _ => if s.inFlow || !s.keyAllowed then skipSpace fuel (s.advance 1) else s
    | '#' :: _ => skipSpace fuel { s with cursor := s.cursor.skipLine }
    | '\ufeff' :: _ => if s.cursor.column == 0 then skipSpace fuel (s.advance 1) else s
    | c :: _ =>
      if isBreak c then
        skipSpace fuel { s.advance 1 with keyAllowed := s.keyAllowed || !s.inFlow }
      else s
    | [] => s

/-- The name after `&` or `*`, and where the text goes on. -/
def name? (c : Cursor) : Option (String × Cursor) :=
  let name := c.rest.takeWhile isWord
  let next := c.skipMany name.length
  if name.isEmpty then none
  else if isGap next.rest || next.rest.head?.any "?:,]\x7d%@`".toList.contains then
    some (String.ofList name, next)
  else none

/-- A scalar, which may be a key. -/
def scalar (s : Scanner) (style : Style) (scanned : Option Scanned) : Option Scanner := do
  let noted ← s.noteCandidate
  let r ← scanned
  return { noted.push (.scalar style r.text) with cursor := r.next, keyAllowed := r.broken }

/-- A mark that opens a bracket. -/
def openBracket (s : Scanner) (mark : Token) : Option Scanner :=
  s.noteCandidate.map fun s =>
    { (s.push mark).advance 1 with candidates := none :: s.candidates, keyAllowed := true }

/-- A mark that closes a bracket. -/
def closeBracket (s : Scanner) (mark : Token) : Option Scanner :=
  s.dropCandidate.map fun s =>
    let candidates := if s.inFlow then s.candidates.drop 1 else s.candidates
    { (s.push mark).advance 1 with candidates, keyAllowed := false }

/-- A mark that begins or ends a document. -/
def margin (s : Scanner) (mark : Token) : Option Scanner :=
  (s.closeBlocks (-1)).dropCandidate.map fun s =>
    { (s.push mark).advance 3 with keyAllowed := false }

/-- An instruction, with the line it takes. -/
def instruction (s : Scanner) : Option Scanner := do
  let s ← (s.closeBlocks (-1)).dropCandidate
  let (directive, next) ← directive? s.cursor
  return { s.push (.directive directive) with cursor := next, keyAllowed := false }

/-- A dash before an item. -/
def item (s : Scanner) : Option Scanner := do
  if !s.inFlow && !s.keyAllowed then none
  else
    let s := s.openBlock s.cursor.column s.count .blockListStart
    let s ← s.dropCandidate
    return { (s.push .item).advance 1 with keyAllowed := true }

/-- A question mark before a key. -/
def explicitKey (s : Scanner) : Option Scanner := do
  if !s.inFlow && !s.keyAllowed then none
  else
    let s := s.openBlock s.cursor.column s.count .blockMapStart
    let s ← s.dropCandidate
    return { (s.push .key).advance 1 with keyAllowed := !s.inFlow }

/-- A colon before a value. -/
def value (s : Scanner) : Option Scanner :=
  match s.candidate with
  | some k =>
    let s := (s.insertAt k.position .key).openBlock k.column k.position .blockMapStart
    some { ((s.withCandidate none).push .value).advance 1 with keyAllowed := false }
  | none =>
    if !s.inFlow && !s.keyAllowed then none
    else
      let s := s.openBlock s.cursor.column s.count .blockMapStart
      some { (s.push .value).advance 1 with keyAllowed := !s.inFlow }

/-- A name after `&` or `*`. -/
def named (s : Scanner) (mark : String → Token) : Option Scanner := do
  let s ← s.noteCandidate
  let (name, next) ← name? s.cursor.skip
  return { s.push (mark name) with cursor := next, keyAllowed := false }

/-- What kind of value follows. -/
def tagged (s : Scanner) : Option Scanner := do
  let s ← s.noteCandidate
  let (handle, rest, next) ← tag? s.inFlow s.cursor
  return { s.push (.tag handle rest) with cursor := next, keyAllowed := false }

/-- A scalar that is written as a block. -/
def blockScalar (s : Scanner) (style : Style) : Option Scanner := do
  let s ← s.dropCandidate
  let r ← block (style == .folded) s.indent s.cursor.skip
  return { s.push (.scalar style r.text) with cursor := r.next, keyAllowed := true }

/-- Marks that no plain scalar starts with. -/
def reserved : List Char := "-?:,[]\x7b\x7d#&*!|>'\"%@`".toList

/-- A plain scalar starts here. -/
def startsPlain (s : Scanner) : Bool :=
  match s.cursor.rest with
  | [] => false
  | c :: rest =>
    (!reserved.contains c && !isBlank c && !isBreak c) || (c == '-' && !rest.head?.all isBlank) ||
      (!s.inFlow && (c == '?' || c == ':') && !isGap rest)

/-- Reads the next token; the cursor stands on its first character. -/
def token (s : Scanner) : Option Scanner :=
  match s.cursor.rest with
  | [] => none
  | c :: rest =>
    if s.cursor.column == 0 && c == '%' then s.instruction
    else if s.cursor.atMarker then s.margin (if c == '-' then .documentStart else .documentEnd)
    else if c == '[' then s.openBracket .flowListStart
    else if c == '\x7b' then s.openBracket .flowMapStart
    else if c == ']' then s.closeBracket .flowListEnd
    else if c == '\x7d' then s.closeBracket .flowMapEnd
    else if c == ',' then
      s.dropCandidate.map fun s => { (s.push .comma).advance 1 with keyAllowed := true }
    else if c == '-' && isGap rest then s.item
    else if c == '?' && (s.inFlow || isGap rest) then s.explicitKey
    else if c == ':' && (s.inFlow || isGap rest) then s.value
    else if c == '*' then s.named .reference
    else if c == '&' then s.named .anchor
    else if c == '!' then s.tagged
    else if c == '|' && !s.inFlow then s.blockScalar .literal
    else if c == '>' && !s.inFlow then s.blockScalar .folded
    else if c == '\'' then s.scalar .singleQuoted (quoted true s.cursor.skip)
    else if c == '"' then s.scalar .doubleQuoted (quoted false s.cursor.skip)
    else if s.startsPlain then s.scalar .plain (plain s.inFlow (s.indent + 1) s.cursor)
    else none

/-- Reads tokens to the end of the text. -/
def run (fuel : Nat) (s : Scanner) : Option (List Token) :=
  match fuel with
  | 0 => none
  | fuel + 1 =>
    match (s.skipSpace (s.cursor.left + 1)).dropStale with
    | none => none
    | some s =>
      if s.cursor.rest.isEmpty then
        (s.closeBlocks (-1)).dropCandidate.map fun s => s.tokens.reverse
      else
        match (s.closeBlocks s.cursor.column).token with
        | none => none
        | some s => run fuel s

end Scanner

/-- The tokens of a text. -/
def Token.ofText? (text : String) : Option (List Token) := do
  let cursor ← Cursor.ofText? text
  Scanner.run (cursor.left + 1) ⟨cursor, [], 0, -1, [], [none], true⟩

end CandleFeed.Yaml
