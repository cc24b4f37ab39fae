import CandleFeed.Yaml.Scalar

/-!
# Tags of a YAML text

A tag says what kind of value follows.  It is written in full between angle brackets, or as a short
form: a handle, which stands for the beginning of the tag, and the rest of it.  **`tag?`** reads
either; a full tag has the empty handle.

Instructions before a document can give handles a meaning: **`directive?`** reads one.  What a tag
holds are bytes, since any of them can be written as `%` and two hexadecimal digits.
-/

namespace CandleFeed.Yaml

/-- The character may stand in a handle or a name. -/
def isWord (c : Char) : Bool := c.isAlphanum || c == '-' || c == '_'

/-- The character may stand in a tag as it is; within angle brackets, some marks may as well. -/
def isTagChar (full : Bool) (c : Char) : Bool :=
  isWord c || ";/?:@&=+$.!~*'()".toList.contains c || (full && ",[]".toList.contains c)

/-- The byte that the text begins with, written as `%` and two hexadecimal digits. -/
def writtenByte? : List Char → Option UInt8
  | '%' :: a :: b :: _ =>
    match Text.digitValue? a, Text.digitValue? b with
    | some x, some y => some (UInt8.ofNat (x * 16 + y))
    | _, _ => none
  | _ => none

/-- How many bytes a character takes, by the first of them. -/
def sequenceLength? (first : UInt8) : Option Nat :=
  if first < 0x80 then some 1
  else if first &&& 0xE0 == 0xC0 then some 2
  else if first &&& 0xF0 == 0xE0 then some 3
  else if first &&& 0xF8 == 0xF0 then some 4
  else none

/-- The bytes of the character that the text begins with, each of them written with `%`. -/
def writtenChar? (cs : List Char) : Option (List UInt8) := do
  let first ← writtenByte? cs
  let length ← sequenceLength? first
  let others ← (List.range (length - 1)).mapM fun i => writtenByte? (cs.drop (3 * (i + 1)))
  if others.all fun b => b &&& 0xC0 == 0x80 then some (first :: others) else none

/-- The bytes of a tag as far as it goes, after those given newest first, and what follows it. -/
def tagBytes? (full : Bool) (fuel : Nat) (acc : List UInt8) (c : Cursor) :
    Option (List UInt8 × Cursor) :=
  match fuel, c.rest with
  | 0, _ => some (acc.reverse, c)
  | _, [] => some (acc.reverse, c)
  | fuel + 1, x :: _ =>
    if x == '%' then
      (writtenChar? c.rest).bind fun bytes =>
        tagBytes? full fuel (bytes.reverse ++ acc) (c.skipMany (3 * bytes.length))
    else if isTagChar full x then
      tagBytes? full fuel (x.toNat.toUInt8 :: acc) c.skip
    else some (acc.reverse, c)

/-- The bytes of a tag that stands here, of which there has to be one; a null byte ends them. -/
def tagText? (full : Bool) (c : Cursor) : Option (List UInt8 × Cursor) :=
  (tagBytes? full c.left [] c).bind fun (bytes, next) =>
    if next.index == c.index then none else some (bytes.takeWhile (· != 0), next)

/-- The handle that stands here: `!`, or a word or nothing between two of them; without the
second one the word after `!` is no handle. -/
def handle (c : Cursor) : String × Cursor :=
  let word := c.rest.drop 1 |>.takeWhile isWord
  let next := c.skipMany (word.length + 1)
  if next.rest.head? == some '!' then (String.ofList ('!' :: word ++ ['!']), next.skip)
  else (String.ofList ('!' :: word), next)

/-- The handle is closed, and so it is one. -/
def isClosed (name : String) : Bool := 1 < name.length && name.toList.getLast? == some '!'

/-- The tag that stands here, as its handle and the bytes after it.  A lone `!` is a full tag.
Blanks follow a tag, within brackets perhaps a comma. -/
def tag? (inFlow : Bool) (c : Cursor) : Option (String × List UInt8 × Cursor) := do
  let (name, bytes, next) ←
    match c.rest with
    | '!' :: '<' :: _ => do
      let (bytes, next) ← tagText? true (c.skipMany 2)
      if next.rest.head? == some '>' then some ("", bytes, next.skip) else none
    | _ =>
      let (name, next) := handle c
      if isClosed name then do
        let (bytes, next) ← tagText? false next
        some (name, bytes, next)
      else do
        let (bytes, next) ← tagBytes? false next.left [] next
        let bytes := (name.toUTF8.toList.drop 1 ++ bytes).takeWhile (· != 0)
        if bytes.isEmpty then some ("", "!".toUTF8.toList, next) else some ("!", bytes, next)
  if isGap next.rest || (inFlow && next.rest.head? == some ',') then some (name, bytes, next)
  else none

/-- An instruction before a document. -/
inductive Directive where
  /-- The version of the notation. -/
  | version (major minor : Nat)
  /-- What a handle stands for. -/
  | handle (name : String) (start : List UInt8)
deriving DecidableEq, Repr

/-- The number of at most nine digits that stands here. -/
def shortNumber? (c : Cursor) : Option (Nat × Cursor) :=
  let digits := c.rest.takeWhile Char.isDigit
  if digits.isEmpty || 9 < digits.length then none
  else
    some (digits.foldl (fun n d => n * 10 + (d.toNat - 48)) 0, c.skipMany digits.length)

/-- What a version instruction says. -/
def version? (c : Cursor) : Option (Directive × Cursor) := do
  let (major, c) ← shortNumber? c.skipBlanks
  let '.' :: _ := c.rest | none
  let (minor, c) ← shortNumber? c.skip
  return (.version major minor, c)

/-- What an instruction about a handle says. -/
def handleMeaning? (c : Cursor) : Option (Directive × Cursor) := do
  let c := c.skipBlanks
  let '!' :: _ := c.rest | none
  let (name, c) := handle c
  if name != "!" && !isClosed name then none
  else if !c.rest.head?.any isBlank then none
  else
    let (start, c) ← tagText? true c.skipBlanks
    if isGap c.rest then some (.handle name start, c) else none

/-- The instruction that stands here, which takes all of its line. -/
def directive? (c : Cursor) : Option (Directive × Cursor) := do
  let name := c.rest.drop 1 |>.takeWhile isWord
  let behind := c.skipMany (name.length + 1)
  if !isGap behind.rest then none
  else
    let (directive, behind) ←
      if name == "YAML".toList then version? behind
      else if name == "TAG".toList then handleMeaning? behind
      else none
    let behind := behind.skipBlanks
    let behind := if behind.rest.head? == some '#' then behind.skipLine else behind
    if isLineEnd behind.rest then some (directive, behind.skip) else none

end CandleFeed.Yaml
