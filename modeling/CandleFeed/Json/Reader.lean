import CandleFeed.Decimal.Scaled
import CandleFeed.Json.Basic
import CandleFeed.Text.Numeral

/-!
# JSON text, read

**`Json.read`** reads one value from a text.  The grammar is strict: no leading zeros, no commas
before a closing bracket, no control characters inside strings, and nothing after the value but
blanks, of which there are four.

The reader goes through the text once, a character at a time, with the arrays and objects that
are still open on a stack; so its cost does not depend on how deep the value nests, and any depth
can be read.  What a consumer allows is a separate question that `Json.readableWithin` answers.

Two faults do not make a text ungrammatical: an escape that names half of a surrogate pair, and a
number beyond the largest floating-point value.  They read as `Json.unreadable`.
-/

namespace CandleFeed.Json

/-- The four characters that may stand between the parts of a value. -/
def isGap (c : Char) : Bool := c == ' ' || c == '\t' || c == '\n' || c == '\r'

/-- How far a number has been read. -/
inductive NumberPart where
  | sign | zero | whole | point | fraction | mark | markSign | power
deriving DecidableEq, Repr

/-- A number that is being read. -/
structure NumberText where
  /-- It starts with a minus sign. -/
  negative : Bool
  /-- The digits so far, before and after the point. -/
  digits : Digits
  /-- The exponent has a minus sign. -/
  powerNegative : Bool
  /-- The digits of the exponent. -/
  power : Nat
  /-- What was read last. -/
  part : NumberPart

namespace NumberText

/-- The number that starts with the character, if one does. -/
def start? (c : Char) : Option NumberText :=
  if c == '-' then some ⟨true, .none, false, 0, .sign⟩
  else if c == '0' then some ⟨false, .none, false, 0, .zero⟩
  else if c.isDigit then some ⟨false, Digits.none.push (c.toNat - 48), false, 0, .whole⟩
  else none

/-- The number with one more character, if it can go on with that character. -/
def push? (t : NumberText) (c : Char) : Option NumberText :=
  let digit := c.toNat - 48
  let isMark := c == 'e' || c == 'E'
  match t.part with
  | .sign =>
    if c == '0' then some { t with part := .zero }
    else if c.isDigit then some { t with digits := t.digits.push digit, part := .whole }
    else none
  | .zero =>
    if c == '.' then some { t with part := .point }
    else if isMark then some { t with part := .mark }
    else none
  | .whole =>
    if c.isDigit then some { t with digits := t.digits.push digit }
    else if c == '.' then some { t with digits := t.digits.point, part := .point }
    else if isMark then some { t with part := .mark }
    else none
  | .point | .fraction =>
    if c.isDigit then
      some { t with digits := t.digits.pushPlace digit, part := .fraction }
    else if isMark && t.part == .fraction then some { t with part := .mark }
    else none
  | .mark =>
    if c == '+' then some { t with part := .markSign }
    else if c == '-' then some { t with powerNegative := true, part := .markSign }
    else if c.isDigit then some { t with power := digit, part := .power }
    else none
  | .markSign | .power =>
    if c.isDigit then some { t with power := t.power * 10 + digit, part := .power } else none

/-- The value of a number that ends here, if it may.  Without point and exponent it is a whole
number where 64 bits hold it; minus zero is a floating-point value. -/
def finish? (t : NumberText) : Option Json :=
  let decimal : Json :=
    let power : Int := if t.powerNegative then -t.power else t.power
    match Decimal.toFloat? t.negative t.digits power with
    | some x => .float x
    | none => .unreadable
  match t.part with
  | .zero | .whole =>
    let n : Int := if t.negative then -t.digits.significand else t.digits.significand
    if t.negative && t.digits.significand == 0 then some (.float (-0.0))
    else if !t.digits.full && Json.holds64 n then some (.int n)
    else some decimal
  | .fraction | .power => some decimal
  | _ => none

end NumberText

/-- A string that is being read. -/
structure StringText where
  /-- Its characters so far, newest first. -/
  chars : List Char
  /-- The first half of a surrogate pair, when the text stops after one. -/
  half : Option Nat
  /-- No half of a pair stands alone so far. -/
  readable : Bool
  /-- It names a member. -/
  isName : Bool

namespace StringText

/-- The string with one more character. -/
def push (t : StringText) (c : Char) : StringText :=
  { t with chars := c :: t.chars, half := none, readable := t.readable && t.half.isNone }

/-- The string with one more 16-bit unit. -/
def pushUnit (t : StringText) (unit : Nat) : StringText :=
  if 0xD800 ≤ unit && unit < 0xDC00 then
    { t with half := some unit, readable := t.readable && t.half.isNone }
  else if 0xDC00 ≤ unit && unit < 0xE000 then
    match t.half with
    | some high =>
      let c := Char.ofNat (0x10000 + (high - 0xD800) * 0x400 + (unit - 0xDC00))
      { t with chars := c :: t.chars, half := none }
    | none => { t with readable := false }
  else t.push (Char.ofNat unit)

/-- The text, unless half of a surrogate pair stands alone in it. -/
def finish? (t : StringText) : Option String :=
  if t.readable && t.half.isNone then some (String.ofList t.chars.reverse) else none

end StringText

/-- An array or object whose end has not been read. -/
inductive Container where
  /-- An array with its items so far, newest first. -/
  | arr (items : List Json)
  /-- An object with its members so far, newest first, and the name of the member to come. -/
  | obj (members : List (String × Json)) (name : String) (readable : Bool)

/-- What the text has to go on with. -/
inductive Expected where
  /-- A value. -/
  | value
  /-- A value, or the end of the array. -/
  | itemOrEnd
  /-- A member's name. -/
  | name
  /-- A member's name, or the end of the object. -/
  | nameOrEnd
  /-- The colon after a name. -/
  | colon
  /-- A comma or a closing bracket; after the outermost value the end. -/
  | next
  /-- The rest of a string. -/
  | text (t : StringText)
  /-- The character after a backslash. -/
  | escape (t : StringText)
  /-- Some digits of a numbered escape. -/
  | unit (t : StringText) (left value : Nat)
  /-- The rest of a word, which stands for the value. -/
  | word (rest : List Char) (value : Json)
  /-- The rest of a number. -/
  | number (t : NumberText)

/-- The reader between two characters. -/
structure Reading where
  /-- What has to come. -/
  expected : Expected
  /-- The open arrays and objects, innermost first. -/
  containers : List Container
  /-- The outermost value, once it is complete. -/
  result : Option Json

namespace Reading

/-- Before the first character. -/
def start : Reading := ⟨.value, [], none⟩

/-- A value is complete. -/
def put (r : Reading) (v : Json) : Reading :=
  match r.containers with
  | [] => { r with expected := .next, result := some v }
  | .arr xs :: rest => { r with expected := .next, containers := .arr (v :: xs) :: rest }
  | .obj ms name ok :: rest =>
    { r with expected := .next, containers := .obj ((name, v) :: ms) name ok :: rest }

/-- A string is complete: a value, or the name of a member. -/
def putText (r : Reading) (t : StringText) : Reading :=
  if t.isName then
    match r.containers with
    | .obj ms _ ok :: rest =>
      let entry := Container.obj ms (t.finish?.getD "") (ok && t.finish?.isSome)
      { r with expected := .colon, containers := entry :: rest }
    | _ => r
  else r.put ((t.finish?.map Json.str).getD .unreadable)

/-- The innermost array or object is complete. -/
def close (r : Reading) : Reading :=
  match r.containers with
  | .arr xs :: rest => { r with containers := rest }.put (.arr xs.reverse)
  | .obj ms _ ok :: rest =>
    { r with containers := rest }.put (if ok then .obj ms.reverse else .unreadable)
  | [] => r

/-- A value begins with the character. -/
def beginValue (r : Reading) (c : Char) : Option Reading :=
  match c with
  | '"' => some { r with expected := .text ⟨[], none, true, false⟩ }
  | '[' => some { r with expected := .itemOrEnd, containers := .arr [] :: r.containers }
  | '\x7b' => some { r with expected := .nameOrEnd, containers := .obj [] "" true :: r.containers }
  | 't' => some { r with expected := .word "rue".toList (.bool true) }
  | 'f' => some { r with expected := .word "alse".toList (.bool false) }
  | 'n' => some { r with expected := .word "ull".toList .null }
  | c => (NumberText.start? c).map fun t => { r with expected := .number t }

/-- After a complete value. -/
def afterValue (r : Reading) (c : Char) : Option Reading :=
  match r.containers, c with
  | .arr _ :: _, ',' => some { r with expected := .value }
  | .arr _ :: _, ']' => some r.close
  | .obj _ _ _ :: _, ',' => some { r with expected := .name }
  | .obj _ _ _ :: _, '\x7d' => some r.close
  | _, c => if isGap c then some r else none

/-- The character that an escape letter stands for. -/
def escaped? : Char → Option Char
  | '"' => some '"'
  | '\\' => some '\\'
  | '/' => some '/'
  | 'b' => some '\x08'
  | 'f' => some '\x0c'
  | 'n' => some '\n'
  | 'r' => some '\r'
  | 't' => some '\t'
  | _ => none

/-- Reads one character; none when no text can go on that way. -/
def step (r : Reading) (c : Char) : Option Reading :=
  match r.expected with
  | .value => if isGap c then some r else r.beginValue c
  | .itemOrEnd => if isGap c then some r else if c == ']' then some r.close else r.beginValue c
  | .name =>
    if isGap c then some r
    else if c == '"' then some { r with expected := .text ⟨[], none, true, true⟩ }
    else none
  | .nameOrEnd =>
    if isGap c then some r
    else if c == '"' then some { r with expected := .text ⟨[], none, true, true⟩ }
    else if c == '\x7d' then some r.close
    else none
  | .colon =>
    if isGap c then some r else if c == ':' then some { r with expected := .value } else none
  | .next => r.afterValue c
  | .text t =>
    if c == '"' then some (r.putText t)
    else if c == '\\' then some { r with expected := .escape t }
    else if c.toNat < 0x20 then none
    else some { r with expected := .text (t.push c) }
  | .escape t =>
    if c == 'u' then some { r with expected := .unit t 4 0 }
    else (escaped? c).map fun d => { r with expected := .text (t.push d) }
  | .unit t left value =>
    (Text.digitValue? c).map fun d =>
      if left ≤ 1 then { r with expected := .text (t.pushUnit (value * 16 + d)) }
      else { r with expected := .unit t (left - 1) (value * 16 + d) }
  | .word rest v =>
    match rest with
    | [] => none
    | [d] => if c == d then some (r.put v) else none
    | d :: ds => if c == d then some { r with expected := .word ds v } else none
  | .number t =>
    match t.push? c with
    | some t => some { r with expected := .number t }
    | none => t.finish?.bind fun v => (r.put v).afterValue c

/-- The value, if the text may end here. -/
def finish? (r : Reading) : Option Json :=
  match r.containers, r.expected with
  | [], .next => r.result
  | [], .number t => t.finish?
  | _, _ => none

/-- Reads the characters in turn. -/
def run (r : Reading) : List Char → Option Reading
  | [] => some r
  | c :: cs => (r.step c).bind fun r => run r cs

end Reading

/-- The value that the text is, if it is one. -/
def read (text : String) : Option Json := (Reading.start.run text.toList).bind Reading.finish?

end CandleFeed.Json
