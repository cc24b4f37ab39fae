import CandleFeed.Json.Basic

/-!
# JSON text, written

Compact text: no white space, members in their order.  **`Json.render`** writes a value.

A string escapes only what it must: the quote, the backslash, and the control characters below
the blank, five of them by letter and the others by number.  A floating-point value is written
with the fewest digits that read back; from `1e-5` up to `1e16` and for zero in plain decimal
with at least one fraction digit, otherwise with an exponent that shows its sign.
-/

namespace CandleFeed.Json

/-- The decimal digits of a number. -/
def natText (n : Nat) : List Char := Nat.toDigits 10 n

/-- The decimal digits of a number, with a minus sign when it is negative. -/
def intText (n : Int) : List Char :=
  if n < 0 then '-' :: natText n.natAbs else natText n.natAbs

/-- How a positive decimal with the given digits is written: plainly when its leading digit
counts a power of ten from -5 to 15. -/
def decimalText (d : Decimal) : List Char :=
  let digits := natText d.digits
  let leading : Int := digits.length - 1 + d.exponent
  if d.digits == 0 then "0.0".toList
  else if -5 ≤ leading && leading < 16 then
    if 0 ≤ d.exponent then digits ++ List.replicate d.exponent.toNat '0' ++ ".0".toList
    else if 0 ≤ leading then
      let whole := (leading + 1).toNat
      digits.take whole ++ '.' :: digits.drop whole
    else "0.".toList ++ List.replicate (-leading - 1).toNat '0' ++ digits
  else
    let mantissa :=
      match digits with
      | [] => []
      | [c] => [c]
      | c :: rest => c :: '.' :: rest
    mantissa ++ (if leading < 0 then "e-".toList else "e+".toList) ++ natText leading.natAbs

/-- A finite value, with a minus sign when its sign bit is set. -/
def floatText (x : Float) : List Char :=
  let magnitude := decimalText (Decimal.shortest x)
  if (Binary64.ofFloat x).negative then '-' :: magnitude else magnitude

/-- The hexadecimal digit for a number below sixteen. -/
def hexDigit (n : Nat) : Char := (Nat.digitChar n)

/-- One character as it stands inside a string. -/
def charText (c : Char) : List Char :=
  match c with
  | '"' => ['\\', '"']
  | '\\' => ['\\', '\\']
  | '\n' => ['\\', 'n']
  | '\r' => ['\\', 'r']
  | '\t' => ['\\', 't']
  | '\x08' => ['\\', 'b']
  | '\x0c' => ['\\', 'f']
  | c =>
    if c.toNat < 0x20 then
      ['\\', 'u', '0', '0', hexDigit (c.toNat / 16), hexDigit (c.toNat % 16)]
    else [c]

/-- A string in quotes. -/
def stringText (s : String) : List Char := '"' :: s.toList.flatMap charText ++ ['"']

mutual

/-- The characters of a value's text. -/
def chars : Json → List Char
  | .null => "null".toList
  | .bool true => "true".toList
  | .bool false => "false".toList
  | .int n => intText n
  | .float x => if x.isFinite then floatText x else "null".toList
  | .str s => stringText s
  | .arr xs => '[' :: itemChars xs ++ [']']
  | .obj ms => '\x7b' :: memberChars ms ++ ['\x7d']
  | .unreadable => "null".toList

/-- The items of an array, with commas between them. -/
def itemChars : List Json → List Char
  | [] => []
  | [x] => chars x
  | x :: y :: rest => chars x ++ ',' :: itemChars (y :: rest)

/-- The members of an object, with commas between them. -/
def memberChars : List (String × Json) → List Char
  | [] => []
  | [(k, x)] => stringText k ++ ':' :: chars x
  | (k, x) :: m :: rest => stringText k ++ ':' :: chars x ++ ',' :: memberChars (m :: rest)

end

/-- The text of a value. -/
def render (v : Json) : String := String.ofList (chars v)

end CandleFeed.Json
