import CandleFeed.Text.Numeral

/-!
# Bytes written with a percent sign

In a URL, `%` and two hexadecimal digits stand for a byte.  Which characters have to be written that
way hangs on the part of the URL; **`percentEncoded`** takes the condition, and the conditions are
given here from the weakest to the strongest.  **`percentDecoded`** reads the bytes back.
-/

namespace CandleFeed.Address

open CandleFeed.Text

/-- Control characters and whatever is not ASCII. -/
def isUnprintable (c : Char) : Bool := c.toNat < 0x20 || 0x7F ≤ c.toNat

/-- Characters that are escaped in the query; the schemes of the web have one more. -/
def isEscapedInQuery (ofWeb : Bool) (c : Char) : Bool :=
  isUnprintable c || " \"#<>".toList.contains c || (ofWeb && c == '\'')

/-- Characters that are escaped in the fragment. -/
def isEscapedInFragment (c : Char) : Bool := isUnprintable c || " \"<>`".toList.contains c

/-- Characters that are escaped in the path. -/
def isEscapedInPath (c : Char) : Bool := isEscapedInFragment c || "#?\x7b\x7d".toList.contains c

/-- Characters that are escaped in names and passwords. -/
def isEscapedInUser (c : Char) : Bool := isEscapedInPath c || "/:;=@[\\]^|".toList.contains c

/-- A hexadecimal digit, as a capital. -/
def capitalDigit (n : Nat) : Char := (Nat.digitChar n).toUpper

/-- A byte, written with a percent sign. -/
def percentByte (b : UInt8) : List Char :=
  ['%', capitalDigit (b.toNat / 16), capitalDigit (b.toNat % 16)]

/-- The text with the bytes of some characters written with percent signs. -/
def percentEncoded (isEscaped : Char → Bool) (cs : List Char) : List Char :=
  cs.flatMap fun c =>
    if isEscaped c then (String.singleton c).toUTF8.toList.flatMap percentByte else [c]

/-- The bytes of a text, after those given newest first; a percent sign that is not followed by two
digits stands for itself. -/
def percentDecodedAfter (done : List UInt8) : List Char → List UInt8
  | [] => done.reverse
  | '%' :: a :: b :: rest =>
    match digitValue? a, digitValue? b with
    | some x, some y => percentDecodedAfter (UInt8.ofNat (x * 16 + y) :: done) rest
    | _, _ => percentDecodedAfter ('%'.toNat.toUInt8 :: done) (a :: b :: rest)
  | c :: rest => percentDecodedAfter ((String.singleton c).toUTF8.toList.reverse ++ done) rest

/-- The bytes that a text stands for. -/
def percentDecoded (cs : List Char) : List UInt8 := percentDecodedAfter [] cs

end CandleFeed.Address
