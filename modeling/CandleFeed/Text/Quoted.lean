import CandleFeed.Text.Hidden

/-!
# Texts quoted for a message

An error message that quotes what it found must stay on one line and show every character.
**`quoted`** puts a text in double quotes and writes what cannot be seen as an escape: the usual
letters for tab, line feed, carriage return and the null character, and `\u{…}` with the
hexadecimal number, without leading zeros, for every other hidden character.
-/

namespace CandleFeed.Text

/-- The lower-case hexadecimal digits of a number, without leading zeros. -/
def hexDigits (n : Nat) : List Char := Nat.toDigits 16 n

/-- One character as it stands inside a quotation. -/
def quotedChar (c : Char) : List Char :=
  match c with
  | '\x00' => ['\\', '0']
  | '\t' => ['\\', 't']
  | '\n' => ['\\', 'n']
  | '\r' => ['\\', 'r']
  | '"' => ['\\', '"']
  | '\\' => ['\\', '\\']
  | c => if isHidden c then ['\\', 'u', '\x7b'] ++ hexDigits c.toNat ++ ['\x7d'] else [c]

/-- The text in double quotes, every character visible. -/
def quoted (s : String) : String :=
  String.ofList ('"' :: s.toList.flatMap quotedChar ++ ['"'])

end CandleFeed.Text
