/-!
# Session names

The client names its sessions itself, and the provider tells sessions apart by these names only.
**`SessionId.draw`** makes a fresh one: a fixed beginning and twelve random letters and digits.
**`SessionId.numbered`** makes the name for the n-th connection of a rehearsal, equally long.
-/

namespace CandleFeed.SessionId

/-- What every name begins with. -/
def start : List Char := ['q', 's', '_']

/-- How many characters follow. -/
def randomLength : Nat := 12

/-- The characters that may follow. -/
def alphabet : List Char := "abcdefghijklmnopqrstuvwxyz0123456789".toList

/-- Random characters of the alphabet. -/
def drawChars [RandomGen γ] : Nat → γ → List Char × γ
  | 0, g => ([], g)
  | n + 1, g =>
    let (k, g) := randNat g 0 (alphabet.length - 1)
    let (rest, g) := drawChars n g
    (alphabet[k]?.getD 'a' :: rest, g)

/-- A fresh name. -/
def draw [RandomGen γ] (g : γ) : String × γ :=
  let (cs, g) := drawChars randomLength g
  (String.ofList (start ++ cs), g)

/-- The name for the n-th connection. -/
def numbered (n : Nat) : String :=
  let digits := Nat.toDigits 10 n
  String.ofList (start ++ List.replicate (randomLength - digits.length) '0' ++ digits)

end CandleFeed.SessionId
