import CandleFeed.Domain.Direction
import CandleFeed.Domain.Joining
import CandleFeed.Domain.Mapping
import CandleFeed.Domain.Punycode

/-!
# Domain names in ASCII

Domain names can be written in any script, but what is looked up is ASCII.  **`ascii?`** gives the
ASCII form of a name, if it is a name: its characters are mapped and put in canonical form, and each
label is checked and written in punycode where it is not ASCII.  A label that comes in punycode has
to stand for one that would have been written so.

Nothing is said of the lengths of a name and its labels, nor of hyphens in them.
-/

namespace CandleFeed.Domain

open CandleFeed.Text

/-- How a label begins that is written in punycode. -/
def punycodeMark : List Char := "xn--".toList

/-- The most characters of punycode that are read. -/
def longestEncoded : Nat := 2000

/-- The most characters that are written in punycode. -/
def longestDecoded : Nat := 1000

/-- ASCII characters that no host of a URL may have. -/
def isDenied (c : Char) : Bool :=
  c.toNat ≤ 0x20 || c.toNat == 0x7F || "%#/:<>?@[\\]^|".toList.contains c

/-- The text is its own image: mapping and canonical form leave it as it is. -/
def isSettled (cs : List Char) : Bool :=
  cs.all (treatment · == .keep) && composed cs == cs

/-- A label as it reads, and as it is written in ASCII. -/
structure Label where
  /-- As it reads. -/
  shown : List Char
  /-- As it is written in ASCII. -/
  ascii : List Char

/-- The label of a mapped text. -/
def Label.ofMapped? (cs : List Char) : Option Label :=
  if cs.take 4 == punycodeMark then
    let code := cs.drop 4
    if code.all (·.toNat < 128) && code.getLast?.any (· != '-') &&
        code.length ≤ longestEncoded then
      (Punycode.decode? code).bind fun shown =>
        if isSettled shown then some ⟨shown, cs⟩ else none
    else none
  else if cs.all (·.toNat < 128) then some ⟨cs, cs⟩
  else if cs.length ≤ longestDecoded then some ⟨cs, punycodeMark ++ Punycode.encode cs⟩
  else none

/-- The label can be read: it does not begin with a mark, and its joiners fit. -/
def Label.isReadable (l : Label) : Bool := !l.shown.head?.any isMark && joinersFit l.shown

/-- The ASCII form of a domain name, given its bytes. -/
def ascii? (bytes : List UInt8) : Option (List Char) := do
  let text ← String.fromUTF8? ⟨bytes.toArray⟩
  let cs := composed (← mapped? text.toList)
  if cs.any isDenied then none
  let labels ← (fields '.' cs).mapM Label.ofMapped?
  let directed := labels.any fun l => hasRightToLeft l.shown
  if labels.all Label.isReadable && (!directed || labels.all (keepsDirection ·.shown)) then
    some (joined '.' (labels.map (·.ascii)))
  else none

end CandleFeed.Domain
