import CandleFeed.Domain.MappingTable

/-!
# Characters of domain names

Names that people take for the same are the same: before anything else, every character of a domain
name is replaced by the one it counts as.  **`treatment`** says what happens to a character, and
**`mapped?`** does it to a text.
-/

namespace CandleFeed.Domain

open CandleFeed.Text

/-- What happens to a character of a domain name. -/
inductive Treatment where
  /-- It stays. -/
  | keep
  /-- It vanishes. -/
  | drop
  /-- It becomes others. -/
  | replace (others : List Char)
  /-- No domain name may have it. -/
  | refuse
deriving DecidableEq, Repr

/-- What the character that lies `offset` behind the first of a range becomes. -/
def Image.at? (i : Image) (offset : Nat) : Option (List Char) :=
  if i.alternating && offset % 2 == 1 then none
  else match i.numbers with
    | [n] => some [Char.ofNat (n + offset)]
    | ns => some (ns.map Char.ofNat)

/-- What a character becomes, if it becomes others. -/
def image? (c : Char) : Option (List Char) :=
  (images.find? c).bind fun r => r.value.at? (c.toNat - r.first)

/-- What happens to a character. -/
def treatment (c : Char) : Treatment :=
  match image? c with
  | some cs => .replace cs
  | none =>
    if refused.contains c then .refuse else if ignored.contains c then .drop else .keep

/-- The text with every character replaced, if there is no refused one. -/
def mapped? (cs : List Char) : Option (List Char) :=
  (cs.foldl
    (fun done c => match done, treatment c with
      | none, _ => none
      | some done, .keep => some (c :: done)
      | some done, .drop => some done
      | some done, .replace ds => some (ds.reverse ++ done)
      | some _, .refuse => none)
    (some [])).map List.reverse

end CandleFeed.Domain
