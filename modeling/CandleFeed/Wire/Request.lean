import CandleFeed.Address.Basic

/-!
# Requests to an address

A connection begins with a request to the address.  Not every URL can be requested: the request line
knows fewer characters, and it wants to know whom to ask.  **`isRequestable`** says which can.
-/

namespace CandleFeed

/-- The longest address that can be requested. -/
def longestRequest : Nat := 65534

/-- The longest scheme before an authority. -/
def longestScheme : Nat := 64

/-- What has been seen of an authority, character by character. -/
structure AuthorityScan where
  /-- The colons since the last `@` or bracket. -/
  colons : Nat
  /-- A bracket has been opened. -/
  isOpened : Bool
  /-- A bracket has been closed. -/
  isClosed : Bool
  /-- There is a percent sign since the last `@` or bracket. -/
  hasPercent : Bool
  /-- The last character is an `@`. -/
  endsInAt : Bool

namespace AuthorityScan

/-- Before the first character. -/
def start : AuthorityScan := ⟨0, false, false, false, false⟩

/-- Characters that may stand in an authority without further rules. -/
def isPlain (c : Char) : Bool := c.isAlphanum || "!$&'()*+,-.;=_~".toList.contains c

/-- Looks at one character. -/
def push? (s : AuthorityScan) (c : Char) : Option AuthorityScan :=
  let s := { s with endsInAt := c == '@' }
  if c == ':' then
    if 8 ≤ s.colons then none else some { s with colons := s.colons + 1 }
  else if c == '[' then
    if s.hasPercent || s.isOpened then none else some { s with isOpened := true }
  else if c == ']' then
    if !s.isOpened || s.isClosed then none
    else some { s with isClosed := true, colons := 0, hasPercent := false }
  else if c == '@' then some { s with colons := 0, hasPercent := false }
  else if c == '%' then some { s with hasPercent := true }
  else if isPlain c then some s
  else none

/-- The authority may end here. -/
def isComplete (s : AuthorityScan) : Bool :=
  s.isOpened == s.isClosed && s.colons ≤ 1 && !s.endsInAt && !s.hasPercent

end AuthorityScan

/-- The text is an authority that can be asked. -/
def isAuthority (cs : List Char) : Bool :=
  !cs.isEmpty && (cs.foldlM AuthorityScan.push? AuthorityScan.start).any (·.isComplete)

/-- The address can be requested: it names an authority, or is nothing else but one. -/
def isRequestable (a : Address) : Bool :=
  let text := a.text
  text.length ≤ longestRequest &&
    let rest := text.drop (a.scheme.length + 1)
    if rest.take 2 == ['/', '/'] then
      a.scheme.length ≤ longestScheme &&
        isAuthority ((rest.drop 2).takeWhile fun c => c != '/' && c != '?' && c != '#')
    else isAuthority text

end CandleFeed
