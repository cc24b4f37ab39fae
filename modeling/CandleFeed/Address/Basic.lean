import CandleFeed.Address.Host
import CandleFeed.Address.Path

/-!
# Addresses

Where a provider is reached is given as a URL.  An **`Address`** is what a URL says, piece by
piece; **`Address.ofText`** reads one the way browsers do, which forgive much, and
**`Address.text`** writes the one usual form of it.

Blanks around the text are dropped, the scheme decides how the rest is read, and names, host and
port are looked at in their order; the first fault counts.
-/

namespace CandleFeed

/-- The part of a URL after the two slashes. -/
structure Authority where
  /-- Name and password, as they are written. -/
  user : List Char
  /-- The host. -/
  host : Host
  /-- The port, if it is not the usual one of the scheme. -/
  port : Option Nat
deriving DecidableEq, Repr

/-- The path of a URL. -/
inductive AddressPath where
  /-- A text without structure. -/
  | whole (text : List Char)
  /-- Segments, each with a slash before it. -/
  | segments (list : List (List Char))
deriving DecidableEq, Repr

/-- What a URL says. -/
structure Address where
  /-- The scheme, in small letters. -/
  scheme : List Char
  /-- Whom to ask, if it says so. -/
  authority : Option Authority
  /-- What to ask for. -/
  path : AddressPath
  /-- The query. -/
  query : Option (List Char)
  /-- The fragment. -/
  fragment : Option (List Char)
deriving DecidableEq, Repr

namespace Address

open CandleFeed.Text

/-! ## Writing -/

/-- The authority as it is written. -/
def authorityText (a : Authority) : List Char :=
  (if a.user.isEmpty then [] else a.user ++ ['@']) ++ a.host.text ++
    match a.port with
    | some n => ':' :: Nat.toDigits 10 n
    | none => []

/-- The path as it is written. -/
def pathText : AddressPath → List Char
  | .whole cs => cs
  | .segments list => list.flatMap ('/' :: ·)

/-- The URL in its usual form.  Without an authority, a path that begins with two slashes would be
taken for one, so that it gets a dot before them. -/
def text (a : Address) : List Char :=
  let head := a.scheme ++ [':'] ++
    match a.authority, a.path with
    | some x, _ => ['/', '/'] ++ authorityText x
    | none, .segments ([] :: _ :: _) => ['/', '.']
    | none, _ => []
  head ++ pathText a.path ++
    ((a.query.map ('?' :: ·)).getD []) ++ ((a.fragment.map ('#' :: ·)).getD [])

/-! ## Reading -/

/-- Characters that are dropped at both ends of the text. -/
def isMargin (c : Char) : Bool := c.toNat ≤ 0x20

/-- Characters that are dropped everywhere. -/
def isDropped (c : Char) : Bool := c == '\t' || c == '\n' || c == '\r'

/-- The text that is looked at. -/
def cleaned (text : String) : List Char :=
  ((text.toList.dropWhile isMargin).reverse.dropWhile isMargin).reverse.filter (!isDropped ·)

/-- The scheme in small letters, and the text after the colon. -/
def scheme? (cs : List Char) : Option (List Char × List Char) :=
  let name := cs.takeWhile fun c => c.isAlphanum || c == '+' || c == '-' || c == '.'
  match name.head?, cs.drop name.length with
  | some first, ':' :: rest => if first.isAlpha then some (name.map Char.toLower, rest) else none
  | _, _ => none

/-- The schemes of the web, with their usual ports. -/
def webSchemes : List (String × Nat) :=
  [("http", 80), ("https", 443), ("ws", 80), ("wss", 443), ("ftp", 21)]

/-- The kind of a scheme. -/
def kindOf (scheme : List Char) : SchemeKind :=
  if webSchemes.any (·.1.toList == scheme) then .web
  else if scheme == "file".toList then .file
  else .other

/-- The usual port of a scheme. -/
def usualPort? (scheme : List Char) : Option Nat :=
  (webSchemes.find? (·.1.toList == scheme)).map (·.2)

/-- The character is one of those between the parts of a URL. -/
def isDivider (k : SchemeKind) (c : Char) : Bool :=
  c == '/' || c == '?' || c == '#' || (k.takesBackslash && c == '\\')

/-- Name and password as they are written: a colon stays only before a password. -/
def userText (cs : List Char) : List Char :=
  let name := cs.takeWhile (· != ':')
  let password := cs.drop (name.length + 1)
  percentEncoded isEscapedInUser name ++
    if password.isEmpty then [] else ':' :: percentEncoded isEscapedInUser password

/-- Name and password as they are written, and the text after them.  They end at the last `@`; an
`@` with nothing before it needs something after it. -/
def splitUser (k : SchemeKind) (cs : List Char) :
    Except AddressFault (List Char × List Char) :=
  let part := cs.takeWhile (!isDivider k ·)
  let behind := (part.reverse.takeWhile (· != '@')).length
  if behind == part.length then .ok ([], cs)
  else
    let user := part.take (part.length - behind - 1)
    let rest := cs.drop (part.length - behind)
    if user.isEmpty && rest.head?.any (isDivider k) then .error .emptyHost
    else .ok (userText user, rest)

/-- How many characters the host takes: up to a divider, or a colon outside brackets. -/
def hostLength (k : SchemeKind) (cs : List Char) : Nat :=
  (cs.foldl
    (fun (count, inBrackets, isOver) c =>
      if isOver || isDivider k c || (c == ':' && !inBrackets) then (count, inBrackets, true)
      else (count + 1, c == '[' || (inBrackets && c != ']'), false))
    (0, false, false)).1

/-- The number that decimal digits denote, as far as it is a port; anything greater counts as the
first number that is none. -/
def portNumber (digits : List Char) : Nat :=
  digits.foldl (fun n c => min 65536 (n * 10 + (digitValue? c).getD 0)) 0

/-- The port, if it is not the usual one, and the text after it. -/
def splitPort (scheme cs : List Char) : Except AddressFault (Option Nat × List Char) :=
  match cs with
  | ':' :: rest =>
    let digits := rest.takeWhile Char.isDigit
    let rest := rest.drop digits.length
    let port := portNumber digits
    if 65535 < port then .error .badPort
    else if !rest.isEmpty && !rest.head?.any (isDivider .web) then .error .badPort
    else .ok (if digits.isEmpty || usualPort? scheme == some port then none else some port, rest)
  | cs => .ok (none, cs)

/-- The authority that a text begins with, and what follows it. -/
def splitAuthority (scheme cs : List Char) : Except AddressFault (Authority × List Char) := do
  let k := kindOf scheme
  let (user, rest) ← splitUser k cs
  let length := hostLength k rest
  let hostText := rest.take length
  let rest := rest.drop length
  if hostText.isEmpty && k == .web then throw .emptyHost
  let host ← if k == .other then Host.ofUnknown hostText else Host.ofText hostText
  if host == .empty && rest.head? == some ':' then throw .emptyHost
  let (port, rest) ← splitPort scheme rest
  if host == .empty && !user.isEmpty then throw .emptyHost
  return (⟨user, host, port⟩, rest)

/-- The path, the query and the fragment, each without its mark. -/
def splitEnd (cs : List Char) : List Char × Option (List Char) × Option (List Char) :=
  let behind := cs.dropWhile (· != '#')
  let before := cs.takeWhile (· != '#')
  let query := before.dropWhile (· != '?')
  (before.takeWhile (· != '?'), query.tail?, behind.tail?)

/-- The address with what follows the authority. -/
def withEnd (scheme : List Char) (authority : Option Authority) (path : AddressPath)
    (query fragment : Option (List Char)) : Address :=
  { scheme
    authority
    path
    query := query.map (percentEncoded (isEscapedInQuery (kindOf scheme != .other)))
    fragment := fragment.map (percentEncoded isEscapedInFragment) }

/-- A path without the slash it may begin with. -/
def withoutSlash (k : SchemeKind) (cs : List Char) : List Char :=
  match cs with
  | c :: rest => if c == '/' || (k.takesBackslash && c == '\\') then rest else c :: rest
  | [] => []

/-- The path after an authority; it may be missing where no host is needed. -/
def pathAfter (k : SchemeKind) (cs : List Char) : AddressPath :=
  if k == .other && cs.isEmpty then .segments []
  else .segments ((walked k (withoutSlash k cs)).toSegments k)

/-- Reads the rest of an address that names an authority. -/
def ofAuthority (scheme cs : List Char) : Except AddressFault Address := do
  let (authority, rest) ← splitAuthority scheme cs
  let (path, query, fragment) := splitEnd rest
  return withEnd scheme (some authority) (pathAfter (kindOf scheme) path) query fragment

/-- Reads the rest of an address of a file.  A file on this machine has no host, and neither has one
on a drive. -/
def ofFile (scheme cs : List Char) : Except AddressFault Address := do
  let isSlash c := c == '/' || c == '\\'
  let named := (cs.take 2).length == 2 && (cs.take 2).all isSlash
  let hostText := if named then (cs.drop 2).takeWhile (!isDivider .file ·) else []
  let host ←
    if hostText.isEmpty || isDrive hostText then pure Host.empty
    else
      (Host.ofText hostText).map fun h => if h == .name "localhost".toList then .empty else h
  let rest :=
    if !named then cs
    else if isDrive hostText then cs.drop 2
    else cs.drop (2 + hostText.length)
  let (path, query, fragment) := splitEnd rest
  let w := walked .file (withoutSlash .file path)
  return withEnd scheme (some ⟨[], if w.hasDrive then .empty else host, none⟩)
    (.segments (w.toSegments .file)) query fragment

/-- Reads the rest of an address without authority: segments after a slash, or any text. -/
def ofPlain (scheme cs : List Char) : Address :=
  let (path, query, fragment) := splitEnd cs
  let path :=
    match path with
    | '/' :: rest => .segments ((walked .other rest).toSegments .other)
    | path => .whole (percentEncoded isUnprintable path)
  withEnd scheme none path query fragment

/-- The address that a text gives. -/
def ofText (text : String) : Except AddressFault Address :=
  match scheme? (cleaned text) with
  | none => .error .relative
  | some (scheme, rest) =>
    match kindOf scheme with
    | .web => ofAuthority scheme (rest.dropWhile fun c => c == '/' || c == '\\')
    | .file => ofFile scheme rest
    | .other =>
      match rest with
      | '/' :: '/' :: rest => ofAuthority scheme rest
      | rest => .ok (ofPlain scheme rest)

end Address

end CandleFeed
