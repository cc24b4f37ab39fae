import CandleFeed.Address.Percent
import CandleFeed.Text.Fields

/-!
# Paths of addresses

A path is a list of segments.  The segments `.` and `..` mean the place one is at and the one above
it, and **`segmentsOf`** carries them out.  In paths of files, a segment such as `C:` names a drive,
which cannot be left upwards.
-/

namespace CandleFeed.Address

open CandleFeed.Text

/-- The kinds of schemes, by how the rest of a URL is read. -/
inductive SchemeKind where
  /-- A scheme of the web, whose URLs always name a host. -/
  | web
  /-- The scheme of files. -/
  | file
  /-- Any other. -/
  | other
deriving DecidableEq, Repr

/-- The backslash counts as a slash. -/
def SchemeKind.takesBackslash (k : SchemeKind) : Bool := k != .other

/-- The segment means the place one is at. -/
def isHere (segment : List Char) : Bool :=
  [".", "%2e"].contains (String.ofList (segment.map Char.toLower))

/-- The segment means the place above. -/
def isAbove (segment : List Char) : Bool :=
  ["..", ".%2e", "%2e.", "%2e%2e"].contains (String.ofList (segment.map Char.toLower))

/-- The segment names a drive. -/
def isDrive : List Char → Bool
  | [c, d] => c.isAlpha && (d == ':' || d == '|')
  | _ => false

/-- The segments as far as they have been carried out. -/
structure Walk where
  /-- The segments, newest first. -/
  segments : List (List Char)
  /-- The path begins with a drive. -/
  hasDrive : Bool

namespace Walk

/-- Goes to the place above, if there is one; a drive is not left. -/
def up (k : SchemeKind) (w : Walk) : Walk :=
  match w.segments with
  | [] => w
  | s :: rest => if k == .file && isDrive s then w else { w with segments := rest }

/-- Carries out one segment; the last one leaves a segment in any case. -/
def push (k : SchemeKind) (w : Walk) (segment : List Char) (isLast : Bool) : Walk :=
  let stay (w : Walk) : Walk := if isLast then { w with segments := [] :: w.segments } else w
  if isAbove segment then stay (w.up k)
  else if isHere segment then stay w
  else if k == .file && w.segments.isEmpty && isDrive segment then
    ⟨[segment.take 1 ++ [':']], true⟩
  else { w with segments := segment :: w.segments }

end Walk

/-- The segments of a path that is given without its first slash. -/
def walked (k : SchemeKind) (cs : List Char) : Walk :=
  let cs := if k.takesBackslash then cs.map fun c => if c == '\\' then '/' else c else cs
  let parts := (fields '/' cs).map (percentEncoded isEscapedInPath)
  let w : Walk := parts.dropLast.foldl (fun w s => Walk.push k w s false) ⟨[], false⟩
  w.push k (parts.getLastD []) true

/-- The segments without empty ones before the first other, but for the last. -/
def withoutEmptyHead : List (List Char) → List (List Char)
  | [] :: s :: rest => withoutEmptyHead (s :: rest)
  | segments => segments

/-- The segments of a path in order. -/
def Walk.toSegments (k : SchemeKind) (w : Walk) : List (List Char) :=
  if k == .file then withoutEmptyHead w.segments.reverse else w.segments.reverse

end CandleFeed.Address
