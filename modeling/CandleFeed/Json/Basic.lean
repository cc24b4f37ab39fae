import CandleFeed.Decimal.Shortest

/-!
# JSON values

The value type that the reader produces, the printer consumes and typed records are read from.

Two choices carry weight elsewhere.  Members of an object stay in the order they were written,
repeats included, because reading a record refuses a repeated field while reading a free-form
value lets the last repeat win.  And **`Json.unreadable`** stands for a value that is well formed
but means nothing — a string with half of a surrogate pair, a number beyond the largest
floating-point value, an object with such a string as a member name: it may be skipped as part
of an unknown field, but not read.
-/

namespace CandleFeed

/-- A JSON value. -/
inductive Json where
  | null
  | bool (b : Bool)
  /-- A whole number that fits 64 bits, signed or unsigned. -/
  | int (n : Int)
  /-- Any other number. -/
  | float (x : Float)
  | str (s : String)
  | arr (items : List Json)
  | obj (members : List (String × Json))
  /-- Well formed, but only to be skipped. -/
  | unreadable

namespace Json

/-- A whole number fits 64 bits, with a sign or without one. -/
def holds64 (n : Int) : Bool := -(Nat.pow 2 63 : Nat) ≤ n && n < (Nat.pow 2 64 : Nat)

/-- A whole number that fits 64 bits as such, any other as the nearest floating-point value. -/
def ofInt (n : Int) : Json :=
  if holds64 n then .int n else .float (Float.ofInt n)

/-- A floating-point value; infinities and NaN have no JSON form and become null. -/
def ofFloat (x : Float) : Json := if x.isFinite then .float x else .null

/-- An optional value, null when absent. -/
def ofOption (f : α → Json) : Option α → Json
  | some a => f a
  | none => .null

/-- The text of a string value. -/
def text? : Json → Option String
  | .str s => some s
  | _ => none

/-- The items of an array. -/
def items? : Json → Option (List Json)
  | .arr xs => some xs
  | _ => none

/-- The members of an object. -/
def members? : Json → Option (List (String × Json))
  | .obj ms => some ms
  | _ => none

/-- The value is null. -/
def isNull : Json → Bool
  | .null => true
  | _ => false

/-- The number as a floating-point value. -/
def float? : Json → Option Float
  | .int n => some (Float.ofInt n)
  | .float x => some x
  | _ => none

/-- The number as an unsigned 64-bit whole number. -/
def nat? : Json → Option Nat
  | .int n => if 0 ≤ n then some n.toNat else none
  | _ => none

/-- The truth value. -/
def bool? : Json → Option Bool
  | .bool b => some b
  | _ => none

/-- The last member called `name`. -/
def member? (name : String) : Json → Option Json
  | .obj ms => (ms.filter (·.1 == name)).getLast?.map (·.2)
  | _ => none

/-- One of a fixed set of names: a string, or an object with the name as its only member and
null as that member's value. -/
def name? : Json → Option String
  | .str s => some s
  | .obj [(s, .null)] => some s
  | _ => none

mutual

/-- The value can be read as it stands and nests arrays and objects at most `depth` deep. -/
def readableWithin : Nat → Json → Bool
  | _, .null => true
  | _, .bool _ => true
  | _, .int _ => true
  | _, .float _ => true
  | _, .str _ => true
  | 0, .arr _ => false
  | depth + 1, .arr xs => readableItems depth xs
  | 0, .obj _ => false
  | depth + 1, .obj ms => readableMembers depth ms
  | _, .unreadable => false

/-- Every item is readable within the depth. -/
def readableItems : Nat → List Json → Bool
  | _, [] => true
  | depth, x :: xs => readableWithin depth x && readableItems depth xs

/-- Every member's value is readable within the depth. -/
def readableMembers : Nat → List (String × Json) → Bool
  | _, [] => true
  | depth, (_, x) :: ms => readableWithin depth x && readableMembers depth ms

end

/-- The members without those that a later member of the same name replaces. -/
def lastMembers (ms : List (String × Json)) : List (String × Json) :=
  ms.foldr (fun m kept => if kept.any (·.1 == m.1) then kept else m :: kept) []

mutual

/-- The free-form value that the text denotes: of repeated members the last one holds. -/
def settle : Json → Json
  | .arr xs => .arr (settleItems xs)
  | .obj ms => .obj (lastMembers (settleMembers ms))
  | v => v

/-- The items, each settled. -/
def settleItems : List Json → List Json
  | [] => []
  | x :: xs => settle x :: settleItems xs

/-- The members, each with its value settled. -/
def settleMembers : List (String × Json) → List (String × Json)
  | [] => []
  | (k, x) :: ms => (k, settle x) :: settleMembers ms

end

end Json

end CandleFeed
