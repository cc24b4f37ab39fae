import CandleFeed.Json.Basic

/-!
# Typed records from JSON values

A record is an object whose members carry the names of its fields, or an array of the fields in
their order.  **`Json.fields`** lays out either form as one optional value a field, so that what
a field makes of its value, or of its absence, is said field by field.

In the object form a member with an unknown name is passed over and a known name twice is an
error.  In the array form only fields at the end may be missing, and only as many as the record
allows.
-/

namespace CandleFeed.Json

/-- The value of each named field, from an object or from an array that leaves out at most
`tail` fields; none when the value is no such record. -/
def fields (names : List String) (tail : Nat) : Json → Option (List (Option Json))
  | .obj ms =>
    let values := names.map fun n => ms.filterMap fun m => if m.1 == n then some m.2 else none
    if values.any fun vs => 1 < vs.length then none else some (values.map List.head?)
  | .arr xs =>
    if xs.length ≤ names.length && names.length ≤ xs.length + tail then
      some (xs.map some ++ List.replicate (names.length - xs.length) none)
    else none
  | _ => none

/-- A field that has to be there. -/
def required (read : Json → Option α) (v : Option Json) : Option α := v.bind read

/-- A field that may be missing or null. -/
def optional (read : Json → Option α) : Option Json → Option (Option α)
  | none => some none
  | some .null => some none
  | some v => (read v).map some

/-- A field that may be missing, but is not null. -/
def defaulting (default : α) (read : Json → Option α) : Option Json → Option α
  | none => some default
  | some v => read v

end CandleFeed.Json
