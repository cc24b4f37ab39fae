import CandleFeed.Json.Record
import CandleFeed.Yaml.Node

/-!
# Notations for settings

Settings may be written as JSON or as YAML, and what a setting is read from differs in detail.  A
**`Format`** says how a notation writes each kind of setting; the settings themselves are then read
alike from any of them.  **`Format.json`** is strict about kinds.  **`Format.yaml`** takes the text
of any scalar as a text and an absent value as an empty list or as a record that says nothing; it
goes by tags where a value may be none or is one of some names, and takes numbers and truth values
only if they are written plainly, or as a literal block with the tag of their kind.
-/

namespace CandleFeed

/-- How a notation with values `ν` writes settings. -/
structure Format (ν : Type) where
  /-- The fields of a record, any of which may be missing. -/
  fields : List String → ν → Option (List (Option ν))
  /-- A text. -/
  text : ν → Option String
  /-- A text, or the word for none. -/
  optionalText : ν → Option (Option String)
  /-- A whole number of 64 bits without a sign. -/
  number : ν → Option Nat
  /-- A truth value. -/
  truth : ν → Option Bool
  /-- A list. -/
  items : ν → Option (List ν)
  /-- One of some names. -/
  name : ν → Option String

namespace Yaml.Node

/-- The tag of a kind that the notation itself knows. -/
def standardTag (kind : String) : List UInt8 := ("tag:yaml.org,2002:" ++ kind).toUTF8.toList

/-- The text of a scalar. -/
def text? : Node → Option String
  | .scalar _ _ text => some text
  | _ => none

/-- The text of a scalar that may be of a kind other than text. -/
def bareText? (kind : String) : Node → Option String
  | .scalar _ .plain text => some text
  | .scalar (some tag) .literal text => if tag == standardTag kind then some text else none
  | _ => none

/-- Nothing stands there. -/
def isAbsent : Node → Bool
  | .scalar _ .plain text => text.isEmpty
  | _ => false

/-- The text is a word for none. -/
def isNoneWord (text : String) : Bool := ["null", "Null", "NULL", "~"].contains text

/-- A text, or none.  Without a tag an absent value and the words for none are none; with the tag of
none only the words may stand there, and with any other tag there is a text. -/
def optionalText? : Node → Option (Option String)
  | .scalar none .plain text => some (if text.isEmpty || isNoneWord text then none else text)
  | .scalar (some tag) .plain text =>
    if tag != standardTag "null" then some (some text)
    else if isNoneWord text then some none
    else none
  | v => v.text?.map some

/-- The name that a tag of the document's own stands for. -/
def localName? (tag : List UInt8) : Option String :=
  match tag with
  | 0x21 :: name => String.fromUTF8? ⟨name.toArray⟩
  | _ => none

/-- One of some names: a tag of the document's own with nothing behind it, or else a text. -/
def name? : Node → Option String
  | .scalar tag style text =>
    match tag.bind localName? with
    | some name => if style == .plain && (text.isEmpty || isNoneWord text) then some name else none
    | none => some text
  | _ => none

/-- The number that digits of a base denote, if there are any. -/
def digits? (base : Nat) (cs : List Char) : Option Nat :=
  if cs.isEmpty then none else Text.numberIn? base cs

/-- A number: decimal without needless zeros, or with `0x`, `0o` or `0b` before its digits; a plus
sign may stand first. -/
def number? (v : Node) : Option Nat := do
  let text ← v.bareText? "int"
  let cs := match text.toList with
    | '+' :: rest => rest
    | cs => cs
  let n ← match cs with
    | '0' :: 'x' :: rest => digits? 16 rest
    | '0' :: 'o' :: rest => digits? 8 rest
    | '0' :: 'b' :: rest => digits? 2 rest
    | '0' :: _ :: _ => none
    | cs => digits? 10 cs
  if n < Nat.pow 2 64 then some n else none

/-- A truth value. -/
def truth? (v : Node) : Option Bool := do
  let text ← v.bareText? "bool"
  if ["true", "True", "TRUE"].contains text then some true
  else if ["false", "False", "FALSE"].contains text then some false
  else none

/-- The items of a list; an absent value is an empty list. -/
def items? : Node → Option (List Node)
  | .list items => some items
  | v => if v.isAbsent then some [] else none

/-- The entries of a map; an absent value has none. -/
def entries? : Node → Option (List (Node × Node))
  | .map entries => some entries
  | v => if v.isAbsent then some [] else none

end Yaml.Node

namespace Yaml.Document

/-- The fields of a record, which is a map whose keys are texts. -/
def fields? (d : Document) (names : List String) (v : Node) : Option (List (Option Node)) := do
  let entries ← (d.resolve v).entries?
  let named ← entries.mapM fun (k, v) => (d.resolve k).text?.map fun k => (k, v)
  let values := names.map fun n => named.filterMap fun (k, v) => if k == n then some v else none
  if values.any fun vs => 1 < vs.length then none else some (values.map List.head?)

end Yaml.Document

namespace Format

/-- Settings in JSON. -/
def json : Format Json where
  fields names v := Json.fields names names.length v
  text := Json.text?
  optionalText
    | .null => some none
    | v => v.text?.map some
  number := Json.nat?
  truth := Json.bool?
  items := Json.items?
  name := Json.name?

/-- Settings in a YAML document. -/
def yaml (d : Yaml.Document) : Format Yaml.Node where
  fields := d.fields?
  text v := (d.resolve v).text?
  optionalText v := (d.resolve v).optionalText?
  number v := (d.resolve v).number?
  truth v := (d.resolve v).truth?
  items v := (d.resolve v).items?
  name v := (d.resolve v).name?

/-- The items of a list, each read in the same way. -/
def list {ν α : Type} (f : Format ν) (read : ν → Option α) (v : ν) : Option (List α) :=
  (f.items v).bind fun vs => vs.mapM read

end Format

end CandleFeed
