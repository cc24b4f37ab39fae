import CandleFeed.Yaml.Token

/-!
# Values of a YAML text

A **`Node`** is a value as it is written: a scalar, a list, or a map whose keys are nodes too.
**`Document.ofText?`** reads the only document of a text.  Where a value may stand and none does,
there is an empty plain scalar.

A value can be given a name, and a reference to the name stands for the value.  Names are numbered
when they are given: with the number of different names that the document has had so far, whether
the name is among them or not.  So a name that is given again, and a new one after it, can get the
same number.  **`Document.resolve`** finds the value of a reference: the last one with its number,
wherever in the document it stands, even around the reference or behind it.

Reading goes over the tokens of the text.  Each reader yields its value and the tokens after it;
the names given so far go along.
-/

namespace CandleFeed.Yaml

/-- A value as it is written. -/
inductive Node where
  /-- A text with its tag, if it has one. -/
  | scalar (tag : Option (List UInt8)) (style : Style) (text : String)
  | list (items : List Node)
  | map (entries : List (Node × Node))
  /-- A value with the number of its name. -/
  | named (number : Nat) (value : Node)
  /-- The value whose name has the number. -/
  | reference (number : Nat)

namespace Node

/-- The value where none stands. -/
def absent : Node := .scalar none .plain ""

mutual

/-- The values with a number in a value, from its start to its end. -/
def numbered : Node → List (Nat × Node)
  | .scalar _ _ _ => []
  | .list items => numberedItems items
  | .map entries => numberedEntries entries
  | .named n v => (n, v) :: numbered v
  | .reference _ => []

/-- The values with a number in the items of a list. -/
def numberedItems : List Node → List (Nat × Node)
  | [] => []
  | v :: vs => numbered v ++ numberedItems vs

/-- The values with a number in the entries of a map. -/
def numberedEntries : List (Node × Node) → List (Nat × Node)
  | [] => []
  | (k, v) :: es => numbered k ++ (numbered v ++ numberedEntries es)

end

/-- The different names so far, each with its latest number. -/
abbrev Names := List (String × Nat)

/-- The names once a name is given, and its number. -/
def Names.give (names : Names) (name : String) : Names × Nat :=
  ((name, names.length) :: names.filter (·.1 != name), names.length)

/-- What a reader yields: its result, the names, and the tokens after it. -/
abbrev Read (α : Type) := Option (α × Names × List Token)

/-- What stands before a value. -/
structure Properties where
  /-- The name that the value gets. -/
  name : Option String
  /-- The tag of the value. -/
  tag : Option (List UInt8)
  /-- What follows. -/
  rest : List Token

namespace Properties

/-- The properties that a text goes on with. -/
def ofTokens : List Token → Properties
  | .anchor n :: .tag _ t :: ts => ⟨some n, some t, ts⟩
  | .tag _ t :: .anchor n :: ts => ⟨some n, some t, ts⟩
  | .anchor n :: ts => ⟨some n, none, ts⟩
  | .tag _ t :: ts => ⟨none, some t, ts⟩
  | ts => ⟨none, none, ts⟩

/-- There are any. -/
def any (p : Properties) : Bool := p.name.isSome || p.tag.isSome

end Properties

/-- An item or entry of a block ends before the token. -/
def endsInBlock : Token → Bool
  | .item => true
  | .key => true
  | .value => true
  | .blockEnd => true
  | _ => false

/-- A key or value of a block map ends before the token. -/
def endsEntry : Token → Bool
  | .key => true
  | .value => true
  | .blockEnd => true
  | _ => false

/-- An item of a block list ends before the token. -/
def endsItem : Token → Bool
  | .item => true
  | .blockEnd => true
  | _ => false

/-- A value within brackets ends before the token. -/
def endsInFlow (close : Token) (t : Token) : Bool := t == .comma || t == close

mutual

/-- A value.  Within a block it may be a block itself; as the value of an entry it may be a list
that is not further in.  A name or a tag may stand alone. -/
def value (fuel : Nat) (inBlock sameIndent : Bool) (names : Names) (ts : List Token) : Read Node :=
  match fuel with
  | 0 => none
  | fuel + 1 =>
    match ts with
    | .reference n :: rest => (names.lookup n).map fun k => (.reference k, names, rest)
    | ts =>
      let p := Properties.ofTokens ts
      match p.name with
      | none => content fuel inBlock sameIndent p names
      | some n =>
        let (names, k) := Names.give names n
        (content fuel inBlock sameIndent p names).map fun (v, names, rest) =>
          (.named k v, names, rest)

/-- What follows the properties of a value. -/
def content (fuel : Nat) (inBlock sameIndent : Bool) (p : Properties) (names : Names) :
    Read Node :=
  match fuel with
  | 0 => none
  | fuel + 1 =>
    let nothing : Read Node :=
      if p.any then some (.scalar p.tag .plain "", names, p.rest) else none
    match p.rest with
    | .item :: _ => if sameIndent then looseItems fuel names p.rest [] else nothing
    | .scalar style text :: rest => some (.scalar p.tag style text, names, rest)
    | .flowListStart :: rest => flowItems fuel true names rest []
    | .flowMapStart :: rest => flowEntries fuel true names rest []
    | .blockListStart :: rest => if inBlock then blockItems fuel names rest [] else nothing
    | .blockMapStart :: rest => if inBlock then blockEntries fuel names rest [] else nothing
    | _ => nothing

/-- A value, unless the next token ends its place. -/
def optionalValue (fuel : Nat) (inBlock sameIndent : Bool) (ends : Token → Bool) (names : Names)
    (ts : List Token) : Read Node :=
  match fuel with
  | 0 => none
  | fuel + 1 =>
    match ts with
    | [] => none
    | t :: _ => if ends t then some (absent, names, ts) else value fuel inBlock sameIndent names ts

/-- The items of a block list. -/
def blockItems (fuel : Nat) (names : Names) (ts : List Token) (done : List Node) : Read Node :=
  match fuel with
  | 0 => none
  | fuel + 1 =>
    match ts with
    | .blockEnd :: rest => some (.list done.reverse, names, rest)
    | .item :: rest =>
      (optionalValue fuel true false endsItem names rest).bind fun (v, names, rest) =>
        blockItems fuel names rest (v :: done)
    | _ => none

/-- The items of a list that is not further in than the map around it. -/
def looseItems (fuel : Nat) (names : Names) (ts : List Token) (done : List Node) : Read Node :=
  match fuel with
  | 0 => none
  | fuel + 1 =>
    match ts with
    | .item :: rest =>
      (optionalValue fuel true false endsInBlock names rest).bind fun (v, names, rest) =>
        looseItems fuel names rest (v :: done)
    | _ => some (.list done.reverse, names, ts)

/-- The entries of a block map. -/
def blockEntries (fuel : Nat) (names : Names) (ts : List Token) (done : List (Node × Node)) :
    Read Node :=
  match fuel with
  | 0 => none
  | fuel + 1 =>
    match ts with
    | .blockEnd :: rest => some (.map done.reverse, names, rest)
    | .key :: rest =>
      (optionalValue fuel true true endsEntry names rest).bind fun (k, names, rest) =>
        match rest with
        | .value :: rest =>
          (optionalValue fuel true true endsEntry names rest).bind fun (v, names, rest) =>
            blockEntries fuel names rest ((k, v) :: done)
        | rest => blockEntries fuel names rest ((k, absent) :: done)
    | _ => none

/-- The value of an entry within brackets, after its key. -/
def flowValue (fuel : Nat) (close : Token) (names : Names) (ts : List Token) : Read Node :=
  match fuel with
  | 0 => none
  | fuel + 1 =>
    match ts with
    | .value :: rest => optionalValue fuel false false (endsInFlow close) names rest
    | ts => some (absent, names, ts)

/-- The items of a list in brackets; an entry among them is a map of its own.  The mark that
shows that such an entry has no key is passed over, whatever it is. -/
def flowItems (fuel : Nat) (isFirst : Bool) (names : Names) (ts : List Token) (done : List Node) :
    Read Node :=
  match fuel with
  | 0 => none
  | fuel + 1 =>
    let entry (k : Node) (names : Names) (ts : List Token) : Read Node :=
      (flowValue fuel .flowListEnd names ts).bind fun (v, names, rest) =>
        flowItems fuel false names rest (.map [(k, v)] :: done)
    let item (ts : List Token) : Read Node :=
      match ts with
      | .flowListEnd :: rest => some (.list done.reverse, names, rest)
      | .key :: t :: rest =>
        if t == .value || endsInFlow .flowListEnd t then entry absent names rest
        else
          (value fuel false false names (t :: rest)).bind fun (k, names, rest) =>
            entry k names rest
      | ts =>
        (value fuel false false names ts).bind fun (v, names, rest) =>
          flowItems fuel false names rest (v :: done)
    match isFirst, ts with
    | true, ts => item ts
    | false, .comma :: rest => item rest
    | false, .flowListEnd :: rest => some (.list done.reverse, names, rest)
    | false, _ => none

/-- The entries of a map in brackets; a value among them is a key without a value. -/
def flowEntries (fuel : Nat) (isFirst : Bool) (names : Names) (ts : List Token)
    (done : List (Node × Node)) : Read Node :=
  match fuel with
  | 0 => none
  | fuel + 1 =>
    let entry (ts : List Token) : Read Node :=
      match ts with
      | .flowMapEnd :: rest => some (.map done.reverse, names, rest)
      | .key :: rest =>
        (optionalValue fuel false false (fun t => t == .value || endsInFlow .flowMapEnd t) names
            rest).bind fun (k, names, rest) =>
          (flowValue fuel .flowMapEnd names rest).bind fun (v, names, rest) =>
            flowEntries fuel false names rest ((k, v) :: done)
      | ts =>
        (value fuel false false names ts).bind fun (k, names, rest) =>
          flowEntries fuel false names rest ((k, absent) :: done)
    match isFirst, ts with
    | true, ts => entry ts
    | false, .comma :: rest => entry rest
    | false, .flowMapEnd :: rest => some (.map done.reverse, names, rest)
    | false, _ => none

end

end Node

/-- A document that has been read. -/
structure Document where
  /-- Its value. -/
  root : Node
  /-- The values with a number, the last one first. -/
  numbered : List (Nat × Node)

namespace Document

/-- The document with a value. -/
def ofNode (root : Node) : Document := ⟨root, root.numbered.reverse⟩

/-- What a value in the document is: for a reference the value it stands for. -/
def resolve (d : Document) : Node → Node
  | .reference n => (d.numbered.lookup n).getD .absent
  | .named _ v => v
  | v => v

/-- The tokens without the ends of documents that they begin with. -/
def skipEnds (ts : List Token) : List Token := ts.dropWhile (· == .documentEnd)

/-- The instructions before a document, and the tokens after them. -/
def instructions : List Token → List Directive × List Token
  | .directive d :: ts =>
    let (ds, rest) := instructions ts
    (d :: ds, rest)
  | ts => ([], ts)

/-- What the handles of tags stand for that have a meaning without any instruction. -/
def standardHandles : List (String × List UInt8) :=
  [("!", "!".toUTF8.toList), ("!!", "tag:yaml.org,2002:".toUTF8.toList)]

/-- What handles stand for after the instructions: the version, if it is given, is given once and
is 1.1 or 1.2, and no handle is given a meaning twice. -/
def handles? (ds : List Directive) : Option (List (String × List UInt8)) :=
  let versions := ds.filterMap fun d => match d with
    | .version major minor => some (major, minor)
    | _ => none
  let given := ds.filterMap fun d => match d with
    | .handle name start => some (name, start)
    | _ => none
  let names := given.map (·.1)
  if versions.length ≤ 1 && versions.all [(1, 1), (1, 2)].contains && names.eraseDups == names then
    some (given ++ standardHandles)
  else none

/-- The token with its tag in full. -/
def expandTag? (handles : List (String × List UInt8)) : Token → Option Token
  | .tag "" t => some (.tag "" t)
  | .tag h t => (handles.lookup h).map fun start => .tag "" (start ++ t)
  | t => some t

/-- The value of a document, and the tokens after it. -/
def body (ts : List Token) : Option (Node × List Token) :=
  match ts with
  | [] => some (.absent, [])
  | .directive _ :: _ => some (.absent, ts)
  | .documentStart :: _ => some (.absent, ts)
  | .documentEnd :: _ => some (.absent, ts)
  | ts => (Node.value (4 * ts.length + 4) true false [] ts).map fun (v, _, rest) => (v, rest)

/-- The only document of a text.  Without a mark at its start it has no instructions, and begins
with a value unless the text is empty. -/
def ofTokens? (ts : List Token) : Option Document := do
  let (ds, ts) := instructions ts
  let handles ← handles? ds
  let ts ← ts.mapM (expandTag? handles)
  let (v, rest) ← match ts with
    | .documentStart :: rest => body rest
    | .documentEnd :: _ => none
    | ts => if ds.isEmpty then body ts else none
  if (skipEnds rest).isEmpty then some (ofNode v) else none

/-- The only document of a text. -/
def ofText? (text : String) : Option Document := (Token.ofText? text).bind ofTokens?

end Document

end CandleFeed.Yaml
