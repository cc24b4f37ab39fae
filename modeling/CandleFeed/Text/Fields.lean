/-!
# Fields of a text

A separator cuts a text into fields, always one more than there are separators.  **`fields`**
gives them in order; **`joined`** puts the separator back between them, so that nothing is lost
(**`joined_fields`**).  Fields in which the separator does not occur can be joined and had again
(**`fields_joined`**).
-/

namespace CandleFeed.Text

/-- The fields of a text between the separators. -/
def fields (separator : Char) (cs : List Char) : List (List Char) :=
  cs.foldr
    (fun c parts =>
      if c == separator then [] :: parts
      else match parts with
        | p :: rest => (c :: p) :: rest
        | [] => [[c]])
    [[]]

/-- The fields as one text, with the separator between them. -/
def joined (separator : Char) : List (List Char) → List Char
  | [] => []
  | [p] => p
  | p :: rest => p ++ separator :: joined separator rest

/-- There is at least one field. -/
theorem fields_ne_nil (separator : Char) (cs : List Char) : fields separator cs ≠ [] := by
  cases cs with
  | nil => simp [fields]
  | cons c rest =>
    simp only [fields, List.foldr_cons]
    split
    · simp
    · split <;> simp

/-- A separator begins a field, and any other character goes to the field that follows it. -/
theorem fields_cons (separator c : Char) (cs : List Char) :
    fields separator (c :: cs) =
      if c == separator then [] :: fields separator cs
      else (fields separator cs).modifyHead (c :: ·) := by
  change (if c == separator then [] :: fields separator cs
    else match fields separator cs with
      | p :: rest => (c :: p) :: rest
      | [] => [[c]]) = _
  cases hparts : fields separator cs with
  | nil => exact absurd hparts (fields_ne_nil separator cs)
  | cons part parts => rfl

/-- The fields are the pieces of a list between its separators. -/
theorem fields_eq_splitOn (separator : Char) (cs : List Char) :
    fields separator cs = cs.splitOn separator := by
  induction cs with
  | nil => rfl
  | cons c cs ih => rw [fields_cons, ih, List.splitOn_cons_eq_if_modifyHead]

/-- Joining is putting the separator between the pieces of a list. -/
theorem joined_eq_intercalate (separator : Char) (parts : List (List Char)) :
    joined separator parts = [separator].intercalate parts := by
  induction parts with
  | nil => rfl
  | cons part parts ih =>
    cases parts with
    | nil => rw [joined, List.intercalate_singleton]
    | cons next parts =>
      have hnext : next :: parts ≠ [] := List.cons_ne_nil next parts
      rw [joined, ih, List.intercalate_cons_cons, List.append_assoc, List.singleton_append]
      exact hnext

/-- Joining the fields of a text gives it back. -/
theorem joined_fields (separator : Char) (cs : List Char) :
    joined separator (fields separator cs) = cs := by
  rw [joined_eq_intercalate, fields_eq_splitOn, List.intercalate_splitOn]

/-- Fields without a separator are those of the text that they are joined to. -/
theorem fields_joined {separator : Char} {parts : List (List Char)} (hne : parts ≠ [])
    (hnone : ∀ part ∈ parts, separator ∉ part) :
    fields separator (joined separator parts) = parts := by
  rw [joined_eq_intercalate, fields_eq_splitOn]
  exact List.splitOn_intercalate separator hnone hne

/-- A text without a separator is its only field. -/
theorem fields_of_not_mem {separator : Char} {cs : List Char} (hnone : separator ∉ cs) :
    fields separator cs = [cs] := by
  rw [fields_eq_splitOn]
  exact List.splitOn_eq_singleton hnone

end CandleFeed.Text
