/-!
# Tables

A **`Table`** maps keys to values and keeps its keys in the order in which they came.  No key
occurs twice, and the type says so.  `get?` looks a key up, `insert` gives a key its value, in its
old place if it has one, and `erase` takes a key away; **`get?_insert`** and **`get?_erase`** say
what a look-up finds afterwards, `contains_insert` and `contains_erase` whether it finds anything.
-/

namespace CandleFeed

/-- A map with its keys in order of arrival. -/
structure Table (κ α : Type) [DecidableEq κ] where
  /-- The keys with their values. -/
  entries : List (κ × α)
  nodup : (entries.map Prod.fst).Nodup

namespace Table

variable {κ α : Type} [DecidableEq κ]

/-- The table without entries. -/
def empty : Table κ α := ⟨[], List.nodup_nil⟩

instance : Inhabited (Table κ α) := ⟨empty⟩

/-- The value of a key in a list of entries. -/
def lookup (k : κ) : List (κ × α) → Option α
  | [] => none
  | (k', a) :: rest => if k' = k then some a else lookup k rest

/-- The entries with a new value for a key. -/
def put (k : κ) (a : α) : List (κ × α) → List (κ × α)
  | [] => [(k, a)]
  | (k', a') :: rest => if k' = k then (k, a) :: rest else (k', a') :: put k a rest

theorem keys_put (k : κ) (a : α) (es : List (κ × α)) :
    (put k a es).map Prod.fst =
      if k ∈ es.map Prod.fst then es.map Prod.fst else es.map Prod.fst ++ [k] := by
  induction es with
  | nil => simp [put]
  | cons e rest ih =>
    obtain ⟨k', a'⟩ := e
    by_cases h : k' = k
    · simp [put, h]
    · have h' : ¬ k = k' := fun e => h e.symm
      simp only [put, h, if_false, List.map_cons, ih, List.mem_cons, h', false_or]
      split <;> simp

/-- The value of a key. -/
def get? (t : Table κ α) (k : κ) : Option α := lookup k t.entries

/-- The table with a value for a key. -/
def insert (t : Table κ α) (k : κ) (a : α) : Table κ α where
  entries := put k a t.entries
  nodup := by
    rw [keys_put]
    split
    · exact t.nodup
    · rename_i h
      exact List.nodup_append.2 ⟨t.nodup, by simp, by
        intro x hx y hy
        simp at hy
        exact fun e => h (hy ▸ e ▸ hx)⟩

/-- The entries that pass a test. -/
def filter (t : Table κ α) (keep : κ → α → Bool) : Table κ α where
  entries := t.entries.filter fun e => keep e.1 e.2
  nodup := (List.filter_sublist.map Prod.fst).nodup t.nodup

/-- The table without a key. -/
def erase (t : Table κ α) (k : κ) : Table κ α := t.filter fun k' _ => k' ≠ k

/-- The keys. -/
def keys (t : Table κ α) : List κ := t.entries.map Prod.fst

/-- The number of keys. -/
def size (t : Table κ α) : Nat := t.entries.length

/-- There are no keys. -/
def isEmpty (t : Table κ α) : Bool := t.entries.isEmpty

/-- The key has a value. -/
def contains (t : Table κ α) (k : κ) : Bool := (t.get? k).isSome

theorem get?_empty (k : κ) : (empty : Table κ α).get? k = none := rfl

theorem lookup_put (k k' : κ) (a : α) (es : List (κ × α)) :
    lookup k' (put k a es) = if k = k' then some a else lookup k' es := by
  induction es with
  | nil => simp [put, lookup]
  | cons e rest ih =>
    obtain ⟨j, b⟩ := e
    by_cases h : j = k
    · subst h; simp only [put, if_true, lookup]; split <;> rfl
    · by_cases hj : j = k'
      · subst hj
        have hk : ¬ k = j := fun e => h e.symm
        simp [put, lookup, h, hk]
      · simp [put, lookup, h, hj, ih]

theorem get?_insert (t : Table κ α) (k k' : κ) (a : α) :
    (t.insert k a).get? k' = if k = k' then some a else t.get? k' := lookup_put k k' a t.entries

theorem lookup_filter_ne (k k' : κ) (es : List (κ × α)) :
    lookup k' (es.filter fun e => decide (e.1 ≠ k)) = if k = k' then none else lookup k' es := by
  induction es with
  | nil => simp [lookup]
  | cons e rest ih =>
    obtain ⟨j, b⟩ := e
    by_cases h : j = k
    · subst h
      by_cases hj : j = k'
      · simpa [lookup, hj] using ih
      · simpa [lookup, hj] using ih
    · by_cases hj : j = k'
      · subst hj
        have hk : ¬ k = j := fun e => h e.symm
        simp [lookup, h, hk]
      · simpa [lookup, h, hj] using ih

theorem get?_erase (t : Table κ α) (k k' : κ) :
    (t.erase k).get? k' = if k = k' then none else t.get? k' := lookup_filter_ne k k' t.entries

theorem contains_insert (t : Table κ α) (k k' : κ) (a : α) :
    (t.insert k a).contains k' = true ↔ k = k' ∨ t.contains k' = true := by
  rw [contains, get?_insert, contains]
  split <;> simp [*]

theorem contains_erase (t : Table κ α) (k k' : κ) :
    (t.erase k).contains k' = true ↔ k ≠ k' ∧ t.contains k' = true := by
  rw [contains, get?_erase, contains]
  split <;> simp [*]

end Table

end CandleFeed
