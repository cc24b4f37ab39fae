import CandleFeed.Storage.Table

/-!
# Keys of a table

A key of a **`Table`** is one that a look-up finds (`Table.mem_keys_iff`), and the keys are listed
once each (`Table.keys_nodup`), so that what a look-up finds are the entries
(`Table.get?_eq_some_iff`).  Over such a list, **`filter_flatMap_key`** takes apart what was put
together key by key.
-/

namespace CandleFeed

namespace Table

variable {κ α : Type} [DecidableEq κ]

/-- The keys of a table are listed once each. -/
theorem keys_nodup (t : Table κ α) : t.keys.Nodup := t.nodup

/-- A key is listed in a list of entries exactly when a look-up there finds it. -/
theorem mem_map_fst_iff_lookup (k : κ) (es : List (κ × α)) :
    k ∈ es.map Prod.fst ↔ (lookup k es).isSome := by
  induction es with
  | nil => simp [lookup]
  | cons e rest ih =>
    obtain ⟨k', a⟩ := e
    by_cases h : k' = k
    · simp [lookup, h]
    · have h' : ¬ k = k' := fun e => h e.symm
      rw [List.map_cons, List.mem_cons, ih]
      simp [lookup, h, h']

/-- The keys of a table are those that a look-up finds. -/
theorem mem_keys_iff (t : Table κ α) (k : κ) : k ∈ t.keys ↔ (t.get? k).isSome :=
  mem_map_fst_iff_lookup k t.entries

/-- A look-up in a list of entries with distinct keys finds the entries of the list. -/
theorem lookup_eq_some_iff {k : κ} {a : α} {es : List (κ × α)} (hes : (es.map Prod.fst).Nodup) :
    lookup k es = some a ↔ (k, a) ∈ es := by
  induction es with
  | nil => simp [lookup]
  | cons e rest ih =>
    obtain ⟨k', a'⟩ := e
    obtain ⟨hk', hrest⟩ := List.nodup_cons.mp hes
    by_cases h : k' = k
    · subst h
      have hnot : (k', a) ∉ rest := fun hmem =>
        hk' (List.mem_map.mpr ⟨_, hmem, rfl⟩)
      simp [lookup, hnot, eq_comm]
    · have h' : ¬ k = k' := fun heq => h heq.symm
      simp [lookup, h, h', ih hrest]

/-- A look-up finds the entries of a table. -/
theorem get?_eq_some_iff {t : Table κ α} {k : κ} {a : α} :
    t.get? k = some a ↔ (k, a) ∈ t.entries := lookup_eq_some_iff t.nodup

/-- Among the entries that pass a test, a look-up finds those that it found before. -/
theorem get?_filter_eq_some_iff {t : Table κ α} {keep : κ → α → Bool} {k : κ} {a : α} :
    (t.filter keep).get? k = some a ↔ t.get? k = some a ∧ keep k a = true := by
  rw [get?_eq_some_iff, get?_eq_some_iff]
  exact List.mem_filter

end Table

/-- Of what is put together key by key over distinct keys, the part that belongs to one key is what
was put in for it. -/
theorem filter_flatMap_key {κ β : Type} [DecidableEq κ] {ks : List κ} (hks : ks.Nodup)
    (f : κ → List β) (key : β → κ) (hkey : ∀ k, ∀ b ∈ f k, key b = k) (k : κ) :
    (ks.flatMap f).filter (fun b => key b = k) = if k ∈ ks then f k else [] := by
  induction ks with
  | nil => rfl
  | cons j rest ih =>
    obtain ⟨hj, hrest⟩ := List.nodup_cons.mp hks
    rw [List.flatMap_cons, List.filter_append, ih hrest]
    by_cases h : j = k
    · subst h
      have hall : (f j).filter (fun b => key b = j) = f j := by
        rw [List.filter_eq_self]
        intro b hb
        exact decide_eq_true (hkey j b hb)
      rw [hall, if_neg hj, if_pos List.mem_cons_self, List.append_nil]
    · have hnone : (f j).filter (fun b => key b = k) = [] := by
        rw [List.filter_eq_nil_iff]
        intro b hb
        have hb' := hkey j b hb
        simp [hb', h]
      have hmem : k ∈ j :: rest ↔ k ∈ rest := by simp [Ne.symm h]
      rw [hnone, List.nil_append]
      simp only [hmem]

end CandleFeed
