import Mathlib.Data.List.Basic
import Mathlib.Data.List.Induction
import CandleFeed.Session.Client

/-!
# Changes of the subscriptions

A registry is what the changes that had an effect made of nothing: **`Registry.MadeBy`**.  Read for
one instrument, such changes are an addition, a removal, an addition, and so on
(**`Alternate`**, `MadeBy.alternate`), and the instrument is subscribed when it was added and not
removed since (**`Stands`**, `MadeBy.stands_iff`).  A registry is made by adding its instruments in
their order (`madeBy_adds`).
-/

namespace CandleFeed

namespace SubscriptionChange

/-- The instrument that a change is about. -/
def instrument : SubscriptionChange → Instrument
  | add i => i
  | remove i => i

/-- The changes about an instrument. -/
def about (i : Instrument) (changes : List SubscriptionChange) : List SubscriptionChange :=
  changes.filter fun change => change.instrument = i

/-- Read for one instrument, changes are an addition, a removal, an addition, and so on. -/
def Alternate (i : Instrument) (changes : List SubscriptionChange) : Prop :=
  ∀ (k : Nat) (change : SubscriptionChange), (about i changes)[k]? = some change →
    change = if k % 2 = 0 then .add i else .remove i

/-- An instrument was added and not removed since. -/
def Stands (i : Instrument) (changes : List SubscriptionChange) : Prop :=
  ∃ before after, changes = before ++ .add i :: after ∧ .remove i ∉ after

/-- The changes about an instrument, with another change after them. -/
theorem about_concat (i : Instrument) (changes : List SubscriptionChange)
    (change : SubscriptionChange) :
    about i (changes ++ [change]) =
      about i changes ++ if change.instrument = i then [change] else [] := by
  unfold about
  rw [List.filter_append]
  congr 1
  by_cases h : change.instrument = i
  · rw [if_pos h, List.filter_cons_of_pos (by simpa using h), List.filter_nil]
  · rw [if_neg h, List.filter_cons_of_neg (by simpa using h), List.filter_nil]

/-- What alternating changes start with alternates. -/
theorem Alternate.of_start {i : Instrument} {changes changes' : List SubscriptionChange}
    (h : Alternate i changes') (hstarts : changes <+: changes') : Alternate i changes := by
  intro k change hk
  obtain ⟨rest, rfl⟩ := hstarts
  refine h k change ?_
  have hlt : k < (about i changes).length := (List.getElem?_eq_some_iff.mp hk).1
  unfold about at hk hlt ⊢
  rw [List.filter_append, List.getElem?_append_left hlt]
  exact hk

/-- Alternating changes go on with the addition that an even number of them calls for, or the
removal that an odd number does. -/
theorem Alternate.concat {i : Instrument} {changes : List SubscriptionChange}
    (h : Alternate i changes) {change : SubscriptionChange}
    (hchange : change.instrument = i →
      change = if (about i changes).length % 2 = 0 then .add i else .remove i) :
    Alternate i (changes ++ [change]) := by
  intro k change' hk
  rw [about_concat] at hk
  by_cases hi : change.instrument = i
  · rw [if_pos hi] at hk
    by_cases hlt : k < (about i changes).length
    · rw [List.getElem?_append_left hlt] at hk
      exact h k change' hk
    · rw [List.getElem?_append_right (Nat.le_of_not_lt hlt), List.getElem?_singleton] at hk
      split at hk
      · rename_i hzero
        have hlast : k = (about i changes).length := by omega
        rw [hlast, ← Option.some.inj hk]
        exact hchange hi
      · exact absurd hk (by simp)
  · rw [if_neg hi, List.append_nil] at hk
    exact h k change' hk

/-- The last change about an instrument settles whether it stands. -/
theorem stands_concat {i : Instrument} {changes : List SubscriptionChange}
    {change : SubscriptionChange} :
    Stands i (changes ++ [change]) ↔
      change = .add i ∨ (change ≠ .remove i ∧ Stands i changes) := by
  constructor
  · rintro ⟨before, after, heq, hnot⟩
    rcases List.eq_nil_or_concat' after with rfl | ⟨after, last, rfl⟩
    · exact Or.inl (List.append_inj_right' heq rfl |> List.singleton_inj.mp)
    · rw [← List.cons_append, ← List.append_assoc] at heq
      obtain ⟨rfl, hlast⟩ := List.append_inj' heq rfl
      obtain rfl := List.singleton_inj.mp hlast
      rw [List.mem_append, not_or] at hnot
      refine Or.inr ⟨?_, before, after, rfl, hnot.1⟩
      rintro rfl
      exact hnot.2 List.mem_cons_self
  · rintro (rfl | ⟨hne, before, after, rfl, hnot⟩)
    · exact ⟨changes, [], rfl, List.not_mem_nil⟩
    · refine ⟨before, after ++ [change], by rw [List.append_assoc, List.cons_append], ?_⟩
      rw [List.mem_append, not_or, List.mem_singleton]
      exact ⟨hnot, fun h => hne h.symm⟩

/-- Nothing stands before the first change. -/
theorem not_stands_nil (i : Instrument) : ¬ Stands i [] := by
  rintro ⟨before, after, heq, -⟩
  exact absurd heq (by simp)

end SubscriptionChange

namespace Registry

open SubscriptionChange

/-- The changes, each of which had an effect, made of nothing a registry of this order. -/
inductive MadeBy : Registry → List SubscriptionChange → Prop
  /-- No changes leave it empty. -/
  | empty : MadeBy .empty []
  /-- An instrument that was not subscribed is added. -/
  | insert {r : Registry} {changes : List SubscriptionChange} {i : Instrument}
      (h : MadeBy r changes) (hi : (r.insert i).2 = true) :
      MadeBy (r.insert i).1 (changes ++ [.add i])
  /-- An instrument that was subscribed is removed. -/
  | remove {r : Registry} {changes : List SubscriptionChange} {i : Instrument}
      (h : MadeBy r changes) (hi : (r.remove i).2 = true) :
      MadeBy (r.remove i).1 (changes ++ [.remove i])
  /-- A registry of the same order is made by the same changes. -/
  | same {r r' : Registry} {changes : List SubscriptionChange} (h : MadeBy r changes)
      (horder : r.order = r'.order) : MadeBy r' changes

/-- **A registry is made by adding its instruments in their order.** -/
theorem madeBy_adds (r : Registry) : MadeBy r (r.order.map .add) := by
  have hmade : ∀ order : List Instrument, order.Nodup →
      ∃ r' : Registry, r'.order = order ∧ r'.MadeBy (order.map .add) := by
    intro order
    induction order using List.reverseRecOn with
    | nil => exact fun _ => ⟨.empty, rfl, .empty⟩
    | append_singleton order i ih =>
      intro hnodup
      obtain ⟨hfirst, -, hapart⟩ := List.nodup_append.mp hnodup
      obtain ⟨r', horder, hmade⟩ := ih hfirst
      have hi : (r'.insert i).2 = true := by
        rw [insert_snd_iff, horder]
        exact fun hmem => hapart i hmem i (List.mem_singleton_self i) rfl
      refine ⟨(r'.insert i).1, by rw [order_insert hi, horder], ?_⟩
      rw [List.map_append]
      exact hmade.insert hi
  obtain ⟨r', horder, hmade⟩ := hmade r.order r.nodup
  exact hmade.same horder

/-- An instrument is subscribed when it was added and not removed since. -/
theorem MadeBy.stands_iff {r : Registry} {changes : List SubscriptionChange} (h : MadeBy r changes)
    (i : Instrument) : Stands i changes ↔ i ∈ r.order := by
  induction h with
  | empty => exact iff_of_false (not_stands_nil i) List.not_mem_nil
  | @insert r changes j h hj ih =>
    rw [stands_concat, ih, order_insert hj, List.mem_append, List.mem_singleton]
    simp only [SubscriptionChange.add.injEq, ne_eq, reduceCtorEq, not_false_eq_true, true_and]
    rw [or_comm, eq_comm]
  | @remove r changes j h hj ih =>
    rw [stands_concat, ih, mem_order_remove]
    simp only [reduceCtorEq, false_or, ne_eq, SubscriptionChange.remove.injEq, eq_comm]
  | same _ horder ih => rw [ih, horder]

/-- An instrument is subscribed when an odd number of changes was about it. -/
theorem MadeBy.length_about {r : Registry} {changes : List SubscriptionChange}
    (h : MadeBy r changes) (i : Instrument) :
    (about i changes).length % 2 = if i ∈ r.order then 1 else 0 := by
  induction h with
  | empty => rfl
  | @insert r changes j h hj ih =>
    have hnot := insert_snd_iff.mp hj
    rw [about_concat, List.length_append, order_insert hj]
    by_cases hji : j = i
    · subst hji
      rw [if_neg hnot] at ih
      simp only [SubscriptionChange.instrument, if_true, List.length_singleton, List.mem_append,
        List.mem_singleton, or_true]
      omega
    · simp only [SubscriptionChange.instrument, hji, if_false, List.length_nil, Nat.add_zero, ih,
        List.mem_append, List.mem_singleton, Ne.symm hji, or_false]
  | @remove r changes j h hj ih =>
    have hmem := remove_snd_iff.mp hj
    rw [about_concat, List.length_append]
    simp only [mem_order_remove]
    by_cases hji : j = i
    · subst hji
      rw [if_pos hmem] at ih
      simp only [SubscriptionChange.instrument, if_true, List.length_singleton, ne_eq,
        not_true_eq_false, false_and, if_false]
      omega
    · simp only [SubscriptionChange.instrument, hji, if_false, List.length_nil, Nat.add_zero, ih,
        ne_eq, Ne.symm hji, not_false_eq_true, true_and]
  | same _ horder ih => rw [ih, horder]

/-- **Changes that had an effect alternate**, instrument by instrument. -/
theorem MadeBy.alternate {r : Registry} {changes : List SubscriptionChange} (h : MadeBy r changes)
    (i : Instrument) : Alternate i changes := by
  induction h with
  | empty =>
    intro k change hk
    exact absurd hk (by simp [about])
  | @insert _ _ j h hj ih =>
    refine ih.concat fun heq => ?_
    obtain rfl : j = i := heq
    have hlength := h.length_about j
    rw [if_neg (insert_snd_iff.mp hj)] at hlength
    exact (if_pos hlength).symm
  | @remove _ _ j h hj ih =>
    refine ih.concat fun heq => ?_
    obtain rfl : j = i := heq
    have hlength := h.length_about j
    rw [if_pos (remove_snd_iff.mp hj)] at hlength
    exact (if_neg (by rw [hlength]; decide)).symm
  | same _ _ ih => exact ih

end Registry

end CandleFeed
