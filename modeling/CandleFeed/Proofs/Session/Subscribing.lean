import CandleFeed.Proofs.Session.Changes
import CandleFeed.Proofs.Storage.Table

/-!
# The history of a registry

A registry keeps its instruments twice, as a list and in a table for look-ups, and every call
changes each of them by itself.  **`Registry.run_accounted`** says that over any calls both stay
what the history of the calls says they are, without a look at either: an instrument is there when
it was added and not removed since (`stands_iff_mem_run`), a call has an effect when this makes a
difference (**`SubscriptionChange.Effective`**, `run_answers`), and the list is in the order of the
calls that last added each instrument with an effect (**`LastAddedAt`**, `run_byTime`).
-/

namespace CandleFeed

namespace SubscriptionChange

/-- After the calls before it, a call makes a difference: it adds an instrument that is not there,
or removes one that is. -/
def Effective (before : List SubscriptionChange) : SubscriptionChange → Prop
  | add i => ¬ Stands i before
  | remove i => Stands i before

/-- The call of a number adds the instrument, with an effect. -/
def AddedAt (i : Instrument) (k : Nat) (calls : List SubscriptionChange) : Prop :=
  calls[k]? = some (.add i) ∧ Effective (calls.take k) (.add i)

/-- The call of a number is the last to add the instrument with an effect. -/
def LastAddedAt (i : Instrument) (k : Nat) (calls : List SubscriptionChange) : Prop :=
  AddedAt i k calls ∧ ∀ l, AddedAt i l calls → l ≤ k

/-- One instrument was last added before another. -/
def AddedBefore (calls : List SubscriptionChange) (i j : Instrument) : Prop :=
  ∃ k l, LastAddedAt i k calls ∧ LastAddedAt j l calls ∧ k < l

variable {i : Instrument} {k : Nat} {calls : List SubscriptionChange} {c : SubscriptionChange}

/-- Only a call that was made adds anything. -/
theorem AddedAt.lt_length (h : AddedAt i k calls) : k < calls.length :=
  (List.getElem?_eq_some_iff.mp h.1).1

/-- A later call changes nothing about earlier ones. -/
theorem addedAt_concat_of_lt (hk : k < calls.length) :
    AddedAt i k (calls ++ [c]) ↔ AddedAt i k calls := by
  unfold AddedAt
  rw [List.getElem?_append_left hk, List.take_append_of_le_length (Nat.le_of_lt hk)]

/-- The last of several calls adds an instrument if it does so with an effect. -/
theorem addedAt_concat_length :
    AddedAt i calls.length (calls ++ [c]) ↔ c = .add i ∧ ¬ Stands i calls := by
  unfold AddedAt Effective
  rw [List.getElem?_concat_length, List.take_left, Option.some_inj]

/-- A call that does not add the instrument with an effect leaves the last one that did. -/
theorem LastAddedAt.concat (h : LastAddedAt i k calls) (hc : c = .add i → Stands i calls) :
    LastAddedAt i k (calls ++ [c]) := by
  refine ⟨(addedAt_concat_of_lt h.1.lt_length).mpr h.1, fun l hl => ?_⟩
  have hlt : l < calls.length := by
    have hle := hl.lt_length
    rw [List.length_append, List.length_singleton] at hle
    refine Nat.lt_of_le_of_ne (Nat.le_of_lt_succ hle) fun heq => ?_
    rw [heq, addedAt_concat_length] at hl
    exact hl.2 (hc hl.1)
  exact h.2 l ((addedAt_concat_of_lt hlt).mp hl)

/-- A call that adds the instrument with an effect is the last one that did. -/
theorem lastAddedAt_concat_length (h : ¬ Stands i calls) :
    LastAddedAt i calls.length (calls ++ [.add i]) := by
  refine ⟨addedAt_concat_length.mpr ⟨rfl, h⟩, fun l hl => ?_⟩
  have hle := hl.lt_length
  rw [List.length_append, List.length_singleton] at hle
  exact Nat.le_of_lt_succ hle

end SubscriptionChange

namespace Registry

open SubscriptionChange

/-- Makes a call, and answers whether it changed anything. -/
def call (r : Registry) : SubscriptionChange → Registry × Bool
  | .add i => r.insert i
  | .remove i => r.remove i

/-- Makes calls in turn: the registry after them, and their answers. -/
def run (r : Registry) : List SubscriptionChange → Registry × List Bool
  | [] => (r, [])
  | c :: cs => (((r.call c).1.run cs).1, (r.call c).2 :: ((r.call c).1.run cs).2)

variable {calls : List SubscriptionChange}

/-- A run and one more call are a run. -/
theorem run_concat (r : Registry) (calls : List SubscriptionChange) (c : SubscriptionChange) :
    r.run (calls ++ [c]) =
      (((r.run calls).1.call c).1, (r.run calls).2 ++ [((r.run calls).1.call c).2]) := by
  induction calls generalizing r with
  | nil => rfl
  | cons first calls ih => simp only [List.cons_append, run, ih]

/-- **An instrument is listed when it was added and not removed since.** -/
theorem stands_iff_mem_run (calls : List SubscriptionChange) (i : Instrument) :
    i ∈ (empty.run calls).1.order ↔ Stands i calls := by
  induction calls using List.reverseRecOn with
  | nil => exact iff_of_false List.not_mem_nil (not_stands_nil i)
  | append_singleton calls c ih =>
    rw [run_concat, stands_concat, ← ih]
    cases c with
    | add j =>
      simp only [call, mem_order_insert, add.injEq, ne_eq, reduceCtorEq, not_false_eq_true,
        true_and, eq_comm]
    | remove j =>
      simp only [call, mem_order_remove, reduceCtorEq, false_or, ne_eq, remove.injEq, eq_comm]

/-- A call answers whether it had an effect. -/
theorem call_snd_iff (calls : List SubscriptionChange) (c : SubscriptionChange) :
    ((empty.run calls).1.call c).2 = true ↔ Effective calls c := by
  cases c with
  | add i => exact insert_snd_iff.trans (not_congr (stands_iff_mem_run calls i))
  | remove i => exact remove_snd_iff.trans (stands_iff_mem_run calls i)

/-- There is an answer to each call. -/
theorem run_length (r : Registry) (calls : List SubscriptionChange) :
    (r.run calls).2.length = calls.length := by
  induction calls generalizing r with
  | nil => rfl
  | cons c calls ih => rw [run, List.length_cons, List.length_cons, ih]

/-- **Each call answers whether it had an effect** after those before it. -/
theorem run_answers {k : Nat} {c : SubscriptionChange} {answer : Bool}
    (hc : calls[k]? = some c) (hanswer : (empty.run calls).2[k]? = some answer) :
    answer = true ↔ Effective (calls.take k) c := by
  induction calls using List.reverseRecOn with
  | nil => exact absurd hc (by simp)
  | append_singleton calls last ih =>
    have hlength := run_length empty calls
    rw [run_concat] at hanswer
    rcases Nat.lt_or_ge k calls.length with hk | hk
    · rw [List.getElem?_append_left hk] at hc
      rw [List.getElem?_append_left (hlength.symm ▸ hk)] at hanswer
      rw [List.take_append_of_le_length (Nat.le_of_lt hk)]
      exact ih hc hanswer
    · obtain rfl : k = calls.length := by
        have hlt := (List.getElem?_eq_some_iff.mp hc).1
        rw [List.length_append, List.length_singleton] at hlt
        omega
      rw [List.getElem?_concat_length] at hc
      rw [← hlength, List.getElem?_concat_length] at hanswer
      obtain rfl := Option.some.inj hc
      obtain rfl := Option.some.inj hanswer
      rw [List.take_left]
      exact call_snd_iff calls last

/-- **The list goes by the time of the last addition**, and every instrument in it was added. -/
theorem run_byTime (calls : List SubscriptionChange) :
    (∀ i ∈ (empty.run calls).1.order, ∃ k, LastAddedAt i k calls) ∧
      (empty.run calls).1.order.Pairwise (AddedBefore calls) := by
  induction calls using List.reverseRecOn with
  | nil => exact ⟨fun i hi => absurd hi List.not_mem_nil, .nil⟩
  | append_singleton calls c ih =>
    obtain ⟨hadded, hbyTime⟩ := ih
    -- one more call adds no instrument with an effect that is listed already
    have hkept : ∀ i ∈ (empty.run calls).1.order, ∀ k, LastAddedAt i k calls →
        LastAddedAt i k (calls ++ [c]) :=
      fun i hi k hk => hk.concat fun _ => (stands_iff_mem_run calls i).mp hi
    have hsublist : ∀ order : List Instrument, order.Sublist (empty.run calls).1.order →
        (∀ i ∈ order, ∃ k, LastAddedAt i k (calls ++ [c])) ∧
          order.Pairwise (AddedBefore (calls ++ [c])) := by
      intro order hsub
      refine ⟨fun i hi => ?_, (hbyTime.sublist hsub).imp_of_mem ?_⟩
      · obtain ⟨k, hk⟩ := hadded i (hsub.subset hi)
        exact ⟨k, hkept i (hsub.subset hi) k hk⟩
      · rintro i j hi hj ⟨k, l, hk, hl, hlt⟩
        exact ⟨k, l, hkept i (hsub.subset hi) k hk, hkept j (hsub.subset hj) l hl, hlt⟩
    rw [run_concat]
    cases c with
    | add i =>
      by_cases hi : i ∈ (empty.run calls).1.order
      · rw [call, insert_of_mem hi]
        exact hsublist _ (List.Sublist.refl _)
      · have hlast : LastAddedAt i calls.length (calls ++ [.add i]) :=
          lastAddedAt_concat_length fun hstands => hi ((stands_iff_mem_run calls i).mpr hstands)
        obtain ⟨hold, hpairs⟩ := hsublist _ (List.Sublist.refl _)
        simp only [call, order_insert (insert_snd_iff.mpr hi)]
        refine ⟨fun j hj => ?_, List.pairwise_append.mpr ⟨hpairs, List.pairwise_singleton _ _, ?_⟩⟩
        · rcases List.mem_append.mp hj with hj | hj
          · exact hold j hj
          · rw [List.mem_singleton.mp hj]
            exact ⟨_, hlast⟩
        · intro j hj i' hi'
          obtain rfl := List.mem_singleton.mp hi'
          obtain ⟨k, hk⟩ := hadded j hj
          exact ⟨k, _, hkept j hj k hk, hlast, hk.1.lt_length⟩
    | remove i =>
      by_cases hi : i ∈ (empty.run calls).1.order
      · simp only [call, order_remove (remove_snd_iff.mpr hi)]
        exact hsublist _ List.filter_sublist
      · rw [call, remove_of_not_mem hi]
        exact hsublist _ (List.Sublist.refl _)

/-- **What a registry is after calls**, by their history alone. -/
structure Accounted (calls : List SubscriptionChange) (r : Registry) (answers : List Bool) :
    Prop where
  /-- No instrument is listed twice, and the table has the instruments of the list. -/
  nodup : r.order.Nodup
  members : ∀ i, r.members.contains i = true ↔ i ∈ r.order
  /-- Listed are the instruments that were added and not removed since, by the time of the last
  addition that had an effect. -/
  stands : ∀ i, i ∈ r.order ↔ Stands i calls
  added : ∀ i ∈ r.order, ∃ k, LastAddedAt i k calls
  byTime : r.order.Pairwise (AddedBefore calls)
  /-- Each call has answered whether it had an effect. -/
  length : answers.length = calls.length
  answers : ∀ (k : Nat) (c : SubscriptionChange) (answer : Bool), calls[k]? = some c →
    answers[k]? = some answer → (answer = true ↔ Effective (calls.take k) c)
  /-- Look-ups, the size and emptiness are those of the list, and of the table. -/
  contains : ∀ i, r.contains i = true ↔ i ∈ r.order
  size : r.size = r.order.length ∧ r.size = r.members.size
  isEmpty : r.isEmpty = true ↔ ∀ i, r.contains i = false
  /-- An instrument that is not listed is added at the end; one that is, changes nothing. -/
  insert : ∀ i, i ∉ r.order → (r.insert i).2 = true ∧ (r.insert i).1.order = r.order ++ [i] ∧
    ∀ j, (r.insert i).1.members.contains j = true ↔ j = i ∨ r.members.contains j = true
  insertAgain : ∀ i ∈ r.order, r.insert i = (r, false)
  /-- An instrument that is listed is taken out, the others keep their order; one that is not,
  changes nothing. -/
  remove : ∀ i ∈ r.order, (r.remove i).2 = true ∧ (r.remove i).1.order = r.order.filter (· ≠ i) ∧
    ∀ j, (r.remove i).1.members.contains j = true ↔ j ≠ i ∧ r.members.contains j = true
  removeAgain : ∀ i, i ∉ r.order → r.remove i = (r, false)

/-- The table has as many instruments as the list. -/
theorem size_members (r : Registry) : r.members.size = r.order.length := by
  have hperm : r.members.keys.Perm r.order :=
    (List.perm_ext_iff_of_nodup r.members.keys_nodup r.nodup).mpr fun i => by
      rw [Table.mem_keys_iff, r.mem_order_iff]
      rfl
  rw [← hperm.length_eq]
  exact (List.length_map _).symm

/-- **A registry is what the history of its calls says**, whatever was called. -/
theorem run_accounted (calls : List SubscriptionChange) :
    Accounted calls (empty.run calls).1 (empty.run calls).2 := by
  generalize hr : (empty.run calls).1 = r
  have hmembers : ∀ (r : Registry) i, r.members.contains i = true ↔ i ∈ r.order :=
    fun r i => (r.mem_order_iff i).symm
  exact {
    nodup := r.nodup
    members := hmembers r
    stands := hr ▸ stands_iff_mem_run calls
    added := hr ▸ (run_byTime calls).1
    byTime := hr ▸ (run_byTime calls).2
    length := run_length empty calls
    answers := fun _ _ _ hc hanswer => run_answers hc hanswer
    contains := fun _ => contains_iff
    size := ⟨rfl, r.size_members.symm⟩
    isEmpty := by
      simp only [isEmpty, List.isEmpty_iff, Bool.eq_false_iff, ne_eq, contains_iff]
      exact List.eq_nil_iff_forall_not_mem
    insert := fun i hi => ⟨insert_snd_iff.mpr hi, order_insert (insert_snd_iff.mpr hi), fun j => by
      rw [hmembers, hmembers, mem_order_insert]⟩
    insertAgain := fun i hi => insert_of_mem hi
    remove := fun i hi => ⟨remove_snd_iff.mpr hi, order_remove (remove_snd_iff.mpr hi), fun j => by
      rw [hmembers, hmembers, mem_order_remove]⟩
    removeAgain := fun i hi => remove_of_not_mem hi }

end Registry

end CandleFeed
