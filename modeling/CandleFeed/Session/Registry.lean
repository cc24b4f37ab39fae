import CandleFeed.Market.Instrument
import CandleFeed.Storage.Table

/-!
# Subscriptions

A **`Registry`** is the list of instruments that are subscribed, in the order in which they were,
and none of them twice.  Beside the list it keeps a table of them, which is what look-ups go by; the
type says that both hold the same instruments.  `insert` and `remove` change both, and say whether
they changed anything; what they do to the list is said by **`order_insert`** and
**`order_remove`**.
-/

namespace CandleFeed

/-- The instruments that are subscribed. -/
structure Registry where
  /-- The instruments, in the order of their subscription. -/
  order : List Instrument
  /-- The instruments, to be looked up. -/
  members : Table Instrument Unit
  nodup : order.Nodup
  mem_order_iff : ∀ i, i ∈ order ↔ members.contains i = true

namespace Registry

/-- No subscriptions. -/
def empty : Registry where
  order := []
  members := .empty
  nodup := List.nodup_nil
  mem_order_iff i := by simp [Table.contains, Table.get?_empty]

/-- The instrument is subscribed. -/
def contains (r : Registry) (i : Instrument) : Bool := r.members.contains i

/-- Subscribes an instrument, unless it is; says whether it was not. -/
def insert (r : Registry) (i : Instrument) : Registry × Bool :=
  if h : r.contains i = true then (r, false)
  else
    ({ order := r.order ++ [i]
       members := r.members.insert i ()
       nodup := List.nodup_append.2 ⟨r.nodup, by simp, by
         intro x hx y hy
         simp at hy
         exact fun e => h ((r.mem_order_iff i).1 (hy ▸ e ▸ hx))⟩
       mem_order_iff := fun j => by
         rw [List.mem_append, List.mem_singleton, r.mem_order_iff, Table.contains_insert, or_comm,
           eq_comm] }, true)

/-- Ends the subscription of an instrument, if there is one; says whether there was. -/
def remove (r : Registry) (i : Instrument) : Registry × Bool :=
  if r.contains i = true then
    ({ order := r.order.filter (· ≠ i)
       members := r.members.erase i
       nodup := List.filter_sublist.nodup r.nodup
       mem_order_iff := fun j => by
         rw [List.mem_filter, decide_eq_true_iff, r.mem_order_iff, Table.contains_erase, and_comm,
           ne_comm] }, true)
  else (r, false)

/-- How many instruments are subscribed. -/
def size (r : Registry) : Nat := r.order.length

/-- No instrument is subscribed. -/
def isEmpty (r : Registry) : Bool := r.order.isEmpty

/-- Subscribes instruments in turn. -/
def insertAll (r : Registry) (is : List Instrument) : Registry :=
  is.foldl (fun r i => (r.insert i).1) r

/-- A look-up finds the instruments of the order. -/
theorem contains_iff {r : Registry} {i : Instrument} : r.contains i = true ↔ i ∈ r.order :=
  (r.mem_order_iff i).symm

/-- Only an instrument that is not subscribed can be. -/
theorem insert_snd_iff {r : Registry} {i : Instrument} : (r.insert i).2 = true ↔ i ∉ r.order := by
  rw [← contains_iff]
  unfold insert
  split <;> simp [*]

/-- Subscribing an instrument that is subscribed changes nothing. -/
theorem insert_of_mem {r : Registry} {i : Instrument} (h : i ∈ r.order) :
    r.insert i = (r, false) := dif_pos (contains_iff.mpr h)

/-- An instrument that was not subscribed comes last. -/
theorem order_insert {r : Registry} {i : Instrument} (h : (r.insert i).2 = true) :
    (r.insert i).1.order = r.order ++ [i] := by
  have hi := insert_snd_iff.mp h
  unfold insert
  rw [dif_neg fun hcontains => hi (contains_iff.mp hcontains)]

/-- An instrument is subscribed after an addition if it was, or is the one added. -/
theorem mem_order_insert {r : Registry} {i j : Instrument} :
    j ∈ (r.insert i).1.order ↔ j = i ∨ j ∈ r.order := by
  by_cases hmem : i ∈ r.order
  · rw [insert_of_mem hmem]
    exact ⟨Or.inr, fun h => h.elim (fun heq => heq ▸ hmem) id⟩
  · rw [order_insert (insert_snd_iff.mpr hmem), List.mem_append, List.mem_singleton, or_comm]

/-- Only the subscription of an instrument that has one can be ended. -/
theorem remove_snd_iff {r : Registry} {i : Instrument} : (r.remove i).2 = true ↔ i ∈ r.order := by
  rw [← contains_iff]
  unfold remove
  split <;> simp [*]

/-- Ending the subscription of an instrument that has none changes nothing. -/
theorem remove_of_not_mem {r : Registry} {i : Instrument} (h : i ∉ r.order) :
    r.remove i = (r, false) := if_neg fun hcontains => h (contains_iff.mp hcontains)

/-- The others keep their order when a subscription is ended. -/
theorem order_remove {r : Registry} {i : Instrument} (h : (r.remove i).2 = true) :
    (r.remove i).1.order = r.order.filter (· ≠ i) := by
  unfold remove
  rw [if_pos (contains_iff.mpr (remove_snd_iff.mp h))]

/-- An instrument stays subscribed unless it is the one removed. -/
theorem mem_order_remove {r : Registry} {i j : Instrument} :
    j ∈ (r.remove i).1.order ↔ j ≠ i ∧ j ∈ r.order := by
  by_cases hmem : i ∈ r.order
  · rw [order_remove (remove_snd_iff.mpr hmem), List.mem_filter, decide_eq_true_iff, and_comm]
  · rw [remove_of_not_mem hmem]
    exact ⟨fun hj => ⟨fun heq => hmem (heq ▸ hj), hj⟩, And.right⟩

end Registry

end CandleFeed
