import CandleFeed.Market.Granularity

/-!
# Lists of granularities

A list of granularities is **`Granularity.Ascending`** when it goes from fine to coarse without
repeating one.  **`Granularity.sorted`** makes such a list of what a list holds (`mem_sorted`,
`sorted_ascending`), whatever its order and however often it repeats one.
-/

namespace CandleFeed.Granularity

/-- The list goes from fine to coarse. -/
def Ascending (gs : List Granularity) : Prop := gs.Pairwise fun a b => a.rank < b.rank

/-- Every granularity is listed. -/
theorem mem_all (g : Granularity) : g ∈ all := by
  cases g <;> decide

/-- The list of all granularities goes from fine to coarse. -/
theorem all_ascending : Ascending all := by
  unfold Ascending
  decide

/-- A sorted list holds what the list held. -/
theorem mem_sorted {gs : List Granularity} {g : Granularity} : g ∈ sorted gs ↔ g ∈ gs := by
  unfold sorted
  rw [List.mem_filter, List.contains_iff_mem]
  exact and_iff_right (mem_all g)

/-- A sorted list goes from fine to coarse. -/
theorem sorted_ascending (gs : List Granularity) : Ascending (sorted gs) :=
  all_ascending.filter _

/-- A list that goes from fine to coarse holds no granularity twice. -/
theorem Ascending.nodup {gs : List Granularity} (h : Ascending gs) : gs.Nodup := by
  refine h.imp ?_
  intro a b hab heq
  rw [heq] at hab
  exact Nat.lt_irrefl _ hab

end CandleFeed.Granularity
