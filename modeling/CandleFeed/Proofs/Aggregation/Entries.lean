import CandleFeed.Proofs.Aggregation.Calls

/-!
# Instruments with an entry

An instrument has an entry in an engine while there may be builders for it (`Engine.active`).  A
tick may give its own instrument an entry, even if it breaks off (`mem_active_addTick`); closing
takes entries away (`mem_active_remove`, `active_flushAll`).  Bars are emitted only of the tick's
instrument, of the one that is closed, or of instruments with an entry (`instrument_of_mem_addTick`,
`instrument_of_mem_remove`, `mem_active_of_mem_flushAll`).
-/

namespace CandleFeed.Engine

variable {e : Engine} {tick : Tick} {i j : Instrument} {b : ClosedBar}

/-- An instrument has an entry when a look-up finds it. -/
theorem mem_active_iff : i ∈ e.active ↔ (e.builders.get? i).isSome := by
  unfold active
  rw [List.mem_mergeSort, Table.mem_keys_iff]

/-- Emitting leaves the entries as they are. -/
@[simp] theorem active_emit (e : Engine) (bars : List ClosedBar) :
    (e.emit bars).engine.active = e.active := rfl

/-- Only bars that are closed are delivered. -/
theorem mem_of_mem_emit {bars : List ClosedBar} (h : b ∈ (e.emit bars).delivered) : b ∈ bars := by
  unfold emit at h
  simp only at h
  split at h
  · exact h
  · exact absurd h List.not_mem_nil

/-- The bars that a pass closes are of the tick's instrument, however far it gets. -/
theorem pass_rolled_instrument {p : Pass} {gs : List Granularity}
    (hp : ∀ b ∈ p.rolled, b.instrument = tick.instrument) :
    ∀ b ∈ (pass tick p gs).rolled, b.instrument = tick.instrument := by
  induction gs generalizing p with
  | nil => exact hp
  | cons g gs ih =>
    unfold pass
    cases hadvance : advance tick g (p.builders.get? g) with
    | none => exact hp
    | some advanced =>
      obtain ⟨builder, closed⟩ := advanced
      refine ih fun b hb => ?_
      rcases List.mem_append.mp hb with hb | hb
      · exact hp b hb
      · have hclosed : b ∈ closedBy tick g (p.builders.get? g) := by
          unfold closedBy
          rw [hadvance]
          exact hb
        exact (of_mem_closedBy hclosed).1

/-- A tick adds no entry but that of its instrument. -/
theorem mem_active_addTick (h : i ∈ (e.addTick tick).1.engine.active) :
    i = tick.instrument ∨ i ∈ e.active := by
  have hentry : ∀ builders, i ∈ ({ e with
      builders := e.builders.insert tick.instrument builders } : Engine).active →
      i = tick.instrument ∨ i ∈ e.active := by
    intro builders hmem
    rw [mem_active_iff, Table.get?_insert] at hmem
    split at hmem
    · rename_i heq
      exact Or.inl heq.symm
    · exact Or.inr (mem_active_iff.mpr hmem)
  unfold addTick at h
  simp only at h
  split at h
  · exact hentry _ h
  · exact hentry _ h

/-- A tick emits bars of its instrument. -/
theorem instrument_of_mem_addTick (h : b ∈ (e.addTick tick).1.delivered) :
    b.instrument = tick.instrument := by
  unfold addTick at h
  simp only at h
  split at h
  · exact pass_rolled_instrument (fun b hb => absurd hb List.not_mem_nil) b (mem_of_mem_emit h)
  · exact absurd (mem_of_mem_emit h) List.not_mem_nil

/-- Closing the builders of an instrument takes its entry away, and no other. -/
theorem mem_active_remove : j ∈ (e.remove i).engine.active ↔ j ≠ i ∧ j ∈ e.active := by
  unfold remove
  rw [active_emit, mem_active_iff, mem_active_iff, Table.get?_erase]
  by_cases hij : i = j
  · simp [hij]
  · simp [hij, Ne.symm hij]

/-- Closing the builders of an instrument emits bars of this instrument. -/
theorem instrument_of_mem_remove (h : b ∈ (e.remove i).delivered) : b.instrument = i :=
  instrument_of_mem_closing (mem_of_mem_emit h)

/-- Closing all builders takes all entries away. -/
theorem active_flushAll (e : Engine) : e.flushAll.engine.active = [] := List.mergeSort_nil

/-- Closing all builders emits bars of instruments with an entry. -/
theorem mem_active_of_mem_flushAll (h : b ∈ e.flushAll.delivered) : b.instrument ∈ e.active := by
  obtain ⟨i, hi, hb⟩ := List.mem_flatMap.mp (mem_of_mem_emit h)
  rw [instrument_of_mem_closing hb]
  exact hi

end CandleFeed.Engine
