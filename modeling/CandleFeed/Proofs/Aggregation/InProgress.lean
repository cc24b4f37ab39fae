import CandleFeed.Proofs.Aggregation.Ends

/-!
# Bars in progress after a tick

A tick that is applied answers with the bars in progress of its instrument.
**`Engine.Reachable.inProgress`** says which these are: one for each granularity, the one that the
engine has from then on, and its bucket is the tick's.
-/

namespace CandleFeed

/-- A point that is the start of a second. -/
theorem Timestamp.nanos_of_ofSeconds? {second : Int} {t : Timestamp}
    (h : ofSeconds? second = some t) : t.nanos = 0 := by
  simp only [ofSeconds?, ofParts?, Option.dite_none_right_eq_some, Option.some.injEq] at h
  obtain ⟨-, -, -, rfl⟩ := h
  rfl

/-- The following bucket begins at the start of a second if the bucket does. -/
theorem Granularity.nanos_nextBucketStart? {g : Granularity} {start next : Timestamp}
    (hstart : start.nanos = 0) (h : g.nextBucketStart? start = some next) : next.nanos = 0 := by
  unfold nextBucketStart? at h
  split at h
  · rw [Timestamp.addSeconds?_eq_ofSeconds? hstart] at h
    exact Timestamp.nanos_of_ofSeconds? h
  · rw [← Option.some.inj h]
    split
    · cases hday : Timestamp.ofDay? (g.nextDay start.day) with
      | none => exact hstart
      | some t => exact Timestamp.nanos_of_ofSeconds? hday
    · exact hstart

namespace Engine

variable {e : Engine} {tick : Tick} {gs : List Granularity} {g : Granularity}

/-- The builder that takes a tick has one, and its bucket is the tick's. -/
theorem advance_spec {builder : Option Builder} {b : Builder} {closed : Option ClosedBar}
    (h : advance tick g builder = some (b, closed)) :
    b.isEmpty = false ∧ b.bucketStart = g.bucketStart tick.timestamp := by
  rcases advance_cases h with ⟨old, -, hsame, rfl, -⟩ | ⟨-, hfresh, -⟩
  · exact ⟨rfl, hsame⟩
  · obtain ⟨fresh, hnew, rfl⟩ := Option.map_eq_some_iff.mp hfresh
    obtain ⟨bucketEnd, -, rfl⟩ := Option.map_eq_some_iff.mp hnew
    exact ⟨rfl, rfl⟩

/-- A complete pass answers with the views of the builders that it leaves. -/
theorem pass_current {p : Pass} (hgs : gs.Nodup) (h : (pass tick p gs).complete = true) :
    (pass tick p gs).current = p.current ++
      gs.filterMap fun g => ((pass tick p gs).builders.get? g).map (·.view tick.instrument g) := by
  induction gs generalizing p with
  | nil => simp [pass]
  | cons g gs ih =>
    obtain ⟨hg, hgs'⟩ := List.nodup_cons.mp hgs
    obtain ⟨b, closed, -, hpass⟩ := pass_cons_of_complete h
    rw [hpass] at h ⊢
    have hfirst := (pass_get? hgs' h g).2 hg
    rw [Table.get?_insert, if_pos rfl] at hfirst
    rw [ih hgs' h, List.filterMap_cons_some (b := b.view tick.instrument g) (by rw [hfirst]; rfl),
      List.append_assoc, List.singleton_append]

/-- What a tick that is applied has done. -/
theorem addTick_of_applied {m : Emission} {rolled : Nat} {current : List OpenBar}
    (h : e.addTick tick = (m, .applied rolled current)) :
    ∃ p : Pass, p = pass tick ⟨e.buildersOf tick.instrument, [], [], true⟩ e.granularities ∧
      p.complete = true ∧ m.engine.builders = e.builders.insert tick.instrument p.builders ∧
      current = p.current := by
  refine ⟨_, rfl, ?_⟩
  unfold addTick at h
  simp only at h
  split at h
  · rename_i hcomplete
    obtain ⟨rfl, happlied⟩ := Prod.mk.inj h
    exact ⟨hcomplete, rfl, (TickOutcome.applied.inj happlied).2.symm⟩
  · exact absurd (Prod.mk.inj h).2 (by simp)

/-- A bar in progress is the one that an engine has for a granularity after a tick. -/
structure HasBar (e : Engine) (tick : Tick) (g : Granularity) (bar : OpenBar) : Prop where
  current : e.current? tick.instrument g = some bar
  instrument : bar.instrument = tick.instrument
  granularity : bar.granularity = g
  /-- Its bucket begins at the start of a second, and so does the next one. -/
  bucketStart : bar.bucketStart.nanos = 0
  bucketEnd : bar.bucketEnd.nanos = 0

/-- **The bars in progress after a tick**: the answer to a tick that is applied has one for each
granularity, which is the one that the engine has from then on. -/
theorem Reachable.inProgress (he : e.Reachable gs) {m : Emission} {rolled : Nat}
    {current : List OpenBar} (h : e.addTick tick = (m, .applied rolled current)) :
    (∀ bar ∈ current, bar.instrument = tick.instrument) ∧
      (current.Pairwise fun a b => a.granularity ≠ b.granularity) ∧
      ∀ g ∈ gs, ∃ bar ∈ current, m.engine.HasBar tick g bar := by
  obtain ⟨p, hp, hcomplete, hbuilders, rfl⟩ := addTick_of_applied h
  have hasc : Granularity.Ascending e.granularities := by
    rw [he.granularities_eq]
    exact Granularity.sorted_ascending gs
  rw [hp] at hcomplete
  have hcurrent := pass_current hasc.nodup hcomplete
  rw [← hp, List.nil_append] at hcurrent
  rw [hcurrent]
  refine ⟨fun bar hbar => ?_, ?_, fun g hg => ?_⟩
  · obtain ⟨g, -, hview⟩ := List.mem_filterMap.mp hbar
    obtain ⟨b, -, rfl⟩ := Option.map_eq_some_iff.mp hview
    rfl
  · rw [List.pairwise_filterMap]
    refine hasc.nodup.imp fun hne a ha b hb => ?_
    obtain ⟨_, -, rfl⟩ := Option.map_eq_some_iff.mp ha
    obtain ⟨_, -, rfl⟩ := Option.map_eq_some_iff.mp hb
    exact hne
  · have hmem : g ∈ e.granularities := by
      rw [he.granularities_eq]
      exact Granularity.mem_sorted.mpr hg
    obtain ⟨b, closed, hadvance, hb⟩ := (pass_get? hasc.nodup hcomplete g).1 hmem
    obtain ⟨hnonempty, hbucket⟩ := advance_spec hadvance
    have hends : b.Ends g := ends_of_advance (he.knowsEnds tick.instrument g) hadvance
    rw [← hp] at hb
    have hstart : b.bucketStart.nanos = 0 := by
      rw [hbucket]
      exact (g.bucketStart_parts tick.timestamp).2
    refine ⟨b.view tick.instrument g, List.mem_filterMap.mpr ⟨g, hmem, by rw [hb]; rfl⟩, ?_, rfl,
      rfl, hstart, Granularity.nanos_nextBucketStart? hstart hends⟩
    simp only [current?, hbuilders, Table.get?_insert, if_true, Option.bind_some, hb,
      Option.filter_some, hnonempty, Bool.not_false, Option.map_some]

end Engine

end CandleFeed
