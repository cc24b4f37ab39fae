import CandleFeed.Proofs.Aggregation.Ends
import CandleFeed.Proofs.Aggregation.Refinement

/-!
# What a tick that breaks off leaves behind

A tick breaks off at the first granularity in which its bucket has no end.  The finer ones it
reaches (**`Engine.Reaches`**): there it does to the builders what any tick does
(`Follows.addTick`).  The bars that it closes there, however, are kept aside until the tick has
been through all granularities, and it never gets so far.  So they are neither delivered nor
counted, and their ticks are lost: **`Reachable.outOfTime_loses`** says of every builder whether
its ticks are still there afterwards.
-/

namespace CandleFeed.Engine

variable {e : Engine} {tick : Tick} {gs : List Granularity} {g : Granularity}
  {opened : Instrument → Granularity → Option Segment}

/-- The tick gets as far as the granularity: its buckets in it and in finer ones have ends. -/
def Reaches (tick : Tick) (gs : List Granularity) (g : Granularity) : Prop :=
  ∀ g' ∈ gs, g'.rank ≤ g.rank → g'.nextBucketStart? (g'.bucketStart tick.timestamp) ≠ none

instance (tick : Tick) (gs : List Granularity) (g : Granularity) : Decidable (Reaches tick gs g) :=
  inferInstanceAs (Decidable (∀ g' ∈ gs, g'.rank ≤ g.rank →
    g'.nextBucketStart? (g'.bucketStart tick.timestamp) ≠ none))

/-! ## The pass -/

/-- A tick whose bucket in the finest granularity has no end reaches none. -/
theorem not_reaches_of_head {g₀ : Granularity} (hasc : Granularity.Ascending (g₀ :: gs))
    (hnone : g₀.nextBucketStart? (g₀.bucketStart tick.timestamp) = none) (hg : g ∈ g₀ :: gs) :
    ¬ Reaches tick (g₀ :: gs) g := by
  intro hreaches
  refine hreaches g₀ List.mem_cons_self ?_ hnone
  rcases List.mem_cons.mp hg with rfl | hg
  · exact Nat.le_refl _
  · exact Nat.le_of_lt (List.rel_of_pairwise_cons hasc hg)

/-- A tick whose bucket in the finest granularity has an end reaches it. -/
theorem reaches_head {g₀ : Granularity} (hasc : Granularity.Ascending (g₀ :: gs))
    (hsome : g₀.nextBucketStart? (g₀.bucketStart tick.timestamp) ≠ none) :
    Reaches tick (g₀ :: gs) g₀ := by
  intro g' hg' hrank
  rcases List.mem_cons.mp hg' with rfl | hg'
  · exact hsome
  · exact absurd (List.rel_of_pairwise_cons hasc hg') (Nat.not_lt.mpr hrank)

/-- Such a tick reaches a coarser granularity as it does without the finest one. -/
theorem reaches_cons_iff {g₀ : Granularity}
    (hsome : g₀.nextBucketStart? (g₀.bucketStart tick.timestamp) ≠ none) :
    Reaches tick (g₀ :: gs) g ↔ Reaches tick gs g := by
  unfold Reaches
  rw [List.forall_mem_cons]
  exact and_iff_right fun _ => hsome

/-- **How far a pass gets**: it advances the builders of the granularities that the tick reaches,
and leaves the others. -/
theorem pass_get?_of_ends (tick : Tick) (hasc : Granularity.Ascending gs) {p : Pass}
    (hends : TableEnds p.builders) (g : Granularity) :
    (g ∈ gs ∧ Reaches tick gs g → ∃ b closed,
      advance tick g (p.builders.get? g) = some (b, closed) ∧
        (pass tick p gs).builders.get? g = some b) ∧
    (¬ (g ∈ gs ∧ Reaches tick gs g) →
      (pass tick p gs).builders.get? g = p.builders.get? g) := by
  induction gs generalizing p with
  | nil => exact ⟨fun h => absurd h.1 List.not_mem_nil, fun _ => rfl⟩
  | cons g₀ gs ih =>
    have hnone := advance_eq_none_iff tick (hends g₀)
    unfold pass
    cases hadvance : advance tick g₀ (p.builders.get? g₀) with
    | none =>
      exact ⟨fun h => absurd h.2 (not_reaches_of_head hasc (hnone.mp hadvance) h.1), fun _ => rfl⟩
    | some advanced =>
      obtain ⟨b, closed⟩ := advanced
      have hsome : g₀.nextBucketStart? (g₀.bucketStart tick.timestamp) ≠ none := by
        rw [ne_eq, ← hnone, hadvance]
        exact Option.some_ne_none _
      have hinsert := hends.insert (ends_of_advance (hends g₀) hadvance)
      obtain ⟨hin, hout⟩ := ih hasc.of_cons (p := { p with
        builders := p.builders.insert g₀ b
        rolled := p.rolled ++ closed.toList
        current := p.current ++ [b.view tick.instrument g₀] }) hinsert
      rw [Table.get?_insert] at hin hout
      by_cases hg : g₀ = g
      · subst hg
        have hnot : g₀ ∉ gs := (List.nodup_cons.mp hasc.nodup).1
        refine ⟨fun _ => ⟨b, closed, hadvance, ?_⟩, fun h => ?_⟩
        · rw [hout fun h => hnot h.1, if_pos rfl]
        · exact absurd ⟨List.mem_cons_self, reaches_head hasc hsome⟩ h
      · rw [if_neg hg] at hin hout
        have hmem : g ∈ g₀ :: gs ↔ g ∈ gs := by
          rw [List.mem_cons, or_iff_right (Ne.symm hg)]
        rw [hmem, reaches_cons_iff hsome]
        exact ⟨hin, hout⟩

/-! ## The engine after it -/

/-- Whether a tick breaks off or not, the engine has the same granularities after it, and delivers
bars if it did before. -/
theorem addTick_frame (e : Engine) (tick : Tick) :
    (e.addTick tick).1.engine.granularities = e.granularities ∧
      (e.addTick tick).1.engine.isOpen = e.isOpen := by
  unfold addTick
  simp only
  split <;> exact ⟨rfl, rfl⟩

/-- A tick that breaks off delivers nothing and counts nothing. -/
theorem addTick_of_outOfTime (hout : (e.addTick tick).2 = .outOfTime) :
    (e.addTick tick).1.delivered = [] ∧
      (e.addTick tick).1.engine.emittedTotal = e.emittedTotal := by
  unfold addTick at hout ⊢
  simp only at hout ⊢
  split
  · rename_i hcomplete
    rw [if_pos hcomplete] at hout
    exact absurd hout (by simp)
  · refine ⟨?_, rfl⟩
    unfold emit
    exact ite_self []

/-- A tick advances the builders of its instrument that it reaches, and leaves the others. -/
theorem addTick_at (hgs : e.granularities = Granularity.sorted gs) (hends : e.KnowsEnds)
    (tick : Tick) (g : Granularity) :
    (g ∈ gs ∧ Reaches tick gs g → ∃ b closed,
      advance tick g (e.builderAt tick.instrument g) = some (b, closed) ∧
        (e.addTick tick).1.engine.builderAt tick.instrument g = some b) ∧
    (¬ (g ∈ gs ∧ Reaches tick gs g) →
      (e.addTick tick).1.engine.builderAt tick.instrument g =
        e.builderAt tick.instrument g) := by
  have hasc : Granularity.Ascending e.granularities := by
    rw [hgs]
    exact Granularity.sorted_ascending gs
  have hreaches : g ∈ e.granularities ∧ Reaches tick e.granularities g ↔
      g ∈ gs ∧ Reaches tick gs g := by
    unfold Reaches
    simp only [hgs, Granularity.mem_sorted]
  have hat : (e.addTick tick).1.engine.builderAt tick.instrument g =
      (pass tick ⟨e.buildersOf tick.instrument, [], [], true⟩ e.granularities).builders.get? g := by
    unfold builderAt
    rw [addTick_buildersOf, if_pos rfl]
  rw [← hreaches, hat]
  exact pass_get?_of_ends tick hasc (p := ⟨e.buildersOf tick.instrument, [], [], true⟩)
    (hends tick.instrument) g

/-- A tick leaves the builders of other instruments. -/
theorem addTick_elsewhere (e : Engine) {tick : Tick} {i : Instrument} (hi : tick.instrument ≠ i)
    (g : Granularity) : (e.addTick tick).1.engine.builderAt i g = e.builderAt i g := by
  unfold builderAt
  rw [addTick_buildersOf, if_neg hi]

/-- **A tick does to the builders that it reaches what any tick does**, and nothing to the others,
whether it breaks off or not. -/
theorem Follows.addTick (h : e.Follows gs opened) (hends : e.KnowsEnds) (tick : Tick) :
    (e.addTick tick).1.engine.Follows gs fun i g =>
      if Reaches tick gs g then ((EngineCall.tick tick).cut i g (opened i g)).opened
      else opened i g := by
  obtain ⟨hgranularities, hopen⟩ := addTick_frame e tick
  have hat := addTick_at h.granularities hends tick
  refine ⟨hgranularities.trans h.granularities, hopen.trans h.isOpen, fun i g hg => ?_,
    fun i g hg => ?_⟩
  · by_cases hi : tick.instrument = i
    · subst hi
      split
      · rename_i hreached
        obtain ⟨b, closed, hadvance, hb⟩ := (hat g).1 ⟨hg, hreached⟩
        rw [hb]
        exact (holds_advance (h.holds tick.instrument g hg) hadvance).1
      · rename_i hnot
        rw [(hat g).2 fun hboth => hnot hboth.2]
        exact h.holds tick.instrument g hg
    · have hcut : ((EngineCall.tick tick).cut i g (opened i g)).opened = opened i g := by
        simp only [EngineCall.cut, if_neg hi]
      rw [addTick_elsewhere e hi, hcut, ite_self]
      exact h.holds i g hg
  · by_cases hi : tick.instrument = i
    · subst hi
      exact ((hat g).2 fun hboth => hg hboth.1).trans (h.other tick.instrument g hg)
    · exact (addTick_elsewhere e hi g).trans (h.other i g hg)

/-- The builders of an engine that delivers bars hold segments, whatever it has been through. -/
theorem Reachable.exists_follows (h : e.Reachable gs) (hopen : e.isOpen = true) :
    ∃ opened, e.Follows gs opened := by
  induction h with
  | new => exact ⟨_, follows_new gs⟩
  | @tick e h t ih =>
    obtain ⟨opened, hfollows⟩ := ih ((addTick_frame e t).2.symm.trans hopen)
    exact ⟨_, hfollows.addTick h.knowsEnds t⟩
  | flush _ ih =>
    obtain ⟨opened, hfollows⟩ := ih hopen
    exact ⟨_, (hfollows.perform (c := .flush) rfl).1⟩
  | remove _ i ih =>
    obtain ⟨opened, hfollows⟩ := ih hopen
    exact ⟨_, (hfollows.perform (c := .remove i) rfl).1⟩
  | close _ _ => exact absurd hopen Bool.false_ne_true

/-! ## Ticks that are lost -/

/-- The tick closes the bar of an open segment: it is of the instrument, reaches the granularity and
lies in another bucket. -/
def ClosesBar (tick : Tick) (gs : List Granularity) (i : Instrument) (g : Granularity)
    (s : Segment) : Prop :=
  tick.instrument = i ∧ Reaches tick gs g ∧ s.bucket g ≠ g.bucketStart tick.timestamp

/-- **Which ticks are lost when one breaks off**: those in the builders whose bars it closes.  It
delivers no bar and counts none, so that these ticks are nowhere; every other builder still holds
its ticks, perhaps with the new one. -/
theorem Reachable.outOfTime_loses (h : e.Reachable gs) (hopen : e.isOpen = true)
    (hout : (e.addTick tick).2 = .outOfTime) :
    (e.addTick tick).1.delivered = [] ∧
      (e.addTick tick).1.engine.emittedTotal = e.emittedTotal ∧
      (∃ opened, e.Follows gs opened) ∧
      ∀ opened, e.Follows gs opened → ∀ i, ∀ g ∈ gs, ∀ s, opened i g = some s →
        (ClosesBar tick gs i g s →
          Builder.Holds g (some ⟨tick, []⟩) ((e.addTick tick).1.engine.builderAt i g)) ∧
        (¬ ClosesBar tick gs i g s → ∃ s', (s' = s ∨ s' = s.snoc tick) ∧
          Builder.Holds g (some s') ((e.addTick tick).1.engine.builderAt i g)) := by
  obtain ⟨hdelivered, htotal⟩ := addTick_of_outOfTime hout
  refine ⟨hdelivered, htotal, h.exists_follows hopen, fun opened hfollows i g hg s hs => ?_⟩
  have hbefore := hfollows.holds i g hg
  have hafter := (hfollows.addTick h.knowsEnds tick).holds i g hg
  rw [hs] at hbefore hafter
  have hlast : g.bucketStart s.last.timestamp = s.bucket g := by
    generalize e.builderAt i g = builder at hbefore
    cases hbefore with
    | present _ inOneBucket => exact inOneBucket s.last s.last_mem_ticks
  unfold ClosesBar
  by_cases hreached : Reaches tick gs g
  · rw [if_pos hreached] at hafter
    by_cases hi : tick.instrument = i
    · simp only [EngineCall.cut, if_pos hi, hlast] at hafter
      by_cases hbucket : s.bucket g = g.bucketStart tick.timestamp
      · rw [if_pos hbucket] at hafter
        exact ⟨fun hcloses => absurd hbucket hcloses.2.2, fun _ => ⟨_, Or.inr rfl, hafter⟩⟩
      · rw [if_neg hbucket] at hafter
        exact ⟨fun _ => hafter, fun hnot => absurd ⟨hi, hreached, hbucket⟩ hnot⟩
    · simp only [EngineCall.cut, if_neg hi] at hafter
      exact ⟨fun hcloses => absurd hcloses.1 hi, fun _ => ⟨_, Or.inl rfl, hafter⟩⟩
  · rw [if_neg hreached] at hafter
    exact ⟨fun hcloses => absurd hcloses.2.1 hreached, fun _ => ⟨_, Or.inl rfl, hafter⟩⟩

/-- A tick in the last hour, which has no end, after one of another hour: it takes the place of the
earlier one in the builder of the minutes, and never gets to that of the hours. -/
theorem outOfTime_loses_lastHour : ∃ (i : Instrument) (e : Engine) (first last : Tick)
    (opened : Instrument → Granularity → Option Segment), i.symbol = "AAPL" ∧
    e.Reachable [.minute1, .hour1] ∧ e.isOpen = true ∧ (e.addTick last).2 = .outOfTime ∧
    e.Follows [.minute1, .hour1] opened ∧ opened i .minute1 = some ⟨first, []⟩ ∧
    opened i .hour1 = some ⟨first, []⟩ ∧ (e.addTick last).1.delivered = [] ∧
    Builder.Holds .minute1 (some ⟨last, []⟩) ((e.addTick last).1.engine.builderAt i .minute1) ∧
    ∃ s, (s = ⟨first, []⟩ ∨ s = (Segment.mk first []).snoc last) ∧
      Builder.Holds .hour1 (some s) ((e.addTick last).1.engine.builderAt i .hour1) := by
  let aapl : Instrument := ⟨"NASDAQ", "AAPL", by decide, by decide, by decide⟩
  let first : Tick := ⟨aapl, 1, some 2, ⟨1704207600, 0, by decide, by decide, by decide⟩⟩
  let last : Tick := ⟨aapl, 3, none, ⟨8210266873799, 0, by decide, by decide, by decide⟩⟩
  have hreachable : Reachable [.minute1, .hour1]
      ((new [.minute1, .hour1]).addTick first).1.engine := .tick .new first
  have hopen : ((new [.minute1, .hour1]).addTick first).1.engine.isOpen = true := by
    decide +kernel
  have hout : (((new [.minute1, .hour1]).addTick first).1.engine.addTick last).2 = .outOfTime := by
    decide +kernel
  have hfollows := (follows_new [.minute1, .hour1]).addTick Reachable.new.knowsEnds first
  have hreaches : ∀ g ∈ [Granularity.minute1, .hour1],
      Reaches first [.minute1, .hour1] g := by decide
  have hopened : ∀ g ∈ [Granularity.minute1, .hour1],
      (if Reaches first [.minute1, .hour1] g then
        ((EngineCall.tick first).cut aapl g none).opened else none) = some ⟨first, []⟩ := by
    intro g hg
    rw [if_pos (hreaches g hg)]
    simp only [EngineCall.cut, if_true, first]
  have hminute := hopened .minute1 (by decide)
  have hhour := hopened .hour1 (by decide)
  obtain ⟨hdelivered, -, -, hall⟩ := hreachable.outOfTime_loses hopen hout
  have hlost := (hall _ hfollows aapl .minute1 (by decide) ⟨first, []⟩ hminute).1
    ⟨rfl, by decide, by decide⟩
  have hkept := (hall _ hfollows aapl .hour1 (by decide) ⟨first, []⟩ hhour).2
    fun hcloses => absurd hcloses.2.1 (by decide)
  exact ⟨aapl, _, first, last, _, rfl, hreachable, hopen, hout, hfollows, hminute, hhour,
    hdelivered, hlost, hkept⟩

/-- The bar in progress of a minute is gone after such a tick: not delivered, not counted, and
replaced by one of the new tick alone. -/
theorem outOfTime_loses_minuteBar : ∃ i : Instrument, i.symbol = "AAPL" ∧
    let first : Tick := ⟨i, 1, some 2, ⟨1704207600, 0, by decide, by decide, by decide⟩⟩
    let last : Tick := ⟨i, 3, none, ⟨8210266873799, 0, by decide, by decide, by decide⟩⟩
    let before := ((new [.minute1, .hour1]).addTick first).1.engine
    let after := (before.addTick last).1
    before.Reachable [.minute1, .hour1] ∧ before.isOpen = true ∧
      (before.current? i .minute1).map (fun bar => (bar.ohlcv.opening, bar.tickCount)) =
        some (1, 1) ∧
      (before.addTick last).2 = .outOfTime ∧ after.delivered = [] ∧
      after.engine.emittedTotal = 0 ∧
      (after.engine.current? i .minute1).map (fun bar => (bar.ohlcv.opening, bar.tickCount)) =
        some (3, 1) := by
  let aapl : Instrument := ⟨"NASDAQ", "AAPL", by decide, by decide, by decide⟩
  exact ⟨aapl, rfl, .tick .new _, by decide +kernel⟩

end CandleFeed.Engine
