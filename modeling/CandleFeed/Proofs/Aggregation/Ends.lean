import CandleFeed.Proofs.Aggregation.Calls
import CandleFeed.Proofs.Market.Bucket

/-!
# Ends of buckets

A tick breaks off where its bucket has no end.  Which ticks do, could depend on what the engine has
been through: a builder that is already there is not asked for an end again, and a tick that breaks
off leaves the builders of finer granularities behind.  It does not.  A builder always has the end
of its bucket (**`Builder.Ends`**, `Reachable.knowsEnds`).  So there is none for a bucket without
end, and a tick breaks off in every engine or in none (`Reachable.outOfTime_iff`).

An engine is **`Engine.Reachable`** if it has come about by its own operations, ticks that break off
among them.
-/

namespace CandleFeed

/-- The builder has the end of its bucket. -/
def Builder.Ends (g : Granularity) (b : Builder) : Prop :=
  g.nextBucketStart? b.bucketStart = some b.bucketEnd

namespace Builder

variable {g : Granularity} {b : Builder}

/-- A builder is started where the bucket has an end, and has it. -/
theorem ends_of_new? {start : Timestamp} (h : new? g start = some b) : b.Ends g := by
  obtain ⟨bucketEnd, hend, rfl⟩ := Option.map_eq_some_iff.mp h
  exact hend

/-- A tick changes nothing about the bucket. -/
theorem Ends.apply (h : b.Ends g) (price : Float) (volume : Option Float) :
    (b.apply price volume).Ends g := h

end Builder

namespace Engine

variable {e : Engine} {tick : Tick} {gs : List Granularity} {g : Granularity}

/-! ## One tick -/

/-- The builders have the ends of their buckets. -/
def TableEnds (builders : Table Granularity Builder) : Prop :=
  ∀ g b, builders.get? g = some b → b.Ends g

/-- A table without builders has none without an end. -/
theorem tableEnds_empty : TableEnds .empty := by
  intro g b hb
  rw [Table.get?_empty] at hb
  exact absurd hb (Option.some_ne_none b).symm

/-- A builder with the end of its bucket joins builders that have theirs. -/
theorem TableEnds.insert {builders : Table Granularity Builder} (h : TableEnds builders)
    {b : Builder} (hb : b.Ends g) : TableEnds (builders.insert g b) := by
  intro g' b' hb'
  rw [Table.get?_insert] at hb'
  split at hb'
  · rename_i heq
    obtain rfl := Option.some.inj hb'
    exact heq ▸ hb
  · exact h g' b' hb'

/-- A tick stops at a builder exactly if its bucket has no end. -/
theorem advance_eq_none_iff (tick : Tick) {builder : Option Builder}
    (h : ∀ b, builder = some b → b.Ends g) :
    advance tick g builder = none ↔ g.nextBucketStart? (g.bucketStart tick.timestamp) = none := by
  have hfresh : ((Builder.new? g (g.bucketStart tick.timestamp)).map
      (·.apply tick.price tick.volume)) = none ↔
      g.nextBucketStart? (g.bucketStart tick.timestamp) = none := by
    rw [Option.map_eq_none_iff]
    exact Option.map_eq_none_iff
  unfold advance
  cases builder with
  | none => exact Option.map_eq_none_iff.trans hfresh
  | some b =>
    simp only
    split
    · rename_i hstart
      have hends := h b rfl
      unfold Builder.Ends at hends
      rw [hstart] at hends
      simp [hends]
    · exact Option.map_eq_none_iff.trans hfresh

/-- The builder that takes a tick has the end of its bucket. -/
theorem ends_of_advance {builder : Option Builder} (h : ∀ b, builder = some b → b.Ends g)
    {b : Builder} {closed : Option ClosedBar}
    (hadvance : advance tick g builder = some (b, closed)) : b.Ends g := by
  rcases advance_cases hadvance with ⟨old, hold, -, rfl, -⟩ | ⟨-, hfresh, -⟩
  · exact (h old hold).apply _ _
  · obtain ⟨fresh, hnew, rfl⟩ := Option.map_eq_some_iff.mp hfresh
    exact (Builder.ends_of_new? hnew).apply _ _

/-- A pass through builders with ends leaves builders with ends, however far it gets; and it gets
through exactly if the tick's bucket has an end in each granularity. -/
theorem pass_ends (tick : Tick) (gs : List Granularity) {p : Pass} (hends : TableEnds p.builders)
    (hp : p.complete = true) :
    TableEnds (pass tick p gs).builders ∧
      ((pass tick p gs).complete = true ↔
        ∀ g ∈ gs, g.nextBucketStart? (g.bucketStart tick.timestamp) ≠ none) := by
  induction gs generalizing p with
  | nil => exact ⟨hends, iff_of_true hp (fun g hg => absurd hg List.not_mem_nil)⟩
  | cons g gs ih =>
    have hnone := advance_eq_none_iff tick (hends g)
    unfold pass
    cases hadvance : advance tick g (p.builders.get? g) with
    | none =>
      refine ⟨hends, iff_of_false Bool.false_ne_true fun hall => ?_⟩
      exact hall g List.mem_cons_self (hnone.mp hadvance)
    | some advanced =>
      obtain ⟨b, closed⟩ := advanced
      have hinsert := hends.insert (ends_of_advance (hends g) hadvance)
      have hfirst : g.nextBucketStart? (g.bucketStart tick.timestamp) ≠ none := by
        rw [ne_eq, ← hnone, hadvance]
        exact Option.some_ne_none _
      obtain ⟨hafter, hiff⟩ := ih (p := { p with
        builders := p.builders.insert g b
        rolled := p.rolled ++ closed.toList
        current := p.current ++ [b.view tick.instrument g] }) hinsert hp
      refine ⟨hafter, hiff.trans ?_⟩
      rw [List.forall_mem_cons]
      exact (and_iff_right hfirst).symm

/-! ## Engines -/

/-- All builders have the ends of their buckets. -/
def KnowsEnds (e : Engine) : Prop := ∀ i, TableEnds (e.buildersOf i)

/-- An engine has come about from one without builders. -/
inductive Reachable (gs : List Granularity) : Engine → Prop
  /-- It has no builders yet. -/
  | new : Reachable gs (new gs)
  /-- A tick has come, and perhaps broken off. -/
  | tick {e : Engine} (h : Reachable gs e) (t : Tick) : Reachable gs (e.addTick t).1.engine
  /-- All builders have been closed. -/
  | flush {e : Engine} (h : Reachable gs e) : Reachable gs e.flushAll.engine
  /-- The builders of an instrument have been closed. -/
  | remove {e : Engine} (h : Reachable gs e) (i : Instrument) : Reachable gs (e.remove i).engine
  /-- It delivers no more bars. -/
  | close {e : Engine} (h : Reachable gs e) : Reachable gs e.close

/-- What a tick does to the builders: those of its instrument are what the pass leaves, whether or
not it is complete. -/
theorem addTick_buildersOf (e : Engine) (tick : Tick) (i : Instrument) :
    (e.addTick tick).1.engine.buildersOf i =
      if tick.instrument = i then
        (pass tick ⟨e.buildersOf tick.instrument, [], [], true⟩ e.granularities).builders
      else e.buildersOf i := by
  have hentry : ∀ builders, ({ e with
      builders := e.builders.insert tick.instrument builders } : Engine).buildersOf i =
        if tick.instrument = i then builders else e.buildersOf i := by
    intro builders
    unfold buildersOf
    rw [Table.get?_insert]
    split <;> rfl
  unfold addTick
  simp only
  split
  · exact hentry _
  · exact hentry _

/-- Ticks leave builders with ends. -/
theorem KnowsEnds.addTick (h : e.KnowsEnds) (tick : Tick) :
    (e.addTick tick).1.engine.KnowsEnds := by
  intro i
  rw [addTick_buildersOf]
  split
  · exact (pass_ends tick _ (h tick.instrument) rfl).1
  · exact h i

/-- Closing the builders of an instrument leaves builders with ends. -/
theorem KnowsEnds.remove (h : e.KnowsEnds) (i : Instrument) : (e.remove i).engine.KnowsEnds := by
  intro j
  by_cases hj : i = j
  · subst hj
    change TableEnds (((e.builders.erase i).get? i).getD .empty)
    rw [Table.get?_erase, if_pos rfl]
    exact tableEnds_empty
  · intro g b hb
    exact h j g b ((remove_elsewhere hj g).1.symm.trans hb)

/-- **A builder always has the end of its bucket.** -/
theorem Reachable.knowsEnds (h : e.Reachable gs) : e.KnowsEnds := by
  induction h with
  | new => exact fun i => tableEnds_empty
  | tick _ t ih => exact ih.addTick t
  | flush _ _ => exact fun i => tableEnds_empty
  | remove _ i ih => exact ih.remove i
  | close _ ih => exact ih

/-- No operation changes the granularities. -/
theorem Reachable.granularities_eq (h : e.Reachable gs) :
    e.granularities = Granularity.sorted gs := by
  induction h with
  | new => rfl
  | tick _ t ih =>
    rw [← ih]
    unfold addTick
    simp only
    split <;> rfl
  | flush _ ih => exact ih
  | remove _ i ih => exact ih
  | close _ ih => exact ih

/-- **Which ticks break off**: those in the last bucket of a granularity with a fixed length,
whatever the engine has been through. -/
theorem Reachable.outOfTime_iff (h : e.Reachable gs) (tick : Tick) :
    (e.addTick tick).2 = .outOfTime ↔
      ∃ g ∈ gs, ∃ length, g.fixedSeconds = some length ∧
        8210266876800 - length ≤ tick.timestamp.seconds := by
  have hcomplete := (pass_ends tick e.granularities
    (p := ⟨e.buildersOf tick.instrument, [], [], true⟩) (h.knowsEnds tick.instrument) rfl).2
  have houtcome : (e.addTick tick).2 = .outOfTime ↔ ¬ (pass tick
      ⟨e.buildersOf tick.instrument, [], [], true⟩ e.granularities).complete = true := by
    unfold addTick
    simp only
    split
    · rename_i hc
      simp [hc]
    · rename_i hc
      simp [hc]
  rw [houtcome, hcomplete, h.granularities_eq]
  simp only [not_forall, not_not, Granularity.mem_sorted, exists_prop,
    Granularity.nextBucketStart?_bucketStart_eq_none_iff]

end Engine

end CandleFeed
