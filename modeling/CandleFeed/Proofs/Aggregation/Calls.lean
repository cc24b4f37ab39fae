import Mathlib.Data.List.Basic
import CandleFeed.Proofs.Aggregation.Segment
import CandleFeed.Proofs.Market.Granularity
import CandleFeed.Proofs.Storage.Table

/-!
# Calls of an engine

An **`EngineCall`** is one of the three calls that change the bars of an engine.
**`Engine.perform`** makes a call, **`Engine.run`** makes several in turn and keeps what each of
them delivered; neither has a result when a tick falls into a bucket without end.

What a call does is said separately for each instrument and granularity: to the builder there,
**`Engine.builderAt`**, and in bars delivered for them, **`Engine.barsOf`**.

* `perform_tick_at`, `perform_tick_elsewhere`: a tick advances the builders of its instrument and
  leaves the others alone.
* `flushAll_at`, `remove_at`, `remove_elsewhere`: closing takes a builder away and delivers its bar.
* `perform_frame`: what no call changes.
-/

namespace CandleFeed

/-- A call that changes the bars of an engine. -/
inductive EngineCall where
  /-- A tick is added. -/
  | tick (t : Tick)
  /-- All builders are closed. -/
  | flush
  /-- The builders of an instrument are closed. -/
  | remove (i : Instrument)
deriving DecidableEq

namespace Engine

/-- Makes a call; no result when a tick falls into a bucket without end. -/
def perform (e : Engine) : EngineCall → Option Emission
  | .tick t =>
    match e.addTick t with
    | (m, .applied _ _) => some m
    | (_, .outOfTime) => none
  | .flush => some e.flushAll
  | .remove i => some (e.remove i)

/-- Makes calls in turn: the engine after them, and the bars that each of them delivered. -/
def run (e : Engine) : List EngineCall → Option (Engine × List (List ClosedBar))
  | [] => some (e, [])
  | c :: cs => do
    let m ← e.perform c
    let (e', bars) ← m.engine.run cs
    return (e', m.delivered :: bars)

/-- The builder of an instrument and a granularity. -/
def builderAt (e : Engine) (i : Instrument) (g : Granularity) : Option Builder :=
  (e.buildersOf i).get? g

/-- The bar in progress is what the builder shows. -/
theorem current?_eq (e : Engine) (i : Instrument) (g : Granularity) :
    e.current? i g = ((e.builderAt i g).filter (!·.isEmpty)).map (·.view i g) := by
  unfold current? builderAt buildersOf
  cases e.builders.get? i <;> rfl

/-- The bars of an instrument and a granularity. -/
def barsOf (i : Instrument) (g : Granularity) (bars : List ClosedBar) : List ClosedBar :=
  bars.filter fun b => b.instrument = i ∧ b.granularity = g

/-- The bars of an instrument and a granularity are picked in two steps. -/
theorem barsOf_eq (i : Instrument) (g : Granularity) (bars : List ClosedBar) :
    barsOf i g bars =
      (bars.filter fun b => b.instrument = i).filter fun b => b.granularity = g := by
  unfold barsOf
  rw [List.filter_filter]
  refine List.filter_congr ?_
  intro b _
  rw [Bool.decide_and, Bool.and_comm]

/-- Of the bars of one instrument only the granularity picks. -/
theorem barsOf_of_instrument {i : Instrument} {bars : List ClosedBar}
    (h : ∀ b ∈ bars, b.instrument = i) (g : Granularity) :
    barsOf i g bars = bars.filter fun b => b.granularity = g := by
  have hall : (bars.filter fun b => b.instrument = i) = bars := by
    rw [List.filter_eq_self]
    intro b hb
    exact decide_eq_true (h b hb)
  rw [barsOf_eq, hall]

/-- Bars of other instruments are not picked. -/
theorem barsOf_eq_nil {i : Instrument} {g : Granularity} {bars : List ClosedBar}
    (h : ∀ b ∈ bars, b.instrument ≠ i) : barsOf i g bars = [] := by
  unfold barsOf
  rw [List.filter_eq_nil_iff]
  intro b hb
  simp [h b hb]

/-! ## One tick through the builders of its instrument -/

variable {tick : Tick} {p : Pass} {gs : List Granularity}

/-- A pass that is complete at its end has advanced the builder of its first granularity. -/
theorem pass_cons_of_complete {g : Granularity} (h : (pass tick p (g :: gs)).complete = true) :
    ∃ b closed, advance tick g (p.builders.get? g) = some (b, closed) ∧
      pass tick p (g :: gs) =
        pass tick
          { p with
            builders := p.builders.insert g b
            rolled := p.rolled ++ closed.toList
            current := p.current ++ [b.view tick.instrument g] } gs := by
  cases hadv : advance tick g (p.builders.get? g) with
  | none => simp [pass, hadv] at h
  | some r =>
    obtain ⟨b, closed⟩ := r
    exact ⟨b, closed, rfl, by simp only [pass, hadv]⟩

/-- A complete pass advances the builder of each of its granularities, and leaves the others. -/
theorem pass_get? (hgs : gs.Nodup) (h : (pass tick p gs).complete = true) (g : Granularity) :
    (g ∈ gs → ∃ b closed, advance tick g (p.builders.get? g) = some (b, closed) ∧
      (pass tick p gs).builders.get? g = some b) ∧
    (g ∉ gs → (pass tick p gs).builders.get? g = p.builders.get? g) := by
  induction gs generalizing p with
  | nil => exact ⟨fun hg => absurd hg List.not_mem_nil, fun _ => rfl⟩
  | cons g' gs ih =>
    obtain ⟨hg', hgs'⟩ := List.nodup_cons.mp hgs
    obtain ⟨b, closed, hadv, hpass⟩ := pass_cons_of_complete h
    rw [hpass] at h ⊢
    obtain ⟨hin, hout⟩ := ih hgs' h
    by_cases hg : g' = g
    · subst hg
      refine ⟨fun _ => ⟨b, closed, hadv, ?_⟩, fun hnot => absurd List.mem_cons_self hnot⟩
      rw [hout hg', Table.get?_insert, if_pos rfl]
    · rw [Table.get?_insert, if_neg hg] at hin hout
      refine ⟨fun hmem => ?_, fun hnot => hout fun hmem => hnot (List.mem_cons_of_mem _ hmem)⟩
      rcases List.mem_cons.mp hmem with heq | hmem
      · exact absurd heq.symm hg
      · exact hin hmem

/-- The bar that a tick closes in a builder, if it closes one. -/
def closedBy (tick : Tick) (g : Granularity) (builder : Option Builder) : List ClosedBar :=
  ((advance tick g builder).bind Prod.snd).toList

/-- A complete pass closes the bars of its granularities in turn. -/
theorem pass_rolled (hgs : gs.Nodup) (h : (pass tick p gs).complete = true) :
    (pass tick p gs).rolled =
      p.rolled ++ gs.flatMap fun g => closedBy tick g (p.builders.get? g) := by
  induction gs generalizing p with
  | nil => simp [pass]
  | cons g gs ih =>
    obtain ⟨hg, hgs'⟩ := List.nodup_cons.mp hgs
    obtain ⟨b, closed, hadv, hpass⟩ := pass_cons_of_complete h
    have hfirst : closedBy tick g (p.builders.get? g) = closed.toList := by
      simp [closedBy, hadv]
    have hlater : ∀ g' ∈ gs, closedBy tick g' ((p.builders.insert g b).get? g') =
        closedBy tick g' (p.builders.get? g') := by
      intro g' hg'
      have hne : ¬ g = g' := fun heq => hg (heq ▸ hg')
      rw [Table.get?_insert, if_neg hne]
    rw [hpass] at h ⊢
    rw [ih hgs' h, List.flatMap_cons, hfirst, List.flatMap_congr hlater, List.append_assoc]

/-- **What a tick does to a builder**: it adds itself to one of its bucket, or begins a builder of
its bucket and closes the one that there was. -/
theorem advance_cases {g : Granularity} {builder : Option Builder} {b : Builder}
    {closed : Option ClosedBar} (h : advance tick g builder = some (b, closed)) :
    (∃ old, builder = some old ∧ old.bucketStart = g.bucketStart tick.timestamp ∧
        b = old.apply tick.price tick.volume ∧ closed = none) ∨
      ((∀ old, builder = some old → old.bucketStart ≠ g.bucketStart tick.timestamp) ∧
        (Builder.new? g (g.bucketStart tick.timestamp)).map (·.apply tick.price tick.volume) =
          some b ∧
        closed = builder.bind (·.close? tick.instrument g .rollover)) := by
  unfold advance at h
  cases builder with
  | none =>
    obtain ⟨b', hb', heq⟩ := Option.map_eq_some_iff.mp h
    obtain ⟨rfl, rfl⟩ := Prod.mk.inj heq
    exact Or.inr ⟨fun _ hnone => absurd hnone (by simp), hb', rfl⟩
  | some old =>
    simp only at h
    split at h
    · rename_i hsame
      obtain ⟨rfl, rfl⟩ := Prod.mk.inj (Option.some.inj h)
      exact Or.inl ⟨old, rfl, hsame, rfl, rfl⟩
    · rename_i hother
      obtain ⟨b', hb', heq⟩ := Option.map_eq_some_iff.mp h
      obtain ⟨rfl, rfl⟩ := Prod.mk.inj heq
      refine Or.inr ⟨fun old' hold => ?_, hb', rfl⟩
      rwa [← Option.some.inj hold]

/-- A bar that closing a builder yields is of the instrument and granularity given. -/
theorem of_close? {i : Instrument} {g : Granularity} {reason : CloseReason} {old : Builder}
    {b : ClosedBar} (h : old.close? i g reason = some b) :
    b.instrument = i ∧ b.granularity = g := by
  unfold Builder.close? at h
  split at h
  · exact absurd h (by simp)
  · obtain rfl := Option.some.inj h
    exact ⟨rfl, rfl⟩

/-- A bar that a tick closes is of the tick's instrument and the builder's granularity. -/
theorem of_mem_closedBy {g : Granularity} {builder : Option Builder} {b : ClosedBar}
    (h : b ∈ closedBy tick g builder) : b.instrument = tick.instrument ∧ b.granularity = g := by
  unfold closedBy at h
  rw [Option.mem_toList, Option.bind_eq_some_iff] at h
  obtain ⟨⟨b', closed⟩, hadvance, rfl⟩ := h
  rcases advance_cases hadvance with ⟨_, -, -, -, hnone⟩ | ⟨-, -, hclosed⟩
  · exact absurd hnone (by simp)
  · obtain ⟨old, -, hclose⟩ := Option.bind_eq_some_iff.mp hclosed.symm
    exact of_close? hclose

/-- Of the bars that a tick closes over several granularities, one granularity has those that the
tick closes there. -/
theorem barsOf_flatMap_closedBy (hgs : gs.Nodup) (builders : Table Granularity Builder)
    {g : Granularity} (hg : g ∈ gs) :
    barsOf tick.instrument g (gs.flatMap fun g => closedBy tick g (builders.get? g)) =
      closedBy tick g (builders.get? g) := by
  have hinstrument : ∀ b ∈ gs.flatMap fun g => closedBy tick g (builders.get? g),
      b.instrument = tick.instrument := by
    intro b hb
    obtain ⟨g', _, hb'⟩ := List.mem_flatMap.mp hb
    exact (of_mem_closedBy hb').1
  rw [barsOf_of_instrument hinstrument, filter_flatMap_key hgs _ ClosedBar.granularity
    (fun g' b hb => (of_mem_closedBy hb).2), if_pos hg]

/-! ## A call at one instrument and granularity -/

variable {e : Engine} {m : Emission}

/-- A tick that a call adds goes through all granularities. -/
theorem perform_tick (h : e.perform (.tick tick) = some m) :
    ∃ p : Pass, p = pass tick ⟨e.buildersOf tick.instrument, [], [], true⟩ e.granularities ∧
      p.complete = true ∧
      m = emit { e with builders := e.builders.insert tick.instrument p.builders } p.rolled := by
  refine ⟨_, rfl, ?_⟩
  simp only [perform, addTick] at h
  split at h
  · rename_i m' _ _ heq
    obtain rfl := Option.some.inj h
    split at heq
    · rename_i hc
      exact ⟨hc, (Prod.ext_iff.mp heq).1.symm⟩
    · exact absurd (Prod.ext_iff.mp heq).2 (by simp)
  · exact absurd h (by simp)

/-- A tick advances the builders of its instrument, and delivers what it closes there. -/
theorem perform_tick_at (hgs : Granularity.Ascending e.granularities) (hopen : e.isOpen = true)
    (h : e.perform (.tick tick) = some m) {g : Granularity} (hg : g ∈ e.granularities) :
    ∃ b closed, advance tick g (e.builderAt tick.instrument g) = some (b, closed) ∧
      m.engine.builderAt tick.instrument g = some b ∧
      barsOf tick.instrument g m.delivered = closed.toList := by
  obtain ⟨p, hp, hc, rfl⟩ := perform_tick h
  rw [hp] at hc
  obtain ⟨b, closed, hadv, hb⟩ := (pass_get? hgs.nodup hc g).1 hg
  have hrolled := pass_rolled hgs.nodup hc
  refine ⟨b, closed, hadv, ?_, ?_⟩
  · simp only [emit, builderAt, buildersOf, Table.get?_insert, if_pos, Option.getD_some, hp]
    exact hb
  · have hdelivered : (emit { e with builders := e.builders.insert tick.instrument p.builders }
        p.rolled).delivered = p.rolled := by
      simp only [emit, hopen, if_true]
    have hclosed : closedBy tick g ((e.buildersOf tick.instrument).get? g) = closed.toList := by
      unfold closedBy
      rw [show advance tick g ((e.buildersOf tick.instrument).get? g) = some (b, closed) from hadv]
      rfl
    rw [hdelivered, hp, hrolled, List.nil_append, barsOf_flatMap_closedBy hgs.nodup _ hg, hclosed]

/-- A tick leaves the builders of a granularity that is not configured alone. -/
theorem perform_tick_other (hgs : Granularity.Ascending e.granularities)
    (h : e.perform (.tick tick) = some m) {g : Granularity} (hg : g ∉ e.granularities)
    (i : Instrument) : m.engine.builderAt i g = e.builderAt i g := by
  obtain ⟨p, hp, hc, rfl⟩ := perform_tick h
  rw [hp] at hc
  by_cases hi : tick.instrument = i
  · subst hi
    simp only [emit, builderAt, buildersOf, Table.get?_insert, if_pos, Option.getD_some, hp]
    exact (pass_get? hgs.nodup hc g).2 hg
  · simp only [emit, builderAt, buildersOf, Table.get?_insert, if_neg hi]

/-- The bars that a tick delivers are of its instrument and the configured granularities, and go
from fine to coarse. -/
theorem perform_tick_delivered (hgs : Granularity.Ascending e.granularities)
    (h : e.perform (.tick tick) = some m) :
    (∀ b ∈ m.delivered, b.instrument = tick.instrument ∧ b.granularity ∈ e.granularities) ∧
      m.delivered.Pairwise (fun a b => a.granularity.rank < b.granularity.rank) := by
  obtain ⟨p, hp, hc, rfl⟩ := perform_tick h
  rw [hp] at hc
  have hrolled := pass_rolled hgs.nodup hc
  rw [← hp, List.nil_append] at hrolled
  have hsub : (emit { e with builders := e.builders.insert tick.instrument p.builders }
      p.rolled).delivered.Sublist p.rolled := by
    simp only [emit]
    split
    · exact List.Sublist.refl _
    · exact List.nil_sublist _
  refine ⟨fun b hb => ?_, List.Pairwise.sublist hsub ?_⟩
  · have hb' := hsub.subset hb
    rw [hrolled] at hb'
    obtain ⟨g, hg, hb'⟩ := List.mem_flatMap.mp hb'
    obtain ⟨hi, rfl⟩ := of_mem_closedBy hb'
    exact ⟨hi, hg⟩
  · rw [hrolled, List.pairwise_flatMap]
    refine ⟨fun g _ => ?_, hgs.imp ?_⟩
    · -- at most one bar is closed in a builder
      unfold closedBy
      cases (advance tick g ((e.buildersOf tick.instrument).get? g)).bind Prod.snd with
      | none => exact List.Pairwise.nil
      | some b => exact List.pairwise_singleton _ _
    · intro g g' hlt b hb b' hb'
      rw [(of_mem_closedBy hb).2, (of_mem_closedBy hb').2]
      exact hlt

/-- A tick touches no other instrument. -/
theorem perform_tick_elsewhere (hgs : Granularity.Ascending e.granularities)
    (h : e.perform (.tick tick) = some m) {i : Instrument} (hi : tick.instrument ≠ i)
    (g : Granularity) :
    m.engine.builderAt i g = e.builderAt i g ∧ barsOf i g m.delivered = [] := by
  have hdelivered := (perform_tick_delivered hgs h).1
  obtain ⟨p, hp, hc, rfl⟩ := perform_tick h
  refine ⟨?_, barsOf_eq_nil fun b hb hbi => hi ?_⟩
  · simp only [emit, builderAt, buildersOf, Table.get?_insert, if_neg hi]
  · rw [← (hdelivered b hb).1, hbi]

/-- The bar that closing a builder yields, if there is a builder. -/
def closedWith (i : Instrument) (g : Granularity) (reason : CloseReason)
    (builder : Option Builder) : List ClosedBar :=
  (builder.bind (·.close? i g reason)).toList

/-- A bar that closing a builder yields is of the builder's instrument and granularity. -/
theorem of_mem_closedWith {i : Instrument} {g : Granularity} {reason : CloseReason}
    {builder : Option Builder} {b : ClosedBar} (h : b ∈ closedWith i g reason builder) :
    b.instrument = i ∧ b.granularity = g := by
  unfold closedWith at h
  rw [Option.mem_toList, Option.bind_eq_some_iff] at h
  obtain ⟨old, _, hclose⟩ := h
  exact of_close? hclose

/-- Closing the builders of an instrument yields the bars of its granularities in turn. -/
theorem closing_eq (i : Instrument) (builders : Table Granularity Builder) (reason : CloseReason) :
    closing i builders reason =
      Granularity.all.flatMap fun g => closedWith i g reason (builders.get? g) := by
  unfold closing closedWith
  rw [List.filterMap_eq_flatMap_toList]

/-- The bars that closing the builders of an instrument yields are of this instrument. -/
theorem instrument_of_mem_closing {i : Instrument} {builders : Table Granularity Builder}
    {reason : CloseReason} {b : ClosedBar} (h : b ∈ closing i builders reason) :
    b.instrument = i := by
  rw [closing_eq] at h
  obtain ⟨g, _, hb⟩ := List.mem_flatMap.mp h
  exact (of_mem_closedWith hb).1

/-- Of the bars that closing the builders of an instrument yields, one granularity has that of its
builder. -/
theorem filter_closing (i : Instrument) (builders : Table Granularity Builder)
    (reason : CloseReason) (g : Granularity) :
    (closing i builders reason).filter (fun b => b.granularity = g) =
      closedWith i g reason (builders.get? g) := by
  rw [closing_eq, filter_flatMap_key Granularity.all_ascending.nodup _ ClosedBar.granularity
    (fun g' b hb => (of_mem_closedWith hb).2), if_pos (Granularity.mem_all g)]

/-- The instruments with an entry are listed once each. -/
theorem active_nodup (e : Engine) : e.active.Nodup :=
  (List.mergeSort_perm _ _).nodup_iff.mpr e.builders.keys_nodup

/-- An instrument without an entry has no builders. -/
theorem builderAt_of_not_mem_active {i : Instrument} (h : i ∉ e.active) (g : Granularity) :
    e.builderAt i g = none := by
  have hnone : e.builders.get? i = none := by
    unfold active at h
    rw [List.mem_mergeSort, Table.mem_keys_iff] at h
    exact Option.not_isSome_iff_eq_none.mp h
  unfold builderAt buildersOf
  rw [hnone]
  rfl

/-- Closing all builders takes each away and delivers its bar. -/
theorem flushAll_at (hopen : e.isOpen = true) (i : Instrument) (g : Granularity) :
    e.flushAll.engine.builderAt i g = none ∧
      barsOf i g e.flushAll.delivered = closedWith i g .flush (e.builderAt i g) := by
  refine ⟨rfl, ?_⟩
  have hdelivered : e.flushAll.delivered =
      e.active.flatMap fun i => closing i (e.buildersOf i) .flush := by
    simp only [flushAll, emit, hopen, if_true]
  rw [hdelivered, barsOf_eq, filter_flatMap_key e.active_nodup _ ClosedBar.instrument
    (fun i b hb => instrument_of_mem_closing hb)]
  by_cases hi : i ∈ e.active
  · rw [if_pos hi]
    exact filter_closing i _ _ g
  · rw [if_neg hi, builderAt_of_not_mem_active hi]
    rfl

/-- Closing the builders of an instrument takes each away and delivers its bar. -/
theorem remove_at (hopen : e.isOpen = true) (i : Instrument) (g : Granularity) :
    (e.remove i).engine.builderAt i g = none ∧
      barsOf i g (e.remove i).delivered = closedWith i g .unsubscribe (e.builderAt i g) := by
  have hdelivered : (e.remove i).delivered = closing i (e.buildersOf i) .unsubscribe := by
    simp only [remove, emit, hopen, if_true]
  refine ⟨?_, ?_⟩
  · simp only [remove, emit, builderAt, buildersOf, Table.get?_erase, if_pos, Option.getD_none]
    rfl
  · rw [hdelivered, barsOf_of_instrument fun b hb => instrument_of_mem_closing hb]
    exact filter_closing i _ _ g

/-- Closing the builders of an instrument touches no other. -/
theorem remove_elsewhere {i j : Instrument} (hij : j ≠ i) (g : Granularity) :
    (e.remove j).engine.builderAt i g = e.builderAt i g ∧
      barsOf i g (e.remove j).delivered = [] := by
  refine ⟨?_, barsOf_eq_nil fun b hb hbi => hij ?_⟩
  · simp only [remove, emit, builderAt, buildersOf, Table.get?_erase, if_neg hij]
  · have hb' : b ∈ closing j (e.buildersOf j) .unsubscribe := by
      simp only [remove, emit] at hb
      split at hb
      · exact hb
      · exact absurd hb List.not_mem_nil
    rw [← instrument_of_mem_closing hb', hbi]

/-- A call changes neither the granularities nor whether bars are delivered, and counts what it
delivers. -/
theorem perform_frame {c : EngineCall} (hopen : e.isOpen = true) (h : e.perform c = some m) :
    m.engine.granularities = e.granularities ∧ m.engine.isOpen = true ∧
      m.engine.emittedTotal = e.emittedTotal + m.delivered.length := by
  have hemit : ∀ (e' : Engine) (bars : List ClosedBar), e'.granularities = e.granularities →
      e'.isOpen = true → e'.emittedTotal = e.emittedTotal →
      (emit e' bars).engine.granularities = e.granularities ∧ (emit e' bars).engine.isOpen = true ∧
        (emit e' bars).engine.emittedTotal = e.emittedTotal + (emit e' bars).delivered.length := by
    intro e' bars hgs hopen' htotal
    simp only [emit, hopen', if_true]
    exact ⟨hgs, trivial, by rw [htotal]⟩
  cases c with
  | tick t =>
    obtain ⟨p, _, _, rfl⟩ := perform_tick h
    exact hemit _ _ rfl hopen rfl
  | flush =>
    obtain rfl := Option.some.inj h
    exact hemit _ _ rfl hopen rfl
  | remove i =>
    obtain rfl := Option.some.inj h
    exact hemit _ _ rfl hopen rfl

end Engine

end CandleFeed
