import Mathlib.Algebra.GroupWithZero.Nat
import CandleFeed.Proofs.Aggregation.Refinement

/-!
# The segments of a run

The ticks that calls add are **`addedTicks`**, and those of an instrument are its own among them
(`ticksOf_eq_filter`).  **`segmentsFrom`** lists the segments that a run cuts these into, those that
it closes and then the one that it leaves open.  Together they are the ticks (`segmentsFrom_ticks`),
and each lies in one bucket (`segmentsFrom_inOneBucket`).

The bars that an engine delivers are those of the closed segments (`Engine.run_barsOf`), and the bar
in progress is that of the open one.  So the **`BarFigures`** of an instrument and a granularity
over a run, **`Engine.figuresOf`**, are those of the segments (`Engine.run_figuresOf`), and they
count every tick once (`Engine.run_tickCount`).
-/

namespace CandleFeed

/-- What a bar says of its ticks, whether it is final or not. -/
structure BarFigures where
  /-- Prices and volume. -/
  ohlcv : Ohlcv
  /-- How many ticks there are. -/
  tickCount : Nat

/-- The figures of a final bar. -/
def ClosedBar.figures (b : ClosedBar) : BarFigures := ⟨b.ohlcv, b.tickCount⟩

/-- The figures of a bar in progress. -/
def OpenBar.figures (b : OpenBar) : BarFigures := ⟨b.ohlcv, b.tickCount⟩

/-- The figures of the bar that a segment amounts to. -/
def Segment.figures (s : Segment) : BarFigures := ⟨s.ohlcv, s.size⟩

/-! ## The ticks that calls add -/

/-- The tick that a call adds, if it adds one. -/
def EngineCall.tick? : EngineCall → Option Tick
  | tick t => some t
  | _ => none

/-- The ticks that calls add, in order. -/
def addedTicks (calls : List EngineCall) : List Tick := calls.filterMap EngineCall.tick?

/-- The ticks of several calls are those of some, and then of the others. -/
theorem addedTicks_append (calls calls' : List EngineCall) :
    addedTicks (calls ++ calls') = addedTicks calls ++ addedTicks calls' :=
  List.filterMap_append

/-- The added ticks are those of calls that add one. -/
theorem mem_addedTicks {calls : List EngineCall} {t : Tick} :
    t ∈ addedTicks calls ↔ .tick t ∈ calls := by
  unfold addedTicks
  rw [List.mem_filterMap]
  constructor
  · rintro ⟨c, hc, heq⟩
    cases c with
    | tick t' =>
      obtain rfl := Option.some.inj heq
      exact hc
    | flush => exact absurd heq (by simp [EngineCall.tick?])
    | remove j => exact absurd heq (by simp [EngineCall.tick?])
  · exact fun hc => ⟨.tick t, hc, rfl⟩

/-- The ticks of an instrument are those of the added ones that are its own. -/
theorem ticksOf_eq_filter (i : Instrument) (calls : List EngineCall) :
    ticksOf i calls = (addedTicks calls).filter fun t => t.instrument = i := by
  unfold ticksOf addedTicks
  rw [List.filter_filterMap]
  refine List.filterMap_congr fun c _ => ?_
  cases c with
  | tick t => simp [EngineCall.tick?, Option.filter]
  | flush => rfl
  | remove j => rfl

/-! ## Segments -/

/-- The segments that several calls close, beginning with an open one, and why they do. -/
def closedFrom (i : Instrument) (g : Granularity) (opened : Option Segment)
    (calls : List EngineCall) : List (Segment × CloseReason) :=
  (cuts i g opened calls).filterMap id

/-- The segments that several calls close, beginning with an open one, and the one that they leave
open. -/
def segmentsFrom (i : Instrument) (g : Granularity) (opened : Option Segment)
    (calls : List EngineCall) : List Segment :=
  (closedFrom i g opened calls).map Prod.fst ++ (openAfter i g opened calls).toList

variable {i : Instrument} {g : Granularity}

@[simp] theorem segmentsFrom_nil (opened : Option Segment) :
    segmentsFrom i g opened [] = opened.toList := rfl

/-- The segments of a first call and others: the one that it closes, if it closes one, and those of
the others. -/
theorem segmentsFrom_cons (opened : Option Segment) (c : EngineCall) (cs : List EngineCall) :
    segmentsFrom i g opened (c :: cs) =
      ((c.cut i g opened).closed.map Prod.fst).toList ++
        segmentsFrom i g (c.cut i g opened).opened cs := by
  unfold segmentsFrom closedFrom
  rw [cuts]
  cases hc : (c.cut i g opened).closed with
  | none => simp [openAfter]
  | some closed => simp [openAfter]

/-- The ticks of a list of at most one segment. -/
theorem flatMap_ticks_toList (s : Option Segment) : s.toList.flatMap Segment.ticks = ticksIn s := by
  cases s <;> simp [ticksIn]

/-- The first call's ticks come before those of the others. -/
theorem ticksOf_cons (i : Instrument) (c : EngineCall) (cs : List EngineCall) :
    ticksOf i (c :: cs) = ticksOf i [c] ++ ticksOf i cs := by
  unfold ticksOf
  rw [← List.filterMap_append]
  rfl

/-- The segments are the ticks, in the order of their arrival. -/
theorem segmentsFrom_ticks (opened : Option Segment) (calls : List EngineCall) :
    (segmentsFrom i g opened calls).flatMap Segment.ticks = ticksIn opened ++ ticksOf i calls := by
  induction calls generalizing opened with
  | nil => simp [flatMap_ticks_toList, ticksOf]
  | cons c cs ih =>
    rw [segmentsFrom_cons, List.flatMap_append, flatMap_ticks_toList, ih, ← List.append_assoc,
      cut_ticks, List.append_assoc, ← ticksOf_cons]

/-- Every segment lies in one bucket. -/
theorem segmentsFrom_inOneBucket (calls : List EngineCall) :
    ∀ s ∈ segmentsFrom i g none calls, s.InOneBucket g := by
  have hnone : ∀ s : Segment, none = some s → s.InOneBucket g := fun _ h => absurd h (by simp)
  obtain ⟨hclosed, hopen⟩ := cuts_inOneBucket (i := i) hnone calls
  intro s hs
  rcases List.mem_append.mp hs with hs | hs
  · obtain ⟨closed, hmem, rfl⟩ := List.mem_map.mp hs
    obtain ⟨o, ho, heq⟩ := List.mem_filterMap.mp hmem
    exact hclosed closed (heq ▸ ho)
  · exact hopen s (Option.mem_toList.mp hs)

/-- The ticks of a segment are ticks of the instrument. -/
theorem mem_ticksOf_of_mem_segmentsFrom {calls : List EngineCall} {s : Segment}
    (hs : s ∈ segmentsFrom i g none calls) {t : Tick} (ht : t ∈ s.ticks) : t ∈ ticksOf i calls := by
  have hticks := segmentsFrom_ticks (i := i) (g := g) none calls
  rw [show ticksIn none = [] from rfl, List.nil_append] at hticks
  rw [← hticks]
  exact List.mem_flatMap.mpr ⟨s, hs, ht⟩

/-- The ticks of an instrument are those that were added for it. -/
theorem mem_ticksOf {calls : List EngineCall} {t : Tick} :
    t ∈ ticksOf i calls ↔ .tick t ∈ calls ∧ t.instrument = i := by
  rw [ticksOf_eq_filter, List.mem_filter, mem_addedTicks, decide_eq_true_iff]

namespace Engine

variable {gs : List Granularity} {calls : List EngineCall} {e : Engine}
  {bars : List (List ClosedBar)}

/-- Of the bars that are delivered, those of an instrument and a granularity are picked call by
call. -/
theorem barsOf_flatten (i : Instrument) (g : Granularity) (bars : List (List ClosedBar)) :
    barsOf i g bars.flatten = (bars.map (barsOf i g)).flatten := by
  unfold barsOf
  rw [List.filter_flatten]

/-- The bars that a run delivers are those of the segments that it closes. -/
theorem run_barsOf (h : (new gs).run calls = some (e, bars)) (i : Instrument) (hg : g ∈ gs) :
    barsOf i g bars.flatten = (closedFrom i g none calls).map (barOf i g) := by
  have hcalls := ((follows_new gs).run h).2.1 i g hg
  rw [barsOf_flatten, hcalls, closedFrom]
  induction cuts i g none calls with
  | nil => rfl
  | cons closed rest ih =>
    cases closed <;> simp [ih]

/-- The figures of the bars of an instrument and a granularity: those that were delivered, in order,
and the one in progress. -/
def figuresOf (i : Instrument) (g : Granularity) (bars : List (List ClosedBar)) (e : Engine) :
    List BarFigures :=
  (barsOf i g bars.flatten).map ClosedBar.figures ++ (e.current? i g).toList.map OpenBar.figures

/-- The figures of a run's bars are those of its segments. -/
theorem run_figuresOf (h : (new gs).run calls = some (e, bars)) (i : Instrument) (hg : g ∈ gs) :
    figuresOf i g bars e = (segmentsFrom i g none calls).map Segment.figures := by
  have hcurrent : (e.current? i g).toList.map OpenBar.figures =
      (openAfter i g none calls).toList.map Segment.figures := by
    obtain ⟨hsome, hnone⟩ := ((follows_new gs).run h).1.current? i g
    cases hopen : openAfter i g none calls with
    | none => rw [hnone (Or.inr hopen)]; rfl
    | some s =>
      obtain ⟨bucketEnd, -, hcurrent⟩ := hsome s hg hopen
      rw [hcurrent]
      rfl
  unfold figuresOf segmentsFrom
  rw [hcurrent, run_barsOf h i hg, List.map_append, List.map_map, List.map_map]
  rfl

/-- A bar is in progress after a run when a segment is left open. -/
theorem run_current?_isSome (h : (new gs).run calls = some (e, bars)) (i : Instrument)
    (hg : g ∈ gs) : (e.current? i g).isSome = (openAfter i g none calls).isSome := by
  obtain ⟨hsome, hnone⟩ := ((follows_new gs).run h).1.current? i g
  cases hopen : openAfter i g none calls with
  | none =>
    rw [hnone (Or.inr hopen)]
    rfl
  | some s =>
    obtain ⟨bucketEnd, -, hcurrent⟩ := hsome s hg hopen
    rw [hcurrent]
    rfl

/-- **Every tick is counted once**, by a bar that was delivered or by the one in progress. -/
theorem run_tickCount (h : (new gs).run calls = some (e, bars)) (i : Instrument) (hg : g ∈ gs) :
    ((figuresOf i g bars e).map BarFigures.tickCount).sum = (ticksOf i calls).length := by
  have hticks := congrArg List.length (segmentsFrom_ticks (i := i) (g := g) none calls)
  rw [List.length_flatMap] at hticks
  rw [run_figuresOf h i hg, List.map_map]
  exact hticks.trans (congrArg List.length (List.nil_append _))

/-! ## One more call, and no builders -/

/-- A run and one more call are a run. -/
theorem run_concat {e₀ : Engine} {c : EngineCall} {m : Emission}
    (hrun : e₀.run calls = some (e, bars)) (hc : e.perform c = some m) :
    e₀.run (calls ++ [c]) = some (m.engine, bars ++ [m.delivered]) := by
  induction calls generalizing e₀ bars with
  | nil =>
    obtain ⟨rfl, rfl⟩ := Prod.mk.inj (Option.some.inj hrun)
    simp [run, hc]
  | cons first calls ih =>
    obtain ⟨m', bars', hfirst, hrest, rfl⟩ := run_cons_eq_some hrun
    simp [run, hfirst, ih hrest]

/-- Where there are no builders, no bar is in progress. -/
theorem current?_of_empty (h : e.builders = .empty) (i : Instrument) (g : Granularity) :
    e.current? i g = none := by
  unfold current?
  rw [h]
  rfl

/-- Where there are no builders, none is closed. -/
theorem remove_of_empty (h : e.builders = .empty) (i : Instrument) :
    (e.remove i).engine = e ∧ (e.remove i).delivered = [] := by
  obtain ⟨granularities, builders, emittedTotal, isOpen⟩ := e
  obtain rfl : builders = .empty := h
  cases isOpen <;> exact ⟨rfl, rfl⟩

end Engine

end CandleFeed
