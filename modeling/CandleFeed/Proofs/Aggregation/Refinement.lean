import CandleFeed.Proofs.Aggregation.Calls

/-!
# Bars are what cutting the ticks gives

Without builders, the bars of one instrument and one granularity are easily said: take the ticks of
the instrument in the order of their arrival, and cut them between two consecutive ticks of
different buckets, wherever all builders are closed, and wherever those of the instrument are.
Every segment that this yields is a bar, and the call that makes the cut after it delivers the bar.

**`EngineCall.cut`** says what one call does to the segment that is open, **`cuts`** lists what a
sequence of calls closes, call by call, and **`openAfter`** is the segment that they leave open.
`cuts_ticks` and `cuts_inOneBucket` show that this is a cutting: no tick is lost, doubled or moved,
and every segment lies in one bucket.

* **`Engine.Follows`**: an engine whose builders hold the open segments.  `follows_new`: a new
  engine does; `Follows.perform`: a call keeps it, and delivers the segments that the call closes.
* **`Engine.Agrees`**: a run and the cutting give the same.  Every run does, for any granularities
  and any calls, as long as no tick falls into a bucket without end.
-/

namespace CandleFeed

/-! ## Cutting -/

/-- What a call does to the segment that is open for an instrument and a granularity. -/
structure Cut where
  /-- The segment that the call closes, and why, if it closes one. -/
  closed : Option (Segment × CloseReason)
  /-- The segment that is open after the call, if one is. -/
  opened : Option Segment

/-- What a call does to the segment that is open for an instrument and a granularity. -/
def EngineCall.cut (i : Instrument) (g : Granularity) (opened : Option Segment) : EngineCall → Cut
  | .tick t =>
    if t.instrument = i then
      match opened with
      | none => ⟨none, some ⟨t, []⟩⟩
      | some s =>
        if g.bucketStart s.last.timestamp = g.bucketStart t.timestamp then ⟨none, some (s.snoc t)⟩
        else ⟨some (s, .rollover), some ⟨t, []⟩⟩
    else ⟨none, opened⟩
  | .flush => ⟨opened.map fun s => (s, .flush), none⟩
  | .remove j => if j = i then ⟨opened.map fun s => (s, .unsubscribe), none⟩ else ⟨none, opened⟩

/-- The segment that each of several calls closes, if it closes one, beginning with an open one. -/
def cuts (i : Instrument) (g : Granularity) :
    Option Segment → List EngineCall → List (Option (Segment × CloseReason))
  | _, [] => []
  | opened, c :: cs => (c.cut i g opened).closed :: cuts i g (c.cut i g opened).opened cs

/-- The segment that is open after several calls, beginning with an open one. -/
def openAfter (i : Instrument) (g : Granularity) (opened : Option Segment)
    (calls : List EngineCall) : Option Segment :=
  calls.foldl (fun opened c => (c.cut i g opened).opened) opened

/-- The ticks of an instrument in the order of their arrival. -/
def ticksOf (i : Instrument) (calls : List EngineCall) : List Tick :=
  calls.filterMap fun
    | .tick t => if t.instrument = i then some t else none
    | _ => none

/-- The ticks of a segment, if there is one. -/
def ticksIn (s : Option Segment) : List Tick := s.elim [] Segment.ticks

/-- The bar of a closed segment. -/
def barOf (i : Instrument) (g : Granularity) (closed : Segment × CloseReason) : ClosedBar :=
  closed.1.closedBar i g closed.2

/-- One call loses no tick of the instrument, adds none but its own, and keeps their order. -/
theorem cut_ticks (i : Instrument) (g : Granularity) (opened : Option Segment) (c : EngineCall) :
    ticksIn ((c.cut i g opened).closed.map Prod.fst) ++ ticksIn (c.cut i g opened).opened =
      ticksIn opened ++ ticksOf i [c] := by
  cases c with
  | tick t =>
    by_cases hi : t.instrument = i
    · cases opened with
      | none => simp [EngineCall.cut, hi, ticksIn, ticksOf]
      | some s =>
        by_cases hb : g.bucketStart s.last.timestamp = g.bucketStart t.timestamp
        · simp [EngineCall.cut, hi, hb, ticksIn, ticksOf]
        · simp [EngineCall.cut, hi, hb, ticksIn, ticksOf]
    · simp [EngineCall.cut, hi, ticksIn, ticksOf]
  | flush => cases opened <;> simp [EngineCall.cut, ticksIn, ticksOf]
  | remove j =>
    by_cases hj : j = i
    · cases opened <;> simp [EngineCall.cut, hj, ticksIn, ticksOf]
    · simp [EngineCall.cut, hj, ticksIn, ticksOf]

/-- The closed segments in their order, and after them the open one, are the ticks of the
instrument. -/
theorem cuts_ticks (i : Instrument) (g : Granularity) (opened : Option Segment)
    (calls : List EngineCall) :
    (cuts i g opened calls).flatMap (fun closed => ticksIn (closed.map Prod.fst)) ++
        ticksIn (openAfter i g opened calls) =
      ticksIn opened ++ ticksOf i calls := by
  induction calls generalizing opened with
  | nil => simp [cuts, openAfter, ticksOf]
  | cons c cs ih =>
    have hsplit : ticksOf i (c :: cs) = ticksOf i [c] ++ ticksOf i cs := by
      unfold ticksOf
      rw [← List.filterMap_append]
      rfl
    have htail := ih (c.cut i g opened).opened
    calc (cuts i g opened (c :: cs)).flatMap (fun closed => ticksIn (closed.map Prod.fst)) ++
          ticksIn (openAfter i g opened (c :: cs))
        = ticksIn ((c.cut i g opened).closed.map Prod.fst) ++
            ((cuts i g (c.cut i g opened).opened cs).flatMap
              (fun closed => ticksIn (closed.map Prod.fst)) ++
              ticksIn (openAfter i g (c.cut i g opened).opened cs)) := by
          rw [cuts, List.flatMap_cons, List.append_assoc]
          rfl
      _ = ticksIn ((c.cut i g opened).closed.map Prod.fst) ++
            ticksIn (c.cut i g opened).opened ++ ticksOf i cs := by
          rw [htail, List.append_assoc]
      _ = ticksIn opened ++ ticksOf i (c :: cs) := by
          rw [cut_ticks, hsplit, List.append_assoc]

/-- One call leaves both the segment that it closes and the one that it leaves open in one bucket
each. -/
theorem cut_inOneBucket {i : Instrument} {g : Granularity} {opened : Option Segment}
    (h : ∀ s, opened = some s → s.InOneBucket g) (c : EngineCall) :
    (∀ closed, (c.cut i g opened).closed = some closed → closed.1.InOneBucket g) ∧
      ∀ s, (c.cut i g opened).opened = some s → s.InOneBucket g := by
  have hclose : ∀ (reason : CloseReason) (closed : Segment × CloseReason),
      opened.map (fun s => (s, reason)) = some closed → closed.1.InOneBucket g := by
    intro reason closed hclosed
    obtain ⟨s, hs, rfl⟩ := Option.map_eq_some_iff.mp hclosed
    exact h s hs
  cases c with
  | tick t =>
    by_cases hi : t.instrument = i
    · cases opened with
      | none =>
        refine ⟨fun closed hc => ?_, fun s hs => ?_⟩
        · simp [EngineCall.cut, hi] at hc
        · simp only [EngineCall.cut, hi, if_true, Option.some.injEq] at hs
          rw [← hs]
          exact Segment.inOneBucket_single t g
      | some s =>
        have hs := h s rfl
        by_cases hb : g.bucketStart s.last.timestamp = g.bucketStart t.timestamp
        · have ht : g.bucketStart t.timestamp = s.bucket g :=
            hb.symm.trans (hs s.last s.last_mem_ticks)
          refine ⟨fun closed hc => ?_, fun s' hs' => ?_⟩
          · simp [EngineCall.cut, hi, hb] at hc
          · simp only [EngineCall.cut, hi, hb, if_true, Option.some.injEq] at hs'
            rw [← hs']
            exact hs.snoc ht
        · refine ⟨fun closed hc => ?_, fun s' hs' => ?_⟩
          · simp only [EngineCall.cut, hi, hb, if_true, if_false, Option.some.injEq] at hc
            rw [← hc]
            exact hs
          · simp only [EngineCall.cut, hi, hb, if_true, if_false, Option.some.injEq] at hs'
            rw [← hs']
            exact Segment.inOneBucket_single t g
    · simp only [EngineCall.cut, hi, if_false]
      exact ⟨fun closed hc => absurd hc (by simp), h⟩
  | flush => exact ⟨hclose .flush, fun s hs => absurd hs (by simp [EngineCall.cut])⟩
  | remove j =>
    by_cases hj : j = i
    · simp only [EngineCall.cut, hj, if_true]
      exact ⟨hclose .unsubscribe, fun s hs => absurd hs (by simp)⟩
    · simp only [EngineCall.cut, hj, if_false]
      exact ⟨fun closed hc => absurd hc (by simp), h⟩

/-- Every closed segment lies in one bucket, and so does the one that is left open. -/
theorem cuts_inOneBucket {i : Instrument} {g : Granularity} {opened : Option Segment}
    (h : ∀ s, opened = some s → s.InOneBucket g) (calls : List EngineCall) :
    (∀ closed, some closed ∈ cuts i g opened calls → closed.1.InOneBucket g) ∧
      ∀ s, openAfter i g opened calls = some s → s.InOneBucket g := by
  induction calls generalizing opened with
  | nil => exact ⟨fun closed hc => absurd hc List.not_mem_nil, h⟩
  | cons c cs ih =>
    obtain ⟨hclosed, hopened⟩ := cut_inOneBucket h c
    obtain ⟨hcuts, hafter⟩ := ih hopened
    refine ⟨fun closed hc => ?_, hafter⟩
    rcases List.mem_cons.mp hc with heq | hc
    · exact hclosed closed heq.symm
    · exact hcuts closed hc

/-! ## The engine follows the cutting -/

namespace Engine

/-- The engine's builders hold the open segments of the configured granularities, and there are no
others. -/
structure Follows (e : Engine) (gs : List Granularity)
    (opened : Instrument → Granularity → Option Segment) : Prop where
  granularities : e.granularities = Granularity.sorted gs
  isOpen : e.isOpen = true
  holds : ∀ i, ∀ g ∈ gs, Builder.Holds g (opened i g) (e.builderAt i g)
  other : ∀ i, ∀ g ∉ gs, e.builderAt i g = none

/-- A new engine follows the cutting of no ticks. -/
theorem follows_new (gs : List Granularity) : (new gs).Follows gs fun _ _ => none where
  granularities := rfl
  isOpen := rfl
  holds _ _ _ := .absent
  other _ _ _ := rfl

variable {e : Engine} {m : Emission} {gs : List Granularity}
  {opened : Instrument → Granularity → Option Segment}

/-- A tick that advances a builder does to its segment what the call does. -/
theorem holds_advance {t : Tick} {g : Granularity} {s : Option Segment} {builder : Option Builder}
    {b : Builder} {closed : Option ClosedBar} (h : Builder.Holds g s builder)
    (hadv : advance t g builder = some (b, closed)) :
    Builder.Holds g ((EngineCall.tick t).cut t.instrument g s).opened (some b) ∧
      closed = ((EngineCall.tick t).cut t.instrument g s).closed.map (barOf t.instrument g) := by
  simp only [EngineCall.cut, if_true]
  rcases advance_cases hadv with ⟨old, rfl, hsame, rfl, rfl⟩ | ⟨hother, hfresh, rfl⟩
  · cases s with
    | none => cases h
    | some s =>
      simp only [h.bucketStart_last, if_pos hsame]
      exact ⟨h.apply hsame, rfl⟩
  · cases builder with
    | none =>
      cases h
      exact ⟨Builder.holds_new hfresh, rfl⟩
    | some old =>
      cases s with
      | none => cases h
      | some s =>
        simp only [h.bucketStart_last, if_neg (hother old rfl), Option.bind_some, h.close?]
        exact ⟨Builder.holds_new hfresh, rfl⟩

/-- Closing a builder yields the bar of its segment. -/
theorem closedWith_of_holds {i : Instrument} {g : Granularity} {s : Option Segment}
    {builder : Option Builder} (h : Builder.Holds g s builder) (reason : CloseReason) :
    closedWith i g reason builder =
      ((s.map fun s => (s, reason)).map (barOf i g)).toList := by
  unfold closedWith
  cases builder with
  | none =>
    cases h
    rfl
  | some b =>
    cases s with
    | none => cases h
    | some s =>
      rw [Option.bind_some, h.close?]
      rfl

/-- What a call does to the segments, it does to the builders, and it delivers the bars of the
segments that it closes. -/
theorem Follows.perform (h : e.Follows gs opened) {c : EngineCall} (hc : e.perform c = some m) :
    m.engine.Follows gs (fun i g => (c.cut i g (opened i g)).opened) ∧
      (∀ i, ∀ g ∈ gs, barsOf i g m.delivered =
        ((c.cut i g (opened i g)).closed.map (barOf i g)).toList) ∧
      ∀ b ∈ m.delivered, b.granularity ∈ gs := by
  have hasc : Granularity.Ascending e.granularities := by
    rw [h.granularities]
    exact Granularity.sorted_ascending gs
  have hmem : ∀ g, g ∈ e.granularities ↔ g ∈ gs := by
    intro g
    rw [h.granularities]
    exact Granularity.mem_sorted
  obtain ⟨hgs, hopen, -⟩ := perform_frame h.isOpen hc
  rw [h.granularities] at hgs
  -- a bar of a granularity that is not configured would have to come from a builder
  have hconfigured : (∀ i, ∀ g ∉ gs, barsOf i g m.delivered = []) →
      ∀ b ∈ m.delivered, b.granularity ∈ gs := by
    intro hnone b hb
    by_contra hg
    have hb' : b ∈ barsOf b.instrument b.granularity m.delivered := by
      unfold barsOf
      rw [List.mem_filter]
      exact ⟨hb, by simp⟩
    rw [hnone b.instrument b.granularity hg] at hb'
    exact absurd hb' List.not_mem_nil
  cases c with
  | tick t =>
    have hdelivered := (perform_tick_delivered hasc hc).1
    refine ⟨⟨hgs, hopen, fun i g hg => ?_, fun i g hg => ?_⟩, fun i g hg => ?_,
      fun b hb => (hmem _).mp (hdelivered b hb).2⟩
    · by_cases hi : t.instrument = i
      · subst hi
        obtain ⟨b, closed, hadv, hb, -⟩ := perform_tick_at hasc h.isOpen hc ((hmem g).mpr hg)
        rw [hb]
        exact (holds_advance (h.holds t.instrument g hg) hadv).1
      · rw [(perform_tick_elsewhere hasc hc hi g).1]
        simp only [EngineCall.cut, if_neg hi]
        exact h.holds i g hg
    · rw [perform_tick_other hasc hc (fun hg' => hg ((hmem g).mp hg')) i]
      exact h.other i g hg
    · by_cases hi : t.instrument = i
      · subst hi
        obtain ⟨b, closed, hadv, -, hbars⟩ := perform_tick_at hasc h.isOpen hc ((hmem g).mpr hg)
        rw [hbars, (holds_advance (h.holds t.instrument g hg) hadv).2]
      · rw [(perform_tick_elsewhere hasc hc hi g).2]
        simp only [EngineCall.cut, if_neg hi]
        rfl
  | flush =>
    obtain rfl := Option.some.inj hc
    refine ⟨⟨hgs, hopen, fun i g _ => .absent, fun i g _ => rfl⟩, fun i g hg => ?_,
      hconfigured fun i g hg => ?_⟩
    · rw [(flushAll_at h.isOpen i g).2, closedWith_of_holds (h.holds i g hg)]
      rfl
    · rw [(flushAll_at h.isOpen i g).2, h.other i g hg]
      rfl
  | remove j =>
    obtain rfl := Option.some.inj hc
    refine ⟨⟨hgs, hopen, fun i g hg => ?_, fun i g hg => ?_⟩, fun i g hg => ?_,
      hconfigured fun i g hg => ?_⟩
    · by_cases hj : j = i
      · subst hj
        rw [(remove_at h.isOpen j g).1]
        simp only [EngineCall.cut, if_true]
        exact .absent
      · rw [(remove_elsewhere hj g).1]
        simp only [EngineCall.cut, if_neg hj]
        exact h.holds i g hg
    · by_cases hj : j = i
      · subst hj
        exact (remove_at h.isOpen j g).1
      · rw [(remove_elsewhere hj g).1]
        exact h.other i g hg
    · by_cases hj : j = i
      · subst hj
        rw [(remove_at h.isOpen j g).2, closedWith_of_holds (h.holds j g hg)]
        simp only [EngineCall.cut, if_true]
      · rw [(remove_elsewhere hj g).2]
        simp only [EngineCall.cut, if_neg hj]
        rfl
    · by_cases hj : j = i
      · subst hj
        rw [(remove_at h.isOpen j g).2, h.other j g hg]
        rfl
      · exact (remove_elsewhere hj g).2

/-- A run that makes a first call has made it, and then the others. -/
theorem run_cons_eq_some {c : EngineCall} {cs : List EngineCall} {e' : Engine}
    {bars : List (List ClosedBar)} (h : e.run (c :: cs) = some (e', bars)) :
    ∃ m bars', e.perform c = some m ∧ m.engine.run cs = some (e', bars') ∧
      bars = m.delivered :: bars' := by
  simp only [run, Option.bind_eq_bind] at h
  obtain ⟨m, hm, h⟩ := Option.bind_eq_some_iff.mp h
  obtain ⟨⟨e'', bars'⟩, hrun, h⟩ := Option.bind_eq_some_iff.mp h
  obtain ⟨rfl, rfl⟩ := Prod.mk.inj (Option.some.inj h)
  exact ⟨m, bars', hm, hrun, rfl⟩

/-- A run does to the builders what its calls do to the segments, and delivers call by call the bars
of the segments that the call closes. -/
theorem Follows.run {calls : List EngineCall} {e' : Engine} {bars : List (List ClosedBar)}
    (h : e.Follows gs opened) (hrun : e.run calls = some (e', bars)) :
    e'.Follows gs (fun i g => openAfter i g (opened i g) calls) ∧
      (∀ i, ∀ g ∈ gs, bars.map (barsOf i g) =
        (cuts i g (opened i g) calls).map fun closed => (closed.map (barOf i g)).toList) ∧
      ∀ delivered ∈ bars, ∀ b ∈ delivered, b.granularity ∈ gs := by
  induction calls generalizing e opened bars with
  | nil =>
    obtain ⟨rfl, rfl⟩ := Prod.mk.inj (Option.some.inj hrun)
    exact ⟨h, fun i g _ => rfl, fun delivered hd => absurd hd List.not_mem_nil⟩
  | cons c cs ih =>
    obtain ⟨m, bars', hc, hrun', rfl⟩ := run_cons_eq_some hrun
    obtain ⟨hstep, hbars, hconf⟩ := h.perform hc
    obtain ⟨hafter, hbars', hconf'⟩ := ih hstep hrun'
    refine ⟨hafter, fun i g hg => ?_, fun delivered hd => ?_⟩
    · rw [List.map_cons, hbars i g hg, hbars' i g hg]
      rfl
    · rcases List.mem_cons.mp hd with rfl | hd
      · exact hconf
      · exact hconf' delivered hd

/-- A run delivers once for each call. -/
theorem run_length {calls : List EngineCall} {e' : Engine} {bars : List (List ClosedBar)}
    (hrun : e.run calls = some (e', bars)) : bars.length = calls.length := by
  induction calls generalizing e bars with
  | nil =>
    obtain ⟨rfl, rfl⟩ := Prod.mk.inj (Option.some.inj hrun)
    rfl
  | cons c cs ih =>
    obtain ⟨m, bars', -, hrun', rfl⟩ := run_cons_eq_some hrun
    rw [List.length_cons, List.length_cons, ih hrun']

/-- The bars of each tick of a run go from fine to coarse. -/
theorem run_tick_ascending {calls : List EngineCall} {e' : Engine} {bars : List (List ClosedBar)}
    (hasc : Granularity.Ascending e.granularities) (hopen : e.isOpen = true)
    (hrun : e.run calls = some (e', bars)) :
    ∀ t delivered, (EngineCall.tick t, delivered) ∈ calls.zip bars →
      delivered.Pairwise fun a b => a.granularity.rank < b.granularity.rank := by
  induction calls generalizing e bars with
  | nil => intro t delivered hmem; exact absurd hmem List.not_mem_nil
  | cons c cs ih =>
    obtain ⟨m, bars', hc, hrun', rfl⟩ := run_cons_eq_some hrun
    obtain ⟨hgs, hopen', -⟩ := perform_frame hopen hc
    intro t delivered hmem
    rw [List.zip_cons_cons] at hmem
    rcases List.mem_cons.mp hmem with heq | hmem
    · obtain ⟨rfl, rfl⟩ := Prod.mk.inj heq
      exact (perform_tick_delivered hasc hc).2
    · exact ih (hgs ▸ hasc) hopen' hrun' t delivered hmem

/-- Every bar that a run delivers is counted. -/
theorem run_emittedTotal {calls : List EngineCall} {e' : Engine} {bars : List (List ClosedBar)}
    (hopen : e.isOpen = true) (hrun : e.run calls = some (e', bars)) :
    e'.emittedTotal = e.emittedTotal + bars.flatten.length := by
  induction calls generalizing e bars with
  | nil =>
    obtain ⟨rfl, rfl⟩ := Prod.mk.inj (Option.some.inj hrun)
    rfl
  | cons c cs ih =>
    obtain ⟨m, bars', hc, hrun', rfl⟩ := run_cons_eq_some hrun
    obtain ⟨-, hopen', htotal⟩ := perform_frame hopen hc
    rw [ih hopen' hrun', htotal, List.flatten_cons, List.length_append, Nat.add_assoc]

/-- The bar in progress shows the segment that a builder holds. -/
theorem Follows.current? (h : e.Follows gs opened) (i : Instrument) (g : Granularity) :
    (∀ s, g ∈ gs → opened i g = some s → ∃ bucketEnd,
      g.nextBucketStart? (s.bucket g) = some bucketEnd ∧
        e.current? i g = some (s.openBar i g bucketEnd)) ∧
    (g ∉ gs ∨ opened i g = none → e.current? i g = none) := by
  rw [current?_eq]
  refine ⟨fun s hg hs => ?_, fun hnone => ?_⟩
  · obtain ⟨bucketEnd, bounded, -, hbar⟩ := (hs ▸ h.holds i g hg).openBar i
    exact ⟨bucketEnd, bounded, hbar⟩
  · have hbuilder : e.builderAt i g = none := by
      by_cases hg : g ∈ gs
      · have hopened := hnone.resolve_left fun hnot => hnot hg
        exact (hopened ▸ h.holds i g hg).eq_none
      · exact h.other i g hg
    rw [hbuilder]
    rfl

/-- A run of an engine with some granularities, from the calls that it makes to the engine that it
ends with and the bars that each call delivers, gives what cutting the ticks gives. -/
structure Agrees (gs : List Granularity) (calls : List EngineCall) (e : Engine)
    (bars : List (List ClosedBar)) : Prop where
  /-- There is a list of delivered bars for each call. -/
  length : bars.length = calls.length
  /-- For each configured granularity, a call delivers of each instrument the bar of the segment
  that it closes, and no other bar. -/
  delivered : ∀ i, ∀ g ∈ gs, bars.map (barsOf i g) =
    (cuts i g none calls).map fun closed => (closed.map (barOf i g)).toList
  /-- Bars are only delivered for granularities that are configured. -/
  configured : ∀ delivered ∈ bars, ∀ b ∈ delivered, b.granularity ∈ gs
  /-- The bars that a tick closes go from fine to coarse. -/
  ascending : ∀ t delivered, (EngineCall.tick t, delivered) ∈ calls.zip bars →
    delivered.Pairwise fun a b => a.granularity.rank < b.granularity.rank
  /-- The bar in progress is that of the segment which is left open. -/
  inProgress : ∀ i, ∀ g ∈ gs, ∀ s, openAfter i g none calls = some s →
    ∃ bucketEnd, g.nextBucketStart? (s.bucket g) = some bucketEnd ∧
      e.current? i g = some (s.openBar i g bucketEnd)
  /-- Where no segment is left open, or the granularity is not configured, no bar is in progress. -/
  idle : ∀ i g, g ∉ gs ∨ openAfter i g none calls = none → e.current? i g = none
  /-- Every bar that is delivered is counted. -/
  counted : e.emittedTotal = bars.flatten.length
  /-- The segments, closed and open, are the instrument's ticks in the order of their arrival. -/
  whole : ∀ i g, (cuts i g none calls).flatMap (fun closed => ticksIn (closed.map Prod.fst)) ++
    ticksIn (openAfter i g none calls) = ticksOf i calls
  /-- All ticks of a closed segment lie in the bucket of its bar. -/
  oneBucket : ∀ i g closed, some closed ∈ cuts i g none calls → closed.1.InOneBucket g

/-- **The engine refines the cutting of ticks**: whatever granularities it is given and whatever is
called, as long as no tick falls into a bucket without end. -/
theorem run_agrees {calls : List EngineCall} {bars : List (List ClosedBar)}
    (h : (new gs).run calls = some (e, bars)) : Agrees gs calls e bars := by
  obtain ⟨hafter, hbars, hconf⟩ := (follows_new gs).run h
  have hnone : ∀ (g : Granularity) (s : Segment), none = some s → s.InOneBucket g :=
    fun _ _ hs => absurd hs (by simp)
  exact {
    length := run_length h
    delivered := hbars
    configured := hconf
    ascending := run_tick_ascending (Granularity.sorted_ascending gs) rfl h
    inProgress := fun i g hg s hs => (hafter.current? i g).1 s hg hs
    idle := fun i g => (hafter.current? i g).2
    counted := by rw [run_emittedTotal rfl h]; exact Nat.zero_add _
    whole := fun i g => cuts_ticks i g none calls
    oneBucket := fun i g closed hc => (cuts_inOneBucket (hnone g) calls).1 closed hc }

/-- Calls over two instruments: a tick that crosses the minute, one that crosses the hour, a late
one that goes back, and both ways of closing. -/
def mixedCalls (i j : Instrument) : List EngineCall :=
  let second (n : Int) := (Timestamp.ofSeconds? n).getD .epoch
  [.tick ⟨i, 1, some 2, second 10⟩, .tick ⟨i, 3, none, second 70⟩, .tick ⟨j, 5, some 1, second 70⟩,
    .tick ⟨i, 2, some 1, second 3600⟩, .tick ⟨i, 4, some 1, second 80⟩, .remove i, .flush, .flush]

/-- A run with repeated granularities out of order: the tick of the fourth call closes two bars, and
so does the late one after it. -/
theorem run_agrees_mixedCalls : ∃ i j e bars, i.symbol = "AAPL" ∧ j.symbol = "MSFT" ∧
    (new [.hour1, .minute1, .hour1]).run (mixedCalls i j) = some (e, bars) ∧
      bars.map List.length = [0, 1, 0, 2, 2, 2, 2, 0] ∧
        Agrees [.hour1, .minute1, .hour1] (mixedCalls i j) e bars := by
  let aapl : Instrument := ⟨"NASDAQ", "AAPL", by decide, by decide, by decide⟩
  let msft : Instrument := ⟨"NASDAQ", "MSFT", by decide, by decide, by decide⟩
  have h : ((new [.hour1, .minute1, .hour1]).run (mixedCalls aapl msft)).map
      (fun r => r.2.map List.length) = some [0, 1, 0, 2, 2, 2, 2, 0] := by decide +kernel
  obtain ⟨⟨e, bars⟩, hrun, hlength⟩ := Option.map_eq_some_iff.mp h
  exact ⟨aapl, msft, e, bars, rfl, rfl, hrun, hlength, run_agrees hrun⟩

end Engine

end CandleFeed
