import CandleFeed.Proofs.Aggregation.BrokenOff
import CandleFeed.Proofs.Aggregation.Extremes
import CandleFeed.Proofs.Aggregation.Stretch
import CandleFeed.Proofs.Decimal.Steps

/-!
# Ticks in any order

Producers bring their ticks in whatever order their calls are made.  Where all ticks of an
instrument lie in one bucket of each granularity, little depends on it.

**`Engine.addAll`** brings ticks in turn.  An engine that had no entry for their instrument holds
them in their order after it, and emits nothing (**`Engine.Gathered`**: `Gathered.addTick` for one
tick, `Gathered.addAll` for all of them).  So each granularity has a bar of all ticks in their
order, **`OpenBar.OfTicks`** (`Reachable.addAll_gathers`).

The bars of two orders agree in their bucket, in the number of ticks and in the highest and the
lowest price, and in the volume too where its partial sums are exact (**`OpenBar.OfTicks.agree`**);
opening and closing are the first and the last price of the order.  That is
**`Reachable.addAll_anyOrder`**.

Ticks whose bucket has no end break off in every order, and leave no bar from that granularity on.
-/

namespace CandleFeed

variable {gs : List Granularity} {g : Granularity} {i : Instrument} {ticks order : List Tick}
  {bar bar' : OpenBar}

/-! ## Bars of ticks in an order -/

namespace OpenBar

/-- The bar in progress of ticks of one bucket in an order. -/
structure OfTicks (g : Granularity) (order : List Tick) (bar : OpenBar) : Prop where
  instrument : ∀ t ∈ order, t.instrument = bar.instrument
  granularity : bar.granularity = g
  tickCount : bar.tickCount = order.length
  bucketStart : ∀ t ∈ order, g.bucketStart t.timestamp = bar.bucketStart
  bucketEnd : g.nextBucketStart? bar.bucketStart = some bar.bucketEnd
  opening : order.head?.map Tick.price = some bar.ohlcv.opening
  closing : order.getLast?.map Tick.price = some bar.ohlcv.closing
  high : IsMaximum bar.ohlcv.high (order.map Tick.price)
  low : IsMinimum bar.ohlcv.low (order.map Tick.price)
  volume : bar.ohlcv.volume = (order.filterMap Tick.volume).foldl (· + ·) 0

/-- Two bars agree in what does not depend on the order of their ticks; of two zeros either may
stand for the other as a price. -/
structure Agree (bar bar' : OpenBar) : Prop where
  tickCount : bar.tickCount = bar'.tickCount
  bucketStart : bar.bucketStart = bar'.bucketStart
  bucketEnd : bar.bucketEnd = bar'.bucketEnd
  high : (bar.ohlcv.high == bar'.ohlcv.high) = true
  low : (bar.ohlcv.low == bar'.ohlcv.low) = true

end OpenBar

/-- Two numbers neither of which is less are equal. -/
theorem beq_of_le_of_le {x y : Float} (hxy : x ≤ y) (hyx : y ≤ x) : (x == y) = true := by
  obtain ⟨hx, hy, hplace⟩ := (le_iff_place x y).mp hxy
  have hplace' := ((le_iff_place y x).mp hyx).2.2
  have hbeq : (x == y) = (x.toModel.unpack.compare y.toModel.unpack == some .eq) := rfl
  rw [hbeq, compare_unpack, if_pos ⟨hx, hy⟩, hplace.antisymm hplace', compare_eq_iff_eq.mpr rfl]
  rfl

/-- The bar of a segment whose prices are numbers is that of its ticks. -/
theorem Segment.ofTicks_openBar {s : Segment} (hinstrument : ∀ t ∈ s.ticks, t.instrument = i)
    (hone : s.InOneBucket g) (hprices : ∀ t ∈ s.ticks, t.price.isNaN = false)
    {bucketEnd : Timestamp} (hend : g.nextBucketStart? (s.bucket g) = some bucketEnd) :
    (s.openBar i g bucketEnd).OfTicks g s.ticks where
  instrument := hinstrument
  granularity := rfl
  tickCount := rfl
  bucketStart := hone
  bucketEnd := hend
  opening := rfl
  closing := by
    rw [Segment.ticks, List.getLast?_cons]
    rfl
  high := by
    rw [show (s.openBar i g bucketEnd).ohlcv.high = s.ohlcv.high from rfl, s.high_eq_running]
    exact Segment.isMaximum_running hprices
  low := by
    rw [show (s.openBar i g bucketEnd).ohlcv.low = s.ohlcv.low from rfl, s.low_eq_running]
    exact Segment.isMinimum_running hprices
  volume := rfl

/-- **Bars of the same ticks agree, whatever their orders**, and they have one volume where the
partial sums are exact in both orders. -/
theorem OpenBar.OfTicks.agree (h : bar.OfTicks g order) (h' : bar'.OfTicks g ticks)
    (hperm : order.Perm ticks) :
    bar.Agree bar' ∧
      (ExactFrom 0 (order.filterMap Tick.volume) → ExactFrom 0 (ticks.filterMap Tick.volume) →
        bar.ohlcv.volume = bar'.ohlcv.volume) := by
  have hstart : bar.bucketStart = bar'.bucketStart := by
    cases order with
    | nil => exact absurd h.opening (by simp)
    | cons t rest =>
      have ht : t ∈ t :: rest := List.mem_cons_self
      rw [← h.bucketStart t ht, h'.bucketStart t (hperm.subset ht)]
  have hprices := hperm.map Tick.price
  refine ⟨{
    tickCount := by rw [h.tickCount, h'.tickCount, hperm.length_eq]
    bucketStart := hstart
    bucketEnd := Option.some.inj (by rw [← h.bucketEnd, ← h'.bucketEnd, hstart])
    high := beq_of_le_of_le (h'.high.2 _ (hprices.subset h.high.1))
      (h.high.2 _ (hprices.symm.subset h'.high.1))
    low := beq_of_le_of_le (h.low.2 _ (hprices.symm.subset h'.low.1))
      (h'.low.2 _ (hprices.subset h.low.1)) }, fun hexact hexact' => ?_⟩
  rw [h.volume, h'.volume]
  exact foldl_add_of_perm (hperm.filterMap _) hexact hexact'

/-! ## Adding ticks -/

namespace Engine

variable {e : Engine}

/-- Adds ticks in turn, going on after one that breaks off: the engine after them, and what each
call emitted and answered. -/
def addAll (e : Engine) : List Tick → Engine × List (Emission × TickOutcome)
  | [] => (e, [])
  | t :: ts =>
    let rest := (e.addTick t).1.engine.addAll ts
    (rest.1, e.addTick t :: rest.2)

/-- An engine that has taken some ticks of an instrument, all of one bucket of each granularity:
its builders hold them as far as they have got, and there are no others. -/
structure Gathered (gs : List Granularity) (i : Instrument) (ticks : List Tick) (e : Engine) :
    Prop where
  reachable : e.Reachable gs
  holds : ∀ g ∈ gs, (∀ t ∈ ticks, Reaches t gs g) →
    Builder.Holds g (Segment.ofTicks? ticks) (e.builderAt i g)
  other : ∀ g, ¬ (g ∈ gs ∧ ∀ t ∈ ticks, Reaches t gs g) → e.builderAt i g = none

/-- An engine without an entry has taken no ticks of the instrument. -/
theorem Reachable.gathered_nil (h : e.Reachable gs) (hidle : i ∉ e.active) :
    e.Gathered gs i [] where
  reachable := h
  holds g _ _ := by
    rw [builderAt_of_not_mem_active hidle]
    exact .absent
  other g _ := builderAt_of_not_mem_active hidle g

/-- Ticks of the same buckets get equally far. -/
theorem reaches_congr {t t' : Tick}
    (h : ∀ g ∈ gs, g.bucketStart t.timestamp = g.bucketStart t'.timestamp) (g : Granularity) :
    Reaches t gs g ↔ Reaches t' gs g :=
  forall₂_congr fun g' hg' => by rw [h g' hg']

/-- A tick of the same bucket joins the segment of the ticks before it. -/
theorem cut_ofTicks? {t : Tick}
    (h : ∀ t' ∈ ticks, g.bucketStart t'.timestamp = g.bucketStart t.timestamp) :
    (EngineCall.tick t).cut t.instrument g (Segment.ofTicks? ticks) =
      ⟨none, Segment.ofTicks? (ticks ++ [t])⟩ := by
  cases ticks with
  | nil => simp [EngineCall.cut, Segment.ofTicks?]
  | cons first rest =>
    have hlast := h _ (Segment.mk first rest).last_mem_ticks
    simp only [EngineCall.cut, if_true, Segment.ofTicks?, if_pos hlast]
    rfl

section Step

variable {t : Tick}

/-- The builders hold ticks of the bucket only. -/
theorem Gathered.bucketStart (h : e.Gathered gs i ticks)
    (hone : ∀ t' ∈ ticks, g.bucketStart t'.timestamp = g.bucketStart t.timestamp) {b : Builder}
    (hb : e.builderAt i g = some b) : b.bucketStart = g.bucketStart t.timestamp := by
  by_cases hreached : g ∈ gs ∧ ∀ t ∈ ticks, Reaches t gs g
  · have hholds := h.holds g hreached.1 hreached.2
    rw [hb] at hholds
    cases hs : Segment.ofTicks? ticks with
    | none =>
      rw [hs] at hholds
      exact absurd hholds.eq_none (by simp)
    | some s =>
      rw [hs] at hholds
      rw [← hholds.bucketStart_last]
      have hticks := Segment.ofTicks?_eq_some hs
      exact hone _ (hticks ▸ s.last_mem_ticks)
  · exact absurd ((h.other g hreached).symm.trans hb) (by simp)

/-- A tick closes no builder of its bucket. -/
theorem closedBy_eq_nil {builder : Option Builder}
    (h : ∀ b, builder = some b → b.bucketStart = g.bucketStart t.timestamp) :
    closedBy t g builder = [] := by
  unfold closedBy
  cases hadvance : advance t g builder with
  | none => rfl
  | some advanced =>
    obtain ⟨b, closed⟩ := advanced
    rcases advance_cases hadvance with ⟨_, -, -, -, rfl⟩ | ⟨hother, -, rfl⟩
    · rfl
    · cases builder with
      | none => rfl
      | some old => exact absurd (h old rfl) (hother old rfl)

/-- A call for a tick that emits no bar, and breaks off where a bucket of the tick has no end. -/
structure SilentCall (gs : List Granularity) (t : Tick) (call : Emission × TickOutcome) : Prop where
  delivered : call.1.delivered = []
  count : call.1.count = 0
  rolled : ∀ rolled current, call.2 = .applied rolled current → rolled = 0
  breaksOff : call.2 = .outOfTime ↔
    ∃ g ∈ gs, g.nextBucketStart? (g.bucketStart t.timestamp) = none

/-- A tick of the bucket emits nothing. -/
theorem Gathered.silentCall (h : e.Gathered gs t.instrument ticks)
    (hone : ∀ g ∈ gs, ∀ t' ∈ ticks, g.bucketStart t'.timestamp = g.bucketStart t.timestamp) :
    SilentCall gs t (e.addTick t) ∧ (e.addTick t).1.engine.emittedTotal = e.emittedTotal := by
  have hgranularities := h.reachable.granularities_eq
  have hnodup : e.granularities.Nodup := by
    rw [hgranularities]
    exact (Granularity.sorted_ascending gs).nodup
  have hclosed : (e.granularities.flatMap fun g => closedBy t g (e.builderAt t.instrument g)) =
      [] := by
    rw [hgranularities]
    refine List.flatMap_eq_nil_iff.mpr fun g hg => closedBy_eq_nil fun b hb => ?_
    exact h.bucketStart (hone g (Granularity.mem_sorted.mp hg)) hb
  have hbreaks := h.reachable.outOfTime_iff t
  simp only [← Granularity.nextBucketStart?_bucketStart_eq_none_iff] at hbreaks
  revert hbreaks
  unfold addTick
  simp only
  split
  · rename_i hcomplete
    rw [(pass_rolled hnodup hcomplete).trans hclosed]
    intro hbreaks
    exact ⟨⟨ite_self [], rfl, fun _ _ heq => (TickOutcome.applied.inj heq).1.symm, hbreaks⟩, rfl⟩
  · intro hbreaks
    exact ⟨⟨ite_self [], rfl, fun _ _ heq => absurd heq (by simp), hbreaks⟩, rfl⟩

/-- All ticks get as far as the last of them. -/
theorem forall_reaches_concat
    (hone : ∀ g ∈ gs, ∀ t' ∈ ticks, g.bucketStart t'.timestamp = g.bucketStart t.timestamp)
    (g : Granularity) : (∀ t' ∈ ticks ++ [t], Reaches t' gs g) ↔ Reaches t gs g := by
  refine ⟨fun hall => hall t (by simp), fun ht t' ht' => ?_⟩
  rcases List.mem_append.mp ht' with ht' | ht'
  · exact (reaches_congr (fun g' hg' => hone g' hg' t' ht') g).mpr ht
  · rwa [List.mem_singleton.mp ht']

/-- Where a tick of the bucket does not get there is no builder. -/
theorem Gathered.eq_none (h : e.Gathered gs i ticks)
    (hone : ∀ g ∈ gs, ∀ t' ∈ ticks, g.bucketStart t'.timestamp = g.bucketStart t.timestamp)
    (hnot : ¬ (g ∈ gs ∧ Reaches t gs g)) : e.builderAt i g = none := by
  by_cases hg : g ∈ gs
  · cases ticks with
    | nil => exact (h.holds g hg fun _ hnil => absurd hnil List.not_mem_nil).eq_none
    | cons t' rest =>
      refine h.other g fun hboth => hnot ⟨hg, ?_⟩
      have ht' : t' ∈ t' :: rest := List.mem_cons_self
      exact (reaches_congr (fun g' hg' => hone g' hg' t' ht') g).mp (hboth.2 t' ht')
  · exact h.other g fun hboth => hg hboth.1

/-- **One more tick of the bucket** joins those that have been taken, and emits nothing. -/
theorem Gathered.addTick (h : e.Gathered gs t.instrument ticks)
    (hone : ∀ g ∈ gs, ∀ t' ∈ ticks, g.bucketStart t'.timestamp = g.bucketStart t.timestamp) :
    (e.addTick t).1.engine.Gathered gs t.instrument (ticks ++ [t]) := by
  have hat := addTick_at h.reachable.granularities_eq h.reachable.knowsEnds t
  refine ⟨.tick h.reachable t, fun g hg hticks => ?_, fun g hnot => ?_⟩
  · have ht := (forall_reaches_concat hone g).mp hticks
    obtain ⟨b, closed, hadvance, hb⟩ := (hat g).1 ⟨hg, ht⟩
    have hbefore := h.holds g hg fun t' ht' => hticks t' (List.mem_append_left _ ht')
    have hafter := (holds_advance hbefore hadvance).1
    rwa [cut_ofTicks? (hone g hg), ← hb] at hafter
  · rw [forall_reaches_concat hone] at hnot
    exact ((hat g).2 hnot).trans (h.eq_none hone hnot)

end Step

/-- All ticks lie in one bucket of each granularity. -/
def InOneBucket (gs : List Granularity) (ticks : List Tick) : Prop :=
  ∀ g ∈ gs, ∀ t ∈ ticks, ∀ t' ∈ ticks, g.bucketStart t.timestamp = g.bucketStart t'.timestamp

/-- **Ticks of the bucket, one after another**, join those that have been taken, and no call emits
anything. -/
theorem Gathered.addAll (h : e.Gathered gs i ticks) (hinstrument : ∀ t ∈ order, t.instrument = i)
    (hone : InOneBucket gs (ticks ++ order)) :
    (e.addAll order).1.Gathered gs i (ticks ++ order) ∧
      List.Forall₂ (SilentCall gs) order (e.addAll order).2 ∧
      (e.addAll order).1.emittedTotal = e.emittedTotal := by
  induction order generalizing e ticks with
  | nil =>
    rw [List.append_nil]
    exact ⟨h, .nil, rfl⟩
  | cons t order ih =>
    rw [List.forall_mem_cons] at hinstrument
    obtain ⟨rfl, hinstrument⟩ := hinstrument
    have hbefore : ∀ g ∈ gs, ∀ t' ∈ ticks,
        g.bucketStart t'.timestamp = g.bucketStart t.timestamp :=
      fun g hg t' ht' => hone g hg t' (by simp [ht']) t (by simp)
    rw [List.append_cons] at hone ⊢
    obtain ⟨hsilent, htotal⟩ := h.silentCall hbefore
    obtain ⟨hafter, hcalls, htotal'⟩ := ih (h.addTick hbefore) hinstrument hone
    exact ⟨hafter, .cons hsilent hcalls, htotal'.trans htotal⟩

/-- What an engine without an entry for an instrument makes of ticks in an order. -/
structure Gathers (gs : List Granularity) (e : Engine) (i : Instrument) (order : List Tick) :
    Prop where
  /-- No call emits a bar, and none is counted. -/
  calls : List.Forall₂ (SilentCall gs) order (e.addAll order).2
  counted : (e.addAll order).1.emittedTotal = e.emittedTotal
  /-- Each granularity that the ticks reach has a bar of all ticks in their order. -/
  bars : ∀ g ∈ gs, order ≠ [] → (∀ t ∈ order, Reaches t gs g) →
    ∃ bar, (e.addAll order).1.current? i g = some bar ∧ bar.OfTicks g order
  /-- The others have none. -/
  idle : ∀ g, ¬ (g ∈ gs ∧ order ≠ [] ∧ ∀ t ∈ order, Reaches t gs g) →
    (e.addAll order).1.current? i g = none

/-- **What ticks of one bucket amount to.** -/
theorem Reachable.addAll_gathers (h : e.Reachable gs) (hidle : i ∉ e.active)
    (hinstrument : ∀ t ∈ order, t.instrument = i) (hone : InOneBucket gs order)
    (hprices : ∀ t ∈ order, t.price.isFinite = true) : e.Gathers gs i order := by
  obtain ⟨hafter, hcalls, htotal⟩ := (h.gathered_nil hidle).addAll hinstrument hone
  rw [List.nil_append] at hafter
  refine ⟨hcalls, htotal, fun g hg hne hreached => ?_, fun g hnot => ?_⟩
  · obtain ⟨s, hs⟩ := Option.isSome_iff_exists.mp (Segment.ofTicks?_isSome.mpr hne)
    obtain ⟨bucketEnd, bounded, inOneBucket, hbar⟩ := (hs ▸ hafter.holds g hg hreached).openBar i
    refine ⟨s.openBar i g bucketEnd, (current?_eq _ i g).trans hbar, ?_⟩
    rw [Segment.ofTicks?_eq_some hs] at hinstrument hprices ⊢
    exact s.ofTicks_openBar hinstrument inOneBucket
      (fun t ht => isNaN_of_isFinite (hprices t ht)) bounded
  · have hnone : (e.addAll order).1.builderAt i g = none := by
      by_cases hboth : g ∈ gs ∧ ∀ t ∈ order, Reaches t gs g
      · have hnil : order = [] := by
          by_contra hne
          exact hnot ⟨hboth.1, hne, hboth.2⟩
        have hholds := hafter.holds g hboth.1 hboth.2
        rw [hnil] at hholds ⊢
        exact hholds.eq_none
      · exact hafter.other g hboth
    rw [current?_eq, hnone]
    rfl

/-- **The order of ticks of one bucket does not matter**: an engine without an entry for their
instrument emits no bar, and ends with bars that agree, whichever order they come in. -/
theorem Reachable.addAll_anyOrder (h : e.Reachable gs) (hidle : i ∉ e.active)
    (hinstrument : ∀ t ∈ ticks, t.instrument = i) (hone : InOneBucket gs ticks)
    (hprices : ∀ t ∈ ticks, t.price.isFinite = true) (hperm : order.Perm ticks) :
    e.Gathers gs i order ∧ e.Gathers gs i ticks ∧ ∀ g,
      ((e.addAll order).1.current? i g = none ↔ (e.addAll ticks).1.current? i g = none) ∧
      ∀ bar bar', (e.addAll order).1.current? i g = some bar →
        (e.addAll ticks).1.current? i g = some bar' →
        bar.Agree bar' ∧
          (ExactFrom 0 (order.filterMap Tick.volume) → ExactFrom 0 (ticks.filterMap Tick.volume) →
            bar.ohlcv.volume = bar'.ohlcv.volume) := by
  have hmem : ∀ {p : Tick → Prop}, (∀ t ∈ ticks, p t) → ∀ t ∈ order, p t :=
    fun hp t ht => hp t (hperm.subset ht)
  have horder : e.Gathers gs i order := h.addAll_gathers hidle (hmem hinstrument)
    (fun g hg t ht t' ht' => hone g hg t (hperm.subset ht) t' (hperm.subset ht')) (hmem hprices)
  have hticks : e.Gathers gs i ticks := h.addAll_gathers hidle hinstrument hone hprices
  refine ⟨horder, hticks, fun g => ?_⟩
  have hsame : (g ∈ gs ∧ order ≠ [] ∧ ∀ t ∈ order, Reaches t gs g) ↔
      g ∈ gs ∧ ticks ≠ [] ∧ ∀ t ∈ ticks, Reaches t gs g := by
    rw [ne_eq, ← List.length_eq_zero_iff, hperm.length_eq, List.length_eq_zero_iff]
    simp only [hperm.mem_iff, ne_eq]
  by_cases hreached : g ∈ gs ∧ order ≠ [] ∧ ∀ t ∈ order, Reaches t gs g
  · obtain ⟨bar, hbar, hof⟩ := horder.bars g hreached.1 hreached.2.1 hreached.2.2
    have hreached' := hsame.mp hreached
    obtain ⟨bar', hbar', hof'⟩ := hticks.bars g hreached'.1 hreached'.2.1 hreached'.2.2
    rw [hbar, hbar']
    refine ⟨by simp, ?_⟩
    rintro _ _ ⟨⟩ ⟨⟩
    exact hof.agree hof' hperm
  · rw [horder.idle g hreached, hticks.idle g (mt hsame.mpr hreached)]
    exact ⟨Iff.rfl, fun _ _ hsome => nomatch hsome⟩

/-- Three ticks of a minute, and the last two before the first: minute and hour have a bar in both
orders, and the volumes add up exactly. -/
theorem addAll_anyOrder_minute : ∃ (i : Instrument) (e : Engine) (ticks order : List Tick),
    i.symbol = "AAPL" ∧
    e.Reachable [.hour1, .minute1] ∧ i ∉ e.active ∧ (∀ t ∈ ticks, t.instrument = i) ∧
    InOneBucket [.hour1, .minute1] ticks ∧ (∀ t ∈ ticks, t.price.isFinite = true) ∧
    order.Perm ticks ∧ ticks.map Tick.price = [3, 1, 2] ∧ order.map Tick.price = [1, 2, 3] ∧
    ExactFrom 0 (order.filterMap Tick.volume) ∧ ExactFrom 0 (ticks.filterMap Tick.volume) ∧
    e.Gathers [.hour1, .minute1] i order ∧ e.Gathers [.hour1, .minute1] i ticks ∧
    ∀ g ∈ [Granularity.minute1, .hour1], ∃ bar bar', (e.addAll order).1.current? i g = some bar ∧
      (e.addAll ticks).1.current? i g = some bar' ∧ bar.Agree bar' ∧
      bar.ohlcv.volume = bar'.ohlcv.volume := by
  let aapl : Instrument := ⟨"NASDAQ", "AAPL", by decide, by decide, by decide⟩
  let first : Tick := ⟨aapl, 3, some 2, ⟨1704207600, 0, by decide, by decide, by decide⟩⟩
  let second : Tick := ⟨aapl, 1, none, ⟨1704207601, 0, by decide, by decide, by decide⟩⟩
  let third : Tick := ⟨aapl, 2, some 1, ⟨1704207602, 0, by decide, by decide, by decide⟩⟩
  let e := new [.hour1, .minute1]
  have hidle : aapl ∉ e.active := by decide +kernel
  have hinstrument : ∀ t ∈ [first, second, third], t.instrument = aapl := by decide
  have hone : InOneBucket [.hour1, .minute1] [first, second, third] := by
    unfold InOneBucket
    decide +kernel
  have hprices : ∀ t ∈ [first, second, third], t.price.isFinite = true := by decide +kernel
  have hperm : [second, third, first].Perm [first, second, third] := by decide +kernel
  have hexact : ExactFrom 0 ([second, third, first].filterMap Tick.volume) := by decide +kernel
  have hexact' : ExactFrom 0 ([first, second, third].filterMap Tick.volume) := by decide +kernel
  obtain ⟨horder, hticks, hboth⟩ :=
    Reachable.new.addAll_anyOrder hidle hinstrument hone hprices hperm
  refine ⟨aapl, e, _, _, rfl, .new, hidle, hinstrument, hone, hprices, hperm, rfl, rfl, hexact,
    hexact', horder, hticks, fun g hg => ?_⟩
  have hg' : g ∈ [Granularity.hour1, .minute1] := List.mem_reverse.mp hg
  have hreaches : ∀ t ∈ [first, second, third], Reaches t [.hour1, .minute1] g := by
    revert g
    decide +kernel
  obtain ⟨bar, hbar, -⟩ := horder.bars g hg' (by simp) fun t ht => hreaches t (hperm.subset ht)
  obtain ⟨bar', hbar', -⟩ := hticks.bars g hg' (by simp) hreaches
  obtain ⟨hagree, hvolume⟩ := (hboth g).2 bar bar' hbar hbar'
  exact ⟨bar, bar', hbar, hbar', hagree, hvolume hexact hexact'⟩

/-- In the last minute, which has no end, no bar comes of two ticks: both calls break off. -/
theorem addAll_anyOrder_lastMinute : ∃ i : Instrument, i.symbol = "AAPL" ∧
    let first : Tick := ⟨i, 1, some 2, ⟨8210266876798, 0, by decide, by decide, by decide⟩⟩
    let second : Tick := ⟨i, 3, some 1, ⟨8210266876799, 0, by decide, by decide, by decide⟩⟩
    let e := new [.minute1]
    e.Reachable [.minute1] ∧ i ∉ e.active ∧
      Granularity.minute1.bucketStart first.timestamp =
        Granularity.minute1.bucketStart second.timestamp ∧
      first.price.isFinite = true ∧ second.price.isFinite = true ∧
      (e.addAll [first, second]).2.map Prod.snd = [.outOfTime, .outOfTime] ∧
      (e.addAll [first, second]).1.current? i .minute1 = none := by
  let aapl : Instrument := ⟨"NASDAQ", "AAPL", by decide, by decide, by decide⟩
  exact ⟨aapl, rfl, .new, by decide +kernel⟩

end Engine

end CandleFeed
