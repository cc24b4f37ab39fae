import Mathlib.Data.List.Forall2
import CandleFeed.Proofs.Aggregation.Extremes
import CandleFeed.Proofs.Aggregation.History
import CandleFeed.Proofs.Market.Bucket

/-!
# Coarse bars are merges of fine ones

Whatever is called, in whatever order ticks come, the bars of a coarser granularity can be computed
from those of a finer one: each is the merge of a block of consecutive finer bars, and the blocks
are all of these (**`Engine.Nests`**).  The pair of week and month is left out, as a week may belong
to two months.

The reason is that buckets are nested, so that a cut between two coarse segments is also one between
two fine segments.

* **`Segment.Joins`**: a segment consists of the ticks of a block of others.  Its figures are then
  the merge of theirs (`Segment.Joins.merges`).
* **`Aligned`**: the coarse segment that is open consists of fine segments that are closed and the
  fine one that is open.  `Aligned.cut`: every call keeps this; `Aligned.blocks`: so the fine
  segments of a run fall into blocks.
-/

namespace CandleFeed

/-! ## Segments that join others -/

namespace Segment

/-- The segment consists of the ticks of a block of segments, one after another. -/
structure Joins (s : Segment) (block : List Segment) : Prop where
  nonempty : block ≠ []
  ticks : s.ticks = block.flatMap Segment.ticks

/-- The ticks of a segment end with its last one. -/
theorem getLast?_ticks (s : Segment) : s.ticks.getLast? = some s.last := by
  unfold ticks last
  rw [List.getLast?_cons]

variable {s : Segment} {block : List Segment}

/-- A segment begins as its block does. -/
theorem Joins.first {b : Segment} {bs : List Segment} (h : s.Joins (b :: bs)) :
    s.first = b.first ∧ s.rest = b.rest ++ bs.flatMap Segment.ticks :=
  List.cons.inj h.ticks

/-- A segment ends as its block does. -/
theorem Joins.last {bs : List Segment} {b : Segment} (h : s.Joins (bs ++ [b])) :
    s.last = b.last := by
  have hlast := congrArg List.getLast? h.ticks
  rw [List.flatMap_append, List.flatMap_singleton, List.getLast?_append, getLast?_ticks,
    getLast?_ticks] at hlast
  exact Option.some.inj hlast

/-- A segment has as many ticks as its block. -/
theorem Joins.size (h : s.Joins block) : s.size = (block.map Segment.size).sum := by
  rw [Segment.size, h.ticks, List.length_flatMap]
  rfl

/-- An associative operation takes the ticks of a segment one by one as it takes their running
value. -/
theorem foldl_ticks (op : Float → Float → Float) [Std.Associative op] (s : Segment) (x : Float) :
    (s.ticks.map Tick.price).foldl op x = op x (s.running op) := by
  rw [ticks, List.map_cons, List.foldl_cons, List.foldl_assoc]
  rfl

/-- An associative operation runs over the ticks of segments as over their running values. -/
theorem foldl_flatMap_ticks (op : Float → Float → Float) [Std.Associative op]
    (block : List Segment) (x : Float) :
    ((block.flatMap Segment.ticks).map Tick.price).foldl op x =
      (block.map (running op)).foldl op x := by
  induction block generalizing x with
  | nil => rfl
  | cons b block ih =>
    rw [List.flatMap_cons, List.map_append, List.foldl_append, foldl_ticks, ih]
    rfl

/-- An associative operation runs over a segment as over the running values of its block. -/
theorem Joins.running (op : Float → Float → Float) [Std.Associative op] {b : Segment}
    {bs : List Segment} (h : s.Joins (b :: bs)) :
    s.running op = (bs.map (Segment.running op)).foldl op (b.running op) := by
  obtain ⟨hfirst, hrest⟩ := h.first
  rw [Segment.running, hfirst, hrest, List.map_append, List.foldl_append, foldl_flatMap_ticks]
  rfl

/-- The running maximum of a segment whose prices are numbers is a number, and so is the running
minimum. -/
theorem running_isNaN {s : Segment} (h : ∀ t ∈ s.ticks, t.price.isNaN = false) :
    (s.running Builder.larger).isNaN = false ∧ (s.running Builder.smaller).isNaN = false := by
  have hprices : ∀ x ∈ s.ticks.map Tick.price, x.isNaN = false := by
    intro x hx
    obtain ⟨t, ht, rfl⟩ := List.mem_map.mp hx
    exact h t ht
  exact ⟨hprices _ (isMaximum_running h).1, hprices _ (isMinimum_running h).1⟩

end Segment

/-- A bar has the figures that merging a block of bars gives: the first opening price, the last
closing price, the maximum of the highest and the minimum of the lowest prices, and the number of
all ticks. -/
structure BarFigures.Merges (b : BarFigures) (block : List BarFigures) : Prop where
  opening : block.head?.map (·.ohlcv.opening) = some b.ohlcv.opening
  closing : block.getLast?.map (·.ohlcv.closing) = some b.ohlcv.closing
  high : IsMaximum b.ohlcv.high (block.map (·.ohlcv.high))
  low : IsMinimum b.ohlcv.low (block.map (·.ohlcv.low))
  tickCount : b.tickCount = (block.map BarFigures.tickCount).sum

/-- The bar of a segment is the merge of the bars of its block, where prices are numbers. -/
theorem Segment.Joins.merges {s : Segment} {block : List Segment} (h : s.Joins block)
    (hnumbers : ∀ t ∈ s.ticks, t.price.isNaN = false) :
    s.figures.Merges (block.map Segment.figures) := by
  have hblock : ∀ b ∈ block, ∀ t ∈ b.ticks, t.price.isNaN = false := by
    intro b hb t ht
    rw [h.ticks] at hnumbers
    exact hnumbers t (List.mem_flatMap.mpr ⟨b, hb, ht⟩)
  have hhigh : block.map (·.figures.ohlcv.high) = block.map (Segment.running Builder.larger) :=
    List.map_congr_left fun b _ => b.high_eq_running
  have hlow : block.map (·.figures.ohlcv.low) = block.map (Segment.running Builder.smaller) :=
    List.map_congr_left fun b _ => b.low_eq_running
  have hclosing : block.getLast?.map (·.figures.ohlcv.closing) = some s.figures.ohlcv.closing := by
    obtain heq | ⟨bs, b, rfl⟩ := block.eq_nil_or_concat
    · exact absurd heq h.nonempty
    · rw [List.concat_eq_append] at h ⊢
      rw [List.getLast?_concat, Option.map_some]
      exact congrArg (fun t : Tick => some t.price) h.last.symm
  cases block with
  | nil => exact absurd rfl h.nonempty
  | cons b bs =>
    refine ⟨?_, ?_, ?_, ?_, ?_⟩
    · exact congrArg (fun t : Tick => some t.price) h.first.1.symm
    · rw [List.getLast?_map, Option.map_map]
      exact hclosing
    · rw [List.map_map]
      refine Eq.subst hhigh.symm (motive := IsMaximum s.ohlcv.high) ?_
      rw [s.high_eq_running, h.running Builder.larger]
      refine isMaximum_foldl fun x hx => ?_
      obtain ⟨b', hb', rfl⟩ := List.mem_map.mp (show x ∈ (b :: bs).map _ from hx)
      exact (running_isNaN (hblock b' hb')).1
    · rw [List.map_map]
      refine Eq.subst hlow.symm (motive := IsMinimum s.ohlcv.low) ?_
      rw [s.low_eq_running, h.running Builder.smaller]
      refine isMinimum_foldl fun x hx => ?_
      obtain ⟨b', hb', rfl⟩ := List.mem_map.mp (show x ∈ (b :: bs).map _ from hx)
      exact (running_isNaN (hblock b' hb')).2
    · rw [List.map_map]
      exact h.size

/-! ## Cutting coarse and fine -/

/-- The segments that are open in a finer and a coarser granularity: none in either, or the coarser
one consists of the closed segments of the finer granularity and the one that is open there. -/
inductive Aligned (closed : List Segment) : Option Segment → Option Segment → Prop where
  | idle (h : closed = []) : Aligned closed none none
  | within {sf sc : Segment} (h : sc.Joins (closed ++ [sf])) : Aligned closed (some sf) (some sc)

variable {i : Instrument} {f c : Granularity} {closed : List Segment} {sf sc : Option Segment}

/-- A call that does not close the coarser segment leaves it made up of what the finer granularity
has closed since and has open; one that closes it closes the finer one too. -/
theorem Aligned.cut (hnested : ∀ a b, f.bucketStart a = f.bucketStart b →
      c.bucketStart a = c.bucketStart b) (h : Aligned closed sf sc) (call : EngineCall) :
    ((call.cut i c sc).closed = none ∧
      Aligned (closed ++ ((call.cut i f sf).closed.map Prod.fst).toList) (call.cut i f sf).opened
        (call.cut i c sc).opened) ∨
    (∃ fine coarse, (call.cut i f sf).closed = some fine ∧ (call.cut i c sc).closed = some coarse ∧
      coarse.1.Joins (closed ++ [fine.1]) ∧
        Aligned [] (call.cut i f sf).opened (call.cut i c sc).opened) := by
  have hsingle : ∀ t : Tick, (Segment.mk t []).Joins [⟨t, []⟩] := fun t => ⟨by simp, by simp⟩
  cases h with
  | idle h =>
    subst h
    refine Or.inl ?_
    cases call with
    | tick t =>
      by_cases hi : t.instrument = i
      · simp only [EngineCall.cut, hi, if_true]
        exact ⟨trivial, .within (hsingle t)⟩
      · simp only [EngineCall.cut, hi, if_false]
        exact ⟨trivial, .idle rfl⟩
    | flush => exact ⟨rfl, .idle rfl⟩
    | remove j =>
      by_cases hj : j = i
      · simp only [EngineCall.cut, hj, if_true]
        exact ⟨rfl, .idle rfl⟩
      · simp only [EngineCall.cut, hj, if_false]
        exact ⟨trivial, .idle rfl⟩
  | @within sf sc h =>
    cases call with
    | tick t =>
      by_cases hi : t.instrument = i
      · have hlast : sc.last = sf.last := h.last
        by_cases hf : f.bucketStart sf.last.timestamp = f.bucketStart t.timestamp
        · have hc := hnested _ _ hf
          rw [← hlast] at hc
          refine Or.inl ?_
          simp only [EngineCall.cut, hi, hf, hc, if_true]
          refine ⟨trivial, .within ⟨by simp, ?_⟩⟩
          simp [h.ticks]
        · by_cases hc : c.bucketStart sc.last.timestamp = c.bucketStart t.timestamp
          · refine Or.inl ?_
            simp only [EngineCall.cut, hi, hf, hc, if_true, if_false]
            refine ⟨trivial, .within ⟨by simp, ?_⟩⟩
            simp [h.ticks]
          · refine Or.inr ?_
            simp only [EngineCall.cut, hi, hf, hc, if_true, if_false]
            exact ⟨_, _, rfl, rfl, h, .within (hsingle t)⟩
      · refine Or.inl ?_
        simp only [EngineCall.cut, hi, if_false, Option.map_none, Option.toList_none,
          List.append_nil]
        exact ⟨trivial, .within h⟩
    | flush => exact Or.inr ⟨_, _, rfl, rfl, h, .idle rfl⟩
    | remove j =>
      by_cases hj : j = i
      · refine Or.inr ?_
        simp only [EngineCall.cut, hj, if_true]
        exact ⟨_, _, rfl, rfl, h, .idle rfl⟩
      · refine Or.inl ?_
        simp only [EngineCall.cut, hj, if_false, Option.map_none, Option.toList_none,
          List.append_nil]
        exact ⟨trivial, .within h⟩

/-- The finer segments of a run fall into blocks, one for each coarser segment, and its ticks are
theirs. -/
theorem Aligned.blocks (hnested : ∀ a b, f.bucketStart a = f.bucketStart b →
      c.bucketStart a = c.bucketStart b) (h : Aligned closed sf sc) (calls : List EngineCall) :
    ∃ blocks : List (List Segment), blocks.flatten = closed ++ segmentsFrom i f sf calls ∧
      List.Forall₂ Segment.Joins (segmentsFrom i c sc calls) blocks := by
  induction calls generalizing closed sf sc with
  | nil =>
    cases h with
    | idle h => exact ⟨[], by simp [h], .nil⟩
    | @within sf sc h => exact ⟨[closed ++ [sf]], by simp, .cons h .nil⟩
  | cons call calls ih =>
    rw [segmentsFrom_cons, segmentsFrom_cons]
    rcases h.cut hnested call with
      ⟨hclosed, hopened⟩ | ⟨fine, coarse, hfine, hcoarse, hjoins, hopened⟩
    · obtain ⟨blocks, hflatten, hblocks⟩ := ih hopened
      refine ⟨blocks, ?_, ?_⟩
      · rw [hflatten, List.append_assoc]
      · rw [hclosed]
        exact hblocks
    · obtain ⟨blocks, hflatten, hblocks⟩ := ih hopened
      refine ⟨(closed ++ [fine.1]) :: blocks, ?_, ?_⟩
      · rw [List.flatten_cons, hflatten, hfine]
        simp
      · rw [hcoarse]
        exact .cons hjoins hblocks

/-- A call that closes the coarser segment closes the finer one, and in the end a coarser segment is
open when a finer one is. -/
theorem Aligned.closes (hnested : ∀ a b, f.bucketStart a = f.bucketStart b →
      c.bucketStart a = c.bucketStart b) (h : Aligned closed sf sc) (calls : List EngineCall) :
    List.Forall₂ (fun fine coarse => coarse ≠ none → fine ≠ none) (cuts i f sf calls)
        (cuts i c sc calls) ∧
      (openAfter i c sc calls).isSome = (openAfter i f sf calls).isSome := by
  induction calls generalizing closed sf sc with
  | nil => exact ⟨.nil, by cases h <;> rfl⟩
  | cons call calls ih =>
    rcases h.cut hnested call with ⟨hclosed, hopened⟩ | ⟨fine, coarse, hfine, hcoarse, -, hopened⟩
    · obtain ⟨hcuts, hopen⟩ := ih hopened
      exact ⟨.cons (fun hne => absurd hclosed hne) hcuts, hopen⟩
    · obtain ⟨hcuts, hopen⟩ := ih hopened
      exact ⟨.cons (fun _ => by rw [hfine]; simp) hcuts, hopen⟩

/-! ## Runs -/

namespace Engine

variable {gs : List Granularity} {calls : List EngineCall} {e : Engine}
  {bars : List (List ClosedBar)}

/-- The bars of an instrument in a finer and a coarser granularity over a run, from the engine at
its end and the bars that each call delivered. -/
structure Nests (i : Instrument) (f c : Granularity) (e : Engine) (bars : List (List ClosedBar)) :
    Prop where
  /-- The finer bars, in order and with the one in progress last, fall into blocks, and each coarser
  bar is the merge of its block. -/
  blocks : ∃ blocks : List (List BarFigures), blocks.flatten = figuresOf i f bars e ∧
    List.Forall₂ BarFigures.Merges (figuresOf i c bars e) blocks
  /-- A coarser bar is in progress when a finer one is. -/
  together : (e.current? i c).isSome = (e.current? i f).isSome
  /-- A call that closes a coarser bar closes a finer one. -/
  closes : ∀ delivered ∈ bars, barsOf i c delivered ≠ [] → barsOf i f delivered ≠ []

/-- **Coarse bars are merges of fine ones**, for any two granularities but week and month, over any
run with prices that are finite. -/
theorem run_nests {f c : Granularity} (hf : f ∈ gs) (hc : c ∈ gs) (hrank : f.rank < c.rank)
    (hweek : f = .week1 → c ≠ .month1) (hfinite : ∀ t, .tick t ∈ calls → t.price.isFinite = true)
    (hrun : (new gs).run calls = some (e, bars)) (i : Instrument) : Nests i f c e bars := by
  have hnested : ∀ a b, f.bucketStart a = f.bucketStart b → c.bucketStart a = c.bucketStart b :=
    fun a b => Granularity.bucketStart_nested hrank hweek
  obtain ⟨blocks, hflatten, hblocks⟩ := (Aligned.idle rfl).blocks hnested calls (i := i)
  obtain ⟨hcuts, hopen⟩ := (Aligned.idle rfl).closes hnested calls (i := i)
  refine ⟨⟨blocks.map (List.map Segment.figures), ?_, ?_⟩, ?_, ?_⟩
  · rw [run_figuresOf hrun i hf, ← List.map_flatten, hflatten]
    rfl
  · rw [run_figuresOf hrun i hc, List.forall₂_map_left_iff, List.forall₂_map_right_iff]
    obtain ⟨hlength, hjoins⟩ := List.forall₂_iff_zip.mp hblocks
    refine List.forall₂_iff_zip.mpr ⟨hlength, fun {s block} hmem => (hjoins hmem).merges ?_⟩
    intro t ht
    have ht' := mem_ticksOf_of_mem_segmentsFrom (List.of_mem_zip hmem).1 ht
    exact isNaN_of_isFinite (hfinite t (mem_ticksOf.mp ht').1)
  · rw [run_current?_isSome hrun i hc, run_current?_isSome hrun i hf, hopen]
  · have hdelivered := ((follows_new gs).run hrun).2.1 i
    have hall : List.Forall₂ (fun fine coarse : List ClosedBar => coarse ≠ [] → fine ≠ [])
        (bars.map (barsOf i f)) (bars.map (barsOf i c)) := by
      rw [hdelivered f hf, hdelivered c hc, List.forall₂_map_left_iff, List.forall₂_map_right_iff]
      refine hcuts.imp fun fine coarse himp hne => ?_
      cases fine with
      | some s => simp
      | none => cases coarse <;> simp_all
    rw [List.forall₂_map_left_iff, List.forall₂_map_right_iff, List.forall₂_same] at hall
    exact hall

/-- Ticks in two minutes of an hour, in the hour after it, and late in the first again: the hour's
bars are the merges of two bars of a minute, of one, and of one that is in progress. -/
theorem run_nests_minuteHour : ∃ i j e bars, i.symbol = "AAPL" ∧
    Granularity.minute1 ∈ [Granularity.hour1, .minute1] ∧
      Granularity.hour1 ∈ [Granularity.hour1, .minute1] ∧
      Granularity.minute1.rank < Granularity.hour1.rank ∧
      (Granularity.minute1 = .week1 → Granularity.hour1 ≠ .month1) ∧
      (∀ t, .tick t ∈ (mixedCalls i j).take 5 → t.price.isFinite = true) ∧
      (new [.hour1, .minute1]).run ((mixedCalls i j).take 5) = some (e, bars) ∧
      (figuresOf i .minute1 bars e).map BarFigures.tickCount = [1, 1, 1, 1] ∧
      (figuresOf i .hour1 bars e).map BarFigures.tickCount = [2, 1, 1] ∧
      Nests i .minute1 .hour1 e bars := by
  let aapl : Instrument := ⟨"NASDAQ", "AAPL", by decide, by decide, by decide⟩
  let msft : Instrument := ⟨"NASDAQ", "MSFT", by decide, by decide, by decide⟩
  have hfinite : ∀ t, .tick t ∈ (mixedCalls aapl msft).take 5 → t.price.isFinite = true := by
    intro t ht
    have hall : ∀ t ∈ addedTicks ((mixedCalls aapl msft).take 5), t.price.isFinite = true := by
      decide +kernel
    exact hall t (mem_addedTicks.mpr ht)
  have h : ((new [.hour1, .minute1]).run ((mixedCalls aapl msft).take 5)).map (fun r =>
      ((figuresOf aapl .minute1 r.2 r.1).map BarFigures.tickCount,
        (figuresOf aapl .hour1 r.2 r.1).map BarFigures.tickCount)) =
      some ([1, 1, 1, 1], [2, 1, 1]) := by decide +kernel
  obtain ⟨⟨e, bars⟩, hrun, hcounts⟩ := Option.map_eq_some_iff.mp h
  obtain ⟨hminute, hhour⟩ := Prod.mk.inj hcounts
  exact ⟨aapl, msft, e, bars, rfl, by decide, by decide, by decide, by decide, hfinite, hrun,
    hminute, hhour,
    run_nests (by decide) (by decide) (by decide) (by decide) hfinite hrun aapl⟩

end Engine

end CandleFeed
