import Mathlib.Data.List.Nodup
import CandleFeed.Proofs.Aggregation.Extremes
import CandleFeed.Proofs.Aggregation.Interruption
import CandleFeed.Proofs.Storage.Writing

/-!
# Stored bars of ticks in order of time

A store to which the bars of a run were written has, under each key, the bar of the latest stretch
of the key's bucket (**`Engine.stored_latest`**), where the ticks of an instrument come in order of
time.

Where builders are closed only at the end, this is the bar of all ticks of the bucket, and no key is
written twice: stored bars are the **`Engine.TrueBars`** of the ticks.
-/

namespace CandleFeed.Engine

variable {i : Instrument} {g : Granularity} {bucket : Timestamp} {calls : List EngineCall}
  {gs : List Granularity} {e : Engine} {bars : List (List ClosedBar)}

/-- The bars of a run that have a key are those of the segments of the key's bucket. -/
theorem run_filter_key (hrun : (new gs).run calls = some (e, bars)) (i : Instrument) (hg : g ∈ gs)
    (bucket : Timestamp) :
    (bars.flatten.filter fun b => b.key = ⟨i, g, bucket⟩).map ClosedBar.figures =
      (closedIn i g bucket calls).map Segment.figures := by
  have hkey : (bars.flatten.filter fun b => b.key = ⟨i, g, bucket⟩) =
      (barsOf i g bars.flatten).filter fun b => b.bucketStart = bucket := by
    unfold barsOf
    rw [List.filter_filter]
    refine List.filter_congr fun b _ => ?_
    simp only [ClosedBar.key, BarKey.mk.injEq, ← Bool.decide_and]
    exact decide_eq_decide.mpr (by tauto)
  rw [hkey, run_barsOf hrun i hg, closedIn, List.filter_map, List.filter_map, List.map_map,
    List.map_map]
  rfl

/-- **A store has, under each key, the bar of the latest stretch of the bucket**, once a run with
ticks in order of time has left no bar in progress. -/
theorem stored_latest (hrun : (new gs).run calls = some (e, bars)) (hg : g ∈ gs)
    (horder : InOrder ((addedTicks calls).filter fun t => t.instrument = i))
    (hidle : openAfter i g none calls = none) (bucket : Timestamp) :
    (BarStore.empty.writeAll bars.flatten).get? ⟨i, g, bucket⟩ =
      (Segment.ofTicks? (latestTicks i g bucket calls)).map Segment.ohlcv := by
  have hlast := congrArg List.getLast? (run_filter_key hrun i hg bucket)
  rw [List.getLast?_map, List.getLast?_map] at hlast
  have hohlcv := congrArg (Option.map BarFigures.ohlcv) hlast
  rw [Option.map_map, Option.map_map] at hohlcv
  rw [BarStore.get?_writeAll, ofTicks?_latestTicks horder hidle]
  refine (Option.or_none ..).trans hohlcv

/-- What a store holds to which the bars of a run were written, for ticks that came in order of time
and builders that were closed at the end. -/
structure TrueBars (gs : List Granularity) (ticks : List Tick) (bars : List ClosedBar) : Prop where
  /-- No key is written twice. -/
  distinct : (bars.map ClosedBar.key).Nodup
  /-- Under each key of a configured granularity is the bar of all ticks of its bucket. -/
  stored : ∀ i, ∀ g ∈ gs, ∀ bucket, (BarStore.empty.writeAll bars).get? ⟨i, g, bucket⟩ =
    (Segment.ofTicks? (ticks.filter (Tick.isIn i g bucket))).map Segment.ohlcv
  /-- There is a bar where there is a tick. -/
  present : ∀ i, ∀ g ∈ gs, ∀ bucket,
    ((BarStore.empty.writeAll bars).get? ⟨i, g, bucket⟩).isSome ↔
      ∃ t ∈ ticks, t.instrument = i ∧ g.bucketStart t.timestamp = bucket
  /-- Of prices that are numbers the bar has the maximum and the minimum. -/
  extremes : ∀ i, ∀ g ∈ gs, ∀ bucket ohlcv,
    (BarStore.empty.writeAll bars).get? ⟨i, g, bucket⟩ = some ohlcv →
    (∀ t ∈ ticks.filter (Tick.isIn i g bucket), t.price.isNaN = false) →
      IsMaximum ohlcv.high ((ticks.filter (Tick.isIn i g bucket)).map Tick.price) ∧
      IsMinimum ohlcv.low ((ticks.filter (Tick.isIn i g bucket)).map Tick.price)
  /-- No other granularity has bars. -/
  other : ∀ i, ∀ g ∉ gs, ∀ bucket, (BarStore.empty.writeAll bars).get? ⟨i, g, bucket⟩ = none

/-- Ticks after which all builders are closed leave none of them open, and none of their buckets is
interrupted. -/
theorem ticksThenFlush (ticks : List Tick) (i : Instrument) (g : Granularity) (bucket : Timestamp) :
    addedTicks (ticks.map .tick ++ [.flush]) = ticks ∧
      openAfter i g none (ticks.map .tick ++ [.flush]) = none ∧
      ¬ Interrupted i g bucket (ticks.map .tick ++ [.flush]) := by
  refine ⟨?_, ?_, ?_⟩
  · rw [addedTicks_append]
    simp [addedTicks, List.filterMap_map, Function.comp_def, EngineCall.tick?]
  · unfold openAfter
    rw [List.foldl_append]
    rfl
  · rintro ⟨before, c, after, heq, hc, -, hafter⟩
    rcases List.eq_nil_or_concat' after with rfl | ⟨after, last, rfl⟩
    · exact hafter rfl
    · rw [← List.cons_append, ← List.append_assoc] at heq
      have hmem : c ∈ ticks.map EngineCall.tick := by
        rw [(List.append_inj' heq rfl).1]
        simp
      obtain ⟨t, -, rfl⟩ := List.mem_map.mp hmem
      exact absurd hc (by simp [EngineCall.closes])

/-- **Stored bars are the true bars**, whatever instruments the ticks are of, as long as those of
each instrument come in order of time and none falls into a bucket without end. -/
theorem run_trueBars {ticks : List Tick}
    (horder : ∀ i, InOrder (ticks.filter fun t => t.instrument = i))
    (hrun : (new gs).run (ticks.map .tick ++ [.flush]) = some (e, bars)) :
    TrueBars gs ticks bars.flatten := by
  have hother : ∀ b ∈ bars.flatten, b.granularity ∈ gs := by
    intro b hb
    obtain ⟨delivered, hd, hb⟩ := List.mem_flatten.mp hb
    exact ((follows_new gs).run hrun).2.2 delivered hd b hb
  have hnone : ∀ i, ∀ g ∉ gs, ∀ bucket,
      (bars.flatten.filter fun b => b.key = ⟨i, g, bucket⟩) = [] := by
    intro i g hg bucket
    rw [List.filter_eq_nil_iff]
    intro b hb hkey
    have hgranularity : b.granularity = g :=
      congrArg BarKey.granularity (of_decide_eq_true hkey)
    exact hg (hgranularity ▸ hother b hb)
  have hstored : ∀ i, ∀ g ∈ gs, ∀ bucket,
      (BarStore.empty.writeAll bars.flatten).get? ⟨i, g, bucket⟩ =
        (Segment.ofTicks? (ticks.filter (Tick.isIn i g bucket))).map Segment.ohlcv := by
    intro i g hg bucket
    obtain ⟨hadded, hidle, hwhole⟩ := ticksThenFlush ticks i g bucket
    rw [stored_latest hrun hg (by rw [hadded]; exact horder i) hidle,
      (latestTicks_eq_iff i g bucket _).mpr hwhole, hadded]
  refine ⟨List.nodup_iff_count_le_one.mpr fun key => ?_, hstored, fun i g hg bucket => ?_,
    fun i g hg bucket ohlcv h hnumbers => ?_, fun i g hg bucket => ?_⟩
  · obtain ⟨i, g, bucket⟩ := key
    have hcount : (bars.flatten.map ClosedBar.key).count ⟨i, g, bucket⟩ =
        (bars.flatten.filter fun b => b.key = ⟨i, g, bucket⟩).length := by
      rw [List.count, List.countP_map, List.countP_eq_length_filter]
      refine congrArg List.length (List.filter_congr fun b _ => ?_)
      exact beq_eq_decide ..
    rw [hcount]
    by_cases hg : g ∈ gs
    · obtain ⟨hadded, hidle, hwhole⟩ := ticksThenFlush ticks i g bucket
      have hlength := congrArg List.length (run_filter_key hrun i hg bucket)
      rw [List.length_map, List.length_map] at hlength
      rw [hlength]
      exact closedIn_length_le (by rw [hadded]; exact horder i) hidle hwhole
    · rw [hnone i g hg bucket]
      exact Nat.zero_le 1
  · rw [hstored i g hg, Option.isSome_map, Segment.ofTicks?_isSome, ne_eq, List.filter_eq_nil_iff]
    simp [Tick.isIn]
  · rw [hstored i g hg] at h
    obtain ⟨s, hs, rfl⟩ := Option.map_eq_some_iff.mp h
    rw [Segment.ofTicks?_eq_some hs] at hnumbers ⊢
    rw [s.high_eq_running, s.low_eq_running]
    exact ⟨Segment.isMaximum_running hnumbers, Segment.isMinimum_running hnumbers⟩
  · rw [BarStore.get?_writeAll, hnone i g hg]
    rfl

/-- Ticks of two instruments, those of the second behind those of the first: three bars of a minute
and one of an hour are closed on the way. -/
theorem run_trueBars_twoInstruments : ∃ i j ticks e bars, i.symbol = "AAPL" ∧ j.symbol = "MSFT" ∧
    ticks.map (fun t : Tick => (t.instrument, t.timestamp.seconds)) =
      [(i, 10), (i, 70), (j, 10), (i, 75), (i, 3600), (j, 75), (j, 110)] ∧
    (∀ k, InOrder (ticks.filter fun t => t.instrument = k)) ∧
    (new [.hour1, .minute1, .hour1]).run (ticks.map .tick ++ [.flush]) = some (e, bars) ∧
    (bars.map List.length).take 7 = [0, 1, 0, 0, 2, 1, 0] ∧
    TrueBars [.hour1, .minute1, .hour1] ticks bars.flatten := by
  let aapl : Instrument := ⟨"NASDAQ", "AAPL", by decide, by decide, by decide⟩
  let msft : Instrument := ⟨"NASDAQ", "MSFT", by decide, by decide, by decide⟩
  let second (n : Int) := (Timestamp.ofSeconds? n).getD .epoch
  let ticks : List Tick :=
    [⟨aapl, 1, some 2, second 10⟩, ⟨aapl, 3, none, second 70⟩, ⟨msft, 5, some 1, second 10⟩,
      ⟨aapl, 2, some 1, second 75⟩, ⟨aapl, 4, some 1, second 3600⟩, ⟨msft, 6, none, second 75⟩,
      ⟨msft, 4, some 2, second 110⟩]
  have horder : ∀ k, InOrder (ticks.filter fun t => t.instrument = k) := by
    intro k
    have hall : ticks.Pairwise fun t t' =>
        t.instrument = t'.instrument → t'.timestamp.before t.timestamp = false := by
      decide +kernel
    refine (hall.filter _).imp_of_mem fun ht ht' h => h ?_
    exact (of_decide_eq_true (List.mem_filter.mp ht).2).trans
      (of_decide_eq_true (List.mem_filter.mp ht').2).symm
  have h : ((new [.hour1, .minute1, .hour1]).run (ticks.map .tick ++ [.flush])).map
      (fun r => (r.2.map List.length).take 7) = some [0, 1, 0, 0, 2, 1, 0] := by decide +kernel
  obtain ⟨⟨e, bars⟩, hrun, hlength⟩ := Option.map_eq_some_iff.mp h
  exact ⟨aapl, msft, ticks, e, bars, rfl, rfl, by decide +kernel, horder, hrun, hlength,
    run_trueBars horder hrun⟩

end CandleFeed.Engine
