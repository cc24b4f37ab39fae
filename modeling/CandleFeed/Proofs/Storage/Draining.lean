import Mathlib.Data.List.Dedup
import CandleFeed.Proofs.Storage.Writing

/-!
# What a queue of bars leaves in a sink

A sink may refuse any of the bars that it is offered.  Of a queue, **`BarSink.taken`** are those
that it takes and `BarSink.refused` the others.  Refusals change nothing about the bars after them:
a flusher leaves the sink with what writing the bars that were taken gives, and has counted both
groups (**`Flusher.flush_eq`**).

So what a store holds in the end is what was last taken with each key, and **`BarStore.series`**
shows it (`BarStore.mem_series_iff`).  The order of keys has the bars of an instrument and a
granularity in the order of time (`BarStore.series_ascending`), whatever the order in which they
came: **`Flusher.flush_drained`**.
-/

namespace CandleFeed

namespace BarStore

variable {s : BarStore} {bars : List ClosedBar} {i : Instrument} {g : Granularity}

/-- Every bar that is written is counted. -/
theorem writes_writeAll (s : BarStore) (bars : List ClosedBar) :
    (s.writeAll bars).writes = s.writes + bars.length := by
  induction bars generalizing s with
  | nil => rfl
  | cons b bars ih =>
    refine (ih (s.upsert b.key b.ohlcv)).trans ?_
    rw [List.length_cons, Nat.add_comm bars.length, ← Nat.add_assoc]
    rfl

/-- Into an empty store come the keys that are written. -/
theorem mem_keys_writeAll_empty {key : BarKey} :
    key ∈ (empty.writeAll bars).bars.keys ↔ key ∈ bars.map ClosedBar.key := by
  have hget := get?_writeAll empty bars key
  rw [show empty.get? key = none from rfl, Option.or_none] at hget
  rw [Std.TreeMap.mem_keys, Std.TreeMap.mem_iff_isSome_getElem?,
    show (empty.writeAll bars).bars[key]? = _ from hget, Option.isSome_map, List.getLast?_isSome,
    ne_eq, List.filter_eq_nil_iff]
  simp

/-- An empty store comes to hold as many bars as there are different keys. -/
theorem size_writeAll_empty (bars : List ClosedBar) :
    (empty.writeAll bars).size = (bars.map ClosedBar.key).dedup.length := by
  have hperm : (empty.writeAll bars).bars.keys.Perm (bars.map ClosedBar.key).dedup :=
    (List.perm_ext_iff_of_nodup Std.TreeMap.nodup_keys (List.nodup_dedup _)).mpr fun key => by
      rw [List.mem_dedup, mem_keys_writeAll_empty]
  rw [← hperm.length_eq]
  exact Std.TreeMap.length_keys.symm

/-- **A series shows the stored bars of an instrument and a granularity**, and no others. -/
theorem mem_series_iff {start : Timestamp} {ohlcv : Ohlcv} :
    (start, ohlcv) ∈ s.series i g ↔ s.get? ⟨i, g, start⟩ = some ohlcv := by
  unfold series get?
  rw [← Std.TreeMap.mem_toList_iff_getElem?_eq_some, List.mem_map]
  constructor
  · rintro ⟨⟨⟨i', g', start'⟩, ohlcv'⟩, hmem, heq⟩
    obtain ⟨hentry, hkey⟩ := List.mem_filter.mp hmem
    rw [Bool.and_eq_true, beq_iff_eq, beq_iff_eq] at hkey
    obtain ⟨rfl, rfl⟩ := hkey
    obtain ⟨rfl, rfl⟩ := Prod.mk.inj heq
    exact hentry
  · exact fun hentry => ⟨_, List.mem_filter.mpr ⟨hentry, by simp⟩, rfl⟩

/-- **A series goes from the oldest bar on**, and has one bar for each start: it keeps the order of
the keys, which among the bars of an instrument and a granularity is that of their starts. -/
theorem series_ascending (s : BarStore) (i : Instrument) (g : Granularity) :
    (s.series i g).Pairwise fun a b => a.1.before b.1 = true := by
  unfold series
  rw [List.pairwise_map]
  refine (Std.TreeMap.ordered_keys_toList.filter _).imp_of_mem ?_
  rintro ⟨⟨i₁, g₁, start₁⟩, o₁⟩ ⟨⟨i₂, g₂, start₂⟩, o₂⟩ h₁ h₂ hkeys
  have hsame₁ := (List.mem_filter.mp h₁).2
  have hsame₂ := (List.mem_filter.mp h₂).2
  rw [Bool.and_eq_true, beq_iff_eq, beq_iff_eq] at hsame₁ hsame₂
  obtain ⟨rfl, rfl⟩ := hsame₁
  obtain ⟨rfl, rfl⟩ := hsame₂
  rw [BarKey.compare_mk] at hkeys
  exact Timestamp.compare_eq_lt_iff.mp hkeys

end BarStore

/-! ## Taken and refused -/

/-- What a sink is offered of a bar. -/
def ClosedBar.offer (b : ClosedBar) : BarKey × Ohlcv := (b.key, b.ohlcv)

namespace BarSink

/-- The bars of a queue that a sink takes. -/
def taken (s : BarSink) (bars : List ClosedBar) : List ClosedBar :=
  ((bars.zipIdx s.offered.length).filter fun e => (s.refusal e.2 e.1.key).isNone).map Prod.fst

/-- The bars of a queue that a sink refuses. -/
def refused (s : BarSink) (bars : List ClosedBar) : List ClosedBar :=
  ((bars.zipIdx s.offered.length).filter fun e => !(s.refusal e.2 e.1.key).isNone).map Prod.fst

/-- Every bar of a queue is taken or refused. -/
theorem perm_taken_refused (s : BarSink) (bars : List ClosedBar) :
    (s.taken bars ++ s.refused bars).Perm bars := by
  unfold taken refused
  rw [← List.map_append]
  refine ((List.filter_append_perm _ _).map Prod.fst).trans (List.Perm.of_eq ?_)
  exact List.zipIdx_map_fst ..

variable {s : BarSink} {b : ClosedBar}

/-- A bar that is not refused is written, and those after it are taken or refused as before. -/
theorem upsert_of_taken (h : s.refusal s.offered.length b.key = none) (bars : List ClosedBar) :
    s.upsert b.key b.ohlcv =
        (⟨s.store.upsert b.key b.ohlcv, s.offered ++ [b.offer], s.refusal⟩, .ok ()) ∧
      s.taken (b :: bars) =
        b :: taken ⟨s.store.upsert b.key b.ohlcv, s.offered ++ [b.offer], s.refusal⟩ bars ∧
      s.refused (b :: bars) =
        refused ⟨s.store.upsert b.key b.ohlcv, s.offered ++ [b.offer], s.refusal⟩ bars := by
  refine ⟨?_, ?_, ?_⟩
  · simp only [upsert, h, ClosedBar.offer]
  · simp [taken, h]
  · simp [refused, h]

/-- A bar that is refused leaves the store, and those after it are taken or refused as before. -/
theorem upsert_of_refused {reason : String}
    (h : s.refusal s.offered.length b.key = some reason) (bars : List ClosedBar) :
    s.upsert b.key b.ohlcv =
        (⟨s.store, s.offered ++ [b.offer], s.refusal⟩, .error (.writeFailed reason)) ∧
      s.taken (b :: bars) = taken ⟨s.store, s.offered ++ [b.offer], s.refusal⟩ bars ∧
      s.refused (b :: bars) = b :: refused ⟨s.store, s.offered ++ [b.offer], s.refusal⟩ bars := by
  refine ⟨?_, ?_, ?_⟩
  · simp only [upsert, h, ClosedBar.offer]
  · simp [taken, h]
  · simp [refused, h]

/-- Offers bars in turn, whatever becomes of them. -/
def offerAll (s : BarSink) (bars : List ClosedBar) : BarSink :=
  bars.foldl (fun s b => (s.upsert b.key b.ohlcv).1) s

end BarSink

/-! ## The flusher -/

namespace Flusher

/-- **What flushing leaves**: a sink that was offered every bar in turn, its store with the bars
that were taken, and both groups counted. -/
theorem flush_eq (f : Flusher) (bars : List ClosedBar) :
    (f.flush bars).1 =
      ⟨⟨f.sink.store.writeAll (f.sink.taken bars), f.sink.offered ++ bars.map ClosedBar.offer,
          f.sink.refusal⟩,
        ⟨f.stats.written + (f.sink.taken bars).length,
          f.stats.failed + (f.sink.refused bars).length⟩⟩ := by
  induction bars generalizing f with
  | nil =>
    rw [List.map_nil, List.append_nil]
    rfl
  | cons b bars ih =>
    have hflush : (f.flush (b :: bars)).1 = ((f.flushOne b).1.flush bars).1 := rfl
    rw [hflush, ih, List.map_cons, List.append_cons]
    cases hrefusal : f.sink.refusal f.sink.offered.length b.key with
    | none =>
      obtain ⟨hupsert, htaken, hrefused⟩ := BarSink.upsert_of_taken hrefusal bars
      rw [htaken, hrefused]
      simp only [flushOne, hupsert, List.length_cons]
      rw [Nat.add_comm (List.length _) 1, ← Nat.add_assoc]
      rfl
    | some reason =>
      obtain ⟨hupsert, htaken, hrefused⟩ := BarSink.upsert_of_refused hrefusal bars
      rw [htaken, hrefused]
      simp only [flushOne, hupsert, List.length_cons]
      rw [Nat.add_comm (List.length _) 1, ← Nat.add_assoc]

/-- A flusher offers the bars in the order of the queue, each once. -/
theorem flush_sink (f : Flusher) (bars : List ClosedBar) :
    (f.flush bars).1.sink = f.sink.offerAll bars := by
  induction bars generalizing f with
  | nil => rfl
  | cons b bars ih =>
    have hone : (f.flushOne b).1.sink = (f.sink.upsert b.key b.ohlcv).1 := by
      unfold flushOne
      split <;> simp [*]
    refine (ih (f.flushOne b).1).trans ?_
    rw [hone]
    rfl

/-- **What a queue of bars leaves** in an empty store behind a sink that may refuse any of them. -/
structure Drained (sink : BarSink) (bars : List ClosedBar) (f : Flusher) : Prop where
  /-- The sink was offered every bar once, in the order of the queue, and nothing else. -/
  offered : f.sink.offered = sink.offered ++ bars.map ClosedBar.offer
  /-- What became of the sink is what these offers make of it. -/
  offers : f.sink = sink.offerAll bars
  /-- It took or refused each. -/
  groups : (sink.taken bars ++ sink.refused bars).Perm bars
  /-- Both groups were counted. -/
  written : f.stats.written = (sink.taken bars).length
  failed : f.stats.failed = (sink.refused bars).length
  /-- Under each key is the last bar that was taken with it, and nothing else is stored. -/
  stored : ∀ key, f.sink.store.get? key =
    ((sink.taken bars).filter fun b => b.key = key).getLast?.map ClosedBar.ohlcv
  size : f.sink.store.size = ((sink.taken bars).map ClosedBar.key).dedup.length
  writes : f.sink.store.writes = (sink.taken bars).length
  /-- A series shows the stored bars of its instrument and granularity in the order of time. -/
  series : ∀ i g start ohlcv, (start, ohlcv) ∈ f.sink.store.series i g ↔
    f.sink.store.get? ⟨i, g, start⟩ = some ohlcv
  ascending : ∀ i g, (f.sink.store.series i g).Pairwise fun a b => a.1.before b.1 = true

/-- **A flusher keeps the last bar of each key**, whatever the queue and whichever of its bars are
refused. -/
theorem flush_drained (offered : List (BarKey × Ohlcv)) (refusal : Nat → BarKey → Option String)
    (bars : List ClosedBar) :
    Drained ⟨.empty, offered, refusal⟩ bars ((start ⟨.empty, offered, refusal⟩).flush bars).1 := by
  have hflush := flush_eq (start ⟨.empty, offered, refusal⟩) bars
  have hsink := flush_sink (start ⟨.empty, offered, refusal⟩) bars
  have hstart : (start ⟨.empty, offered, refusal⟩).sink = ⟨.empty, offered, refusal⟩ := rfl
  rw [hstart] at hsink hflush
  exact {
    offered := by rw [hflush]
    offers := hsink
    groups := BarSink.perm_taken_refused _ bars
    written := by rw [hflush]; exact Nat.zero_add _
    failed := by rw [hflush]; exact Nat.zero_add _
    stored := fun key => by
      rw [hflush, BarStore.get?_writeAll]
      exact Option.or_none
    size := by rw [hflush]; exact BarStore.size_writeAll_empty _
    writes := by
      rw [hflush, BarStore.writes_writeAll]
      exact Nat.zero_add _
    series := fun _ _ _ _ => BarStore.mem_series_iff
    ascending := BarStore.series_ascending _ }

end Flusher

end CandleFeed
