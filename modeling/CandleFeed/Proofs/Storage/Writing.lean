import Mathlib.Data.List.Induction
import CandleFeed.Storage.Flusher

/-!
# What a store holds after bars were written

A bar that is written replaces the one that was written before with the same key.  So a store holds,
under each key, the last bar that was written with it (**`BarStore.get?_writeAll`**).

A flusher offers bars one by one, so it makes no difference whether it takes them at once or in
parts (**`Flusher.flush_append`**).  Every bar is counted (`Flusher.flush_counts`), and when none is
refused, every bar is written (**`Flusher.flush_store`**).
-/

namespace CandleFeed

namespace BarStore

/-- Writes final bars, one after another. -/
def writeAll (s : BarStore) (bars : List ClosedBar) : BarStore :=
  bars.foldl (fun s b => s.upsert b.key b.ohlcv) s

/-- A key that is written has the new prices, and every other key has what it had. -/
theorem get?_upsert (s : BarStore) (key key' : BarKey) (ohlcv : Ohlcv) :
    (s.upsert key ohlcv).get? key' = if key = key' then some ohlcv else s.get? key' := by
  refine Std.TreeMap.getElem?_insert.trans ?_
  by_cases hkey : key = key'
  · rw [if_pos hkey, if_pos (Std.LawfulEqOrd.compare_eq_iff_eq.mpr hkey)]
  · rw [if_neg hkey, if_neg (mt Std.LawfulEqOrd.compare_eq_iff_eq.mp hkey)]
    rfl

/-- **A store holds the last bar that was written with a key**, or what it held before. -/
theorem get?_writeAll (s : BarStore) (bars : List ClosedBar) (key : BarKey) :
    (s.writeAll bars).get? key =
      ((bars.filter fun b => b.key = key).getLast?.map ClosedBar.ohlcv).or (s.get? key) := by
  induction bars using List.reverseRecOn with
  | nil => rfl
  | append_singleton bars b ih =>
    have hsnoc : s.writeAll (bars ++ [b]) = (s.writeAll bars).upsert b.key b.ohlcv := by
      unfold writeAll
      rw [List.foldl_append]
      rfl
    rw [hsnoc, get?_upsert, ih, List.filter_append]
    by_cases hkey : b.key = key
    · simp [hkey]
    · simp [hkey]

end BarStore

namespace Flusher

/-- Flushing bars is flushing some, and then the others. -/
theorem flush_append (f : Flusher) (bars bars' : List ClosedBar) :
    (f.flush (bars ++ bars')).1 = ((f.flush bars).1.flush bars').1 := by
  induction bars generalizing f with
  | nil => rfl
  | cons b bars ih => exact ih (f.flushOne b).1

/-- A bar that is offered is written or refused. -/
theorem flushOne_counts (f : Flusher) (b : ClosedBar) :
    (f.flushOne b).1.stats.written + (f.flushOne b).1.stats.failed =
      f.stats.written + f.stats.failed + 1 := by
  unfold flushOne
  split
  · exact Nat.add_right_comm _ _ _
  · exact (Nat.add_assoc _ _ _).symm

/-- **Every bar that is offered is counted**, as written or as refused. -/
theorem flush_counts (f : Flusher) (bars : List ClosedBar) :
    (f.flush bars).1.stats.written + (f.flush bars).1.stats.failed =
      f.stats.written + f.stats.failed + bars.length := by
  induction bars generalizing f with
  | nil => rfl
  | cons b bars ih =>
    have hrest := ih (f.flushOne b).1
    rw [flushOne_counts] at hrest
    rw [List.length_cons, Nat.add_comm bars.length, ← Nat.add_assoc]
    exact hrest

/-- **A sink that refuses nothing holds what was offered to it.** -/
theorem flush_store {f : Flusher} (hsink : ∀ n key, f.sink.refusal n key = none)
    (bars : List ClosedBar) :
    (f.flush bars).1.sink.store = f.sink.store.writeAll bars := by
  induction bars generalizing f with
  | nil => rfl
  | cons b bars ih =>
    have hone : (f.flushOne b).1.sink.refusal = f.sink.refusal ∧
        (f.flushOne b).1.sink.store = f.sink.store.upsert b.key b.ohlcv := by
      simp only [flushOne, BarSink.upsert, hsink, and_self]
    have hrest := ih (f := (f.flushOne b).1) fun n key => by rw [hone.1]; exact hsink n key
    rw [hone.2] at hrest
    exact hrest

end Flusher

end CandleFeed
