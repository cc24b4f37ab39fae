import CandleFeed.Aggregation.Engine

/-!
# Segments of ticks

A **`Segment`** is a run of consecutive ticks of one instrument, at least one, that makes up one
bar.  It is what a builder forgets: `Segment.ohlcv` reads prices and volume off the list of its
ticks, `Segment.closedBar` and `Segment.openBar` are the bars that it amounts to.

**`Builder.Holds`** ties the two together: a builder holds a segment when it is what the segment's
ticks make of an empty builder, and all of them lie in its bucket.  Bringing one more tick
(`Builder.Holds.apply`), starting afresh (`Builder.holds_new`) and closing (`Builder.Holds.close?`)
are then said in terms of ticks.
-/

namespace CandleFeed

/-- Consecutive ticks of one instrument, at least one. -/
structure Segment where
  /-- The first tick. -/
  first : Tick
  /-- The ticks after it. -/
  rest : List Tick

namespace Segment

/-- The ticks in order. -/
def ticks (s : Segment) : List Tick := s.first :: s.rest

/-- The last tick. -/
def last (s : Segment) : Tick := s.rest.getLast?.getD s.first

/-- The segment with one more tick at its end. -/
def snoc (s : Segment) (t : Tick) : Segment := { s with rest := s.rest ++ [t] }

/-- How many ticks there are. -/
def size (s : Segment) : Nat := s.ticks.length

/-- The start of the bucket that the segment begins in. -/
def bucket (s : Segment) (g : Granularity) : Timestamp := g.bucketStart s.first.timestamp

/-- All ticks lie in the bucket that the segment begins in. -/
def InOneBucket (s : Segment) (g : Granularity) : Prop :=
  ∀ t ∈ s.ticks, g.bucketStart t.timestamp = s.bucket g

/-- First price, running maximum and minimum, last price, and the sum, from the left and from zero,
of the volumes that are there. -/
def ohlcv (s : Segment) : Ohlcv where
  opening := s.first.price
  high := s.rest.foldl (fun high t => Builder.larger high t.price) s.first.price
  low := s.rest.foldl (fun low t => Builder.smaller low t.price) s.first.price
  closing := s.last.price
  volume := (s.ticks.filterMap Tick.volume).foldl (· + ·) 0

/-- The final bar of a segment. -/
def closedBar (s : Segment) (i : Instrument) (g : Granularity) (reason : CloseReason) :
    ClosedBar where
  instrument := i
  granularity := g
  bucketStart := s.bucket g
  ohlcv := s.ohlcv
  tickCount := s.size
  reason

/-- The bar in progress of a segment whose bucket has an end. -/
def openBar (s : Segment) (i : Instrument) (g : Granularity) (bucketEnd : Timestamp) : OpenBar where
  instrument := i
  granularity := g
  bucketStart := s.bucket g
  bucketEnd
  ohlcv := s.ohlcv
  tickCount := s.size

@[simp] theorem ticks_snoc (s : Segment) (t : Tick) : (s.snoc t).ticks = s.ticks ++ [t] := rfl

@[simp] theorem ticks_single (t : Tick) : (Segment.mk t []).ticks = [t] := rfl

@[simp] theorem bucket_snoc (s : Segment) (t : Tick) (g : Granularity) :
    (s.snoc t).bucket g = s.bucket g := rfl

@[simp] theorem last_snoc (s : Segment) (t : Tick) : (s.snoc t).last = t := by
  simp [last, snoc]

@[simp] theorem size_snoc (s : Segment) (t : Tick) : (s.snoc t).size = s.size + 1 := by
  simp [size]

/-- The last tick of a segment is one of its ticks. -/
theorem last_mem_ticks (s : Segment) : s.last ∈ s.ticks := by
  unfold last ticks
  cases h : s.rest.getLast? with
  | none => exact List.mem_cons_self
  | some t => exact List.mem_cons_of_mem _ (List.mem_of_getLast? h)

/-- A tick alone lies in one bucket. -/
theorem inOneBucket_single (t : Tick) (g : Granularity) : (Segment.mk t []).InOneBucket g := by
  intro t' ht'
  rw [ticks_single, List.mem_singleton] at ht'
  rw [ht']
  rfl

/-- A tick of the same bucket keeps a segment in one bucket. -/
theorem InOneBucket.snoc {s : Segment} {g : Granularity} (hs : s.InOneBucket g) {t : Tick}
    (ht : g.bucketStart t.timestamp = s.bucket g) : (s.snoc t).InOneBucket g := by
  intro t' ht'
  rw [ticks_snoc, List.mem_append, List.mem_singleton] at ht'
  rcases ht' with ht' | rfl
  · exact hs t' ht'
  · exact ht

/-- One more tick changes prices and volume as a builder does that has taken a tick before. -/
theorem ohlcv_snoc (s : Segment) (t : Tick) :
    (s.snoc t).ohlcv =
      { opening := s.ohlcv.opening
        high := Builder.larger s.ohlcv.high t.price
        low := Builder.smaller s.ohlcv.low t.price
        closing := t.price
        volume := match t.volume with
          | some v => s.ohlcv.volume + v
          | none => s.ohlcv.volume } := by
  have hhigh : (s.rest ++ [t]).foldl (fun high t => Builder.larger high t.price) s.first.price =
      Builder.larger s.ohlcv.high t.price := by
    rw [List.foldl_append]
    rfl
  have hlow : (s.rest ++ [t]).foldl (fun low t => Builder.smaller low t.price) s.first.price =
      Builder.smaller s.ohlcv.low t.price := by
    rw [List.foldl_append]
    rfl
  have hvolume : ((s.snoc t).ticks.filterMap Tick.volume).foldl (· + ·) 0 =
      match t.volume with
      | some v => s.ohlcv.volume + v
      | none => s.ohlcv.volume := by
    rw [ticks_snoc, List.filterMap_append, List.foldl_append]
    cases hv : t.volume with
    | none => simp [hv, ohlcv]
    | some v => simp [hv, ohlcv]
  unfold ohlcv at hhigh hlow hvolume ⊢
  rw [hvolume, last_snoc]
  simp only [Segment.snoc, hhigh, hlow]

end Segment

namespace Builder

/-- A builder that has taken the ticks of a segment, all of one bucket that has an end; none
stands for a builder that there is no need of, as no tick has come. -/
inductive Holds (g : Granularity) : Option Segment → Option Builder → Prop where
  | absent : Holds g none none
  | present {s : Segment} {bucketEnd : Timestamp}
      (bounded : g.nextBucketStart? (s.bucket g) = some bucketEnd) (inOneBucket : s.InOneBucket g) :
      Holds g (some s) (some ⟨s.bucket g, bucketEnd, s.ohlcv, s.size⟩)

/-- A new builder that has taken a tick holds this tick alone. -/
theorem holds_new {g : Granularity} {t : Tick} {b : Builder}
    (h : (new? g (g.bucketStart t.timestamp)).map (·.apply t.price t.volume) = some b) :
    Holds g (some ⟨t, []⟩) (some b) := by
  obtain ⟨b₀, hb₀, rfl⟩ := Option.map_eq_some_iff.mp h
  obtain ⟨bucketEnd, hend, rfl⟩ := Option.map_eq_some_iff.mp hb₀
  have heq : (Builder.mk (g.bucketStart t.timestamp) bucketEnd ⟨0, 0, 0, 0, 0⟩ 0).apply t.price
      t.volume =
        ⟨(Segment.mk t []).bucket g, bucketEnd, (Segment.mk t []).ohlcv,
          (Segment.mk t []).size⟩ := by
    cases hv : t.volume with
    | none => simp [apply, isEmpty, Segment.bucket, Segment.ohlcv, Segment.size, Segment.last, hv]
    | some v => simp [apply, isEmpty, Segment.bucket, Segment.ohlcv, Segment.size, Segment.last, hv]
  rw [heq]
  exact Holds.present hend (Segment.inOneBucket_single t g)

/-- A builder that holds ticks is not empty. -/
theorem Holds.isEmpty {g : Granularity} {s : Segment} {b : Builder}
    (h : Holds g (some s) (some b)) : b.isEmpty = false := by
  cases h
  rfl

/-- The last tick that a builder holds lies in the builder's bucket. -/
theorem Holds.bucketStart_last {g : Granularity} {s : Segment} {b : Builder}
    (h : Holds g (some s) (some b)) : g.bucketStart s.last.timestamp = b.bucketStart := by
  cases h with
  | present bounded inOneBucket => exact inOneBucket s.last s.last_mem_ticks

/-- With one more tick of its bucket, a builder holds the segment with that tick. -/
theorem Holds.apply {g : Granularity} {s : Segment} {b : Builder}
    (h : Holds g (some s) (some b)) {t : Tick} (ht : b.bucketStart = g.bucketStart t.timestamp) :
    Holds g (some (s.snoc t)) (some (b.apply t.price t.volume)) := by
  have hne := h.isEmpty
  cases h with
  | @present _ bucketEnd bounded inOneBucket =>
    have heq : (Builder.mk (s.bucket g) bucketEnd s.ohlcv s.size).apply t.price t.volume =
        ⟨(s.snoc t).bucket g, bucketEnd, (s.snoc t).ohlcv, (s.snoc t).size⟩ := by
      rw [Segment.ohlcv_snoc, Segment.size_snoc, Segment.bucket_snoc]
      unfold Builder.apply
      simp only [hne]
      rfl
    rw [heq]
    exact Holds.present bounded (inOneBucket.snoc ht.symm)

/-- Closing a builder gives the final bar of the segment that it holds. -/
theorem Holds.close? {g : Granularity} {s : Segment} {b : Builder}
    (h : Holds g (some s) (some b)) (i : Instrument) (reason : CloseReason) :
    b.close? i g reason = some (s.closedBar i g reason) := by
  have hne := h.isEmpty
  cases h
  simp only [Builder.close?, hne, Bool.false_eq_true, if_false]
  rfl

/-- A builder that holds a segment shows its bar in progress. -/
theorem Holds.openBar {g : Granularity} {s : Segment} {builder : Option Builder}
    (h : Holds g (some s) builder) (i : Instrument) :
    ∃ bucketEnd, g.nextBucketStart? (s.bucket g) = some bucketEnd ∧ s.InOneBucket g ∧
      (builder.filter (!·.isEmpty)).map (·.view i g) = some (s.openBar i g bucketEnd) := by
  cases h with
  | @present _ bucketEnd bounded inOneBucket => exact ⟨bucketEnd, bounded, inOneBucket, rfl⟩

/-- Without a segment there is no builder. -/
theorem Holds.eq_none {g : Granularity} {builder : Option Builder} (h : Holds g none builder) :
    builder = none := by
  cases h
  rfl

end Builder

end CandleFeed
