import Mathlib.Data.List.Induction
import CandleFeed.Proofs.Aggregation.Stretch

/-!
# Buckets that are interrupted

The stretch of a bucket lacks ticks where the builders were closed between two of them
(**`Interrupted`**), and nowhere else: exactly otherwise it is all of the bucket's ticks
(`latestTicks_eq_iff`), and the bucket has one segment only (`closedIn_length_le`).
-/

namespace CandleFeed

variable {i : Instrument} {g : Granularity} {bucket : Timestamp} {calls : List EngineCall}

/-- The call closes the builders of an instrument. -/
def EngineCall.closes (i : Instrument) : EngineCall → Bool
  | tick _ => false
  | flush => true
  | remove j => j = i

/-- The instrument's builders are closed between two ticks of the bucket. -/
def Interrupted (i : Instrument) (g : Granularity) (bucket : Timestamp) (calls : List EngineCall) :
    Prop :=
  ∃ before c after, calls = before ++ c :: after ∧ c.closes i = true ∧
    (addedTicks before).filter (Tick.isIn i g bucket) ≠ [] ∧
    (addedTicks after).filter (Tick.isIn i g bucket) ≠ []

/-- A call that closes builders adds no tick. -/
theorem addedTicks_of_closes {c : EngineCall} (h : c.closes i = true) (calls : List EngineCall) :
    addedTicks (c :: calls) = addedTicks calls := by
  cases c with
  | tick t => exact absurd h (by simp [EngineCall.closes])
  | flush => rfl
  | remove j => rfl

/-- What was interrupted stays so. -/
theorem Interrupted.append {calls : List EngineCall} (h : Interrupted i g bucket calls)
    (calls' : List EngineCall) : Interrupted i g bucket (calls ++ calls') := by
  obtain ⟨before, c, after, rfl, hc, hbefore, hafter⟩ := h
  refine ⟨before, c, after ++ calls', by simp, hc, hbefore, ?_⟩
  rw [addedTicks_append, List.filter_append]
  exact List.append_ne_nil_of_left_ne_nil hafter _

/-- A call adds a tick of the bucket to the stretch, or leaves its ticks as they are. -/
theorem Stretch.step_cases (i : Instrument) (g : Granularity) (bucket : Timestamp) (st : Stretch)
    (c : EngineCall) :
    (∃ t, (addedTicks [c]).filter (Tick.isIn i g bucket) = [t] ∧
        st.step i g bucket c = ⟨if st.isOver then [t] else st.ticks ++ [t], false⟩) ∨
      ((addedTicks [c]).filter (Tick.isIn i g bucket) = [] ∧
        st.step i g bucket c = ⟨st.ticks, st.isOver || c.closes i⟩) := by
  cases c with
  | tick t =>
    by_cases ht : t.isIn i g bucket = true
    · exact Or.inl ⟨t, by simp [addedTicks, EngineCall.tick?, ht], by simp [step, ht]⟩
    · exact Or.inr
        ⟨by simp [addedTicks, EngineCall.tick?, ht], by simp [step, EngineCall.closes, ht]⟩
  | flush => exact Or.inr ⟨rfl, by simp [step, EngineCall.closes]⟩
  | remove j =>
    by_cases hj : j = i
    · exact Or.inr ⟨rfl, by simp [step, EngineCall.closes, hj]⟩
    · exact Or.inr ⟨rfl, by simp [step, EngineCall.closes, hj]⟩

/-- The stretch of a bucket is all of its ticks, unless the builders were closed between two of
them; and it is over only when they were closed after all of them. -/
theorem stretch_spec (i : Instrument) (g : Granularity) (bucket : Timestamp)
    (calls : List EngineCall) :
    (latestTicks i g bucket calls = (addedTicks calls).filter (Tick.isIn i g bucket) ∨
      Interrupted i g bucket calls) ∧
    ((calls.foldl (Stretch.step i g bucket) .start).isOver = true →
      ∃ before c after, calls = before ++ c :: after ∧ c.closes i = true ∧
        (addedTicks after).filter (Tick.isIn i g bucket) = []) := by
  induction calls using List.reverseRecOn with
  | nil => exact ⟨Or.inl rfl, fun h => absurd h (by simp [Stretch.start])⟩
  | append_singleton calls c ih =>
    obtain ⟨hticks, hover⟩ := ih
    unfold latestTicks at hticks ⊢
    rw [List.foldl_append, List.foldl_cons, List.foldl_nil, addedTicks_append, List.filter_append]
    generalize calls.foldl (Stretch.step i g bucket) .start = st at hticks hover ⊢
    rcases st.step_cases i g bucket c with ⟨t, hadded, hstep⟩ | ⟨hnone, hstep⟩
    · rw [hstep, hadded]
      refine ⟨?_, fun h => absurd h (by simp)⟩
      rcases hticks with hticks | hinterrupted
      · cases hst : st.isOver with
        | false => exact Or.inl (by simp [hticks])
        | true =>
          obtain ⟨before, c', after, rfl, hc', hafter⟩ := hover hst
          by_cases hempty : (addedTicks before).filter (Tick.isIn i g bucket) = []
          · refine Or.inl ?_
            simp [addedTicks_append, addedTicks_of_closes hc', hempty, hafter]
          · refine Or.inr ⟨before, c', after ++ [c], by simp, hc', hempty, ?_⟩
            rw [addedTicks_append, List.filter_append, hadded]
            simp
      · exact Or.inr (hinterrupted.append _)
    · rw [hstep, hnone, List.append_nil]
      refine ⟨hticks.imp id fun h => h.append _, fun h => ?_⟩
      rcases Bool.or_eq_true_iff.mp h with hst | hc
      · obtain ⟨before, c', after, rfl, hc', hafter⟩ := hover hst
        refine ⟨before, c', after ++ [c], by simp, hc', ?_⟩
        rw [addedTicks_append, List.filter_append, hafter, hnone, List.append_nil]
      · exact ⟨calls, c, [], rfl, hc, rfl⟩

/-- A stretch grows by no more than the ticks to come; one that is over begins again with them. -/
theorem foldl_step_length (i : Instrument) (g : Granularity) (bucket : Timestamp) (st : Stretch)
    (calls : List EngineCall) :
    (calls.foldl (Stretch.step i g bucket) st).ticks.length ≤
        st.ticks.length + ((addedTicks calls).filter (Tick.isIn i g bucket)).length ∧
      (st.isOver = true → (addedTicks calls).filter (Tick.isIn i g bucket) ≠ [] →
        (calls.foldl (Stretch.step i g bucket) st).ticks.length ≤
          ((addedTicks calls).filter (Tick.isIn i g bucket)).length) := by
  induction calls generalizing st with
  | nil => exact ⟨Nat.le_refl _, fun _ hne => absurd rfl hne⟩
  | cons c calls ih =>
    obtain ⟨hgrows, hrestarts⟩ := ih (st.step i g bucket c)
    rw [List.foldl_cons, ← List.singleton_append, addedTicks_append, List.filter_append]
    rcases st.step_cases i g bucket c with ⟨t, hadded, hstep⟩ | ⟨hnone, hstep⟩
    · rw [hstep] at hgrows
      rw [hstep, hadded, List.length_append, List.length_singleton]
      cases hover : st.isOver with
      | true =>
        simp only [hover, if_true, List.length_singleton] at hgrows ⊢
        exact ⟨Nat.le_trans hgrows (Nat.le_add_left _ _), fun _ _ => hgrows⟩
      | false =>
        simp only [hover, Bool.false_eq_true, if_false, List.length_append,
          List.length_singleton] at hgrows ⊢
        exact ⟨by omega, fun h => absurd h (by simp)⟩
    · rw [hnone, List.nil_append, hstep]
      rw [hstep] at hgrows hrestarts
      exact ⟨hgrows, fun hover => hrestarts (by simp [hover])⟩

/-- The stretch lacks ticks of a bucket that was interrupted. -/
theorem Interrupted.length_lt {calls : List EngineCall} (h : Interrupted i g bucket calls) :
    (latestTicks i g bucket calls).length <
      ((addedTicks calls).filter (Tick.isIn i g bucket)).length := by
  obtain ⟨before, c, after, rfl, hc, hbefore, hafter⟩ := h
  have hover : ∀ st : Stretch, (st.step i g bucket c).isOver = true := by
    intro st
    cases c with
    | tick t => exact absurd hc (by simp [EngineCall.closes])
    | flush => rfl
    | remove j =>
      have hj : j = i := of_decide_eq_true hc
      simp [Stretch.step, hj]
  have hrestarts := (foldl_step_length i g bucket
    ((before.foldl (Stretch.step i g bucket) .start).step i g bucket c) after).2 (hover _) hafter
  have hpos := List.length_pos_iff.mpr hbefore
  rw [addedTicks_append, List.filter_append, List.length_append, addedTicks_of_closes hc,
    latestTicks, List.foldl_append, List.foldl_cons]
  omega

/-- **The stretch is all of the bucket's ticks exactly when the builders were not closed between two
of them.** -/
theorem latestTicks_eq_iff (i : Instrument) (g : Granularity) (bucket : Timestamp)
    (calls : List EngineCall) :
    latestTicks i g bucket calls = (addedTicks calls).filter (Tick.isIn i g bucket) ↔
      ¬ Interrupted i g bucket calls := by
  constructor
  · intro heq hinterrupted
    have hlength := hinterrupted.length_lt
    rw [heq] at hlength
    exact Nat.lt_irrefl _ hlength
  · exact (stretch_spec i g bucket calls).1.resolve_right

/-! ## Closed segments of one bucket -/

/-- Of segments that lie in one bucket each, those of a bucket have the bucket's ticks. -/
theorem filter_flatMap_ticks {segments : List Segment} (hone : ∀ s ∈ segments, s.InOneBucket g)
    (bucket : Timestamp) :
    (segments.flatMap Segment.ticks).filter (fun t => g.bucketStart t.timestamp = bucket) =
      (segments.filter fun s => s.bucket g = bucket).flatMap Segment.ticks := by
  induction segments with
  | nil => rfl
  | cons s segments ih =>
    have hs := hone s List.mem_cons_self
    rw [List.flatMap_cons, List.filter_append,
      ih fun s' hs' => hone s' (List.mem_cons_of_mem s hs')]
    by_cases hb : s.bucket g = bucket
    · have hall : s.ticks.filter (fun t => g.bucketStart t.timestamp = bucket) = s.ticks := by
        rw [List.filter_eq_self]
        exact fun t ht => decide_eq_true ((hs t ht).trans hb)
      rw [hall, List.filter_cons_of_pos (by simpa using hb), List.flatMap_cons]
    · have hnone : s.ticks.filter (fun t => g.bucketStart t.timestamp = bucket) = [] := by
        rw [List.filter_eq_nil_iff]
        intro t ht
        rw [hs t ht]
        simpa using hb
      rw [hnone, List.filter_cons_of_neg (by simpa using hb), List.nil_append]

/-- The segments of a bucket are the bucket's ticks, where none is left open. -/
theorem closedIn_ticks (hidle : openAfter i g none calls = none) :
    (closedIn i g bucket calls).flatMap Segment.ticks =
      (addedTicks calls).filter (Tick.isIn i g bucket) := by
  have hsegments : segmentsFrom i g none calls = (closedFrom i g none calls).map Prod.fst := by
    unfold segmentsFrom
    rw [hidle, Option.toList_none, List.append_nil]
  have hticks := segmentsFrom_ticks (i := i) (g := g) none calls
  have hone := segmentsFrom_inOneBucket (i := i) (g := g) calls
  rw [hsegments] at hticks hone
  unfold closedIn
  rw [← filter_flatMap_ticks hone, hticks, ticksOf_eq_filter]
  refine (List.filter_filter ..).trans (List.filter_congr fun t _ => ?_)
  rw [Tick.isIn, Bool.decide_and, Bool.and_comm]

/-- In order of time and without interruption, a bucket has one segment at most. -/
theorem closedIn_length_le (horder : InOrder ((addedTicks calls).filter fun t => t.instrument = i))
    (hidle : openAfter i g none calls = none) (hwhole : ¬ Interrupted i g bucket calls) :
    (closedIn i g bucket calls).length ≤ 1 := by
  have hlast : Segment.ofTicks? (latestTicks i g bucket calls) =
      (closedIn i g bucket calls).getLast? := ofTicks?_latestTicks horder hidle
  rw [(latestTicks_eq_iff i g bucket calls).mpr hwhole, ← closedIn_ticks hidle] at hlast
  obtain hnil | ⟨segments, s, hsegments⟩ := (closedIn i g bucket calls).eq_nil_or_concat
  · rw [hnil]
    exact Nat.zero_le 1
  · -- the last segment has all ticks, and every segment has some
    rw [hsegments, List.concat_eq_append, List.getLast?_concat] at hlast
    have hticks := Segment.ofTicks?_eq_some hlast
    rw [List.flatMap_append, List.flatMap_singleton, List.append_left_eq_self] at hticks
    have hempty : segments = [] := by
      cases segments with
      | nil => rfl
      | cons s' rest => exact absurd hticks (by simp [Segment.ticks])
    rw [hsegments, hempty]
    exact Nat.le_refl 1

end CandleFeed
