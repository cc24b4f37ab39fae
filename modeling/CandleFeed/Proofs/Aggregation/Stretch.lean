import CandleFeed.Proofs.Aggregation.History
import CandleFeed.Proofs.Market.Bucket

/-!
# The latest stretch of a bucket

The bars with one key are made of the ticks of one bucket.  Which of these ticks the last of the
bars has can be said without looking at other buckets, as long as ticks come in order of time,
because a bucket that has been left is then not entered again.

* **`Stretch`**: the ticks of one bucket that came since the instrument's builders were last closed
  with more of the bucket to come.  They are **`latestTicks`** of a list of calls.
* **`Stretch.Matches`**: the ticks of the stretch are those of the open segment, or those of the
  last segment of the bucket that was closed.  Every call keeps this (`Stretch.Matches.step`).
* **`ofTicks?_latestTicks`**: so the last segment of the bucket has the ticks of the stretch.
-/

namespace CandleFeed

/-- No tick is earlier than one before it. -/
def InOrder (ticks : List Tick) : Prop :=
  ticks.Pairwise fun t t' => t'.timestamp.before t.timestamp = false

/-- The tick is the instrument's and lies in the bucket. -/
def Tick.isIn (i : Instrument) (g : Granularity) (bucket : Timestamp) (t : Tick) : Bool :=
  t.instrument = i ∧ g.bucketStart t.timestamp = bucket

/-- The segment with some ticks, if there are any. -/
def Segment.ofTicks? : List Tick → Option Segment
  | [] => none
  | t :: rest => some ⟨t, rest⟩

/-- A segment is told by its ticks. -/
@[simp] theorem Segment.ofTicks?_ticksIn (s : Option Segment) : ofTicks? (ticksIn s) = s := by
  cases s <;> rfl

/-- The ticks that make a segment are its ticks. -/
theorem Segment.ofTicks?_eq_some {ticks : List Tick} {s : Segment} (h : ofTicks? ticks = some s) :
    ticks = s.ticks := by
  cases ticks with
  | nil => exact absurd h (by simp [ofTicks?])
  | cons t rest =>
    obtain rfl := Option.some.inj h
    rfl

/-- There is a segment where there are ticks. -/
theorem Segment.ofTicks?_isSome {ticks : List Tick} :
    (ofTicks? ticks).isSome ↔ ticks ≠ [] := by
  cases ticks <;> simp [ofTicks?]

/-! ## The latest stretch of a bucket -/

/-- The ticks of a bucket since the builders were last closed. -/
structure Stretch where
  /-- The ticks. -/
  ticks : List Tick
  /-- The builders were closed after them. -/
  isOver : Bool

namespace Stretch

/-- No ticks so far. -/
def start : Stretch := ⟨[], false⟩

/-- The stretch after a call.  A tick after the builders were closed begins another. -/
def step (i : Instrument) (g : Granularity) (bucket : Timestamp) (st : Stretch) :
    EngineCall → Stretch
  | .tick t => if t.isIn i g bucket then ⟨if st.isOver then [t] else st.ticks ++ [t], false⟩ else st
  | .flush => { st with isOver := true }
  | .remove j => if j = i then { st with isOver := true } else st

end Stretch

/-- The ticks of a bucket that came since the instrument's builders were last closed with more of
the bucket to come. -/
def latestTicks (i : Instrument) (g : Granularity) (bucket : Timestamp) (calls : List EngineCall) :
    List Tick :=
  (calls.foldl (Stretch.step i g bucket) .start).ticks

variable {i : Instrument} {g : Granularity} {bucket : Timestamp}

/-- The stretch is that of the open segment, or that of the last segment of the bucket which was
closed. -/
inductive Stretch.Matches (g : Granularity) (bucket : Timestamp) :
    Stretch → Option Segment → Option Segment → List Tick → Prop
  /-- The open segment lies in the bucket. -/
  | within {closed : Option Segment} {s : Segment} {later : List Tick} (hs : s.bucket g = bucket) :
      Matches g bucket ⟨s.ticks, false⟩ closed (some s) later
  /-- The bucket has been left, or was not entered yet.  Its ticks go on only after the builders
  were closed. -/
  | outside {st : Stretch} {closed opened : Option Segment} {later : List Tick}
      (hticks : st.ticks = ticksIn closed) (hopened : ∀ s ∈ opened, s.bucket g ≠ bucket)
      (hlater : st.isOver = false → st.ticks ≠ [] →
        ∀ t ∈ later, g.bucketStart t.timestamp ≠ bucket) :
      Matches g bucket st closed opened later

/-- The last segment of the bucket that was closed, after a call that may have closed one. -/
def lastClosed (g : Granularity) (bucket : Timestamp) (closed : Option Segment) (cut : Cut) :
    Option Segment :=
  match cut.closed with
  | some (s, _) => if s.bucket g = bucket then some s else closed
  | none => closed

/-- A segment that is closed is the last one of its bucket. -/
theorem lastClosed_some (closed : Option Segment) (s : Segment) (reason : CloseReason)
    (opened : Option Segment) :
    lastClosed g bucket closed ⟨some (s, reason), opened⟩ =
      if s.bucket g = bucket then some s else closed := rfl

/-- A tick of the open segment's bucket is added to the segment. -/
theorem EngineCall.cut_tick_same {t : Tick} {s : Segment}
    (h : g.bucketStart s.last.timestamp = g.bucketStart t.timestamp) :
    (EngineCall.tick t).cut t.instrument g (some s) = ⟨none, some (s.snoc t)⟩ := by
  simp only [cut, h, if_true]

/-- A tick of another bucket closes the open segment. -/
theorem EngineCall.cut_tick_other {t : Tick} {s : Segment}
    (h : g.bucketStart s.last.timestamp ≠ g.bucketStart t.timestamp) :
    (EngineCall.tick t).cut t.instrument g (some s) = ⟨some (s, .rollover), some ⟨t, []⟩⟩ := by
  simp only [cut, h, if_true, if_false]

/-- A tick opens a segment where none is. -/
theorem EngineCall.cut_tick_none (t : Tick) :
    (EngineCall.tick t).cut t.instrument g none = ⟨none, some ⟨t, []⟩⟩ := by
  simp only [cut, if_true]

namespace Stretch

variable {st : Stretch} {closed opened : Option Segment} {later : List Tick}

/-- A tick of the bucket goes on with the stretch, unless the builders were closed after it. -/
theorem step_of_mem {t : Tick} (ht : g.bucketStart t.timestamp = bucket) :
    st.step t.instrument g bucket (.tick t) =
      ⟨if st.isOver then [t] else st.ticks ++ [t], false⟩ := by
  simp [step, Tick.isIn, ht]

/-- A tick of another bucket leaves the stretch as it is. -/
theorem step_of_not_mem {t : Tick} (ht : g.bucketStart t.timestamp ≠ bucket) :
    st.step t.instrument g bucket (.tick t) = st := by
  simp [step, Tick.isIn, ht]

namespace Matches

/-- Closing the builders ends the stretch, and the segment that was open is the last closed one if
it lies in the bucket. -/
theorem close (h : Matches g bucket st closed opened later) (reason : CloseReason) :
    Matches g bucket { st with isOver := true }
      (lastClosed g bucket closed ⟨opened.map fun s => (s, reason), none⟩) none later := by
  refine .outside ?_ (by simp) (by simp)
  cases h with
  | @within _ s _ hs =>
    rw [Option.map_some, lastClosed_some, if_pos hs]
    rfl
  | outside hticks hopened hlater =>
    cases opened with
    | none => exact hticks
    | some s =>
      rw [Option.map_some, lastClosed_some, if_neg (hopened s rfl)]
      exact hticks

/-- A tick of the instrument, in order of time, is added to the stretch if it lies in the bucket. -/
theorem tick {t : Tick} (h : Matches g bucket st closed opened (t :: later))
    (hone : ∀ s ∈ opened, s.InOneBucket g) (horder : InOrder (ticksIn opened ++ t :: later)) :
    Matches g bucket (st.step t.instrument g bucket (.tick t))
      (lastClosed g bucket closed ((EngineCall.tick t).cut t.instrument g opened))
      ((EngineCall.tick t).cut t.instrument g opened).opened later := by
  have hlast : ∀ s ∈ opened, g.bucketStart s.last.timestamp = s.bucket g :=
    fun s hs => hone s hs s.last s.last_mem_ticks
  by_cases ht : g.bucketStart t.timestamp = bucket
  · rw [step_of_mem ht]
    cases h with
    | @within _ s _ hs =>
      rw [EngineCall.cut_tick_same ((hlast s rfl).trans (hs.trans ht.symm))]
      exact .within (s := s.snoc t) hs
    | outside hticks hopened hlater =>
      have hfresh : (if st.isOver then [t] else st.ticks ++ [t]) = [t] := by
        cases hover : st.isOver with
        | true => rfl
        | false =>
          by_cases hempty : st.ticks = []
          · simp [hempty]
          · exact absurd ht (hlater hover hempty t List.mem_cons_self)
      have hopen : ((EngineCall.tick t).cut t.instrument g opened).opened = some ⟨t, []⟩ := by
        cases opened with
        | none => rw [EngineCall.cut_tick_none]
        | some s =>
          rw [EngineCall.cut_tick_other]
          rw [hlast s rfl, ht]
          exact hopened s rfl
      rw [hfresh, hopen]
      exact .within (s := ⟨t, []⟩) ht
  · rw [step_of_not_mem ht]
    cases h with
    | @within _ s _ hs =>
      have hlast' := (hlast s rfl).trans hs
      rw [EngineCall.cut_tick_other (by rw [hlast']; exact Ne.symm ht), lastClosed_some, if_pos hs]
      refine .outside rfl (fun s' hs' => ?_) fun _ _ t' ht' hbucket => ht ?_
      · obtain rfl := Option.some.inj hs'
        exact ht
      · -- a later tick of the bucket would have this one lie in it, too
        obtain ⟨-, htail, hbetween⟩ := List.pairwise_append.mp horder
        have hfirst := hbetween s.last s.last_mem_ticks t List.mem_cons_self
        have hsecond := (List.pairwise_cons.mp htail).1 t' ht'
        exact (g.bucketStart_between hfirst hsecond (hlast'.trans hbucket.symm)).trans hlast'
    | outside hticks hopened hlater =>
      have hlater' : st.isOver = false → st.ticks ≠ [] →
          ∀ t' ∈ later, g.bucketStart t'.timestamp ≠ bucket :=
        fun hover hne t' ht' => hlater hover hne t' (List.mem_cons_of_mem t ht')
      cases opened with
      | none =>
        rw [EngineCall.cut_tick_none]
        refine .outside hticks (fun s' hs' => ?_) hlater'
        obtain rfl := Option.some.inj hs'
        exact ht
      | some s =>
        by_cases hsame : g.bucketStart s.last.timestamp = g.bucketStart t.timestamp
        · rw [EngineCall.cut_tick_same hsame]
          refine .outside hticks (fun s' hs' => ?_) hlater'
          obtain rfl := Option.some.inj hs'
          exact hopened s rfl
        · rw [EngineCall.cut_tick_other hsame, lastClosed_some, if_neg (hopened s rfl)]
          refine .outside hticks (fun s' hs' => ?_) hlater'
          obtain rfl := Option.some.inj hs'
          exact ht

/-- Every call keeps the stretch and the segments together, as long as ticks come in order. -/
theorem step {c : EngineCall} {cs : List EngineCall}
    (h : Matches g bucket st closed opened (ticksOf i (c :: cs)))
    (hone : ∀ s ∈ opened, s.InOneBucket g)
    (horder : InOrder (ticksIn opened ++ ticksOf i (c :: cs))) :
    Matches g bucket (st.step i g bucket c) (lastClosed g bucket closed (c.cut i g opened))
      (c.cut i g opened).opened (ticksOf i cs) := by
  cases c with
  | tick t =>
    by_cases hi : t.instrument = i
    · subst hi
      have hticks : ticksOf t.instrument (.tick t :: cs) = t :: ticksOf t.instrument cs := by
        rw [ticksOf_cons]
        simp [ticksOf]
      rw [hticks] at h horder
      exact h.tick hone horder
    · have hticks : ticksOf i (.tick t :: cs) = ticksOf i cs := by
        rw [ticksOf_cons]
        simp [ticksOf, hi]
      rw [hticks] at h
      simp only [Stretch.step, Tick.isIn, EngineCall.cut, hi, false_and, decide_false, if_false]
      exact h
  | flush => exact h.close .flush
  | remove j =>
    by_cases hj : j = i
    · simp only [Stretch.step, EngineCall.cut, hj, if_true]
      exact h.close .unsubscribe
    · simp only [Stretch.step, EngineCall.cut, hj, if_false]
      exact h

/-- After any calls, the stretch is that of the segment that is open, or of the last one of the
bucket that they have closed. -/
theorem run {calls : List EngineCall} (h : Matches g bucket st closed opened (ticksOf i calls))
    (hone : ∀ s ∈ opened, s.InOneBucket g) (horder : InOrder (ticksIn opened ++ ticksOf i calls)) :
    Matches g bucket (calls.foldl (Stretch.step i g bucket) st)
      ((((closedFrom i g opened calls).map Prod.fst).filter fun s =>
        s.bucket g = bucket).getLast?.or closed)
      (openAfter i g opened calls) [] := by
  induction calls generalizing st closed opened with
  | nil => exact h
  | cons c cs ih =>
    have hone' := (cut_inOneBucket (i := i) hone c).2
    have horder' : InOrder (ticksIn (c.cut i g opened).opened ++ ticksOf i cs) := by
      have hticks := cut_ticks i g opened c
      rw [ticksOf_cons, ← List.append_assoc, ← hticks, List.append_assoc] at horder
      exact (List.pairwise_append.mp horder).2.1
    have hrest := ih (h.step hone horder) hone' horder'
    have hclosed : closedFrom i g opened (c :: cs) =
        (c.cut i g opened).closed.toList ++ closedFrom i g (c.cut i g opened).opened cs := by
      unfold closedFrom
      rw [cuts]
      cases (c.cut i g opened).closed <;> simp
    rw [hclosed, List.map_append, List.filter_append, List.getLast?_append, Option.or_assoc]
    have hlast : lastClosed g bucket closed (c.cut i g opened) =
        (((c.cut i g opened).closed.toList.map Prod.fst).filter fun s =>
          s.bucket g = bucket).getLast?.or closed := by
      unfold lastClosed
      cases (c.cut i g opened).closed with
      | none => rfl
      | some pair =>
        obtain ⟨s, reason⟩ := pair
        by_cases hs : s.bucket g = bucket
        · simp [hs]
        · simp [hs]
    rw [← hlast]
    exact hrest

end Matches

end Stretch

/-! ## Closed segments of one bucket -/

variable {calls : List EngineCall}

/-- The segments of a bucket that calls close. -/
def closedIn (i : Instrument) (g : Granularity) (bucket : Timestamp) (calls : List EngineCall) :
    List Segment :=
  ((closedFrom i g none calls).map Prod.fst).filter fun s => s.bucket g = bucket

/-- The ticks of the stretch are those of the bucket's last segment, where none is left open. -/
theorem ofTicks?_latestTicks
    (horder : InOrder ((addedTicks calls).filter fun t => t.instrument = i))
    (hidle : openAfter i g none calls = none) :
    Segment.ofTicks? (latestTicks i g bucket calls) = (closedIn i g bucket calls).getLast? := by
  have hstart : Stretch.Matches g bucket .start none none (ticksOf i calls) :=
    .outside rfl (by simp) fun _ hne => absurd rfl hne
  rw [← ticksOf_eq_filter] at horder
  have hend := hstart.run (by simp) horder
  rw [hidle, Option.or_none] at hend
  unfold latestTicks
  generalize calls.foldl (Stretch.step i g bucket) .start = st at hend ⊢
  cases hend with
  | outside hticks =>
    rw [hticks, Segment.ofTicks?_ticksIn]
    rfl

end CandleFeed
