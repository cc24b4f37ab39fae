import Mathlib.Algebra.Order.Ring.Int
import CandleFeed.Market.Bucket
import CandleFeed.Proofs.Calendar.Date

/-!
# Buckets are nested and in order

A bucket begins at a whole second that depends on the second of its points only
(`bucketStart_parts`): **`Granularity.startSecond`**.  That second always exists, so that the case
in which a bucket would have to begin at the point itself never arises.

Three properties of buckets are read off it.  Later points lie in later buckets or the same one
(`bucketStart_between`).  The buckets of a finer granularity lie inside those of a coarser one
(`bucketStart_nested`), weeks and months apart: a week may belong to two months.  And a bucket has
no end only if it is the last one of a fixed length (`nextBucketStart?_bucketStart_eq_none_iff`).
-/

namespace CandleFeed

/-- A point that is not earlier has no earlier second. -/
theorem Timestamp.seconds_le_of_before {a b : Timestamp} (h : b.before a = false) :
    a.seconds ≤ b.seconds := by
  rw [Timestamp.before, Bool.or_eq_false_iff, decide_eq_false_iff_not] at h
  exact Int.not_lt.mp h.1

/-- From the start of a second a step forward leads to the start of a second. -/
theorem Timestamp.addSeconds?_eq_ofSeconds? {t : Timestamp} (h : t.nanos = 0) (n : Nat) :
    t.addSeconds? n = ofSeconds? (t.seconds + n) := by
  unfold addSeconds?
  rw [h]
  exact if_neg (by simp [nanosPerSecond])

/-- From the start of a second a step forward fails only beyond the last second. -/
theorem Timestamp.addSeconds?_eq_none_iff {t : Timestamp} (h : t.nanos = 0) (n : Nat) :
    t.addSeconds? n = none ↔ 8210266876799 < t.seconds + n := by
  have hfirst : -8334601228800 ≤ t.seconds + n := by
    have := t.first_le
    omega
  rw [addSeconds?_eq_ofSeconds? h, ofSeconds?, ofParts?, dif_pos hfirst]
  by_cases hlast : t.seconds + n ≤ 8210266876799
  · rw [dif_pos hlast, dif_pos (by decide)]
    simp [hlast]
  · rw [dif_neg hlast]
    simpa using hlast

namespace Granularity

/-! ## Parts of time -/

/-- The length in seconds of the parts of time that buckets are made of: the bucket itself where all
are equally long, a day in the calendar. -/
def unit (g : Granularity) : Nat := g.fixedSeconds.getD 86400

/-- The first part of the bucket that a part lies in; only weeks and months have several. -/
def firstPart (g : Granularity) (part : Int) : Int :=
  match g with
  | week1 => if Calendar.firstDay ≤ Calendar.weekStart part then Calendar.weekStart part else part
  | month1 => Calendar.monthStart (Calendar.monthOf part)
  | _ => part

/-- The second at which the bucket begins that a second lies in. -/
def startSecond (g : Granularity) (second : Int) : Int :=
  g.firstPart (second / g.unit) * g.unit

/-- Parts of time last. -/
theorem unit_pos (g : Granularity) : (0 : Int) < g.unit := by
  cases g <;> decide

/-- Parts of a coarser granularity consist of whole parts of a finer one. -/
theorem unit_dvd {f c : Granularity} (h : f.rank ≤ c.rank) : (f.unit : Int) ∣ c.unit := by
  revert h
  cases f <;> cases c <;> decide

/-- A bucket begins with a part that is not after any of its parts. -/
theorem firstPart_le (g : Granularity) (part : Int) : g.firstPart part ≤ part := by
  cases g <;> simp only [firstPart, le_refl]
  · split
    · exact Calendar.weekStart_le part
    · exact le_rfl
  · exact Calendar.monthStart_monthOf_le part

/-- Later parts lie in buckets that begin later, or in the same one. -/
theorem firstPart_mono (g : Granularity) {a b : Int} (h : a ≤ b) :
    g.firstPart a ≤ g.firstPart b := by
  cases g <;> simp only [firstPart] <;> try exact h
  · -- in the incomplete week before the first Monday every day begins a bucket of its own
    unfold Calendar.weekStart
    split <;> split <;> omega
  · exact Calendar.monthStart_monthOf_mono h

/-! ## Seconds -/

/-- A bucket begins on or before its seconds. -/
theorem startSecond_le (g : Granularity) (second : Int) : g.startSecond second ≤ second := by
  have hpart := Int.mul_le_mul_of_nonneg_right (g.firstPart_le (second / g.unit)) g.unit_pos.le
  exact hpart.trans (Int.ediv_mul_le second g.unit_pos.ne')

/-- Later seconds lie in buckets that begin later, or in the same one. -/
theorem startSecond_mono (g : Granularity) {a b : Int} (h : a ≤ b) :
    g.startSecond a ≤ g.startSecond b := by
  have hparts := Int.ediv_le_ediv g.unit_pos h
  exact Int.mul_le_mul_of_nonneg_right (g.firstPart_mono hparts) g.unit_pos.le

/-- The first second of all begins a bucket. -/
theorem startSecond_first (g : Granularity) : g.startSecond (-8334601228800) = -8334601228800 := by
  cases g <;> decide

/-- A second lies in the same bucket as the start of a finer bucket that it lies in, unless these
are a month and a week. -/
theorem startSecond_startSecond {f c : Granularity} (h : f.rank < c.rank)
    (hweek : f = week1 → c ≠ month1) (second : Int) :
    c.startSecond (f.startSecond second) = c.startSecond second := by
  have hpart : ∀ part, f.firstPart part = part := by
    intro part
    revert h hweek
    cases f <;> cases c <;> simp [rank, firstPart]
  obtain ⟨k, hk⟩ := unit_dvd h.le
  have hf := f.unit_pos
  have hunits : second / f.unit * f.unit / c.unit = second / c.unit := by
    rw [hk, ← Int.ediv_ediv_of_nonneg hf.le, ← Int.ediv_ediv_of_nonneg hf.le,
      Int.mul_ediv_cancel _ hf.ne']
  unfold startSecond
  rw [hpart, hunits]

/-! ## Points in time -/

/-- A bucket begins at its second, if that exists. -/
theorem bucketStart_eq (g : Granularity) (t : Timestamp) :
    g.bucketStart t = (Timestamp.ofSeconds? (g.startSecond t.seconds)).getD t := by
  have hfixed : ∀ length : Int, t.seconds - t.seconds % length = t.seconds / length * length := by
    intro length
    rw [Int.emod_def, Int.mul_comm]
    omega
  cases g with
  | day1 => rfl
  | week1 => rfl
  | month1 => rfl
  | _ => exact congrArg (fun s => (Timestamp.ofSeconds? s).getD t) (hfixed _)

/-- A bucket begins at a whole second, that of its granularity. -/
theorem bucketStart_parts (g : Granularity) (t : Timestamp) :
    (g.bucketStart t).seconds = g.startSecond t.seconds ∧ (g.bucketStart t).nanos = 0 := by
  have hfirst : -8334601228800 ≤ g.startSecond t.seconds := by
    rw [← g.startSecond_first]
    exact g.startSecond_mono t.first_le
  have hlast : g.startSecond t.seconds ≤ 8210266876799 :=
    (g.startSecond_le t.seconds).trans t.le_last
  rw [bucketStart_eq, Timestamp.ofSeconds?, Timestamp.ofParts?, dif_pos hfirst, dif_pos hlast,
    dif_pos (by decide)]
  exact ⟨rfl, rfl⟩

/-- Two points lie in one bucket when their seconds do. -/
theorem bucketStart_eq_iff (g : Granularity) (a b : Timestamp) :
    g.bucketStart a = g.bucketStart b ↔ g.startSecond a.seconds = g.startSecond b.seconds := by
  obtain ⟨ha, ha'⟩ := g.bucketStart_parts a
  obtain ⟨hb, hb'⟩ := g.bucketStart_parts b
  constructor
  · intro h
    rw [← ha, ← hb, h]
  · intro h
    exact Timestamp.ext (by rw [ha, hb, h]) (by rw [ha', hb'])

/-- **Buckets are nested**: points in one bucket lie in one bucket of any coarser granularity,
except that points of one week may lie in two months. -/
theorem bucketStart_nested {f c : Granularity} (h : f.rank < c.rank)
    (hweek : f = week1 → c ≠ month1) {a b : Timestamp} (hab : f.bucketStart a = f.bucketStart b) :
    c.bucketStart a = c.bucketStart b := by
  rw [bucketStart_eq_iff] at hab ⊢
  rw [← startSecond_startSecond h hweek a.seconds, ← startSecond_startSecond h hweek b.seconds, hab]

/-- **Buckets are in order**: what comes between two points of one bucket lies in it too. -/
theorem bucketStart_between (g : Granularity) {a b c : Timestamp} (hab : b.before a = false)
    (hbc : c.before b = false) (hac : g.bucketStart a = g.bucketStart c) :
    g.bucketStart b = g.bucketStart a := by
  rw [bucketStart_eq_iff] at hac ⊢
  have hab' := g.startSecond_mono (Timestamp.seconds_le_of_before hab)
  have hbc' := g.startSecond_mono (Timestamp.seconds_le_of_before hbc)
  omega

/-! ## The last buckets -/

/-- **Which buckets have no end**: those of fixed length that end with the last second.  Their
points are the last ones, as many seconds as the bucket is long. -/
theorem nextBucketStart?_bucketStart_eq_none_iff (g : Granularity) (t : Timestamp) :
    g.nextBucketStart? (g.bucketStart t) = none ↔
      ∃ length, g.fixedSeconds = some length ∧ 8210266876800 - length ≤ t.seconds := by
  obtain ⟨hseconds, hnanos⟩ := g.bucketStart_parts t
  unfold nextBucketStart?
  cases hlength : g.fixedSeconds with
  | none => simp
  | some length =>
    simp only [Option.some.injEq, exists_eq_left']
    rw [Timestamp.addSeconds?_eq_none_iff hnanos, hseconds]
    -- the second after the last one begins a bucket of each fixed length
    cases g with
    | day1 => exact absurd hlength (by simp [fixedSeconds])
    | week1 => exact absurd hlength (by simp [fixedSeconds])
    | month1 => exact absurd hlength (by simp [fixedSeconds])
    | _ =>
      obtain rfl := Option.some.inj hlength
      simp only [startSecond, firstPart, unit, fixedSeconds, Option.getD_some]
      omega

end Granularity

end CandleFeed
