import CandleFeed.Proofs.Market.Tiling

/-!
# Alignment

The start of a bucket, as a map on points in time.  It is never after its point, it keeps the order
of points and leaves the starts of buckets alone, and to align to a finer granularity first makes no
difference to a coarser one (**`Granularity.bucketStart_laws`**).  Both ends of time are included.
No bucket of a fixed length begins at an unaligned point, and the week that began before the first
day of all, of which every day is a bucket, obeys the same laws.

All four laws are laws of seconds (`startSecond_le`, `startSecond_mono`, `startSecond_idem`,
`startSecond_startSecond`), and these are laws of parts of time.
-/

namespace CandleFeed.Granularity

open Calendar

/-! ## Parts and seconds -/

/-- The first part of a bucket is the first part of its own bucket. -/
theorem firstPart_firstPart (g : Granularity) (part : Int) :
    g.firstPart (g.firstPart part) = g.firstPart part := by
  cases g with
  | week1 =>
    have hmonday : weekStart (weekStart part) = weekStart part := by
      unfold weekStart
      omega
    by_cases hfirst : firstDay ≤ weekStart part
    · simp only [firstPart, if_pos hfirst, hmonday]
    · -- a day before the first Monday stands for itself
      simp only [firstPart, if_neg hfirst]
  | month1 => simp only [firstPart, monthOf_monthStart]
  | _ => rfl

/-- The second at which a bucket begins lies in it. -/
theorem startSecond_idem (g : Granularity) (second : Int) :
    g.startSecond (g.startSecond second) = g.startSecond second := by
  unfold startSecond
  rw [Int.mul_ediv_cancel _ g.unit_pos.ne', firstPart_firstPart]

/-! ## Points in time -/

/-- The second at which a bucket begins has a start, and the bucket begins there. -/
theorem ofSeconds?_startSecond (g : Granularity) (t : Timestamp) :
    Timestamp.ofSeconds? (g.startSecond t.seconds) = some (g.bucketStart t) := by
  obtain ⟨hseconds, hnanos⟩ := g.bucketStart_parts t
  have hfirst := (g.bucketStart t).first_le
  have hlast := (g.bucketStart t).le_last
  rw [hseconds] at hfirst hlast
  obtain ⟨start, hstart, hstart', hnanos'⟩ := Timestamp.ofSeconds?_of_between hfirst hlast
  rw [hstart, Timestamp.ext (hstart'.trans hseconds.symm) (hnanos'.trans hnanos.symm)]

/-- A bucket of a fixed length begins at the multiple of it on or before the second. -/
theorem startSecond_of_fixedSeconds {g : Granularity} {length : Nat}
    (h : g.fixedSeconds = some length) (second : Int) :
    g.startSecond second = second - second % length := by
  have hpart : ∀ part, g.firstPart part = part := by
    intro part
    cases g <;> first | rfl | simp [fixedSeconds] at h
  rw [startSecond, hpart, unit, h, Option.getD_some, Int.emod_def, Int.mul_comm]
  omega

/-- **Alignment is a monotone projection downwards, and nested**: for points of which the second is
not before the first, a bucket does not begin after its point, nor after the bucket of a later
point, and it begins where its own start's bucket does.  Of two granularities, weeks in months
apart, aligning to the finer one first leaves the bucket of the coarser one as it is.  Where buckets
last equally long, the aligned second always exists and the bucket begins with it. -/
theorem bucketStart_laws {t u : Timestamp} (h : u.before t = false) :
    (∀ g : Granularity,
      t.before (g.bucketStart t) = false ∧
        (g.bucketStart u).before (g.bucketStart t) = false ∧
        g.bucketStart (g.bucketStart t) = g.bucketStart t) ∧
    (∀ f c : Granularity, f.rank < c.rank → ¬(f = week1 ∧ c = month1) →
      c.bucketStart (f.bucketStart t) = c.bucketStart t) ∧
    (∀ (g : Granularity) (length : Nat), g.fixedSeconds = some length →
      Timestamp.ofSeconds? (t.seconds - t.seconds % length) = some (g.bucketStart t)) := by
  have hstart : ∀ g : Granularity, (g.bucketStart t).seconds = g.startSecond t.seconds :=
    fun g => (g.bucketStart_parts t).1
  refine ⟨fun g => ?_, fun f c hrank hweek => ?_, fun g length hlength => ?_⟩
  · have hnanos := (g.bucketStart_parts t).2
    refine ⟨?_, ?_, ?_⟩
    · rw [Timestamp.before_eq_false_iff hnanos, hstart]
      exact g.startSecond_le t.seconds
    · rw [Timestamp.before_eq_false_iff hnanos, hstart, (g.bucketStart_parts u).1]
      exact g.startSecond_mono (Timestamp.seconds_le_of_before h)
    · rw [bucketStart_eq_iff, hstart]
      exact g.startSecond_idem t.seconds
  · rw [bucketStart_eq_iff, hstart]
    exact startSecond_startSecond hrank (fun hf hc => hweek ⟨hf, hc⟩) t.seconds
  · rw [← startSecond_of_fixedSeconds hlength]
    exact g.ofSeconds?_startSecond t

/-- The first Saturday of all, in a week whose Monday does not exist, and the end of the leap second
before the next Tuesday: the laws hold across that Monday, and the Saturday begins its own week. -/
theorem bucketStart_laws_firstWeek :
    let saturday : Timestamp := ⟨-8334601012345, 500, by decide, by decide, by decide⟩
    let monday : Timestamp := ⟨-8334600796801, 1999999999, by decide, by decide, by decide⟩
    monday.before saturday = false ∧
      week1.bucketStart saturday = day1.bucketStart saturday ∧
      week1.bucketStart (week1.bucketStart saturday) = week1.bucketStart saturday ∧
      (week1.bucketStart monday).before (week1.bucketStart saturday) = false ∧
      week1.bucketStart (hour4.bucketStart saturday) = week1.bucketStart saturday ∧
      Timestamp.ofSeconds? (saturday.seconds - saturday.seconds % 14400) =
        some (hour4.bucketStart saturday) := by
  intro saturday monday
  have h : monday.before saturday = false := by decide
  obtain ⟨hlaws, hnested, hfixed⟩ := bucketStart_laws h
  obtain ⟨-, hmono, hidem⟩ := hlaws week1
  exact ⟨h, by decide, hidem, hmono, hnested hour4 week1 (by decide) (by decide),
    hfixed hour4 14400 rfl⟩

/-- Weeks in months are apart: the first of March 2024 lies in a week that began in February. -/
example : let t : Timestamp := ⟨1709251200, 0, by decide, by decide, by decide⟩
    month1.bucketStart (week1.bucketStart t) ≠ month1.bucketStart t := by decide

end CandleFeed.Granularity
