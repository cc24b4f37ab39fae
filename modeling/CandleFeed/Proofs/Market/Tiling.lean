import CandleFeed.Proofs.Market.Bucket

/-!
# Buckets tile time

**`Granularity.Boundary`** says at which points a bucket has to begin: at the multiples of a fixed
length, at midnight, on a Monday or on the first of a month.  Between two boundaries that exist
every point lies in one bucket, which begins at a boundary and ends where the next one begins
(**`Granularity.buckets_tile`**): the alignment of a point and the search for the bucket that
follows, which are written separately, agree on every date.

The argument is about parts of time.  The bucket that begins with a part consists of the parts
before its **`Granularity.nextPart`** (`firstPart_eq_iff`), with which another bucket begins
(`begins_nextPart`).
-/

namespace CandleFeed

/-- The day of the week, from Monday, which is 0. -/
def Calendar.weekday (day : Int) : Int := (day + 3) % 7

/-- A point is not before the start of a second if its second is not. -/
theorem Timestamp.before_eq_false_iff {a b : Timestamp} (h : b.nanos = 0) :
    a.before b = false ↔ b.seconds ≤ a.seconds := by
  simp [before, h]

/-- A point is before the start of a second if its second is. -/
theorem Timestamp.before_eq_true_iff {a b : Timestamp} (h : b.nanos = 0) :
    a.before b = true ↔ a.seconds < b.seconds := by
  simp [before, h]

/-- Between the first second and the last one each second has a start. -/
theorem Timestamp.ofSeconds?_of_between {second : Int} (hfirst : -8334601228800 ≤ second)
    (hlast : second ≤ 8210266876799) :
    ∃ t, ofSeconds? second = some t ∧ t.seconds = second ∧ t.nanos = 0 := by
  rw [ofSeconds?, ofParts?, dif_pos hfirst, dif_pos hlast, dif_pos (by decide)]
  exact ⟨_, rfl, rfl, rfl⟩

namespace Granularity

open Calendar

/-! ## Parts of time -/

/-- A bucket has to begin with the part. -/
def Begins (g : Granularity) (part : Int) : Prop :=
  match g with
  | week1 => weekday part = 0
  | month1 => (Date.ofDay part).day = 1
  | _ => True

instance (g : Granularity) (part : Int) : Decidable (g.Begins part) :=
  match g with
  | week1 => inferInstanceAs (Decidable (weekday part = 0))
  | month1 => inferInstanceAs (Decidable ((Date.ofDay part).day = 1))
  | minute1 | minute5 | minute15 | hour1 | hour4 | day1 => .isTrue trivial

/-- The part with which the bucket ends that begins with the given one. -/
def nextPart (g : Granularity) (part : Int) : Int :=
  match g with
  | week1 => part + 7
  | month1 => monthStart (monthOf part + 1)
  | _ => part + 1

/-- A month begins with the day that is written as its first. -/
theorem begins_month1_iff (part : Int) :
    month1.Begins part ↔ part = monthStart (monthOf part) := by
  simp only [Begins, Date.ofDay]
  omega

/-- A bucket has parts. -/
theorem lt_nextPart (g : Granularity) (part : Int) : part < g.nextPart part := by
  cases g with
  | month1 => exact lt_monthStart_monthOf_succ part
  | week1 => exact Int.lt_add_of_pos_right part (by decide)
  | _ => exact Int.lt_succ part

/-- Where a bucket ends another one has to begin. -/
theorem begins_nextPart {g : Granularity} {part : Int} (h : g.Begins part) :
    g.Begins (g.nextPart part) := by
  cases g with
  | month1 =>
    rw [begins_month1_iff]
    simp only [nextPart, monthOf_monthStart]
  | week1 =>
    simp only [Begins, nextPart, weekday] at h ⊢
    omega
  | _ => trivial

/-- A bucket ends before or where any later one has to begin. -/
theorem nextPart_le {g : Granularity} {a b : Int} (ha : g.Begins a) (hb : g.Begins b)
    (h : a < b) : g.nextPart a ≤ b := by
  cases g with
  | month1 =>
    rw [begins_month1_iff] at ha hb
    rw [hb] at h ⊢
    exact monthStart_mono (monthOf_lt_of_lt h)
  | week1 =>
    simp only [Begins, nextPart, weekday] at ha hb ⊢
    omega
  | _ => exact h

/-- **The bucket that begins with a part consists of the parts before the next**, if the part is
not before the first one of all. -/
theorem firstPart_eq_iff {g : Granularity} {first : Int} (h : g.Begins first)
    (hexists : -8334601228800 ≤ first * g.unit) (part : Int) :
    g.firstPart part = first ↔ first ≤ part ∧ part < g.nextPart first := by
  cases g with
  | month1 =>
    rw [begins_month1_iff] at h
    simp only [firstPart, nextPart]
    constructor
    · rintro rfl
      rw [monthOf_monthStart]
      exact ⟨monthStart_monthOf_le part, lt_monthStart_monthOf_succ part⟩
    · rintro ⟨hfirst, hnext⟩
      have hle : monthOf first ≤ monthOf part := by
        rw [h] at hfirst
        exact le_monthOf_of_le hfirst
      have hlt : monthOf part < monthOf first + 1 := monthOf_lt_of_lt hnext
      have hmonth : monthOf part = monthOf first := by omega
      rw [hmonth]
      exact h.symm
  | week1 =>
    -- the first day of all is a Thursday; until Monday each day has a bucket of its own
    have hday : firstDay = -96465292 := by decide
    simp only [Begins, weekday] at h
    simp only [unit, fixedSeconds, Option.getD_none] at hexists
    simp only [firstPart, nextPart, weekStart, hday]
    split <;> omega
  | _ =>
    simp only [firstPart, nextPart]
    omega

/-- The bucket of a part begins where one has to, if one had to on or before the part. -/
theorem begins_firstPart {g : Granularity} {first part : Int} (h : g.Begins first)
    (hexists : -8334601228800 ≤ first * g.unit) (hle : first ≤ part) :
    g.Begins (g.firstPart part) := by
  have hself : g.firstPart first = first :=
    (firstPart_eq_iff h hexists first).mpr ⟨le_rfl, g.lt_nextPart first⟩
  have hfirst : first ≤ g.firstPart part := by
    conv_lhs => rw [← hself]
    exact g.firstPart_mono hle
  cases g with
  | month1 =>
    rw [begins_month1_iff]
    simp only [firstPart, monthOf_monthStart]
  | week1 =>
    have hday : firstDay = -96465292 := by decide
    simp only [Begins, weekday] at h ⊢
    simp only [unit, fixedSeconds, Option.getD_none] at hexists
    simp only [firstPart, weekStart, hday] at hfirst ⊢
    split <;> omega
  | _ => trivial

/-! ## Points in time -/

/-- A bucket has to begin at the point. -/
structure Boundary (g : Granularity) (t : Timestamp) : Prop where
  /-- It is the start of a second. -/
  nanos : t.nanos = 0
  /-- It is a multiple of the length of the parts. -/
  unit_dvd : (g.unit : Int) ∣ t.seconds
  /-- A bucket has to begin with its part. -/
  begins : g.Begins (t.seconds / g.unit)

/-- Between two points that exist at which buckets have to begin: the bucket of the point has its
proper start, and so has the one that follows. -/
structure Encloses (g : Granularity) (first last t : Timestamp) : Prop where
  boundary_first : g.Boundary first
  boundary_last : g.Boundary last
  first_le : t.before first = false
  lt_last : t.before last = true

/-- How a bucket begins that a point lies in: at a multiple of a fixed length, and in the calendar
at the midnight of the point's day, of the Monday of its week or of the first of its month. -/
def Aligned (g : Granularity) (start t : Timestamp) : Prop :=
  start.nanos = 0 ∧ (g.unit : Int) ∣ start.seconds ∧
    match g with
    | day1 => Date.ofDay start.day = Date.ofDay t.day
    | week1 => weekday start.day = 0 ∧ start.day = t.day - weekday t.day
    | month1 => Date.ofDay start.day = { Date.ofDay t.day with day := 1 }
    | _ => True

/-- A boundary lies on the part that begins with it. -/
theorem Boundary.seconds_eq {g : Granularity} {t : Timestamp} (h : g.Boundary t) :
    t.seconds / g.unit * g.unit = t.seconds :=
  Int.ediv_mul_cancel h.unit_dvd

/-- The part that begins at a boundary is not before the first second. -/
theorem Boundary.first_le {g : Granularity} {t : Timestamp} (h : g.Boundary t) :
    -8334601228800 ≤ t.seconds / g.unit * g.unit := by
  rw [h.seconds_eq]
  exact t.first_le

/-- The day of a point is its part, for the granularities of the calendar. -/
theorem day_eq {g : Granularity} (h : g.fixedSeconds = none) (t : Timestamp) :
    t.day = t.seconds / g.unit := by
  simp only [Timestamp.day, secondsPerDay, unit, h, Option.getD_none, Nat.cast_ofNat]

/-- The parts between two parts have the seconds between the first ones of these. -/
theorem seconds_between (g : Granularity) (a b second : Int) :
    (a * g.unit ≤ second ∧ second < b * g.unit) ↔ a ≤ second / g.unit ∧ second / g.unit < b := by
  rw [Int.le_ediv_iff_mul_le g.unit_pos, Int.ediv_lt_iff_lt_mul g.unit_pos]

/-- The next day of the calendar's granularities is their next part, from where a bucket has to
begin. -/
theorem nextDay_eq_nextPart {g : Granularity} (h : g.fixedSeconds = none) {day : Int}
    (hday : g.Begins day) : g.nextDay day = g.nextPart day := by
  cases g with
  | month1 =>
    rw [begins_month1_iff] at hday
    have hlength := monthStart_lt_succ (monthOf day + 1)
    simp only [nextDay, nextPart, dayInMonth, monthLength]
    omega
  | week1 => rfl
  | day1 => rfl
  | _ => simp [fixedSeconds] at h

/-- The parts of a fixed length follow each other. -/
theorem nextPart_of_fixedSeconds {g : Granularity} {length : Nat}
    (h : g.fixedSeconds = some length) (part : Int) : g.nextPart part = part + 1 := by
  cases g <;> first | rfl | simp [fixedSeconds] at h

/-- **The bucket that follows begins with the next part**, where that exists. -/
theorem nextBucketStart?_boundary {g : Granularity} {start : Timestamp} (hstart : g.Boundary start)
    (hlast : g.nextPart (start.seconds / g.unit) * g.unit ≤ 8210266876799) :
    ∃ next, g.nextBucketStart? start = some next ∧ next.nanos = 0 ∧
      next.seconds = g.nextPart (start.seconds / g.unit) * g.unit := by
  have hafter := Int.mul_le_mul_of_nonneg_right (g.lt_nextPart (start.seconds / g.unit)).le
    g.unit_pos.le
  rw [hstart.seconds_eq] at hafter
  obtain ⟨next, hnext, hseconds, hnanos⟩ :=
    Timestamp.ofSeconds?_of_between (start.first_le.trans hafter) hlast
  refine ⟨next, ?_, hnanos, hseconds⟩
  cases hlength : g.fixedSeconds with
  | some length =>
    have hsum : start.seconds + length = g.nextPart (start.seconds / g.unit) * g.unit := by
      rw [nextPart_of_fixedSeconds hlength, Int.add_mul, hstart.seconds_eq, unit, hlength,
        Option.getD_some, Int.one_mul]
    have hadd := Timestamp.addSeconds?_eq_ofSeconds? hstart.nanos length
    rw [hsum, hnext] at hadd
    simpa only [nextBucketStart?, hlength] using hadd
  | none =>
    have hday : g.nextDay start.day = g.nextPart (start.seconds / g.unit) := by
      rw [day_eq hlength, nextDay_eq_nextPart hlength hstart.begins]
    have hunit : (g.unit : Int) = secondsPerDay := by
      rw [unit, hlength]
      rfl
    have hle : g.nextPart (start.seconds / g.unit) ≤ lastDay := by
      have hlastDay : lastDay = 95026236 := by decide
      generalize g.nextPart (start.seconds / g.unit) = next at hlast ⊢
      rw [hunit, secondsPerDay] at hlast
      omega
    have hstart? : Timestamp.ofDay? (g.nextPart (start.seconds / g.unit)) = some next := by
      rw [Timestamp.ofDay?, ← hunit, hnext]
    simp only [nextBucketStart?, hlength, hday, if_pos hle, hstart?, Option.getD_some]

/-- A bucket begins at its second, which is the first one of its first part. -/
theorem boundary_bucketStart {g : Granularity} {first t : Timestamp} (hfirst : g.Boundary first)
    (hle : first.seconds ≤ t.seconds) :
    g.Boundary (g.bucketStart t) ∧
      (g.bucketStart t).seconds / g.unit = g.firstPart (t.seconds / g.unit) := by
  obtain ⟨hseconds, hnanos⟩ := g.bucketStart_parts t
  have hpart : (g.bucketStart t).seconds / g.unit = g.firstPart (t.seconds / g.unit) := by
    rw [hseconds, startSecond, Int.mul_ediv_cancel _ g.unit_pos.ne']
  have hparts := Int.ediv_le_ediv g.unit_pos hle
  refine ⟨⟨hnanos, ?_, ?_⟩, hpart⟩
  · rw [hseconds, startSecond]
    exact Int.dvd_mul_left _ _
  · rw [hpart]
    exact begins_firstPart hfirst.begins hfirst.first_le hparts

/-- The bucket that begins at a boundary has the points from there to the next part. -/
theorem bucketStart_eq_boundary_iff {g : Granularity} {start : Timestamp} (h : g.Boundary start)
    (u : Timestamp) :
    g.bucketStart u = start ↔
      start.seconds ≤ u.seconds ∧ u.seconds < g.nextPart (start.seconds / g.unit) * g.unit := by
  obtain ⟨hseconds, hnanos⟩ := g.bucketStart_parts u
  have hpart : g.bucketStart u = start ↔
      g.firstPart (u.seconds / g.unit) = start.seconds / g.unit := by
    constructor
    · intro hu
      rw [← hu, hseconds, startSecond, Int.mul_ediv_cancel _ g.unit_pos.ne']
    · intro hu
      refine Timestamp.ext ?_ (hnanos.trans h.nanos.symm)
      rw [hseconds, startSecond, hu, h.seconds_eq]
  rw [hpart, firstPart_eq_iff h.begins h.first_le, ← seconds_between, h.seconds_eq]

/-- At a boundary begins the bucket that the boundary lies in. -/
theorem bucketStart_of_boundary {g : Granularity} {t : Timestamp} (h : g.Boundary t) :
    g.bucketStart t = t := by
  have hafter : t.seconds < g.nextPart (t.seconds / g.unit) * g.unit :=
    (Int.ediv_lt_iff_lt_mul g.unit_pos).mp (g.lt_nextPart _)
  exact (bucketStart_eq_boundary_iff h t).mpr ⟨le_rfl, hafter⟩

/-- A boundary with which the first part of a point's bucket begins is the one that the calendar
gives for the point. -/
theorem aligned_of_boundary {g : Granularity} {start t : Timestamp} (h : g.Boundary start)
    (hpart : start.seconds / g.unit = g.firstPart (t.seconds / g.unit)) : g.Aligned start t := by
  refine ⟨h.nanos, h.unit_dvd, ?_⟩
  have hbegins := h.begins
  cases g with
  | day1 =>
    rw [← day_eq rfl, ← day_eq rfl] at hpart
    exact congrArg Date.ofDay hpart
  | week1 =>
    rw [← day_eq rfl] at hpart hbegins
    rw [← day_eq rfl] at hpart
    simp only [Begins, weekday] at hbegins
    simp only [firstPart] at hpart
    simp only [weekday]
    refine ⟨hbegins, ?_⟩
    split at hpart
    · exact hpart
    · omega
  | month1 =>
    rw [← day_eq rfl, ← day_eq rfl] at hpart
    simp only [firstPart] at hpart
    simp only [Date.ofDay, hpart, monthOf_monthStart, Date.mk.injEq, true_and]
    omega
  | _ => trivial

/-- **Buckets tile time**: a point between two boundaries that exist lies in its bucket and before
the one that follows, another bucket begins where it ends, and it has exactly the points from its
start to its end. -/
theorem buckets_tile {g : Granularity} {first last t : Timestamp} (h : g.Encloses first last t) :
    ∃ next, g.nextBucketStart? (g.bucketStart t) = some next ∧
      t.before (g.bucketStart t) = false ∧ t.before next = true ∧
      g.bucketStart next = next ∧
      (∀ u, g.bucketStart u = g.bucketStart t ↔
        u.before (g.bucketStart t) = false ∧ u.before next = true) ∧
      g.Aligned (g.bucketStart t) t := by
  have hfirst := (Timestamp.before_eq_false_iff h.boundary_first.nanos).mp h.first_le
  have hlast := (Timestamp.before_eq_true_iff h.boundary_last.nanos).mp h.lt_last
  obtain ⟨hstart, hpart⟩ := boundary_bucketStart h.boundary_first hfirst
  -- the next part is there: it is not after the last boundary
  have hparts : (g.bucketStart t).seconds / g.unit < last.seconds / g.unit := by
    rw [hpart]
    refine (g.firstPart_le _).trans_lt ?_
    rw [Int.ediv_lt_iff_lt_mul g.unit_pos, h.boundary_last.seconds_eq]
    exact hlast
  have hend : g.nextPart ((g.bucketStart t).seconds / g.unit) * g.unit ≤ 8210266876799 := by
    have hle := nextPart_le hstart.begins h.boundary_last.begins hparts
    have hseconds := Int.mul_le_mul_of_nonneg_right hle g.unit_pos.le
    rw [h.boundary_last.seconds_eq] at hseconds
    exact hseconds.trans last.le_last
  obtain ⟨next, hnext, hnanos, hseconds⟩ := nextBucketStart?_boundary hstart hend
  have hbetween : ∀ u, g.bucketStart u = g.bucketStart t ↔
      u.before (g.bucketStart t) = false ∧ u.before next = true := by
    intro u
    rw [bucketStart_eq_boundary_iff hstart, Timestamp.before_eq_false_iff hstart.nanos,
      Timestamp.before_eq_true_iff hnanos, hseconds]
  have hboundary : g.Boundary next := by
    refine ⟨hnanos, hseconds ▸ Int.dvd_mul_left _ _, ?_⟩
    rw [hseconds, Int.mul_ediv_cancel _ g.unit_pos.ne']
    exact begins_nextPart hstart.begins
  obtain ⟨hself, hself'⟩ := (hbetween t).mp rfl
  exact ⟨next, hnext, hself, hself', bucketStart_of_boundary hboundary, hbetween,
    aligned_of_boundary hstart hpart⟩

/-- The February of 1968 is the bucket of the last point in its leap day, and nothing else lies in
it. -/
theorem buckets_tile_leapFebruary :
    let first : Timestamp := ⟨-60480000, 0, by decide, by decide, by decide⟩
    let last : Timestamp := ⟨-57974400, 0, by decide, by decide, by decide⟩
    let t : Timestamp := ⟨-57974401, 1999999999, by decide, by decide, by decide⟩
    month1.Encloses first last t ∧ month1.nextBucketStart? first = some last ∧
      month1.bucketStart last = last ∧ month1.Aligned first t ∧
      ∀ u, month1.bucketStart u = first ↔ u.before first = false ∧ u.before last = true := by
  intro first last t
  have h : month1.Encloses first last t :=
    ⟨⟨by decide, by decide, by decide⟩, ⟨by decide, by decide, by decide⟩, by decide, by decide⟩
  have hstart : month1.bucketStart t = first := by decide
  have hlast : month1.nextBucketStart? first = some last := by decide
  obtain ⟨next, hnext, -, -, hself, htile, haligned⟩ := buckets_tile h
  rw [hstart] at hnext htile haligned
  obtain rfl : last = next := Option.some.inj (hlast.symm.trans hnext)
  exact ⟨h, hnext, hself, haligned, htile⟩

end Granularity

end CandleFeed
