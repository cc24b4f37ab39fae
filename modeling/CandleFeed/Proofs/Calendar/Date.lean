import CandleFeed.Calendar.Date

/-!
# Days lie in their years and months

`yearOf` guesses a year and corrects the guess.  `yearStart_yearOf_le` and
`lt_yearStart_yearOf_succ` show that one correction is enough: a day lies in the year that is found
for it.  The same then holds of the month that a day is found in (`monthStart_monthOf_le`,
`lt_monthStart_monthOf_succ`), and months begin in the order of their days
(`monthStart_monthOf_mono`).  So a day that can be used is found again from its date
(**`Date.toDay?_ofDay`**).
-/

namespace CandleFeed.Calendar

/-! ## Years -/

/-- A later year begins later. -/
theorem yearStart_mono {a b : Int} (h : a ≤ b) : yearStart a ≤ yearStart b := by
  unfold yearStart
  omega

/-- A year has at most 366 days. -/
theorem yearStart_succ_le (year : Int) : yearStart (year + 1) ≤ yearStart year + 366 := by
  unfold yearStart
  omega

/-- A day is not before the year that it lies in. -/
theorem yearStart_yearOf_le (day : Int) : yearStart (yearOf day) ≤ day := by
  simp only [yearOf]
  split
  · unfold yearStart
    omega
  · split
    · assumption
    · omega

/-- A day is before the year after the one that it lies in. -/
theorem lt_yearStart_yearOf_succ (day : Int) : day < yearStart (yearOf day + 1) := by
  simp only [yearOf]
  split
  · rwa [Int.sub_add_cancel]
  · split
    · unfold yearStart
      omega
    · omega

/-! ## Months -/

/-- The month that a day lies in: its year, counted from March, and its place in that year. -/
theorem monthOf_parts (day : Int) :
    monthOf day / 12 = yearOf day ∧
      monthOf day % 12 = (5 * (day - yearStart (yearOf day)) + 2) / 153 := by
  have hle := yearStart_yearOf_le day
  have hlt := lt_yearStart_yearOf_succ day
  have hyear := yearStart_succ_le (yearOf day)
  simp only [monthOf]
  omega

/-- The first day of the month that a day lies in, from the start of its year. -/
theorem monthStart_monthOf (day : Int) :
    monthStart (monthOf day) = yearStart (yearOf day) +
      (153 * ((5 * (day - yearStart (yearOf day)) + 2) / 153) + 2) / 5 := by
  obtain ⟨hyear, hplace⟩ := monthOf_parts day
  rw [monthStart, hyear, hplace]

/-- A day is not before the month that it lies in. -/
theorem monthStart_monthOf_le (day : Int) : monthStart (monthOf day) ≤ day := by
  have hle := yearStart_yearOf_le day
  rw [monthStart_monthOf]
  omega

/-- A day is before the month after the one that it lies in. -/
theorem lt_monthStart_monthOf_succ (day : Int) : day < monthStart (monthOf day + 1) := by
  obtain ⟨hyear, hplace⟩ := monthOf_parts day
  have hle := yearStart_yearOf_le day
  have hnext := lt_yearStart_yearOf_succ day
  unfold monthStart
  by_cases hlast : monthOf day % 12 = 11
  · -- after February the next year begins
    have hmonth : (monthOf day + 1) / 12 = yearOf day + 1 := by omega
    rw [hmonth]
    omega
  · have hmonth : (monthOf day + 1) / 12 = yearOf day := by omega
    rw [hmonth]
    omega

/-- A year has at least 365 days. -/
theorem le_yearStart_succ (year : Int) : yearStart year + 365 ≤ yearStart (year + 1) := by
  unfold yearStart
  omega

/-- A later month begins later. -/
theorem monthStart_mono {a b : Int} (h : a ≤ b) : monthStart a ≤ monthStart b := by
  unfold monthStart
  by_cases hyear : a / 12 = b / 12
  · rw [hyear]
    omega
  · have hyears := yearStart_mono (show a / 12 + 1 ≤ b / 12 by omega)
    have hlong := le_yearStart_succ (a / 12)
    omega

/-- A month that begins after a day is later than the one that the day lies in. -/
theorem monthOf_lt_of_lt {day month : Int} (h : day < monthStart month) : monthOf day < month := by
  refine Int.not_le.mp fun hle => ?_
  have hstart := monthStart_mono hle
  have hday := monthStart_monthOf_le day
  omega

/-- A month that begins on or before a day is no later than the one that the day lies in. -/
theorem le_monthOf_of_le {day month : Int} (h : monthStart month ≤ day) : month ≤ monthOf day := by
  refine Int.not_lt.mp fun hlt => ?_
  have hstart := monthStart_mono (show monthOf day + 1 ≤ month from hlt)
  have hday := lt_monthStart_monthOf_succ day
  omega

/-- A month begins before the next one. -/
theorem monthStart_lt_succ (month : Int) : monthStart month < monthStart (month + 1) := by
  unfold monthStart
  by_cases hlast : month % 12 = 11
  · have hyear := le_yearStart_succ (month / 12)
    have hmonth : (month + 1) / 12 = month / 12 + 1 := by omega
    rw [hmonth]
    omega
  · have hmonth : (month + 1) / 12 = month / 12 := by omega
    rw [hmonth]
    omega

/-- The first day of a month lies in it. -/
theorem monthOf_monthStart (month : Int) : monthOf (monthStart month) = month := by
  have hle : month ≤ monthOf (monthStart month) := le_monthOf_of_le (Int.le_refl _)
  have hlt : monthOf (monthStart month) < month + 1 := monthOf_lt_of_lt (monthStart_lt_succ month)
  omega

/-- Months begin in the order of their days. -/
theorem monthStart_monthOf_mono {a b : Int} (h : a ≤ b) :
    monthStart (monthOf a) ≤ monthStart (monthOf b) :=
  monthStart_mono (le_monthOf_of_le (Int.le_trans (monthStart_monthOf_le a) h))

/-! ## Weeks -/

/-- A week begins on or before its days. -/
theorem weekStart_le (day : Int) : weekStart day ≤ day := by
  unfold weekStart
  omega

/-! ## Dates -/

namespace Date

/-- The month of a date is the one that the day lies in. -/
theorem monthIn_ofDay (day : Int) : monthIn (ofDay day).year (ofDay day).month = monthOf day := by
  simp only [monthIn, ofDay]
  omega

/-- A date has one of twelve months. -/
theorem month_ofDay (day : Int) : 1 ≤ (ofDay day).month ∧ (ofDay day).month ≤ 12 := by
  simp only [ofDay]
  omega

/-- A date has a day that its month has. -/
theorem day_ofDay (day : Int) :
    1 ≤ (ofDay day).day ∧ (ofDay day).day ≤ monthLength (monthOf day) := by
  have hle := monthStart_monthOf_le day
  have hlt := lt_monthStart_monthOf_succ day
  simp only [ofDay, monthLength]
  omega

/-- A month has at most 31 days. -/
theorem monthLength_le (month : Int) : monthLength month ≤ 31 := by
  have hyear := yearStart_succ_le (month / 12)
  unfold monthLength monthStart
  by_cases hlast : month % 12 = 11
  · have hmonth : (month + 1) / 12 = month / 12 + 1 := by omega
    rw [hmonth]
    omega
  · have hmonth : (month + 1) / 12 = month / 12 := by omega
    rw [hmonth]
    omega

/-- A day that can be used lies in a year that can be used. -/
theorem year_ofDay {day : Int} (hfirst : firstDay ≤ day) (hlast : day ≤ lastDay) :
    firstYear ≤ (ofDay day).year ∧ (ofDay day).year ≤ lastYear := by
  have hmonth : monthIn firstYear 1 ≤ monthOf day := le_monthOf_of_le hfirst
  have hmonth' : monthOf day < monthIn (lastYear + 1) 1 := by
    refine monthOf_lt_of_lt ?_
    unfold lastDay at hlast
    omega
  simp only [ofDay, monthIn] at hmonth hmonth' ⊢
  omega

/-- **A day is found again from its date.** -/
theorem toDay?_ofDay {day : Int} (hfirst : firstDay ≤ day) (hlast : day ≤ lastDay) :
    (ofDay day).toDay? = some day := by
  have hyear := year_ofDay hfirst hlast
  have hmonth := month_ofDay day
  have hday := day_ofDay day
  have hsum : monthStart (monthOf day) + (ofDay day).day - 1 = day := by
    simp only [ofDay]
    omega
  simp only [toDay?, monthIn_ofDay, hyear, hmonth, hday, hsum, decide_true, Bool.and_self, if_true]

end Date

end CandleFeed.Calendar
