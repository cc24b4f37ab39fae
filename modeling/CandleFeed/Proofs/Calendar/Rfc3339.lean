import CandleFeed.Calendar.Rfc3339
import CandleFeed.Proofs.Calendar.Date

/-!
# Points in time read back

**`Rfc3339.read_write`**: a point in time that does not lie in a leap second is read from its text,
whatever its year and however many digits its fraction has.  The text is read part by part, each
part up to the separator after it: a year of four digits or with its sign (`year_yearText`), numbers
of two digits (`twoDigits_padded`), and a fraction of none, three, six or nine digits
(`fraction_fractionText`).
-/

namespace CandleFeed.Rfc3339

/-! ## Numbers -/

theorem isDigit_of_mem_padded {width n : Nat} {c : Char} (h : c ∈ padded width n) :
    c.isDigit = true := by
  rcases List.mem_append.mp h with hzero | hdigit
  · rw [List.eq_of_mem_replicate hzero]
    rfl
  · exact Nat.isDigit_of_mem_toDigits (by decide) (by decide) hdigit

theorem padded_ne_nil (width n : Nat) : padded width n ≠ [] :=
  List.append_ne_nil_of_right_ne_nil _ Nat.toDigits_ne_nil

/-- Zeros in front do not count. -/
theorem digitsValue_padded (width n : Nat) : digitsValue (padded width n) = n := by
  have hvalue : ∀ ds, digitsValue ds = Nat.ofDigitChars 10 ds 0 := by
    intro ds
    unfold digitsValue Nat.ofDigitChars
    simp only [Nat.mul_comm]
    rfl
  rw [hvalue, padded, Nat.ofDigitChars_append, Nat.ofDigitChars_replicate_zero, Nat.mul_zero,
    Nat.ofDigitChars_ten_toDigits]

/-- A number that has room has exactly the digits asked for. -/
theorem length_padded {width n : Nat} (hwidth : 0 < width) (h : n < Nat.pow 10 width) :
    (padded width n).length = width := by
  have hle := (Nat.length_toDigits_le_iff (by decide) hwidth).mpr h
  simp only [padded, List.length_append, List.length_replicate]
  omega

/-- A digit is not blank. -/
theorem isBlank_of_isDigit {c : Char} (h : c.isDigit = true) : Text.isBlank c = false := by
  have hbounds := Char.isDigit_iff_toNat.mp h
  have hlow : 48 ≤ c.toNat := hbounds.1
  have hhigh : c.toNat ≤ 57 := hbounds.2
  simp only [Text.isBlank, Bool.or_eq_false_iff, Bool.and_eq_false_iff, decide_eq_false_iff_not,
    beq_eq_false_iff_ne]
  omega

/-- A number begins with a digit. -/
theorem isDigit_of_padded_append {width n : Nat} {c : Char} {rest cs : List Char}
    (h : padded width n ++ rest = c :: cs) : c.isDigit = true := by
  cases htext : padded width n with
  | nil => exact absurd htext (padded_ne_nil width n)
  | cons d ds =>
    rw [htext, List.cons_append] at h
    cases h
    exact isDigit_of_mem_padded (htext ▸ List.mem_cons_self)

/-- No blanks stand in front of a number. -/
theorem trimStart_padded (width n : Nat) (rest : List Char) :
    Text.trimStart (padded width n ++ rest) = padded width n ++ rest := by
  cases htext : padded width n ++ rest with
  | nil => rfl
  | cons c cs =>
    have hc : Text.isBlank c = false := isBlank_of_isDigit (isDigit_of_padded_append htext)
    exact Text.trimStart_cons hc cs

/-- The digits at the start of a text, when the text after them has none or no more count. -/
theorem takeWhile_take_padded {width n most : Nat} {rest : List Char}
    (hmost : (padded width n).length ≤ most)
    (hend : (padded width n).length = most ∨ ∀ c ∈ rest.head?, c.isDigit = false) :
    ((padded width n ++ rest).take most).takeWhile Char.isDigit = padded width n := by
  have hnone : (rest.take (most - (padded width n).length)).takeWhile Char.isDigit = [] := by
    rcases hend with hfull | hhead
    · rw [hfull, Nat.sub_self]
      rfl
    · cases rest with
      | nil => rw [List.take_nil, List.takeWhile_nil]
      | cons c cs =>
        have hc := hhead c rfl
        cases most - (padded width n).length with
        | zero => rfl
        | succ k => rw [List.take_succ_cons, List.takeWhile_cons_of_neg (by rw [hc]; decide)]
  rw [List.take_append, List.take_of_length_le hmost,
    List.takeWhile_append_of_pos fun c hc => isDigit_of_mem_padded hc, hnone, List.append_nil]

/-- A number is read up to the text after it. -/
theorem number_padded {width n most : Nat} {rest : List Char}
    (hmost : (padded width n).length ≤ most)
    (hend : (padded width n).length = most ∨ ∀ c ∈ rest.head?, c.isDigit = false) :
    number most (padded width n ++ rest) = some (n, rest) := by
  have hsome : (padded width n).isEmpty = false := by
    rw [List.isEmpty_eq_false_iff]
    exact padded_ne_nil width n
  simp only [number, takeWhile_take_padded hmost hend, hsome, Bool.false_eq_true, if_false,
    digitsValue_padded, List.drop_left]

/-- A number in a range of two digits is read up to the text after it. -/
theorem twoDigits_padded {least most n : Nat} (hleast : least ≤ n) (hmost : n ≤ most)
    (htwo : most < 100) (rest : List Char) :
    twoDigits least most (padded 2 n ++ rest) = some (n, rest) := by
  have hlength : (padded 2 n).length = 2 := length_padded (by decide) (show n < 100 by omega)
  rw [twoDigits, trimStart_padded, number_padded (by omega) (.inl hlength)]
  simp only [Option.bind_some, hleast, hmost, decide_true, Bool.and_self, if_true]

/-- A separator is read where it stands. -/
theorem separator_cons {c : Char} (h : Text.isBlank c = false) (rest : List Char) :
    separator c (c :: rest) = some rest := by
  rw [separator, Text.trimStart_cons h]
  simp only [beq_self_eq_true, if_true]

/-! ## Dates -/

/-- A year is read up to the separator after it, with its sign or without one. -/
theorem year_yearText (y : Int) (rest : List Char) :
    year (yearText y ++ '-' :: rest) = some (y, '-' :: rest) := by
  have hdash : ∀ c ∈ ('-' :: rest).head?, c.isDigit = false := by
    rintro c ⟨⟩
    rfl
  have hlong : ∀ n, longNumber (padded 4 n ++ '-' :: rest) = some (n, '-' :: rest) := fun n =>
    number_padded (by simp) (.inr hdash)
  unfold yearText
  split
  · rename_i hfour
    have hbounds : 0 ≤ y ∧ y ≤ 9999 := by simpa using hfour
    have hlength : (padded 4 y.toNat).length = 4 :=
      length_padded (by decide) (show y.toNat < 10000 by omega)
    unfold year
    rw [trimStart_padded]
    split
    · -- no number begins with a sign
      rename_i hsign
      exact absurd (isDigit_of_padded_append hsign) (by decide)
    · rename_i hsign
      exact absurd (isDigit_of_padded_append hsign) (by decide)
    · rw [number_padded (by omega) (.inl hlength)]
      simp only [Option.map_some, Int.toNat_of_nonneg hbounds.1]
  · rename_i hfour
    split
    · have hsign : year ('-' :: (padded 4 y.natAbs ++ '-' :: rest)) =
          (longNumber (padded 4 y.natAbs ++ '-' :: rest)).map fun p => (-(p.1 : Int), p.2) :=
        rfl
      have hy : -(y.natAbs : Int) = y := by omega
      rw [List.cons_append, hsign, hlong]
      simp only [Option.map_some, hy]
    · have hsign : year ('+' :: (padded 4 y.natAbs ++ '-' :: rest)) =
          (longNumber (padded 4 y.natAbs ++ '-' :: rest)).map fun p => ((p.1 : Int), p.2) :=
        rfl
      have hy : (y.natAbs : Int) = y := by omega
      rw [List.cons_append, hsign, hlong]
      simp only [Option.map_some, hy]

/-- A date is read up to the text after it. -/
theorem date_text (d : Calendar.Date) (hmonth : 1 ≤ d.month ∧ d.month ≤ 12)
    (hday : 1 ≤ d.day ∧ d.day ≤ 31) (rest : List Char) :
    date (yearText d.year ++ '-' :: (padded 2 d.month.toNat ++
      '-' :: (padded 2 d.day.toNat ++ rest))) = some (d, rest) := by
  have hm : (d.month.toNat : Int) = d.month := by omega
  have hd : (d.day.toNat : Int) = d.day := by omega
  have hmonths := twoDigits_padded (show 1 ≤ d.month.toNat by omega)
    (show d.month.toNat ≤ 12 by omega) (by decide)
  have hdays := twoDigits_padded (show 1 ≤ d.day.toNat by omega)
    (show d.day.toNat ≤ 31 by omega) (by decide)
  simp only [date, year_yearText, separator_cons (c := '-') rfl, hmonths, hdays, hm, hd,
    Option.bind_eq_bind, Option.bind_some, Option.pure_def]

/-! ## Times of day -/

/-- The digits of a fraction are read up to the text after them, and say how many nanoseconds. -/
theorem fraction_padded {width n : Nat} (hwidth : 0 < width) (hnine : width ≤ 9)
    (h : n < Nat.pow 10 width) (rest : List Char) :
    fraction ('.' :: (padded width n ++ 'Z' :: rest)) =
      some (n * Nat.pow 10 (9 - width), 'Z' :: rest) := by
  have hlength := length_padded hwidth h
  have hend : ∀ c ∈ ('Z' :: rest).head?, c.isDigit = false := by
    rintro c ⟨⟩
    rfl
  have hsome : (padded width n).isEmpty = false := by
    rw [List.isEmpty_eq_false_iff]
    exact padded_ne_nil width n
  simp only [fraction, takeWhile_take_padded (hlength ▸ hnine) (.inr hend), hsome,
    Bool.false_eq_true, if_false, digitsValue_padded, hlength, List.drop_left' hlength]
  rfl

/-- **A fraction of a second is read up to the text after it**, in each of its lengths. -/
theorem fraction_fractionText {nanos : Nat} (h : nanos < nanosPerSecond) (rest : List Char) :
    fraction (fractionText nanos ++ 'Z' :: rest) = some (nanos, 'Z' :: rest) := by
  unfold nanosPerSecond at h
  unfold fractionText
  split
  · rename_i hzero
    rw [eq_of_beq hzero]
    rfl
  · split
    · rename_i hmilli
      have hexact : nanos / 1000000 * Nat.pow 10 (9 - 3) = nanos :=
        Nat.div_mul_cancel (Nat.dvd_of_mod_eq_zero (eq_of_beq hmilli))
      have hlt : nanos / 1000000 < 1000 := by omega
      rw [List.cons_append, fraction_padded (by decide) (by decide) hlt, hexact]
    · split
      · rename_i hmicro
        have hexact : nanos / 1000 * Nat.pow 10 (9 - 6) = nanos :=
          Nat.div_mul_cancel (Nat.dvd_of_mod_eq_zero (eq_of_beq hmicro))
        have hlt : nanos / 1000 < 1000000 := by omega
        rw [List.cons_append, fraction_padded (by decide) (by decide) hlt, hexact]
      · rw [List.cons_append, fraction_padded (by decide) (by decide) h]
        exact congrArg (fun n => some (n, 'Z' :: rest)) (Nat.mul_one nanos)

/-- A time of day is read up to the text after it. -/
theorem clock_text {hour minute second nanos : Nat} (hhour : hour ≤ 23) (hminute : minute ≤ 59)
    (hsecond : second ≤ 59) (hnanos : nanos < nanosPerSecond) (rest : List Char) :
    clock (padded 2 hour ++ ':' :: (padded 2 minute ++
      ':' :: (padded 2 second ++ (fractionText nanos ++ 'Z' :: rest)))) =
        some ((hour * 3600 + minute * 60 + second, nanos), 'Z' :: rest) := by
  have hhours := twoDigits_padded (Nat.zero_le hour) hhour (by decide)
  have hminutes := twoDigits_padded (Nat.zero_le minute) hminute (by decide)
  have hseconds := twoDigits_padded (Nat.zero_le second) (Nat.le_succ_of_le hsecond) (by decide)
  have hleap : second / 60 = 0 := Nat.div_eq_of_lt (by omega)
  simp only [clock, separator_cons (c := ':') rfl, hhours, hminutes, hseconds,
    fraction_fractionText hnanos, hleap, Option.bind_eq_bind, Option.bind_some, Option.pure_def,
    Nat.sub_zero, Nat.zero_mul, Nat.add_zero]

/-! ## Points in time -/

/-- A point in time lies in a day that can be used. -/
theorem day_bounds (t : Timestamp) : Calendar.firstDay ≤ t.day ∧ t.day ≤ Calendar.lastDay := by
  have hfirst : Calendar.firstDay = -96465292 := by decide
  have hlast : Calendar.lastDay = 95026236 := by decide
  have h1 := t.first_le
  have h2 := t.le_last
  rw [hfirst, hlast, Timestamp.day, secondsPerDay]
  omega

/-- **A point in time is read from its text.** -/
theorem read_write {t : Timestamp} (h : t.nanos < nanosPerSecond) : read (write t) = some t := by
  have hbounds := day_bounds t
  obtain ⟨hday, hlength⟩ := Calendar.Date.day_ofDay t.day
  have hdate := date_text (.ofDay t.day) (Calendar.Date.month_ofDay t.day)
    ⟨hday, Int.le_trans hlength (Calendar.Date.monthLength_le _)⟩
  have hleap : t.nanos / nanosPerSecond = 0 := Nat.div_eq_of_lt h
  let second := (t.seconds % secondsPerDay).toNat
  have hsecond : second < 86400 := by
    unfold second secondsPerDay
    omega
  have hclock := clock_text (show second / 3600 ≤ 23 by omega) (show second / 60 % 60 ≤ 59 by omega)
    (show second % 60 ≤ 59 by omega) h
  have hseconds : t.day * secondsPerDay +
      (second / 3600 * 3600 + second / 60 % 60 * 60 + second % 60 : Nat) - 0 = t.seconds := by
    unfold second secondsPerDay Timestamp.day secondsPerDay
    omega
  have hparts : Timestamp.ofParts? t.seconds t.nanos = some t := by
    simp only [Timestamp.ofParts?, t.first_le, t.le_last, t.nanos_lt, dite_true]
  have hoffset : offset (Text.trimStart ['Z']) = some (0, []) := rfl
  have hwrite : write t = yearText (Calendar.Date.ofDay t.day).year ++
      '-' :: (padded 2 (Calendar.Date.ofDay t.day).month.toNat ++
      '-' :: (padded 2 (Calendar.Date.ofDay t.day).day.toNat ++ 'T' ::
        (padded 2 (second / 3600) ++ ':' :: (padded 2 (second / 60 % 60) ++
          ':' :: (padded 2 (second % 60) ++ (fractionText t.nanos ++ ['Z'])))))) := by
    simp only [write, hleap, Nat.mod_eq_of_lt h, Nat.add_zero, List.append_assoc, List.cons_append,
      second]
  simp only [read, hwrite, hdate, hclock, hoffset, Calendar.Date.toDay?_ofDay hbounds.1 hbounds.2,
    Option.bind_eq_bind, Option.bind_some, Text.isBlankText, List.all_nil, if_true, hseconds,
    hparts]

end CandleFeed.Rfc3339
