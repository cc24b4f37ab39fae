import CandleFeed.Json.Printer
import CandleFeed.Json.Reader
import CandleFeed.Proofs.Wire.Length

/-!
# Numbers that read back

**`NumberText.Reads`** says that a text is a number and what it denotes, character by character.
The digits of a whole number that 64 bits hold read as that number (`reads_intText`).  For a
floating-point value the digits are the fewest that tell it from its neighbours, but reading them
rounds twice and may end beside it; **`Json.Kept`** is a value that its own text reads back to.
-/

namespace CandleFeed.Json

namespace NumberText

/-- The number with more characters, if it can go on with them. -/
def pushAll (t : NumberText) (cs : List Char) : Option NumberText := cs.foldlM push? t

/-- A text is a number and denotes a value. -/
def Reads (cs : List Char) (v : Json) : Prop :=
  ∃ c rest t t', cs = c :: rest ∧ start? c = some t ∧ t.pushAll rest = some t' ∧
    t'.finish? = some v

end NumberText

open NumberText

/-! ## Characters -/

/-- A character of a number. -/
def isNumeric (c : Char) : Bool := c.isDigit || c == '-' || c == '+' || c == '.' || c == 'e'

/-- Such a character is no gap. -/
theorem isGap_of_isNumeric {c : Char} (h : isNumeric c = true) : isGap c = false := by
  unfold isGap
  simp only [Bool.or_eq_false_iff, beq_eq_false_iff_ne]
  refine ⟨⟨⟨?_, ?_⟩, ?_⟩, ?_⟩ <;> rintro rfl <;> exact absurd h (by decide)

/-- A value that begins with such a character is a number. -/
theorem beginValue_of_isNumeric (r : Reading) {c : Char} (h : isNumeric c = true) :
    r.beginValue c = (start? c).map fun t => { r with expected := .number t } := by
  unfold Reading.beginValue
  split <;> first | rfl | exact absurd h (by decide)

/-- A number begins with such a character. -/
theorem isNumeric_of_start? {c : Char} {t : NumberText} (h : start? c = some t) :
    isNumeric c = true := by
  unfold start? at h
  split at h
  · rename_i hminus
    rw [eq_of_beq hminus]
    rfl
  · split at h
    · rename_i hzero
      rw [eq_of_beq hzero]
      rfl
    · split at h
      · rename_i hdigit
        simp only [isNumeric, hdigit, Bool.true_or]
      · exact absurd h (by simp)

/-- What follows a value inside an array or an object. -/
def isDelimiter (c : Char) : Bool := c == ',' || c == ']' || c == '\x7d'

/-- No number goes on with a delimiter. -/
theorem push?_of_isDelimiter (t : NumberText) {c : Char} (h : isDelimiter c = true) :
    t.push? c = none := by
  have hcases : c = ',' ∨ c = ']' ∨ c = '\x7d' := by
    simpa [isDelimiter, or_assoc] using h
  unfold push?
  rcases hcases with rfl | rfl | rfl <;> cases t.part <;> rfl

/-! ## Reading a number -/

namespace Reading

/-- A value may come. -/
def AwaitsValue (r : Reading) : Prop := r.expected = .value ∨ r.expected = .itemOrEnd

/-- A value begins with a character that is no gap and ends no array. -/
theorem AwaitsValue.step {r : Reading} (h : r.AwaitsValue) {c : Char} (hgap : isGap c = false)
    (hend : c ≠ ']') : r.step c = r.beginValue c := by
  unfold Reading.step
  rcases h with h | h
  all_goals rw [h]
  · simp only [hgap, Bool.false_eq_true, if_false]
  · simp only [hgap, Bool.false_eq_true, if_false, beq_iff_eq, hend]

/-- A number begins with its first character. -/
theorem AwaitsValue.step_number {r : Reading} (h : r.AwaitsValue) {c : Char} {t : NumberText}
    (hstart : start? c = some t) : r.step c = some { r with expected := .number t } := by
  have hnumeric := isNumeric_of_start? hstart
  have hend : c ≠ ']' := by
    rintro rfl
    exact absurd hnumeric (by decide)
  rw [h.step (isGap_of_isNumeric hnumeric) hend, beginValue_of_isNumeric r hnumeric, hstart]
  rfl

/-- A number goes on. -/
theorem run_pushAll (r : Reading) {t t' : NumberText} {cs : List Char}
    (h : t.pushAll cs = some t') (rest : List Char) :
    ({ r with expected := .number t } : Reading).run (cs ++ rest) =
      ({ r with expected := .number t' } : Reading).run rest := by
  induction cs generalizing t with
  | nil =>
    cases h
    rfl
  | cons c cs ih =>
    obtain ⟨t'', hpush, hrest⟩ := Option.bind_eq_some_iff.mp h
    rw [List.cons_append, run]
    have hstep : ({ r with expected := .number t } : Reading).step c =
        some { r with expected := .number t'' } := by
      simp only [step, hpush]
    rw [hstep]
    exact ih hrest

/-- What had to come does not matter to a value that is complete. -/
@[simp] theorem put_of_expected (r : Reading) (e : Expected) (v : Json) :
    ({ r with expected := e } : Reading).put v = r.put v := by
  obtain ⟨_, containers, _⟩ := r
  cases containers with
  | nil => rfl
  | cons k rest => cases k <;> rfl

/-- After a value that is complete, the text goes on. -/
@[simp] theorem expected_put (r : Reading) (v : Json) : (r.put v).expected = .next := by
  obtain ⟨_, containers, _⟩ := r
  cases containers with
  | nil => rfl
  | cons k rest => cases k <;> rfl

/-- **A number is read where a value may come, and a delimiter ends it.** -/
theorem AwaitsValue.run_reads {r : Reading} (h : r.AwaitsValue) {cs : List Char} {v : Json}
    (hreads : Reads cs v) {c : Char} (hc : isDelimiter c = true) (rest : List Char) :
    r.run (cs ++ c :: rest) = (r.put v).run (c :: rest) := by
  obtain ⟨d, ds, t, t', rfl, hstart, hall, hfinish⟩ := hreads
  have hlast : ({ r with expected := .number t' } : Reading).step c = (r.put v).step c := by
    have hnumber : ({ r with expected := .number t' } : Reading).step c =
        (({ r with expected := .number t' } : Reading).put v).afterValue c := by
      simp only [Reading.step, push?_of_isDelimiter t' hc, hfinish, Option.bind_some]
    have hnext : (r.put v).step c = (r.put v).afterValue c := by
      unfold Reading.step
      rw [expected_put]
    rw [hnumber, put_of_expected, hnext]
  rw [List.cons_append, run, h.step_number hstart, Option.bind_some, run_pushAll r hall, run, hlast]
  rfl

end Reading

/-! ## Whole numbers -/

/-- More digits never make a number smaller. -/
theorem le_ofDigitChars (ds : List Char) (n : Nat) : n ≤ Nat.ofDigitChars 10 ds n := by
  induction ds generalizing n with
  | nil => exact Nat.le_refl n
  | cons d ds ih =>
    rw [Nat.ofDigitChars_cons]
    exact Nat.le_trans (by omega) (ih _)

/-- Digits that 64 bits have room for are kept, all of them. -/
theorem pushAll_digits {t : NumberText} {ds : List Char} (hds : ∀ d ∈ ds, d.isDigit = true)
    (hpart : t.part = .whole) (hfull : t.digits.full = false)
    (hroom : Nat.ofDigitChars 10 ds t.digits.significand < Nat.pow 2 64) :
    t.pushAll ds = some { t with digits :=
      { t.digits with significand := Nat.ofDigitChars 10 ds t.digits.significand } } := by
  induction ds generalizing t with
  | nil => rfl
  | cons d ds ih =>
    have hd : d.isDigit = true := hds d List.mem_cons_self
    rw [Nat.ofDigitChars_cons] at hroom ⊢
    have hvalue : 10 * t.digits.significand + (d.toNat - '0'.toNat) =
        t.digits.significand * 10 + (d.toNat - 48) := by rw [Nat.mul_comm]; rfl
    rw [hvalue] at hroom ⊢
    -- later digits only make the number larger
    have hlt : t.digits.significand * 10 + (d.toNat - 48) < Nat.pow 2 64 :=
      Nat.lt_of_le_of_lt (le_ofDigitChars ds _) hroom
    have hpush : t.push? d = some { t with digits :=
        { t.digits with significand := t.digits.significand * 10 + (d.toNat - 48) } } := by
      simp only [push?, hpart, hd, if_true, Digits.push, Digits.hasRoom, hfull, Bool.not_false,
        Bool.true_and, hlt, decide_true]
    unfold pushAll
    rw [List.foldlM_cons, hpush]
    exact ih (fun d' hd' => hds d' (List.mem_cons_of_mem _ hd')) hpart hfull hroom

/-- The digits of a positive number begin with one that is not zero, and denote it. -/
theorem natText_cons {m : Nat} (h : 0 < m) : ∃ d ds, natText m = d :: ds ∧ d ≠ '0' ∧
    d.isDigit = true ∧ (∀ d' ∈ ds, d'.isDigit = true) ∧
      Nat.ofDigitChars 10 ds (d.toNat - 48) = m := by
  have hdigits : ∀ d ∈ natText m, d.isDigit = true := fun d hd =>
    Frame.isDigit_of_mem_lengthDigits hd
  have hvalue : Nat.ofDigitChars 10 (natText m) 0 = m := Nat.ofDigitChars_ten_toDigits
  cases htext : natText m with
  | nil => exact absurd htext Nat.toDigits_ne_nil
  | cons d ds =>
    rw [htext] at hdigits hvalue
    rw [Nat.ofDigitChars_cons, Nat.mul_zero, Nat.zero_add] at hvalue
    refine ⟨d, ds, rfl, ?_, hdigits d List.mem_cons_self,
      fun d' hd' => hdigits d' (List.mem_cons_of_mem _ hd'), hvalue⟩
    rintro rfl
    cases ds with
    | nil => exact absurd hvalue (Nat.ne_of_lt h)
    | cons d' ds' =>
      refine Frame.lengthDigits_head (n := m) ?_ ?_
      · change 1 < (natText m).length
        rw [htext]
        exact Nat.succ_lt_succ (Nat.succ_pos _)
      · change (natText m).head? = _
        rw [htext]
        rfl

/-- The digits of a positive number for which 64 bits have room, after the first of them. -/
theorem pushAll_natText (negative : Bool) {m : Nat} (hpos : 0 < m) (hroom : m < Nat.pow 2 64) :
    ∃ d ds, natText m = d :: ds ∧ d ≠ '0' ∧ d.isDigit = true ∧
      pushAll ⟨negative, Digits.none.push (d.toNat - 48), false, 0, .whole⟩ ds =
        some ⟨negative, ⟨m, 0, false⟩, false, 0, .whole⟩ := by
  obtain ⟨d, ds, htext, hzero, hd, hds, hvalue⟩ := natText_cons hpos
  have hfirst : Digits.none.push (d.toNat - 48) = ⟨d.toNat - 48, 0, false⟩ := by
    have hlt : d.toNat - 48 < Nat.pow 2 64 :=
      Nat.lt_of_lt_of_le (Frame.digit_lt hd) (by decide : 10 ≤ Nat.pow 2 64)
    simp only [Digits.push, Digits.hasRoom, Digits.none, Bool.not_false, Bool.true_and,
      Nat.zero_mul, Nat.zero_add, hlt, decide_true, if_true]
  refine ⟨d, ds, htext, hzero, hd, ?_⟩
  rw [hfirst, pushAll_digits hds rfl rfl (hvalue ▸ hroom)]
  simp only [hvalue]

/-- A number of digits without point and exponent that 64 bits hold is a whole number. -/
theorem finish?_whole {negative : Bool} {m : Nat} (hpos : 0 < m)
    (h : holds64 (if negative then -(m : Int) else m) = true) :
    finish? ⟨negative, ⟨m, 0, false⟩, false, 0, .whole⟩ =
      some (.int (if negative then -(m : Int) else m)) := by
  have hzero : (m == 0) = false := beq_eq_false_iff_ne.mpr (Nat.ne_of_gt hpos)
  simp only [finish?, hzero, Bool.and_false, Bool.false_eq_true, if_false, Bool.not_false,
    Bool.true_and, h, if_true]

/-- **The digits of a whole number that 64 bits hold denote it.** -/
theorem reads_intText {n : Int} (h : holds64 n = true) : Reads (intText n) (.int n) := by
  have hbounds : -(Nat.pow 2 63 : Nat) ≤ n ∧ n < (Nat.pow 2 64 : Nat) := by
    simpa [holds64] using h
  have hhalf : Nat.pow 2 63 < Nat.pow 2 64 := by decide
  rcases Int.lt_trichotomy n 0 with hneg | rfl | hpos
  · obtain ⟨d, ds, htext, hzero, hd, hall⟩ :=
      pushAll_natText true (m := n.natAbs) (by omega) (by omega)
    have hn : (if true then -(n.natAbs : Int) else n.natAbs) = n := by
      rw [if_pos rfl]
      omega
    have hpush : push? ⟨true, .none, false, 0, .sign⟩ d =
        some ⟨true, Digits.none.push (d.toNat - 48), false, 0, .whole⟩ := by
      simp only [push?, beq_iff_eq, hzero, if_false, hd, if_true]
    refine ⟨'-', d :: ds, ⟨true, .none, false, 0, .sign⟩,
      ⟨true, ⟨n.natAbs, 0, false⟩, false, 0, .whole⟩, ?_, rfl, ?_, ?_⟩
    · rw [intText, if_pos hneg, htext]
    · rw [pushAll, List.foldlM_cons, hpush]
      exact hall
    · rw [finish?_whole (by omega) (hn.symm ▸ h), hn]
  · exact ⟨'0', [], _, _, rfl, rfl, rfl, rfl⟩
  · obtain ⟨d, ds, htext, hzero, hd, hall⟩ :=
      pushAll_natText false (m := n.natAbs) (by omega) (by omega)
    have hn : (if false then -(n.natAbs : Int) else n.natAbs) = n := by
      simp only [Bool.false_eq_true, if_false]
      omega
    have hstart : start? d = some ⟨false, Digits.none.push (d.toNat - 48), false, 0, .whole⟩ := by
      have hminus : d ≠ '-' := by
        rintro rfl
        exact absurd hd (by decide)
      simp only [start?, beq_iff_eq, hminus, hzero, if_false, hd, if_true]
    refine ⟨d, ds, _, ⟨false, ⟨n.natAbs, 0, false⟩, false, 0, .whole⟩, ?_, hstart, hall, ?_⟩
    · rw [intText, if_neg (by omega), htext]
    · rw [finish?_whole (by omega) (hn.symm ▸ h), hn]

/-! ## Floating-point values -/

/-- A value that its own text reads back to. -/
def Kept (x : Float) : Prop := x.isFinite = true ∧ read (render (.float x)) = some (.float x)

/-- A value's own text reads back to it. -/
def rereads (x : Float) : Bool :=
  match read (render (.float x)) with
  | some (.float y) => decide (y = x)
  | _ => false

theorem rereads_iff (x : Float) :
    rereads x = true ↔ read (render (.float x)) = some (.float x) := by
  unfold rereads
  split
  · rename_i y hread
    rw [hread, decide_eq_true_iff]
    exact ⟨fun h => h ▸ rfl, fun h => Json.float.inj (Option.some.inj h)⟩
  · rename_i hnot
    exact ⟨nofun, fun hread => absurd hread (hnot x)⟩

instance (x : Float) : Decidable (Kept x) :=
  decidable_of_iff (x.isFinite = true ∧ rereads x = true) (and_congr_right fun _ => rereads_iff x)

/-- Seventeen digits may read back to a neighbour. -/
example : ¬Kept 1.4128383188295117 := by decide +kernel

end CandleFeed.Json
