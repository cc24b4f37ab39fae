import Mathlib.Data.List.Basic
import Mathlib.Data.List.Induction
import CandleFeed.Wire.Frame

/-!
# Lengths in decimal

A frame writes the length of its payload with **`Frame.lengthDigits`** and reads it with
**`Frame.readLength`**.  A length has one written form: digits that do not begin with a zero, unless
there is no other digit, are what their value is written as (`lengthDigits_ofDigitChars`).  So
exactly what is written is read, up to the largest payload (`readLength_eq_ok_iff`).
-/

namespace CandleFeed.Frame

/-- A digit is what its value is written as. -/
theorem digitChar_sub {c : Char} (h : c.isDigit = true) : Nat.digitChar (c.toNat - 48) = c := by
  have hbounds := Char.isDigit_iff_toNat.mp h
  have hlow : 48 ≤ c.toNat := hbounds.1
  have hhigh : c.toNat ≤ 57 := hbounds.2
  obtain ⟨k, hk⟩ := Nat.exists_eq_add_of_le hlow
  have hc : c = Char.ofNat (48 + k) := by rw [← hk, Char.ofNat_toNat]
  have hlt : k < 10 := by omega
  rw [hk, Nat.add_sub_cancel_left, hc]
  have hall : ∀ j < 10, Nat.digitChar j = Char.ofNat (48 + j) := by decide
  exact hall k hlt

/-- The value of a digit is less than ten. -/
theorem digit_lt {c : Char} (h : c.isDigit = true) : c.toNat - 48 < 10 := by
  have hhigh : c.toNat ≤ 57 := (Char.isDigit_iff_toNat.mp h).2
  omega

/-- The digits of a length are digits. -/
theorem isDigit_of_mem_lengthDigits {n : Nat} {c : Char} (h : c ∈ lengthDigits n) :
    c.isDigit = true :=
  Nat.isDigit_of_mem_toDigits (by decide) (by decide) h

/-- Digits with another one at their end have ten times their value and that of the other. -/
theorem ofDigitChars_snoc (ds : List Char) (d : Char) :
    Nat.ofDigitChars 10 (ds ++ [d]) 0 = 10 * Nat.ofDigitChars 10 ds 0 + (d.toNat - 48) := by
  rw [Nat.ofDigitChars_append, Nat.ofDigitChars_cons, Nat.ofDigitChars_nil]
  rfl

/-- **A length has one written form**: digits without a zero in front, unless it is alone, are the
digits of their value. -/
theorem lengthDigits_ofDigitChars {ds : List Char} (hne : ds ≠ [])
    (hdigits : ∀ d ∈ ds, d.isDigit = true) (hzero : 1 < ds.length → ds.head? ≠ some '0') :
    lengthDigits (Nat.ofDigitChars 10 ds 0) = ds := by
  unfold lengthDigits
  induction ds using List.reverseRecOn with
  | nil => exact absurd rfl hne
  | append_singleton ds d ih =>
    have hd : d.isDigit = true := hdigits d (by simp)
    rw [ofDigitChars_snoc]
    by_cases hds : ds = []
    · subst hds
      rw [Nat.ofDigitChars_nil, Nat.mul_zero, Nat.zero_add, Nat.toDigits_of_lt_base (digit_lt hd),
        digitChar_sub hd]
      rfl
    · have hdigits' : ∀ d' ∈ ds, d'.isDigit = true := fun d' hd' => hdigits d' (by simp [hd'])
      have hhead : ds.head? ≠ some '0' := by
        have hlong : 1 < (ds ++ [d]).length := by
          have := List.length_pos_iff.mpr hds
          simp only [List.length_append, List.length_singleton]
          omega
        have hsame : (ds ++ [d]).head? = ds.head? := List.head?_append_of_ne_nil ds hds
        rw [← hsame]
        exact hzero hlong
      have hrest := ih hds hdigits' fun _ => hhead
      -- a value of zero would be written with the zero that is not in front
      have hpos : 0 < Nat.ofDigitChars 10 ds 0 := by
        refine Nat.pos_of_ne_zero fun h0 => hhead ?_
        rw [← hrest, h0, Nat.toDigits_zero]
        rfl
      rw [← Nat.toDigits_append_toDigits (by decide) hpos (digit_lt hd), hrest,
        Nat.toDigits_of_lt_base (digit_lt hd), digitChar_sub hd]

/-- Only zero is written with a zero in front. -/
theorem lengthDigits_head {n : Nat} (h : 1 < (lengthDigits n).length) :
    (lengthDigits n).head? ≠ some '0' := by
  unfold lengthDigits at h ⊢
  induction n using Nat.strongRecOn with
  | ind n ih =>
    by_cases hn : n < 10
    · rw [Nat.toDigits_of_lt_base hn] at h
      exact absurd h (by simp)
    · have hle : 10 ≤ n := Nat.le_of_not_lt hn
      rw [Nat.toDigits_of_base_le (by decide) hle,
        List.head?_append_of_ne_nil _ Nat.toDigits_ne_nil]
      by_cases hlong : 1 < (Nat.toDigits 10 (n / 10)).length
      · exact ih (n / 10) (by omega) hlong
      · have hshort : n / 10 < 10 := by
          have hpow := (Nat.length_toDigits_le_iff (k := 1) (by decide) (by decide)).mp
            (Nat.le_of_not_lt hlong)
          omega
        rw [Nat.toDigits_of_lt_base hshort, List.head?_cons]
        intro hzero
        have := Nat.digitChar_eq_zero.mp (Option.some.inj hzero)
        omega

/-- The value that is read off digits. -/
theorem foldl_digits (ds : List Char) (n : Nat) :
    ds.foldl (fun n d => n * 10 + (d.toNat - 48)) n = Nat.ofDigitChars 10 ds n := by
  unfold Nat.ofDigitChars
  congr 1
  funext m d
  rw [Nat.mul_comm]
  rfl

/-- A length within the limit has eight digits at most. -/
theorem length_lengthDigits_le {n : Nat} (h : n ≤ maxBytes) :
    (lengthDigits n).length ≤ maxLengthDigits := by
  have hlt : n < 10 ^ 8 := by
    have : maxBytes < 10 ^ 8 := by decide
    omega
  exact (Nat.length_toDigits_le_iff (by decide) (by decide)).mpr hlt

/-- **Exactly what is written as a length is read as one**, up to the largest payload. -/
theorem readLength_eq_ok_iff {ds : List Char} {n : Nat} :
    readLength ds = .ok n ↔ ds = lengthDigits n ∧ n ≤ maxBytes := by
  constructor
  · intro h
    unfold readLength at h
    split at h
    · rename_i hvalid
      simp only [Bool.and_eq_true, Bool.not_eq_true', List.isEmpty_eq_false_iff,
        List.all_eq_true, Bool.and_eq_false_iff, decide_eq_false_iff_not, beq_eq_false_iff_ne]
        at hvalid
      obtain ⟨⟨⟨hne, -⟩, hdigits⟩, hzero⟩ := hvalid
      have hzero' : 1 < ds.length → ds.head? ≠ some '0' :=
        fun hlong => hzero.resolve_left fun hshort => hshort hlong
      simp only [foldl_digits] at h
      split at h
      · exact absurd h (by simp)
      · rename_i hmax
        obtain rfl := Except.ok.inj h
        exact ⟨(lengthDigits_ofDigitChars hne hdigits hzero').symm, Nat.le_of_not_lt hmax⟩
    · exact absurd h (by simp)
  · rintro ⟨rfl, hmax⟩
    have hvalue : Nat.ofDigitChars 10 (lengthDigits n) 0 = n := Nat.ofDigitChars_ten_toDigits
    have hne : (lengthDigits n).isEmpty = false :=
      List.isEmpty_eq_false_iff.mpr Nat.toDigits_ne_nil
    have hdigits : (lengthDigits n).all Char.isDigit = true :=
      List.all_eq_true.mpr fun c hc => isDigit_of_mem_lengthDigits hc
    have hzero : (1 < (lengthDigits n).length && (lengthDigits n).head? == some '0') = false := by
      rw [Bool.and_eq_false_iff]
      by_cases hlong : 1 < (lengthDigits n).length
      · exact Or.inr (beq_eq_false_iff_ne.mpr (lengthDigits_head hlong))
      · exact Or.inl (decide_eq_false hlong)
    unfold readLength
    rw [hne, hdigits, hzero, foldl_digits, hvalue, if_neg (Nat.not_lt.mpr hmax)]
    simp [length_lengthDigits_le hmax]

end CandleFeed.Frame
