import Mathlib

/-!
# Floating-point values as whole numbers of steps

A finite value is a whole number of the smallest steps, of which 2^1074 make up one: **`steps`**.
That number tells the value, up to the sign of zero (**`eq_of_steps_eq`**).

Adding values rounds, and so a sum may depend on the order of its terms.  It does not where none of
the partial sums has been rounded: **`ExactFrom`** says so of the sums of a list, and
**`foldl_add_of_perm`** that all orders with exact partial sums have one sum.
-/

namespace CandleFeed

open Float.Model Float.Model.UnpackedFloat

/-! ## Unpacked values -/

/-- A value is told by what it is unpacked to. -/
theorem eq_of_unpack_eq {x y : Float} (h : x.toModel.unpack = y.toModel.unpack) : x = y := by
  have hbits := (unpack_inj_of_valid x.toModel.valid y.toModel.valid).mp h
  exact Float.toBits_inj.mp (UInt64.toBitVec_inj.mp hbits)

/-- A zero that is not the negative one has the sign of positive values. -/
theorem positive_of_zero {x : Float} {s : Sign} (h : x.toModel.unpack = .zero s) (hne : x ≠ -0) :
    s = .positive := by
  cases s with
  | positive => rfl
  | negative => exact absurd (eq_of_unpack_eq (y := -0) h) hne

/-- A finite value is a zero, or has a mantissa and an exponent. -/
theorem unpack_of_isFinite {x : Float} (h : x.isFinite = true) :
    (∃ s, x.toModel.unpack = .zero s) ∨ ∃ s m e hm, x.toModel.unpack = .finite s m e hm := by
  have h' : x.toModel.unpack.isFinite = true := h
  cases hx : x.toModel.unpack with
  | notANumber => rw [hx] at h'; exact absurd h' Bool.false_ne_true
  | infinity s => rw [hx] at h'; exact absurd h' Bool.false_ne_true
  | zero s => exact Or.inl ⟨s, rfl⟩
  | finite s m e hm => exact Or.inr ⟨s, m, e, hm, rfl⟩

/-- Mantissas have 53 digits, fewer only with the smallest exponent. -/
theorem canonical_of_unpack {b : BitVec Format.binary64.numBits} {s : Sign} {m : ℕ} {e : ℤ}
    {hm : 0 < m} (h : UnpackedFloat.unpack Format.binary64 b = .finite s m e hm) :
    m < 2 ^ 53 ∧ -1074 ≤ e ∧ (2 ^ 52 ≤ m ∨ e = -1074) := by
  unfold UnpackedFloat.unpack at h
  dsimp only at h
  have hlt : (unpackMantissa b).toNat < 2 ^ 52 := BitVec.isLt _
  split at h
  · split at h <;> cases h
  · split at h
    · rename_i hexponent
      split at h
      · cases h
      · obtain ⟨-, hmantissa, he⟩ := UnpackedFloat.finite.inj h
        rw [hexponent] at he
        change (0 : ℤ) - (1023 + 52) + 1 = e at he
        omega
    · rename_i hexponent
      obtain ⟨-, hmantissa, he⟩ := UnpackedFloat.finite.inj h
      rw [BitVec.toNat_append, ← Nat.shiftLeft_add_eq_or_of_lt (BitVec.isLt _)] at hmantissa
      change 2 ^ 52 + (unpackMantissa b).toNat = m at hmantissa
      have hpos : 0 < (unpackExponent b).toNat :=
        Nat.pos_of_ne_zero fun hzero => hexponent (BitVec.eq_of_toNat_eq hzero)
      change ((unpackExponent b).toNat : ℤ) - (1023 + 52) = e at he
      omega

/-! ## Steps -/

/-- How many steps an unpacked value is. -/
def stepsOf : UnpackedFloat → ℤ
  | .finite s m e _ => s.apply (m * 2 ^ (e + 1074).toNat : ℕ)
  | _ => 0

/-- **How many steps** a value is, of which 2^1074 make up one; none if it is not finite. -/
def steps (x : Float) : ℤ := stepsOf x.toModel.unpack

theorem steps_of_zero {x : Float} {s : Sign} (h : x.toModel.unpack = .zero s) : steps x = 0 := by
  unfold steps
  rw [h]
  rfl

theorem steps_of_finite {x : Float} {s : Sign} {m : ℕ} {e : ℤ} {hm : 0 < m}
    (h : x.toModel.unpack = .finite s m e hm) :
    steps x = s.apply (m * 2 ^ (e + 1074).toNat : ℕ) := by
  unfold steps
  rw [h]
  rfl

/-- A sign is taken out of a product. -/
theorem signed_mul (s : Sign) (n k : ℤ) : s.apply (n * k) = s.apply n * k := by
  cases s with
  | positive => rfl
  | negative => exact (Int.neg_mul n k).symm

/-- A sign keeps what is not zero. -/
theorem signed_ne_zero (s : Sign) {n : ℕ} (h : 0 < n) : s.apply n ≠ 0 := by
  cases s <;> simp only [Sign.apply] <;> omega

/-- Signed values are the same only with one sign and one magnitude. -/
theorem signed_inj {s s' : Sign} {n n' : ℕ} (hn : 0 < n) (hn' : 0 < n')
    (h : s.apply n = s'.apply n') : s = s' ∧ n = n' := by
  cases s <;> cases s' <;> simp only [Sign.apply] at h
  · exact ⟨rfl, by omega⟩
  · omega
  · omega
  · exact ⟨rfl, by omega⟩

/-- Only a zero has no steps. -/
theorem steps_ne_zero {x : Float} {s : Sign} {m : ℕ} {e : ℤ} {hm : 0 < m}
    (h : x.toModel.unpack = .finite s m e hm) : steps x ≠ 0 := by
  rw [steps_of_finite h]
  exact signed_ne_zero s (Nat.mul_pos hm (Nat.two_pow_pos _))

/-- A number of steps has one mantissa and one exponent. -/
theorem mantissa_unique {m m' a b : ℕ} (hm : m < 2 ^ 53) (hm' : m' < 2 ^ 53)
    (ha : 2 ^ 52 ≤ m ∨ a = 0) (hb : 2 ^ 52 ≤ m' ∨ b = 0) (h : m * 2 ^ a = m' * 2 ^ b) :
    m = m' ∧ a = b := by
  wlog hle : a ≤ b generalizing m m' a b
  · obtain ⟨hmantissa, hexponent⟩ := this hm' hm hb ha h.symm (by omega)
    exact ⟨hmantissa.symm, hexponent.symm⟩
  obtain ⟨k, rfl⟩ := Nat.exists_eq_add_of_le hle
  rw [Nat.pow_add, Nat.mul_comm (2 ^ a), ← Nat.mul_assoc] at h
  have hshift : m = m' * 2 ^ k := Nat.eq_of_mul_eq_mul_right (Nat.two_pow_pos a) h
  cases k with
  | zero => exact ⟨by simpa using hshift, rfl⟩
  | succ k =>
    -- the larger exponent is not the smallest one, so its mantissa has all digits
    have hfull : 2 ^ 52 ≤ m' := hb.resolve_right (by omega)
    have htwo : 2 ≤ 2 ^ (k + 1) := Nat.le_self_pow (by omega) 2
    have hdouble := Nat.mul_le_mul hfull htwo
    omega

/-- **The number of steps tells a finite value**, up to the sign of zero. -/
theorem eq_of_steps_eq {x y : Float} (hx : x.isFinite = true) (hy : y.isFinite = true)
    (hnx : x ≠ -0) (hny : y ≠ -0) (h : steps x = steps y) : x = y := by
  refine eq_of_unpack_eq ?_
  obtain ⟨s, hu⟩ | ⟨s, m, e, hm, hu⟩ := unpack_of_isFinite hx <;>
    obtain ⟨s', hv⟩ | ⟨s', m', e', hm', hv⟩ := unpack_of_isFinite hy
  · rw [hu, hv, positive_of_zero hu hnx, positive_of_zero hv hny]
  · exact absurd (h.symm.trans (steps_of_zero hu)) (steps_ne_zero hv)
  · exact absurd (h.trans (steps_of_zero hv)) (steps_ne_zero hu)
  · rw [steps_of_finite hu, steps_of_finite hv] at h
    obtain ⟨rfl, hmagnitude⟩ := signed_inj (Nat.mul_pos hm (Nat.two_pow_pos _))
      (Nat.mul_pos hm' (Nat.two_pow_pos _)) h
    obtain ⟨hlt, hle, hfull⟩ := canonical_of_unpack hu
    obtain ⟨hlt', hle', hfull'⟩ := canonical_of_unpack hv
    obtain ⟨rfl, hexponent⟩ := mantissa_unique hlt hlt' (by omega) (by omega) hmagnitude
    obtain rfl : e = e' := by omega
    rw [hu, hv]

/-! ## Exact sums -/

/-- Two values that are equally many steps apart from zero, on different sides, add up to zero with
the sign of positive values. -/
theorem add_eq_zero {s s' : Sign} {m m' : ℕ} {e e' : ℤ} {hm : 0 < m} {hm' : 0 < m'}
    (he : -1074 ≤ e) (he' : -1074 ≤ e')
    (h : s.apply (m * 2 ^ (e + 1074).toNat : ℕ) +
      s'.apply (m' * 2 ^ (e' + 1074).toNat : ℕ) = 0) :
    UnpackedFloat.add Format.binary64 (.finite s m e hm) (.finite s' m' e' hm') =
      .zero .positive := by
  have hshift : ∀ {n : ℕ} {q : ℤ}, -1074 ≤ q → min e e' ≤ q →
      n * 2 ^ (q + 1074).toNat =
        (n <<< (q - min e e').toNat) * 2 ^ (min e e' + 1074).toNat := by
    intro n q hq hmin
    rw [Nat.shiftLeft_eq, Nat.mul_assoc, ← Nat.pow_add]
    congr 2
    omega
  rw [hshift he (Int.min_le_left e e'), hshift he' (Int.min_le_right e e'), Int.natCast_mul,
    Int.natCast_mul, signed_mul, signed_mul, ← Int.add_mul] at h
  have hunit : ((2 ^ (min e e' + 1074).toNat : ℕ) : ℤ) ≠ 0 :=
    Int.natCast_ne_zero.mpr (Nat.two_pow_pos _).ne'
  have hzero := (Int.mul_eq_zero.mp h).resolve_right hunit
  have hadd : UnpackedFloat.add Format.binary64 (.finite s m e hm) (.finite s' m' e' hm') =
      UnpackedFloat.normalize Format.binary64 (s.apply (m <<< (e - min e e').toNat : ℕ) +
        s'.apply (m' <<< (e' - min e e').toNat : ℕ)) (min e e') .positive := rfl
  rw [hadd, hzero]
  rfl

/-- A sum that has not been rounded is no negative zero unless its first term is one. -/
theorem add_ne_negZero {x y : Float} (hx : x.isFinite = true) (hy : y.isFinite = true)
    (hexact : steps (x + y) = steps x + steps y) (hnx : x ≠ -0) : x + y ≠ -0 := by
  intro hneg
  rw [hneg, steps_of_zero (x := -0) (s := .negative) rfl] at hexact
  have hadd : UnpackedFloat.add Format.binary64 x.toModel.unpack y.toModel.unpack =
      .zero .positive := by
    obtain ⟨s, hu⟩ | ⟨s, m, e, hm, hu⟩ := unpack_of_isFinite hx <;>
      obtain ⟨s', hv⟩ | ⟨s', m', e', hm', hv⟩ := unpack_of_isFinite hy
    · rw [hu, hv, positive_of_zero hu hnx]
      cases s' <;> rfl
    · rw [steps_of_zero hu, Int.zero_add] at hexact
      exact absurd hexact.symm (steps_ne_zero hv)
    · rw [steps_of_zero hv, Int.add_zero] at hexact
      exact absurd hexact.symm (steps_ne_zero hu)
    · rw [steps_of_finite hu, steps_of_finite hv] at hexact
      rw [hu, hv]
      exact add_eq_zero (canonical_of_unpack hu).2.1 (canonical_of_unpack hv).2.1 hexact.symm
  have hsum : x + y = ⟨Float.Model.pack (UnpackedFloat.add Format.binary64
      x.toModel.unpack y.toModel.unpack)⟩ := rfl
  rw [hsum, hadd] at hneg
  exact absurd hneg (by decide)

/-- Every partial sum of a list, beginning with a value, is finite and has not been rounded. -/
def ExactFrom : Float → List Float → Prop
  | _, [] => True
  | x, y :: ys => y.isFinite = true ∧ (x + y).isFinite = true ∧ steps (x + y) = steps x + steps y ∧
      ExactFrom (x + y) ys

/-- Adding up shows whether the partial sums are exact. -/
instance decidableExactFrom : (x : Float) → (ys : List Float) → Decidable (ExactFrom x ys)
  | _, [] => .isTrue trivial
  | x, y :: ys =>
    have := decidableExactFrom (x + y) ys
    inferInstanceAs (Decidable (y.isFinite = true ∧ (x + y).isFinite = true ∧
      steps (x + y) = steps x + steps y ∧ ExactFrom (x + y) ys))

/-- A sum whose partial sums are exact has as many steps as its terms have together. -/
theorem ExactFrom.foldl {x : Float} {ys : List Float} (h : ExactFrom x ys)
    (hx : x.isFinite = true) (hnx : x ≠ -0) :
    (ys.foldl (· + ·) x).isFinite = true ∧ ys.foldl (· + ·) x ≠ -0 ∧
      steps (ys.foldl (· + ·) x) = steps x + (ys.map steps).sum := by
  induction ys generalizing x with
  | nil => exact ⟨hx, hnx, (Int.add_zero _).symm⟩
  | cons y ys ih =>
    obtain ⟨hy, hsum, hexact, hrest⟩ := h
    obtain ⟨hfinite, hneg, hsteps⟩ := ih hrest hsum (add_ne_negZero hx hy hexact hnx)
    refine ⟨hfinite, hneg, ?_⟩
    rw [List.foldl_cons, hsteps, hexact, List.map_cons, List.sum_cons, Int.add_assoc]

/-- **All orders with exact partial sums have one sum.** -/
theorem foldl_add_of_perm {xs ys : List Float} (h : xs.Perm ys) (hxs : ExactFrom 0 xs)
    (hys : ExactFrom 0 ys) : xs.foldl (· + ·) 0 = ys.foldl (· + ·) 0 := by
  have hzero : (0 : Float) ≠ -0 := by decide
  obtain ⟨hx, hnx, hsteps⟩ := hxs.foldl rfl hzero
  obtain ⟨hy, hny, hsteps'⟩ := hys.foldl rfl hzero
  refine eq_of_steps_eq hx hy hnx hny ?_
  rw [hsteps, hsteps', (h.map steps).sum_eq]

end CandleFeed
