import Mathlib.Data.Int.Order.Basic
import Mathlib.Data.Prod.Lex
import Mathlib.Order.Compare
import CandleFeed.Proofs.Aggregation.Segment

/-!
# Running maximum and minimum

The running maximum of a list of values is the running maximum of those of its parts, and the same
holds of the minimum, because `larger` and `smaller` are associative.  That needs no assumption
about the values: one that is not a number is passed over wherever it stands, and of two zeros the
earlier one is kept.  Both are a **`choice`** by an order (`choice_assoc`).

The order of floating-point numbers is that of their **`standing`**: sign and kind first, then
exponent, then mantissa.  Among numbers, a running maximum is a maximum (`isMaximum_foldl`) and a
running minimum a minimum (`isMinimum_foldl`); so the bar of a segment has the highest and the
lowest of its prices (`Segment.isMaximum_running`, `Segment.isMinimum_running`).
-/

namespace CandleFeed

open Float.Model

/-! ## The order of floating-point numbers -/

/-- Pairs are compared by their first parts, and by their second parts where these are equal. -/
theorem compare_toLex {α β : Type} [LinearOrder α] [LinearOrder β] (a b : α) (x y : β) :
    compare (toLex (a, x)) (toLex (b, y)) = (compare a b).then (compare x y) := by
  rcases lt_trichotomy a b with h | rfl | h
  · rw [compare_lt_iff_lt.mpr h, compare_lt_iff_lt.mpr (Prod.Lex.toLex_lt_toLex.mpr (Or.inl h))]
    rfl
  · rw [compare_eq_iff_eq.mpr rfl, Ordering.eq_then]
    rcases lt_trichotomy x y with h | rfl | h
    · rw [compare_lt_iff_lt.mpr h]
      exact compare_lt_iff_lt.mpr (Prod.Lex.toLex_lt_toLex.mpr (Or.inr ⟨rfl, h⟩))
    · rw [compare_eq_iff_eq.mpr rfl, compare_eq_iff_eq.mpr rfl]
    · rw [compare_gt_iff_gt.mpr h]
      exact compare_gt_iff_gt.mpr (Prod.Lex.toLex_lt_toLex.mpr (Or.inr ⟨rfl, h⟩))
  · rw [compare_gt_iff_gt.mpr h, compare_gt_iff_gt.mpr (Prod.Lex.toLex_lt_toLex.mpr (Or.inl h))]
    rfl

/-- Where a value stands among the numbers: sign and kind, exponent, mantissa; both zeros stand in
one place. -/
def standing : UnpackedFloat → ℤ ×ₗ ℤ ×ₗ ℤ
  | .infinity .negative => toLex (-2, toLex (0, 0))
  | .finite .negative m e _ => toLex (-1, toLex (-e, -m))
  | .zero _ => toLex (0, toLex (0, 0))
  | .finite .positive m e _ => toLex (1, toLex (e, m))
  | .infinity .positive => toLex (2, toLex (0, 0))
  | .notANumber => toLex (0, toLex (0, 0))

/-- Numbers compare as they stand. -/
theorem compare_eq_standing {a b : UnpackedFloat} (ha : a.isNaN = false) (hb : b.isNaN = false) :
    a.compare b = some (compare (standing a) (standing b)) := by
  have hpositive : ∀ (e e' : ℤ) (m m' : ℕ), (compare e e').then (compare m m') =
      compare (toLex (e, (m : ℤ))) (toLex (e', (m' : ℤ))) := by
    intro e e' m m'
    have hcast : StrictMono fun n : ℕ => (n : ℤ) := fun _ _ h => Int.ofNat_lt.mpr h
    rw [compare_toLex, ← cmp_eq_compare (m : ℤ), hcast.cmp_map_eq, cmp_eq_compare]
  have hnegative : ∀ (e e' : ℤ) (m m' : ℕ), ((compare e e').then (compare m m')).swap =
      compare (toLex (-e, -(m : ℤ))) (toLex (-e', -(m' : ℤ))) := by
    intro e e' m m'
    have hneg : StrictAnti fun n : ℤ => -n := fun _ _ h => Int.neg_lt_neg h
    rw [hpositive, compare_toLex, compare_toLex, Ordering.swap_then, ← cmp_eq_compare (-e),
      ← cmp_eq_compare (-(m : ℤ)), hneg.cmp_map_eq, hneg.cmp_map_eq, ← cmp_eq_compare,
      ← cmp_eq_compare, cmp_swap, cmp_swap]
  cases a with
  | notANumber => exact absurd ha (by decide)
  | infinity s =>
    cases b with
    | notANumber => exact absurd hb (by decide)
    | infinity s' => cases s <;> cases s' <;> rfl
    | zero s' => cases s <;> rfl
    | finite s' m' e' h' => cases s <;> cases s' <;> rfl
  | zero s =>
    cases b with
    | notANumber => exact absurd hb (by decide)
    | infinity s' => cases s' <;> rfl
    | zero s' => rfl
    | finite s' m' e' h' => cases s' <;> rfl
  | finite s m e h =>
    cases b with
    | notANumber => exact absurd hb (by decide)
    | infinity s' => cases s <;> cases s' <;> rfl
    | zero s' => cases s <;> rfl
    | finite s' m' e' h' =>
      cases s with
      | positive =>
        cases s' with
        | positive => exact congrArg some (hpositive e e' m m')
        | negative => rfl
      | negative =>
        cases s' with
        | positive => rfl
        | negative => exact congrArg some (hnegative e e' m m')

/-- A finite value is a number. -/
theorem isNaN_of_isFinite {x : Float} (h : x.isFinite = true) : x.isNaN = false := by
  have h' : x.toModel.unpack.isFinite = true := h
  show x.toModel.unpack.isNaN = false
  cases hx : x.toModel.unpack <;> rw [hx] at h' <;> first | rfl | exact absurd h' (by decide)

/-- A value that is not a number compares with nothing. -/
theorem compare_of_isNaN {a b : UnpackedFloat} (h : a.isNaN = true ∨ b.isNaN = true) :
    a.compare b = none := by
  cases h with
  | inl ha =>
    cases a with
    | notANumber => rfl
    | _ => exact absurd ha Bool.false_ne_true
  | inr hb =>
    cases b with
    | notANumber => cases a <;> rfl
    | _ => exact absurd hb Bool.false_ne_true

/-- Where a value stands among the numbers. -/
def place (x : Float) : ℤ ×ₗ ℤ ×ₗ ℤ := standing x.toModel.unpack

/-- Two values compare when both are numbers, and then as they stand. -/
theorem compare_unpack (x y : Float) : x.toModel.unpack.compare y.toModel.unpack =
    if x.isNaN = false ∧ y.isNaN = false then some (compare (place x) (place y)) else none := by
  split
  · rename_i h
    exact compare_eq_standing h.1 h.2
  · rename_i h
    refine compare_of_isNaN ?_
    rw [← Bool.not_eq_true, ← Bool.not_eq_true, ← not_or, not_not] at h
    exact h

/-- Of two numbers the one that stands before the other is less. -/
theorem lt_iff_place (x y : Float) :
    x < y ↔ x.isNaN = false ∧ y.isNaN = false ∧ place x < place y := by
  have hlt : x < y ↔ (x.toModel.unpack.compare y.toModel.unpack == some .lt) = true :=
    decide_eq_true_iff
  rw [hlt, compare_unpack, beq_iff_eq, ← and_assoc]
  split
  · rename_i h
    rw [Option.some_inj, compare_lt_iff_lt, and_iff_right h]
  · rename_i h
    exact iff_of_false (by simp) fun hnumbers => h hnumbers.1

/-- Of two numbers the one that does not stand behind the other is at most the other. -/
theorem le_iff_place (x y : Float) :
    x ≤ y ↔ x.isNaN = false ∧ y.isNaN = false ∧ place x ≤ place y := by
  have hle : x ≤ y ↔ (x.toModel.unpack.compare y.toModel.unpack).any (·.isLE) = true :=
    decide_eq_true_iff
  rw [hle, compare_unpack, ← and_assoc]
  split
  · rename_i h
    rw [Option.any_some, Ordering.isLE_iff_ne_gt, ← ne_eq, compare_le_iff_le, and_iff_right h]
  · rename_i h
    exact iff_of_false (by simp) fun hnumbers => h hnumbers.1

/-! ## Choosing by an order -/

/-- The second value where the first is not a number or the second is better. -/
def choice (better : Float → Float → Bool) (x y : Float) : Float :=
  if x.isNaN || better y x then y else x

section Choice

variable {β : Type} [LinearOrder β] {better : Float → Float → Bool} {key : Float → β}

/-- Of two numbers the one with the larger key is better. -/
def Ranks (better : Float → Float → Bool) (key : Float → β) : Prop :=
  ∀ x y, better x y = true ↔ y.isNaN = false ∧ x.isNaN = false ∧ key y < key x

/-- Choosing is associative. -/
theorem choice_assoc (h : Ranks better key) (x y z : Float) :
    choice better (choice better x y) z = choice better x (choice better y z) := by
  have hxy := h y x
  have hyz := h z y
  have hxz := h z x
  unfold choice
  grind

/-- Of two numbers one is chosen, and none has a larger key. -/
theorem choice_best (h : Ranks better key) {x y : Float} (hx : x.isNaN = false)
    (hy : y.isNaN = false) :
    (choice better x y = x ∨ choice better x y = y) ∧
      key x ≤ key (choice better x y) ∧ key y ≤ key (choice better x y) := by
  unfold choice
  rw [hx, Bool.false_or]
  by_cases hb : better y x = true
  · rw [if_pos hb]
    exact ⟨Or.inr rfl, ((h y x).mp hb).2.2.le, le_rfl⟩
  · rw [if_neg hb]
    refine ⟨Or.inl rfl, le_rfl, not_lt.mp fun hlt => hb ?_⟩
    exact (h y x).mpr ⟨hx, hy, hlt⟩

/-- Of several numbers one is chosen, and none has a larger key. -/
theorem foldl_choice_best (h : Ranks better key) {x : Float} {xs : List Float}
    (hnumbers : ∀ y ∈ x :: xs, y.isNaN = false) :
    xs.foldl (choice better) x ∈ x :: xs ∧
      ∀ y ∈ x :: xs, key y ≤ key (xs.foldl (choice better) x) := by
  induction xs generalizing x with
  | nil => simp
  | cons z xs ih =>
    rw [List.forall_mem_cons, List.forall_mem_cons] at hnumbers
    obtain ⟨hx, hz, hxs⟩ := hnumbers
    obtain ⟨hone, hxkey, hzkey⟩ := choice_best h hx hz
    have hnumber : (choice better x z).isNaN = false := by
      rcases hone with hone | hone <;> rw [hone] <;> assumption
    obtain ⟨hmem, hbest⟩ := ih (List.forall_mem_cons.mpr ⟨hnumber, hxs⟩)
    rw [List.forall_mem_cons] at hbest
    rw [List.foldl_cons, List.forall_mem_cons, List.forall_mem_cons]
    refine ⟨?_, hxkey.trans hbest.1, hzkey.trans hbest.1, hbest.2⟩
    rcases List.mem_cons.mp hmem with heq | hmem
    · rw [heq]
      rcases hone with hone | hone <;> rw [hone] <;> simp
    · exact List.mem_cons_of_mem _ (List.mem_cons_of_mem _ hmem)

end Choice

/-! ## Maximum and minimum -/

/-- The larger of two values is chosen by their order. -/
theorem larger_eq_choice : Builder.larger = choice fun x y => decide (x > y) := rfl

/-- The smaller of two values is chosen by their order, reversed. -/
theorem smaller_eq_choice : Builder.smaller = choice fun x y => decide (x < y) := rfl

/-- A larger number stands behind a smaller one. -/
theorem ranks_larger : Ranks (fun x y => decide (x > y)) place := by
  intro x y
  rw [decide_eq_true_iff]
  exact lt_iff_place y x

/-- In the reverse order, a smaller number stands behind a larger one. -/
theorem ranks_smaller : Ranks (fun x y => decide (x < y)) fun x => OrderDual.toDual (place x) := by
  intro x y
  rw [decide_eq_true_iff, lt_iff_place, and_left_comm]
  rfl

instance : Std.Associative Builder.larger where
  assoc := by
    rw [larger_eq_choice]
    exact choice_assoc ranks_larger

instance : Std.Associative Builder.smaller where
  assoc := by
    rw [smaller_eq_choice]
    exact choice_assoc ranks_smaller

/-- The value is one of the list, and all of the list are at most as large. -/
def IsMaximum (x : Float) (xs : List Float) : Prop := x ∈ xs ∧ ∀ y ∈ xs, y ≤ x

/-- The value is one of the list, and all of the list are at least as large. -/
def IsMinimum (x : Float) (xs : List Float) : Prop := x ∈ xs ∧ ∀ y ∈ xs, x ≤ y

/-- The running maximum of numbers is their maximum. -/
theorem isMaximum_foldl {x : Float} {xs : List Float} (h : ∀ y ∈ x :: xs, y.isNaN = false) :
    IsMaximum (xs.foldl Builder.larger x) (x :: xs) := by
  obtain ⟨hmem, hbest⟩ := foldl_choice_best ranks_larger h
  refine ⟨hmem, fun y hy => ?_⟩
  exact (le_iff_place _ _).mpr ⟨h y hy, h _ hmem, hbest y hy⟩

/-- The running minimum of numbers is their minimum. -/
theorem isMinimum_foldl {x : Float} {xs : List Float} (h : ∀ y ∈ x :: xs, y.isNaN = false) :
    IsMinimum (xs.foldl Builder.smaller x) (x :: xs) := by
  obtain ⟨hmem, hbest⟩ := foldl_choice_best ranks_smaller h
  refine ⟨hmem, fun y hy => ?_⟩
  exact (le_iff_place _ _).mpr ⟨h _ hmem, h y hy, OrderDual.ofDual_le_ofDual.mp (hbest y hy)⟩

/-! ## Segments -/

namespace Segment

/-- The running value of an operation over the prices of a segment. -/
def running (op : Float → Float → Float) (s : Segment) : Float :=
  (s.rest.map Tick.price).foldl op s.first.price

/-- The highest price is the running maximum. -/
theorem high_eq_running (s : Segment) : s.ohlcv.high = s.running Builder.larger := by
  unfold ohlcv running
  rw [List.foldl_map]

/-- The lowest price is the running minimum. -/
theorem low_eq_running (s : Segment) : s.ohlcv.low = s.running Builder.smaller := by
  unfold ohlcv running
  rw [List.foldl_map]

/-- The running maximum of a segment whose prices are numbers is the largest of them. -/
theorem isMaximum_running {s : Segment} (h : ∀ t ∈ s.ticks, t.price.isNaN = false) :
    IsMaximum (s.running Builder.larger) (s.ticks.map Tick.price) := by
  refine isMaximum_foldl fun x hx => ?_
  obtain ⟨t, ht, rfl⟩ := List.mem_map.mp (show x ∈ s.ticks.map Tick.price from hx)
  exact h t ht

/-- The running minimum of a segment whose prices are numbers is the smallest of them. -/
theorem isMinimum_running {s : Segment} (h : ∀ t ∈ s.ticks, t.price.isNaN = false) :
    IsMinimum (s.running Builder.smaller) (s.ticks.map Tick.price) := by
  refine isMinimum_foldl fun x hx => ?_
  obtain ⟨t, ht, rfl⟩ := List.mem_map.mp (show x ∈ s.ticks.map Tick.price from hx)
  exact h t ht

end Segment

end CandleFeed
