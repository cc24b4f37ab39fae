import Mathlib.Algebra.Order.Ring.Nat
import CandleFeed.Proofs.Config.Checks

/-!
# The waits double

A wait is meant to be the base doubled once for every earlier failure, up to the longest one.  The
doubling itself ends after the thirty-first, one below the thirty-second power of two
(`Backoff.factor_of_le`).  So the waits follow the exact schedule, for any number of failures,
exactly if the longest is reached by then; if it is not, they stay below it for good
(**`FeedConfig.delay_of_validate`**).  Lengths of time never get in the way: what settings can say
fits (`Backoff.delay_of_fits`).
-/

namespace CandleFeed

namespace Backoff

/-! ## Factors -/

/-- Before the thirty-second the factor is a power of two. -/
theorem factor_of_lt {failures : Nat} (h : failures < 32) : factor failures = 2 ^ failures :=
  if_pos h

/-- From the thirty-second on the factor stays the same. -/
theorem factor_of_le {failures : Nat} (h : 32 ≤ failures) : factor failures = 2 ^ 32 - 1 :=
  if_neg (Nat.not_lt.mpr h)

/-- Before the thirty-second the power of two is no larger than where the factor ends. -/
theorem pow_le_last {failures : Nat} (h : failures < 32) : 2 ^ failures ≤ 2 ^ 32 - 1 := by
  have hpow : 2 ^ failures ≤ 2 ^ 31 := Nat.pow_le_pow_right (by decide) (Nat.le_of_lt_succ h)
  omega

/-- From the thirty-second on the power of two is larger than where the factor ends. -/
theorem last_lt_pow {failures : Nat} (h : 32 ≤ failures) : 2 ^ 32 - 1 < 2 ^ failures := by
  have hpow : 2 ^ 32 ≤ 2 ^ failures := Nat.pow_le_pow_right (by decide) h
  omega

/-- More failures have no smaller factor. -/
theorem factor_mono {m n : Nat} (h : m ≤ n) : factor m ≤ factor n := by
  by_cases hn : n < 32
  · rw [factor_of_lt hn, factor_of_lt (h.trans_lt hn)]
    exact Nat.pow_le_pow_right (by decide) h
  · rw [factor_of_le (Nat.not_lt.mp hn)]
    by_cases hm : m < 32
    · rw [factor_of_lt hm]
      exact pow_le_last hm
    · exact (factor_of_le (Nat.not_lt.mp hm)).le

/-! ## Waits -/

/-- Where the longest wait is a length of time, nothing else cuts waits short. -/
theorem delay_of_fits {b : Backoff} (h : b.longest ≤ Clock.longest) (failures : Nat) :
    b.delay failures = min (b.base * factor failures) b.longest := by
  rw [delay, min_assoc, min_eq_right h]

/-- The failures that the client tells apart are more than make a difference to the wait. -/
theorem delay_min_of_le (b : Backoff) {most : Nat} (h : 32 ≤ most) (failures : Nat) :
    b.delay (min failures most) = b.delay failures := by
  by_cases hmost : failures ≤ most
  · rw [min_eq_left hmost]
  · have hlate : 32 ≤ failures := h.trans (Nat.not_le.mp hmost).le
    rw [min_eq_right (Nat.not_le.mp hmost).le, delay, delay, factor_of_le h, factor_of_le hlate]

end Backoff

/-! ## Settings -/

namespace FeedConfig

/-- What the checks make sure of, as far as waits go. -/
theorem waits_of_validate {c : FeedConfig} (h : c.validate = .ok ()) :
    0 < c.connection.backoffBaseSecs ∧
      c.connection.backoffBaseSecs ≤ c.connection.backoffMaxSecs := by
  obtain ⟨hworkable, -⟩ := validate_eq_ok_iff.mp h
  exact ⟨hworkable.base_pos, hworkable.base_le⟩

/-- The wait in whole seconds, if 64 bits hold the longest one. -/
theorem delay_backoff {c : ConnectionConfig} (h : c.backoffMaxSecs < 2 ^ 64) (failures : Nat) :
    c.backoff.delay failures =
      min (c.backoffBaseSecs * Backoff.factor failures) c.backoffMaxSecs * Clock.second := by
  have hfits : c.backoff.longest ≤ Clock.longest := by
    change c.backoffMaxSecs * 1000000000 ≤ (2 ^ 64 - 1) * 1000000000 + 999999999
    omega
  rw [Backoff.delay_of_fits hfits, ← Nat.mul_min_mul_right, Nat.mul_right_comm]
  rfl

/-- **The waits double exactly up to the longest one, unless that takes more than thirty-one
doublings.**  Of settings that pass their checks, with numbers of 64 bits: the wait after a number
of failures is the exact one if these are fewer than 32, or if the longest wait is at most the base
times the last factor; and only then.  From the thirty-second failure on waits stay the same, and
they are the longest exactly in the latter case.  More failures never make a wait shorter, and none
is longer than the longest. -/
theorem delay_of_validate {c : FeedConfig} (h : c.validate = .ok ())
    (hsize : c.connection.backoffMaxSecs < 2 ^ 64) :
    let base := c.connection.backoffBaseSecs
    let longest := c.connection.backoffMaxSecs
    let delay := c.connection.backoff.delay
    (∀ n, delay n = min longest (base * 2 ^ n) * Clock.second ↔
      n < 32 ∨ longest ≤ base * (2 ^ 32 - 1)) ∧
    (∀ n, 32 ≤ n → delay n = min longest (base * (2 ^ 32 - 1)) * Clock.second) ∧
    (∀ n, 32 ≤ n → (delay n = longest * Clock.second ↔ longest ≤ base * (2 ^ 32 - 1))) ∧
    (∀ m n, m ≤ n → delay m ≤ delay n) ∧
    (∀ n, delay n ≤ longest * Clock.second) := by
  intro base longest delay
  obtain ⟨hbase, -⟩ := waits_of_validate h
  have hsecond : 0 < Clock.second := by decide
  have hdelay : ∀ n, delay n = min (base * Backoff.factor n) longest * Clock.second :=
    delay_backoff hsize
  have hlate : ∀ n, 32 ≤ n → delay n = min longest (base * (2 ^ 32 - 1)) * Clock.second := by
    intro n hn
    rw [hdelay, Backoff.factor_of_le hn, min_comm]
  refine ⟨fun n => ?_, hlate, fun n hn => ?_, fun m n hmn => ?_, fun n => ?_⟩
  · by_cases hn : n < 32
    · rw [hdelay, Backoff.factor_of_lt hn, min_comm]
      exact iff_of_true rfl (Or.inl hn)
    · have hgrows : base * (2 ^ 32 - 1) < base * 2 ^ n :=
        Nat.mul_lt_mul_of_pos_left (Backoff.last_lt_pow (Nat.not_lt.mp hn)) hbase
      rw [hlate n (Nat.not_lt.mp hn), Nat.mul_left_inj hsecond.ne', or_iff_right hn]
      omega
  · rw [hlate n hn, Nat.mul_left_inj hsecond.ne']
    omega
  · rw [hdelay, hdelay]
    exact Nat.mul_le_mul_right _
      (min_le_min_right _ (Nat.mul_le_mul_left _ (Backoff.factor_mono hmn)))
  · rw [hdelay]
    exact Nat.mul_le_mul_right _ (min_le_right _ _)

/-- Waits that begin with three seconds and may last as long as the last doubling reaches: the exact
schedule holds after any number of failures, and a million are enough for the longest wait. -/
theorem delay_of_validate_lastDoubling :
    let c : FeedConfig := { standard with connection := ⟨45, 30, 3, 3 * (2 ^ 32 - 1), 1000⟩ }
    c.validate = .ok () ∧ c.connection.backoffMaxSecs < 2 ^ 64 ∧
      c.connection.backoff.delay 31 = 3 * 2 ^ 31 * Clock.second ∧
      c.connection.backoff.delay 1000000 = 3 * (2 ^ 32 - 1) * Clock.second := by
  intro c
  have hvalid : c.validate = .ok () := by decide +kernel
  have hsize : c.connection.backoffMaxSecs < 2 ^ 64 := by decide
  obtain ⟨hexact, -, hreaches, -⟩ := delay_of_validate hvalid hsize
  have hfirst := (hexact 31).mpr (Or.inl (by decide))
  have hlast := (hreaches 1000000 (by decide)).mpr (by decide)
  exact ⟨hvalid, hsize, hfirst.trans (by decide +kernel), hlast.trans (by decide +kernel)⟩

/-- **The doubling ends too soon where waits may be very long**: with a second at first and as much
as 64 bits hold at most, the wait after 32 failures is a second short of the exact one, and no later
one is longer. -/
theorem delay_endsDoubling :
    let c : FeedConfig := { standard with connection := ⟨45, 30, 1, 2 ^ 64 - 1, 1000⟩ }
    let exact (n : Nat) : Nat := min c.connection.backoffMaxSecs
      (c.connection.backoffBaseSecs * 2 ^ n) * Clock.second
    c.validate = .ok () ∧ c.connection.backoffMaxSecs < 2 ^ 64 ∧
      exact 32 = 4294967296 * Clock.second ∧
      (∀ n, 32 ≤ n → c.connection.backoff.delay n = 4294967295 * Clock.second) ∧
      c.connection.backoff.delay 32 ≠ exact 32 := by
  intro c exact
  have hsize : c.connection.backoffMaxSecs < 2 ^ 64 := by decide
  have hlate : ∀ n, 32 ≤ n → c.connection.backoff.delay n = 4294967295 * Clock.second := by
    intro n hn
    rw [delay_backoff hsize, Backoff.factor_of_le hn]
    decide
  refine ⟨by decide +kernel, hsize, by decide, hlate, ?_⟩
  rw [hlate 32 le_rfl]
  decide

end FeedConfig

end CandleFeed
