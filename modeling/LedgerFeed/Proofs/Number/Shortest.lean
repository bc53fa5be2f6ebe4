import Mathlib.Tactic.SplitIfs
import LedgerFeed.Proofs.Number.Digits

namespace LedgerFeed.Shortest

theorem dropZeros_zero (rounds : Nat) (power : Int) :
    dropZeros rounds ⟨0, power⟩ = ⟨0, power + rounds⟩ := by
  induction rounds generalizing power with
  | zero => simp [dropZeros]
  | succ rounds ih =>
      simp only [dropZeros, Nat.zero_mod, ↓reduceIte, Nat.zero_div, ih]
      congr 1
      omega

theorem dropZeros_ne_zero {rounds : Nat} {decimal : Decimal} (h : decimal.digits ≠ 0) :
    (dropZeros rounds decimal).digits ≠ 0 := by
  induction rounds generalizing decimal with
  | zero => exact h
  | succ rounds ih =>
      unfold dropZeros
      split
      · apply ih
        dsimp only
        omega
      · exact h

structure Interval.Positive (interval : Interval) : Prop where
  low : 0 < interval.low
  denominator : 0 < interval.denominator

theorem quotient_positive (exponent : Int) :
    0 < (Binary64.quotient 1 exponent).1 ∧ 0 < (Binary64.quotient 1 exponent).2 := by
  unfold Binary64.quotient
  split
  · exact ⟨Nat.mul_pos Nat.one_pos (Nat.pow_pos (by decide)), Nat.one_pos⟩
  · exact ⟨Nat.one_pos, Nat.pow_pos (by decide)⟩

theorem readingBack_positive {significand : Nat} (h : significand ≠ 0) (exponent : Int) :
    (readingBack significand exponent).Positive := by
  obtain ⟨numerator, denominator⟩ := quotient_positive (exponent - 2)
  have below : 0 < 4 * significand - 2 := by omega
  unfold readingBack
  refine ⟨Nat.mul_pos ?_ numerator, denominator⟩
  split <;> omega

theorem tenfold_zero (power : Int) : (tenfold 0 power).1 = 0 := by
  unfold tenfold
  split <;> simp

theorem tenfold_positive (n : Nat) (power : Int) : 0 < (tenfold n power).2 := by
  unfold tenfold
  split
  · exact Nat.one_pos
  · exact Nat.pow_pos (by decide)

theorem contains_zero {interval : Interval} (positive : interval.Positive) (power : Int) :
    interval.contains ⟨0, power⟩ = false := by
  have low : 0 < interval.low * (tenfold 0 power).2 :=
    Nat.mul_pos positive.low (tenfold_positive 0 power)
  have point : (tenfold 0 power).1 * interval.denominator = 0 := by
    rw [tenfold_zero, Nat.zero_mul]
  unfold Interval.contains
  dsimp only
  rw [point]
  split
  · simp only [Bool.and_eq_false_iff, decide_eq_false_iff_not]
    omega
  · simp only [Bool.and_eq_false_iff, decide_eq_false_iff_not]
    omega

theorem onGrid_ne_zero {interval : Interval} (positive : interval.Positive) {power : Int}
    {found : Decimal} (h : interval.onGrid? power = some found) : found.digits ≠ 0 := by
  have within : ∀ below, interval.contains ⟨below, power⟩ = true → below ≠ 0 := by
    rintro below inside rfl
    rw [contains_zero positive] at inside
    cases inside
  obtain ⟨below, neighbours⟩ : ∃ below, interval.neighbours power =
      (⟨below, power⟩, ⟨below + 1, power⟩) := ⟨_, rfl⟩
  unfold Interval.onGrid? at h
  rw [neighbours] at h
  dsimp only at h
  split at h
  · rename_i inside _
    split_ifs at h <;> cases h
    · exact within _ inside
    · exact Nat.succ_ne_zero _
  · rename_i inside _
    cases h
    exact within _ inside
  · cases h
    exact Nat.succ_ne_zero _
  · cases h

theorem search_zero {interval : Interval} (positive : interval.Positive) {magnitude power : Int}
    {rounds count : Nat} (last : power = magnitude - (count + rounds : Nat))
    (h : (interval.search magnitude rounds count).digits = 0) :
    interval.search magnitude rounds count = (interval.neighbours power).1 := by
  induction rounds generalizing count with
  | zero =>
      rw [Interval.search, last]
      rfl
  | succ rounds ih =>
      unfold Interval.search at h ⊢
      split
      · rename_i found hit
        simp only [hit] at h
        exact absurd h (onGrid_ne_zero positive hit)
      · rename_i miss
        simp only [miss] at h
        exact ih (by omega) h

theorem pow_countDigits_le {n : Nat} (h : n ≠ 0) : 10 ^ (countDigits n - 1) ≤ n := by
  by_cases single : countDigits n - 1 = 0
  · rw [single]
    exact Nat.one_le_iff_ne_zero.mpr h
  · have long : ¬ (Nat.toDigits 10 n).length ≤ countDigits n - 1 := by
      unfold countDigits at single ⊢
      omega
    rw [Nat.length_toDigits_le_iff (by decide) (Nat.pos_of_ne_zero single)] at long
    exact Nat.not_lt.mp long

theorem one_le_scaled {value denominator count scale : Nat} (digit : 0 < count)
    (h : denominator * 10 ^ (count - 1) ≤ value * 10 ^ scale) :
    denominator * (tenfold 1 ((count : Int) - scale - 18)).1 ≤
      value * (tenfold 1 ((count : Int) - scale - 18)).2 := by
  unfold tenfold
  split
  · rename_i coarse
    have power : ((count : Int) - scale - 18).toNat = count - (scale + 18) := by omega
    rw [power, Nat.one_mul, Nat.mul_one]
    apply Nat.le_of_mul_le_mul_right _ (Nat.pow_pos (show 0 < 10 by decide) : 0 < 10 ^ scale)
    calc denominator * 10 ^ (count - (scale + 18)) * 10 ^ scale
        = denominator * 10 ^ (count - (scale + 18) + scale) := by rw [Nat.mul_assoc, Nat.pow_add]
      _ ≤ denominator * 10 ^ (count - 1) :=
          Nat.mul_le_mul_left _ (Nat.pow_le_pow_right (by decide) (by omega))
      _ ≤ value * 10 ^ scale := h
  · rename_i fine
    have power : (-((count : Int) - scale - 18)).toNat = scale + 18 - count := by omega
    rw [power, Nat.mul_one]
    apply Nat.le_of_mul_le_mul_right _ (Nat.pow_pos (show 0 < 10 by decide) : 0 < 10 ^ (count - 1))
    calc denominator * 10 ^ (count - 1)
        ≤ value * 10 ^ scale := h
      _ ≤ value * 10 ^ (scale + 18 - count + (count - 1)) :=
          Nat.mul_le_mul_left _ (Nat.pow_le_pow_right (by decide) (by omega))
      _ = value * 10 ^ (scale + 18 - count) * 10 ^ (count - 1) := by
          rw [Nat.mul_assoc, Nat.pow_add]

theorem tenfold_one_positive (power : Int) : 0 < (tenfold 1 power).1 := by
  unfold tenfold
  split
  · exact Nat.mul_pos Nat.one_pos (Nat.pow_pos (by decide))
  · exact Nat.one_pos

theorem neighbours_zero {interval : Interval} (positive : 0 < interval.denominator) {scale : Nat}
    {power : Int}
    (grid : power =
      (countDigits (interval.value * Nat.pow 10 scale / interval.denominator) : Int) - scale - 18)
    (h : (interval.neighbours power).1.digits = 0) :
    interval.value * Nat.pow 10 scale / interval.denominator = 0 := by
  by_contra nonzero
  have digit : 0 < countDigits (interval.value * Nat.pow 10 scale / interval.denominator) :=
    Nat.length_toDigits_pos
  have scaled := (Nat.le_div_iff_mul_le positive).mp (pow_countDigits_le nonzero)
  rw [Nat.mul_comm] at scaled
  have one := one_le_scaled digit scaled
  rw [← grid] at one
  rcases Nat.div_eq_zero_iff.mp h with none | below
  · exact absurd none (Nat.ne_of_gt (Nat.mul_pos positive (tenfold_one_positive power)))
  · exact absurd one (Nat.not_le.mpr below)

theorem magnitude_eq (interval : Interval) : interval.magnitude =
    (countDigits (interval.value * Nat.pow 10 400 / interval.denominator) : Int) - 400 := rfl

theorem magnitude_of_zero {interval : Interval}
    (zero : interval.value * Nat.pow 10 400 / interval.denominator = 0) :
    interval.magnitude = -399 := by
  rw [magnitude_eq, zero]
  rfl

theorem neighbours_of_zero {interval : Interval} {power : Int}
    (zero : (interval.neighbours power).1.digits = 0) :
    (interval.neighbours power).1 = ⟨0, power⟩ := by
  have parts : (interval.neighbours power).1 = ⟨(interval.neighbours power).1.digits, power⟩ := rfl
  rw [parts, zero]

theorem shortest_zero {significand : Nat} {exponent : Int} (nonzero : significand ≠ 0)
    (h : (shortest significand exponent).digits = 0) :
    (shortest significand exponent).power = -397 := by
  have positive := readingBack_positive nonzero exponent
  rw [shortest] at h ⊢
  generalize readingBack significand exponent = interval at h positive ⊢
  by_cases zero : (interval.search interval.magnitude 17 1).digits = 0
  · have found := search_zero positive rfl zero
    rw [found] at zero ⊢
    have least : interval.magnitude = -399 := by
      apply magnitude_of_zero
      apply neighbours_zero positive.denominator _ zero
      rw [magnitude_eq]
      omega
    rw [neighbours_of_zero zero, least, dropZeros_zero]
    rfl
  · exact absurd h (dropZeros_ne_zero zero)

end LedgerFeed.Shortest
