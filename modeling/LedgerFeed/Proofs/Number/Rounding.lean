import Mathlib.Algebra.Order.Field.Power
import Mathlib.Data.Rat.Cast.Order
import Mathlib.Order.WithBot
import Mathlib.Tactic.Linarith
import Mathlib.Tactic.NormNum
import Mathlib.Tactic.Ring
import LedgerFeed.Number.Seconds

/-!
# Doubling

A quotient that is a number of the format is not rounded (`ofQuotient_exact`). So a length is
doubled exactly unless that leaves the format, and doubling it up to a ceiling doubles its value up
to the ceiling (`Lasts.double_least`). Whatever is rounded, doubling makes no number smaller that is
far enough from zero (`Ample.double`).
-/

namespace LedgerFeed

namespace Binary64

variable {numerator denominator significand : Nat} {exponent : Int}

theorem pow_cast (n : Nat) : ((Nat.pow 2 n : Nat) : ℚ) = 2 ^ n := by
  rw [Nat.pow_eq, Nat.cast_pow, Nat.cast_ofNat]

theorem zpow_positive (n : Int) : (0 : ℚ) < 2 ^ n := zpow_pos (by norm_num) n

theorem quotient_denominator (significand : Nat) (exponent : Int) :
    0 < (quotient significand exponent).2 := by
  unfold quotient
  split
  · exact Nat.one_pos
  · exact Nat.pow_pos (by decide)

theorem quotient_value (significand : Nat) (exponent : Int) :
    ((quotient significand exponent).1 : ℚ) / (quotient significand exponent).2 =
      significand * 2 ^ exponent := by
  unfold quotient
  split
  · rename_i whole
    rw [Nat.cast_mul, pow_cast, Nat.cast_one, div_one, ← zpow_natCast, Int.toNat_of_nonneg whole]
  · rename_i broken
    rw [pow_cast, ← zpow_natCast, Int.toNat_of_nonneg (by omega), zpow_neg, div_inv_eq_mul]

theorem scaled_denominator (positive : 0 < denominator) (exponent : Int) :
    0 < (scaled numerator denominator exponent).2 := by
  unfold scaled
  split
  · exact Nat.mul_pos positive (Nat.pow_pos (by decide))
  · exact positive

theorem scaled_value (numerator denominator : Nat) (exponent : Int) :
    ((scaled numerator denominator exponent).1 : ℚ) / (scaled numerator denominator exponent).2 =
      numerator / denominator / 2 ^ exponent := by
  unfold scaled
  split
  · rename_i whole
    rw [Nat.cast_mul, pow_cast, ← zpow_natCast, Int.toNat_of_nonneg whole, div_mul_eq_div_div]
  · rename_i broken
    rw [Nat.cast_mul, pow_cast, ← zpow_natCast, Int.toNat_of_nonneg (by omega), zpow_neg,
      ← div_eq_mul_inv, div_right_comm]

/-! ## The exponent of a quotient -/

theorem log2_bounds {n : Nat} (nonzero : n ≠ 0) :
    (2 : ℚ) ^ (n.log2 : Int) ≤ n ∧ (n : ℚ) < 2 ^ ((n.log2 : Int) + 1) := by
  constructor
  · rw [zpow_natCast]
    exact_mod_cast Nat.log2_self_le nonzero
  · have below : n < 2 ^ (n.log2 + 1) := Nat.lt_log2_self
    rw [show (n.log2 : Int) + 1 = ((n.log2 + 1 : Nat) : Int) from rfl, zpow_natCast]
    exact_mod_cast below

theorem log2_quotient (above : numerator ≠ 0) (positive : denominator ≠ 0) :
    (2 : ℚ) ^ ((numerator.log2 : Int) - denominator.log2 - 1) < numerator / denominator ∧
      (numerator / denominator : ℚ) < 2 ^ ((numerator.log2 : Int) - denominator.log2 + 1) := by
  obtain ⟨least, below⟩ := log2_bounds above
  obtain ⟨divisor, divisorBelow⟩ := log2_bounds positive
  have positive : (0 : ℚ) < denominator := lt_of_lt_of_le (zpow_positive _) divisor
  constructor
  · rw [lt_div_iff₀ positive]
    calc (2 : ℚ) ^ ((numerator.log2 : Int) - denominator.log2 - 1) * denominator
        < 2 ^ ((numerator.log2 : Int) - denominator.log2 - 1) *
            2 ^ ((denominator.log2 : Int) + 1) :=
          mul_lt_mul_of_pos_left divisorBelow (zpow_positive _)
      _ = 2 ^ (numerator.log2 : Int) := by
          rw [← zpow_add₀ two_ne_zero]
          congr 1
          omega
      _ ≤ numerator := least
  · rw [div_lt_iff₀ positive]
    calc (numerator : ℚ)
        < 2 ^ ((numerator.log2 : Int) + 1) := below
      _ = 2 ^ ((numerator.log2 : Int) - denominator.log2 + 1) * 2 ^ (denominator.log2 : Int) := by
          rw [← zpow_add₀ two_ne_zero]
          congr 1
          omega
      _ ≤ 2 ^ ((numerator.log2 : Int) - denominator.log2 + 1) * denominator :=
          mul_le_mul_of_nonneg_left divisor (zpow_positive _).le

theorem div_lt_pow_iff (positive : 0 < denominator) (n : Nat) :
    numerator / denominator < Nat.pow 2 n ↔ (numerator / denominator : ℚ) < 2 ^ n := by
  have divisor : (0 : ℚ) < denominator := Nat.cast_pos.mpr positive
  rw [Nat.div_lt_iff_lt_mul positive, div_lt_iff₀ divisor, ← pow_cast, ← Nat.cast_mul, Nat.cast_lt]

theorem normalExponent_spec (above : numerator ≠ 0) (positive : denominator ≠ 0) :
    (2 : ℚ) ^ (52 + normalExponent numerator denominator) ≤ numerator / denominator ∧
      (numerator / denominator : ℚ) < 2 ^ (53 + normalExponent numerator denominator) := by
  obtain ⟨least, below⟩ := log2_quotient above positive
  unfold normalExponent
  dsimp only
  generalize same : (numerator.log2 : Int) - denominator.log2 - 52 = guess
  have divisor : 0 < (scaled numerator denominator guess).2 :=
    scaled_denominator (Nat.pos_of_ne_zero positive) guess
  have halved := @div_lt_pow_iff (scaled numerator denominator guess).1 _ divisor 52
  rw [scaled_value, div_lt_iff₀ (zpow_positive guess), ← zpow_natCast,
    ← zpow_add₀ two_ne_zero] at halved
  split
  · rename_i small
    constructor
    · refine le_of_eq_of_le ?_ least.le
      congr 1
      omega
    · refine lt_of_lt_of_eq (halved.mp small) ?_
      congr 1
      push_cast
      omega
  · rename_i large
    constructor
    · exact_mod_cast not_lt.mp (halved.not.mp large)
    · refine lt_of_lt_of_eq below ?_
      congr 1
      omega

/-! ## Quotients in the format -/

theorem roundQuotient_mul (positive : 0 < denominator) (n : Nat) :
    roundQuotient (n * denominator) denominator = n := by
  unfold roundQuotient
  rw [Nat.mul_div_cancel n positive, Nat.mul_mod_left]
  dsimp only
  rw [if_neg]
  omega

structure InFormat (significand : Nat) (exponent : Int) : Prop where
  short : significand < significandBound
  least : leastExponent ≤ exponent
  greatest : exponent ≤ greatestExponent

theorem bound_cast : ((significandBound : Nat) : ℚ) = 2 ^ (53 : Int) := by
  rw [significandBound, pow_cast]
  rfl

theorem InFormat.below (h : InFormat significand exponent) :
    (significand * 2 ^ exponent : ℚ) < 2 ^ (1024 : Int) := by
  have short : (significand : ℚ) < 2 ^ (53 : Int) := by
    rw [← bound_cast]
    exact_mod_cast h.short
  calc (significand * 2 ^ exponent : ℚ)
      < 2 ^ (53 : Int) * 2 ^ exponent := mul_lt_mul_of_pos_right short (zpow_positive _)
    _ = 2 ^ (53 + exponent) := (zpow_add₀ two_ne_zero _ _).symm
    _ ≤ 2 ^ (1024 : Int) := by
        refine zpow_le_zpow_right₀ one_le_two ?_
        have greatest := h.greatest
        unfold greatestExponent at greatest
        omega

theorem normalExponent_le (above : numerator ≠ 0) (positive : denominator ≠ 0)
    (short : significand < significandBound)
    (value : (numerator / denominator : ℚ) = significand * 2 ^ exponent) :
    normalExponent numerator denominator ≤ exponent := by
  have least := (normalExponent_spec above positive).1
  have bound : (significand : ℚ) < 2 ^ (53 : Int) := by
    rw [← bound_cast]
    exact_mod_cast short
  have below : (2 : ℚ) ^ (52 + normalExponent numerator denominator) < 2 ^ (53 + exponent) :=
    calc (2 : ℚ) ^ (52 + normalExponent numerator denominator)
        ≤ significand * 2 ^ exponent := value ▸ least
      _ < 2 ^ (53 : Int) * 2 ^ exponent := mul_lt_mul_of_pos_right bound (zpow_positive _)
      _ = 2 ^ (53 + exponent) := (zpow_add₀ two_ne_zero _ _).symm
  have powers := (zpow_lt_zpow_iff_right₀ one_lt_two).mp below
  omega

theorem lowered_value {power : Int} (within : power ≤ exponent) :
    ((significand * 2 ^ (exponent - power).toNat : Nat) : ℚ) * 2 ^ power =
      significand * 2 ^ exponent := by
  rw [Nat.cast_mul, Nat.cast_pow, Nat.cast_ofNat, ← zpow_natCast,
    Int.toNat_of_nonneg (Int.sub_nonneg.mpr within), mul_assoc, ← zpow_add₀ two_ne_zero,
    Int.sub_add_cancel]

theorem scaled_whole {power : Int} (positive : 0 < denominator) (within : power ≤ exponent)
    (value : (numerator / denominator : ℚ) = significand * 2 ^ exponent) :
    (scaled numerator denominator power).1 =
      significand * 2 ^ (exponent - power).toNat * (scaled numerator denominator power).2 := by
  have divisor := @scaled_denominator numerator _ positive power
  have ratio := scaled_value numerator denominator power
  rw [value, ← lowered_value within, mul_div_cancel_right₀ _ (zpow_positive power).ne',
    div_eq_iff (Nat.cast_ne_zero.mpr divisor.ne')] at ratio
  exact_mod_cast ratio

theorem ofQuotient_exact (above : numerator ≠ 0) (positive : denominator ≠ 0)
    (short : significand < significandBound) (least : leastExponent ≤ exponent)
    (value : (numerator / denominator : ℚ) = significand * 2 ^ exponent) :
    (∃ found power, ofQuotient false numerator denominator = .finite false found power ∧
      InFormat found power ∧ (found * 2 ^ power : ℚ) = numerator / denominator) ∨
    ofQuotient false numerator denominator = .infinity false ∧
      (2 : ℚ) ^ (1024 : Int) ≤ numerator / denominator := by
  obtain ⟨greater, smaller⟩ := normalExponent_spec above positive
  have lower := normalExponent_le above positive short value
  unfold ofQuotient
  rw [if_neg above]
  dsimp only
  generalize same : max (normalExponent numerator denominator) leastExponent = power
  have within : power ≤ exponent := same ▸ max_le lower least
  have normal : normalExponent numerator denominator ≤ power := same ▸ le_max_left _ _
  have whole := scaled_whole (Nat.pos_of_ne_zero positive) within value
  have exact := @lowered_value significand exponent power within
  have divisor := @scaled_denominator numerator _ (Nat.pos_of_ne_zero positive) power
  generalize significand * 2 ^ (exponent - power).toNat = found at whole exact
  have fits : found < significandBound := by
    have below : (found : ℚ) * 2 ^ power < 2 ^ (53 : Int) * 2 ^ power := by
      rw [exact, ← value, ← zpow_add₀ two_ne_zero]
      refine smaller.trans_le (zpow_le_zpow_right₀ one_le_two ?_)
      omega
    have bound := lt_of_mul_lt_mul_right below (zpow_positive power).le
    rw [← bound_cast] at bound
    exact_mod_cast bound
  rw [whole, roundQuotient_mul divisor, if_neg fits.ne]
  dsimp only
  split
  · rename_i beyond
    refine .inr ⟨rfl, le_trans (zpow_le_zpow_right₀ one_le_two ?_) greater⟩
    unfold greatestExponent at beyond
    unfold leastExponent at same
    omega
  · rename_i under
    refine .inl ⟨found, power, rfl, ⟨fits, same ▸ le_max_right _ _, not_lt.mp under⟩, ?_⟩
    rw [exact, value]

theorem double_exact (h : InFormat significand exponent) (above : significand ≠ 0) :
    (∃ found power, (finite false significand exponent).double = .finite false found power ∧
      InFormat found power ∧ (found * 2 ^ power : ℚ) = 2 * (significand * 2 ^ exponent)) ∨
    (finite false significand exponent).double = .infinity false ∧
      (2 : ℚ) ^ (1024 : Int) ≤ 2 * (significand * 2 ^ exponent) := by
  have divisor := quotient_denominator (2 * significand) exponent
  have value : ((quotient (2 * significand) exponent).1 : ℚ) /
      (quotient (2 * significand) exponent).2 = significand * 2 ^ (exponent + 1) := by
    rw [quotient_value, zpow_add₀ two_ne_zero, zpow_one]
    push_cast
    ring
  have twice : (significand * 2 ^ (exponent + 1) : ℚ) = 2 * (significand * 2 ^ exponent) := by
    rw [zpow_add₀ two_ne_zero, zpow_one]
    ring
  have nonzero : (quotient (2 * significand) exponent).1 ≠ 0 := by
    intro zero
    rw [zero, Nat.cast_zero, zero_div] at value
    have positive : (0 : ℚ) < significand * 2 ^ (exponent + 1) :=
      mul_pos (Nat.cast_pos.mpr (Nat.pos_of_ne_zero above)) (zpow_positive _)
    exact positive.ne value
  have least : leastExponent ≤ exponent + 1 := Int.le_add_one h.least
  rw [← twice, ← value]
  exact ofQuotient_exact nonzero divisor.ne' h.short least value

/-! ## Comparison -/

theorem cross_lt {a c : Int} {b d : Nat} (hb : 0 < b) (hd : 0 < d) :
    c * (b : Int) < a * (d : Int) ↔ (c / d : ℚ) < a / b := by
  rw [div_lt_div_iff₀ (Nat.cast_pos.mpr hd) (Nat.cast_pos.mpr hb)]
  exact_mod_cast Iff.rfl

theorem ratio?_finite (significand : Nat) (exponent : Int) :
    (finite false significand exponent).ratio? =
      some (((quotient significand exponent).1 : Int), (quotient significand exponent).2) := rfl

theorem finite_lt_iff (significand other : Nat) (exponent power : Int) :
    (finite false significand exponent).lt (finite false other power) = true ↔
      (significand * 2 ^ exponent : ℚ) < other * 2 ^ power := by
  have compare := @cross_lt (quotient other power).1 (quotient significand exponent).1 _ _
    (quotient_denominator other power) (quotient_denominator significand exponent)
  rw [Int.cast_natCast, Int.cast_natCast, quotient_value, quotient_value] at compare
  simpa [Binary64.lt, Binary64.le, isNan, ratio?_finite] using compare

inductive Amounts : Binary64 → WithTop ℚ → Prop
  | infinity : Amounts (.infinity false) ⊤
  | finite (significand : Nat) (exponent : Int) :
      Amounts (.finite false significand exponent) ↑(significand * 2 ^ exponent : ℚ)

theorem Amounts.lt_iff {x y : Binary64} {v w : WithTop ℚ} (first : x.Amounts v)
    (second : y.Amounts w) : x.lt y = true ↔ v < w := by
  cases first with
  | infinity =>
      have never : (Binary64.infinity false).lt y = false := by cases second <;> rfl
      simp [never]
  | finite significand exponent =>
      cases second with
      | infinity =>
          have always : (Binary64.finite false significand exponent).lt (.infinity false) = true := rfl
          exact iff_of_true always (WithTop.coe_lt_top _)
      | finite other power => rw [finite_lt_iff, WithTop.coe_lt_coe]

/-! ## Doubling and order -/

theorem le_roundQuotient (numerator denominator : Nat) :
    numerator / denominator ≤ roundQuotient numerator denominator := by
  unfold roundQuotient
  dsimp only
  split
  · exact Nat.le_succ _
  · exact Nat.le_refl _

theorem ofQuotient_grows (above : numerator ≠ 0) (positive : denominator ≠ 0)
    (normal : (2 : ℚ) ^ (leastExponent + 53) ≤ numerator / denominator) :
    ofQuotient false numerator denominator = .infinity false ∨
      ∃ found power, ofQuotient false numerator denominator = .finite false found power ∧
        (numerator / denominator : ℚ) < 2 * (found * 2 ^ power) := by
  obtain ⟨greater, smaller⟩ := normalExponent_spec above positive
  have least : leastExponent ≤ normalExponent numerator denominator := by
    have powers := (zpow_lt_zpow_iff_right₀ one_lt_two).mp (normal.trans_lt smaller)
    omega
  unfold ofQuotient
  rw [if_neg above, max_eq_left least]
  dsimp only
  generalize normalExponent numerator denominator = exponent at greater smaller
  have wide : Nat.pow 2 52 ≤
      roundQuotient (scaled numerator denominator exponent).1
        (scaled numerator denominator exponent).2 := by
    have divisor := @scaled_denominator numerator _ (Nat.pos_of_ne_zero positive) exponent
    have notBelow := (@div_lt_pow_iff (scaled numerator denominator exponent).1 _ divisor 52).not
    rw [scaled_value, div_lt_iff₀ (zpow_positive exponent), ← zpow_natCast,
      ← zpow_add₀ two_ne_zero] at notBelow
    exact (not_lt.mp (notBelow.mpr (not_lt.mpr greater))).trans (le_roundQuotient _ _)
  -- The quotient is below a power of two of which a significand of 53 digits is half or more.
  have outgrows {found : Nat} {power : Int} (wide : Nat.pow 2 52 ≤ found)
      (within : exponent ≤ power) : (numerator / denominator : ℚ) < 2 * (found * 2 ^ power) := by
    have wide : (2 : ℚ) ^ (52 : Int) ≤ found := by
      rw [show (52 : Int) = ((52 : Nat) : Int) from rfl, zpow_natCast, ← pow_cast]
      exact_mod_cast wide
    calc (numerator / denominator : ℚ)
        < 2 ^ (53 + exponent) := smaller
      _ = 2 * (2 ^ (52 : Int) * 2 ^ exponent) := by
          rw [← zpow_add₀ two_ne_zero, ← zpow_one_add₀ two_ne_zero]
          congr 1
          omega
      _ ≤ 2 * (found * 2 ^ power) := by
          have powers := zpow_le_zpow_right₀ (one_le_two (α := ℚ)) within
          have products := mul_le_mul wide powers (zpow_positive _).le (Nat.cast_nonneg found)
          linarith
  split
  · split
    · exact .inl rfl
    · exact .inr ⟨_, _, rfl, outgrows (Nat.le_refl _) (by omega)⟩
  · split
    · exact .inl rfl
    · exact .inr ⟨_, _, rfl, outgrows wide (Int.le_refl _)⟩

def ampleLeast : ℚ := 2 ^ (leastExponent + 53)

theorem Amounts.double {x : Binary64} {v : WithTop ℚ} (h : x.Amounts v) (ample : ↑ampleLeast ≤ v) :
    ∃ w, x.double.Amounts w ∧ v ≤ w := by
  cases h with
  | infinity => exact ⟨⊤, .infinity, le_rfl⟩
  | finite significand exponent =>
      have ample : ampleLeast ≤ significand * 2 ^ exponent := WithTop.coe_le_coe.mp ample
      have least : (0 : ℚ) < ampleLeast := zpow_positive _
      have value := quotient_value (2 * significand) exponent
      rw [Nat.cast_mul, Nat.cast_ofNat, mul_assoc] at value
      have nonzero : (quotient (2 * significand) exponent).1 ≠ 0 := by
        intro zero
        rw [zero, Nat.cast_zero, zero_div] at value
        linarith
      have normal : (2 : ℚ) ^ (leastExponent + 53) ≤ (quotient (2 * significand) exponent).1 /
          (quotient (2 * significand) exponent).2 := by
        rw [value]
        exact ample.trans (by linarith)
      rcases ofQuotient_grows nonzero (quotient_denominator _ _).ne' normal with
        infinite | ⟨found, power, doubled, grows⟩
      · have doubled : (Binary64.finite false significand exponent).double = .infinity false := infinite
        exact ⟨⊤, doubled ▸ .infinity, le_top⟩
      · have doubled : (Binary64.finite false significand exponent).double = .finite false found power :=
          doubled
        rw [value] at grows
        refine ⟨_, doubled ▸ Amounts.finite found power, WithTop.coe_le_coe.mpr ?_⟩
        linarith

/-- It is no number, or one that is far enough from zero. -/
def Ample (x : Binary64) : Prop := x = .nan ∨ ∃ v, x.Amounts v ∧ ↑ampleLeast ≤ v

theorem Ample.double {x : Binary64} (h : x.Ample) : x.double.Ample ∧ x.double.lt x = false := by
  rcases h with rfl | ⟨v, value, ample⟩
  · exact ⟨.inl rfl, rfl⟩
  · obtain ⟨w, doubled, grows⟩ := value.double ample
    refine ⟨.inr ⟨w, doubled, ample.trans grows⟩, Bool.eq_false_iff.mpr fun less => ?_⟩
    exact absurd ((doubled.lt_iff value).mp less) (not_lt.mpr grows)

theorem negative_lt (significand : Nat) (exponent : Int) {other : Nat} {power : Int}
    (above : (0 : ℚ) < other * 2 ^ power) :
    (finite true significand exponent).lt (finite false other power) = true := by
  have nonzero : (quotient other power).1 ≠ 0 := by
    intro zero
    rw [← quotient_value, zero, Nat.cast_zero, zero_div] at above
    exact lt_irrefl 0 above
  have first : (finite true significand exponent).ratio? =
      some (-((quotient significand exponent).1 : Int), (quotient significand exponent).2) := rfl
  have product : (0 : Int) <
      (quotient other power).1 * ((quotient significand exponent).2 : Int) :=
    Int.mul_pos (Int.natCast_pos.mpr (Nat.pos_of_ne_zero nonzero))
      (Int.natCast_pos.mpr (quotient_denominator significand exponent))
  have negated :
      -((quotient significand exponent).1 : Int) * ((quotient other power).2 : Int) ≤ 0 :=
    mul_nonpos_of_nonpos_of_nonneg (by omega) (by omega)
  simp only [Binary64.lt, Binary64.le, isNan, first, ratio?_finite]
  simpa using negated.trans_lt product

theorem ample_of_not_lt {x least : Binary64} {v : ℚ} (floor : least.Amounts v)
    (ample : ampleLeast ≤ v) (h : x.lt least = false) : x.Ample := by
  have above : 0 < v := (zpow_positive _).trans_le ample
  generalize same : (v : WithTop ℚ) = w at floor
  cases floor with
  | infinity => cases same
  | finite other power =>
      obtain rfl := WithTop.coe_injective same
      cases x with
      | nan => exact .inl rfl
      | infinity negative =>
          cases negative with
          | false => exact .inr ⟨⊤, .infinity, le_top⟩
          | true => cases h
      | finite negative significand exponent =>
          cases negative with
          | false =>
              have notLess := (finite_lt_iff significand other exponent power).not.mp
                (Bool.eq_false_iff.mp h)
              exact .inr ⟨_, .finite significand exponent,
                WithTop.coe_le_coe.mpr (ample.trans (not_lt.mp notLess))⟩
          | true =>
              rw [negative_lt significand exponent above] at h
              cases h

end Binary64

namespace Seconds

open Binary64

variable {a b : Seconds} {v w : ℚ}

/-- The length is this many seconds. A binary number is one of the format, and none below zero. -/
inductive Lasts : Seconds → ℚ → Prop
  | whole (n : Int) : Lasts (.whole n) n
  | float {significand : Nat} {exponent : Int} (format : InFormat significand exponent) :
      Lasts (.float (.finite false significand exponent)) (significand * 2 ^ exponent)

theorem Lasts.lt_iff (first : a.Lasts v) (second : b.Lasts w) : a.lt b = true ↔ v < w := by
  cases first with
  | whole n =>
      cases second with
      | whole m => simp [lt]
      | @float significand exponent format =>
          have compare := @cross_lt (quotient significand exponent).1 n _ 1
            (quotient_denominator significand exponent) Nat.one_pos
          rw [Int.cast_natCast, quotient_value] at compare
          simpa [lt, ratio?_finite] using compare
  | @float significand exponent format =>
      cases second with
      | whole m =>
          have compare := @cross_lt m (quotient significand exponent).1 1 _ Nat.one_pos
            (quotient_denominator significand exponent)
          rw [Int.cast_natCast, quotient_value] at compare
          simpa [lt, ratio?_finite] using compare
      | @float other power format => exact finite_lt_iff significand other exponent power

theorem Lasts.least (first : a.Lasts v) (second : b.Lasts w) : (a.least b).Lasts (min v w) := by
  unfold Seconds.least
  split
  · rename_i below
    rw [min_eq_right ((second.lt_iff first).mp below).le]
    exact second
  · rename_i notBelow
    rw [min_eq_left (not_lt.mp ((second.lt_iff first).not.mp notBelow))]
    exact first

theorem Lasts.lt_infinity (h : b.Lasts w) : b.lt (.float (.infinity false)) = true := by
  cases h with
  | whole n => rfl
  | float format => rfl

theorem Lasts.double (h : a.Lasts v) (above : 0 < v) :
    a.double.Lasts (2 * v) ∨ (∃ x, a = .float x) ∧ a.double = .float (.infinity false) ∧
      (2 : ℚ) ^ (1024 : Int) ≤ 2 * v := by
  cases h with
  | whole n =>
      have twice : ((2 * n : Int) : ℚ) = 2 * n := by push_cast; rfl
      exact .inl (twice ▸ .whole (2 * n))
  | @float significand exponent format =>
      have nonzero : significand ≠ 0 := by
        rintro rfl
        simp at above
      rcases double_exact format nonzero with ⟨found, power, doubled, fits, value⟩ | ⟨infinite, great⟩
      · left
        rw [← value, Seconds.double, doubled]
        exact .float fits
      · exact .inr ⟨⟨_, rfl⟩, congrArg Seconds.float infinite, great⟩

/-- Doubling stays exact up to this ceiling: the length is a whole number, or the ceiling is in the
range of binary numbers. -/
def ExactBelow (a : Seconds) (ceiling : ℚ) : Prop :=
  (∃ n, a = .whole n) ∨ ceiling < 2 ^ (1024 : Int)

theorem Lasts.exactBelow (h : b.Lasts w) : b.ExactBelow w := by
  cases h with
  | whole n => exact .inl ⟨n, rfl⟩
  | float format => exact .inr format.below

theorem Lasts.double_least (h : a.Lasts v) (ceiling : b.Lasts w) (above : 0 < v)
    (exact : a.ExactBelow w) :
    (a.double.least b).Lasts (min (2 * v) w) ∧ (a.double.least b).ExactBelow w := by
  rcases h.double above with doubled | ⟨⟨x, rfl⟩, infinite, great⟩
  · refine ⟨doubled.least ceiling, ?_⟩
    rcases exact with ⟨n, rfl⟩ | range
    · unfold Seconds.least
      split
      · exact ceiling.exactBelow
      · exact .inl ⟨2 * n, rfl⟩
    · exact .inr range
  · rcases exact with ⟨n, ⟨⟩⟩ | range
    rw [infinite, Seconds.least, if_pos ceiling.lt_infinity, min_eq_right (range.le.trans great)]
    exact ⟨ceiling, .inr range⟩

end Seconds

end LedgerFeed
