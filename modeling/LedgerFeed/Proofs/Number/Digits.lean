import Mathlib.Algebra.Group.Nat.Defs
import Mathlib.Data.List.Induction
import LedgerFeed.Number.Text

namespace LedgerFeed

theorem isDigit_iff {c : Char} : isDigit c = true ↔ c.isDigit = true := by
  simp only [isDigit, Char.isDigit, Bool.and_eq_true, decide_eq_true_eq]
  rfl

theorem isDigit_of_mem_natDigits {n : Nat} {c : Char} (h : c ∈ natDigits n) :
    isDigit c = true :=
  isDigit_iff.mpr (Nat.isDigit_of_mem_toDigits (by decide) (by decide) h)

theorem natDigits_ne_nil (n : Nat) : natDigits n ≠ [] := Nat.toDigits_ne_nil

theorem natDigits_of_lt {n : Nat} (h : n < 10) : natDigits n = [n.digitChar] :=
  Nat.toDigits_of_lt_base h

theorem natDigits_of_le {n : Nat} (h : 10 ≤ n) :
    natDigits n = natDigits (n / 10) ++ [(n % 10).digitChar] :=
  Nat.toDigits_of_base_le (by decide) h

theorem digitValue_digitChar {n : Nat} (h : n < 10) : digitValue n.digitChar = n :=
  Nat.toNat_digitChar_sub_48_of_lt_ten h

theorem ofDigits_append_single (digits : List Char) (c : Char) :
    ofDigits (digits ++ [c]) = 10 * ofDigits digits + digitValue c := by
  simp [ofDigits]

theorem ofDigits_natDigits (n : Nat) : ofDigits (natDigits n) = n := by
  induction n using Nat.strongRecOn with
  | ind n ih =>
      by_cases h : n < 10
      · rw [natDigits_of_lt h]
        simpa [ofDigits] using digitValue_digitChar h
      · have hle : 10 ≤ n := by omega
        rw [natDigits_of_le hle, ofDigits_append_single, ih (n / 10) (by omega),
          digitValue_digitChar (Nat.mod_lt n (by decide))]
        omega

def readInt (text : List Char) : Int :=
  signed (splitSign text).1 (ofDigits (splitSign text).2)

theorem splitSign_natDigits (n : Nat) : splitSign (natDigits n) = (false, natDigits n) := by
  unfold splitSign
  split
  case h_3 => rfl
  all_goals
    rename_i signed
    exact absurd (isDigit_of_mem_natDigits (signed ▸ List.mem_cons_self)) (by decide)

theorem readInt_intDigits (n : Int) : readInt (intDigits n) = n := by
  unfold intDigits readInt
  split
  · simp only [splitSign, ofDigits_natDigits, signed, ↓reduceIte]
    omega
  · simp only [splitSign_natDigits, ofDigits_natDigits, signed, Bool.false_eq_true, ↓reduceIte]
    omega

theorem natDigits_head (n : Nat) :
    natDigits n = ['0'] ∨ ∃ c rest, natDigits n = c :: rest ∧ c ≠ '0' := by
  induction n using Nat.strongRecOn with
  | ind n ih =>
      by_cases h : n < 10
      · rw [natDigits_of_lt h]
        by_cases hz : n = 0
        · subst hz
          exact .inl rfl
        · exact .inr ⟨_, [], rfl, by simpa using hz⟩
      · have hle : 10 ≤ n := by omega
        rw [natDigits_of_le hle]
        rcases ih (n / 10) (by omega) with hzero | ⟨c, rest, hcons, hc⟩
        · have value := ofDigits_natDigits (n / 10)
          rw [hzero] at value
          have : n / 10 = 0 := value.symm
          omega
        · exact .inr ⟨c, rest ++ [(n % 10).digitChar], by rw [hcons]; rfl, hc⟩

theorem length_natDigits_le {n : Nat} :
    (natDigits n).length ≤ digitLimit ↔ n < Nat.pow 10 digitLimit := by
  have positive : 0 < digitLimit := by decide
  generalize digitLimit = limit at positive ⊢
  exact Nat.length_toDigits_le_iff (by decide) positive

theorem exceedsDigitLimit_false {n : Int} :
    exceedsDigitLimit n = false ↔ (natDigits n.natAbs).length ≤ digitLimit := by
  rw [length_natDigits_le]
  unfold exceedsDigitLimit
  generalize digitLimit = limit
  simp only [decide_eq_false_iff_not, ge_iff_le, Nat.not_le]

theorem natAbs_signed (negative : Bool) (n : Nat) : (signed negative n).natAbs = n := by
  cases negative <;> simp [signed]

theorem digitValue_lt {c : Char} (h : isDigit c = true) : digitValue c < 10 := by
  simp only [isDigit, Bool.and_eq_true, decide_eq_true_eq] at h
  have upper : c.toNat ≤ '9'.toNat := h.2
  have : '9'.toNat = 57 := rfl
  have : '0'.toNat = 48 := rfl
  unfold digitValue
  omega

theorem ofDigits_lt {digits : List Char} (h : ∀ c ∈ digits, isDigit c = true) :
    ofDigits digits < 10 ^ digits.length := by
  induction digits using List.reverseRecOn with
  | nil => simp [ofDigits]
  | append_singleton digits c ih =>
      have before := ih fun d hd => h d (List.mem_append_left _ hd)
      have last := digitValue_lt (h c (by simp))
      rw [ofDigits_append_single, List.length_append, List.length_singleton, Nat.pow_succ]
      omega

end LedgerFeed
