import LedgerFeed.Characters.Blank
import LedgerFeed.Characters.Hex

namespace LedgerFeed

def isHexDigit (c : Char) : Bool :=
  ('0' ≤ c && c ≤ '9') || ('a' ≤ c && c ≤ 'f') || ('A' ≤ c && c ≤ 'F')

theorem isSome_hexValue? (c : Char) : (hexValue? c).isSome = isHexDigit c := by
  unfold hexValue? isHexDigit
  split
  · simp [*]
  split
  · simp [*]
  split <;> simp_all

theorem hexValue_hexDigit (n : Nat) : hexValue? (hexDigit n) = some (n % 16) := by
  have digits : ∀ d < 16, hexValue? (Nat.digitChar d) = some d := by decide
  exact digits (n % 16) (Nat.mod_lt n (by decide))

theorem isHexDigit_hexDigit (n : Nat) : isHexDigit (hexDigit n) = true := by
  rw [← isSome_hexValue?, hexValue_hexDigit, Option.isSome_some]

theorem not_blank_of_isHexDigit {c : Char} (h : isHexDigit c = true) : isAsciiBlank c = false := by
  simp only [isHexDigit, Bool.or_eq_true, Bool.and_eq_true, decide_eq_true_eq, Char.le_def] at h
  simp only [isAsciiBlank, Bool.or_eq_false_iff, Bool.and_eq_false_iff, decide_eq_false_iff_not,
    Char.le_def, Char.ext_iff]
  grind

theorem readHex?_of_digits {digits : List Char} (h : ∀ c ∈ digits, isHexDigit c = true) {size : Nat}
    (length : digits.length = 2 * size) :
    ∃ octets, readHex? isAsciiBlank digits = some octets ∧ octets.length = size := by
  induction size generalizing digits with
  | zero =>
      cases List.length_eq_zero_iff.mp length
      exact ⟨[], rfl, rfl⟩
  | succ size ih =>
      match digits, length with
      | c :: d :: rest, length =>
          obtain ⟨hc, hd, hrest⟩ : isHexDigit c = true ∧ isHexDigit d = true ∧
            ∀ c ∈ rest, isHexDigit c = true := by simpa using h
          obtain ⟨octets, reads, count⟩ := ih hrest (by simp only [List.length_cons] at length; omega)
          obtain ⟨high, hhigh⟩ := Option.isSome_iff_exists.mp ((isSome_hexValue? c).trans hc)
          obtain ⟨low, hlow⟩ := Option.isSome_iff_exists.mp ((isSome_hexValue? d).trans hd)
          refine ⟨UInt8.ofNat (16 * high + low) :: octets, ?_, by simp [count]⟩
          simp [readHex?, not_blank_of_isHexDigit hc, hhigh, hlow, reads]

theorem length_of_readHex? {blank : Char → Bool} {text : List Char} {octets : List UInt8}
    (h : readHex? blank text = some octets) :
    2 * octets.length ≤ text.length ∧
      (text.length = 2 * octets.length → ∀ c ∈ text, isHexDigit c = true) := by
  fun_induction readHex? blank text generalizing octets with
  | case1 =>
      cases h
      simp
  | case2 =>
      cases h
      simp
  | case3 => cases h
  | case4 c d rest skips ih =>
      obtain ⟨bound, -⟩ := ih h
      simp only [List.length_cons] at bound ⊢
      exact ⟨by omega, fun length => by omega⟩
  | case5 c d rest reads high low hhigh hlow ih =>
      obtain ⟨others, readsRest, rfl⟩ := Option.map_eq_some_iff.mp h
      obtain ⟨bound, digits⟩ := ih readsRest
      simp only [List.length_cons, List.forall_mem_cons, ← isSome_hexValue?, hhigh, hlow]
        at bound digits ⊢
      exact ⟨by omega, fun length => ⟨rfl, rfl, digits (by omega)⟩⟩
  | case6 => cases h

theorem readHex?_writeHex (octets : List UInt8) :
    readHex? isAsciiBlank (writeHex octets) = some octets := by
  induction octets with
  | nil => rfl
  | cons octet rest ih =>
      have bound := octet.toNat_lt
      have whole : 16 * (octet.toNat / 16 % 16) + octet.toNat % 16 = octet.toNat := by omega
      simp only [writeHex, List.flatMap_cons, hexOctet, List.cons_append, List.nil_append, readHex?,
        not_blank_of_isHexDigit (isHexDigit_hexDigit _), hexValue_hexDigit]
      rw [← writeHex, ih, whole]
      simp

end LedgerFeed
