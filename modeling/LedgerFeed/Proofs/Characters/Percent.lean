import Mathlib.Data.List.Basic
import LedgerFeed.Proofs.Characters.Hex
import LedgerFeed.Proofs.Characters.Utf8

namespace LedgerFeed

def isAscii (c : Char) : Bool := c.toNat < 0x80

def isAsciiOctet (octet : UInt8) : Bool := octet.toNat < 0x80

/-! ## ASCII in octets -/

namespace Utf8

theorem isAscii_ofNat {n : Nat} (valid : n.isValidChar) (high : 0x80 ≤ n) :
    isAscii (Char.ofNat n) = false := by
  have code : (Char.ofNat n).toNat = n := by
    rw [Char.ofNat, dif_pos valid]
    rfl
  simp only [isAscii, code, decide_eq_false_iff_not]
  omega

theorem join_two {n : Nat} (first : 0xc2 ≤ n ∧ n ≤ 0xdf) (b : UInt8) :
    isAscii (Char.ofNat (join (n % 0x20) b)) = false := by
  unfold join
  apply isAscii_ofNat
  · exact .inl (by omega)
  · omega

theorem join_three {n : Nat} (first : 0xe0 ≤ n ∧ n ≤ 0xef) {b : UInt8}
    (second : inRange (secondRange n).1 (secondRange n).2 b = true) (c : UInt8) :
    isAscii (Char.ofNat (join (join (n % 0x10) b) c)) = false := by
  have bounds := join_three_bounds first second c
  apply isAscii_ofNat
  · unfold Nat.isValidChar
    omega
  · omega

theorem join_four {n : Nat} (first : 0xf0 ≤ n ∧ n ≤ 0xf4) {b : UInt8}
    (second : inRange (secondRange n).1 (secondRange n).2 b = true) (c d : UInt8) :
    isAscii (Char.ofNat (join (join (join (n % 0x08) b) c) d)) = false := by
  have bounds := join_four_bounds first second c d
  apply isAscii_ofNat
  · unfold Nat.isValidChar
    omega
  · omega

theorem front_ascii (first : UInt8) (rest : List UInt8) :
    (isAsciiOctet first = true ∧ ∃ c, front first rest = .character c rest) ∨
      (isAsciiOctet first = false ∧ ∃ skipped after, rest = skipped ++ after ∧
        (front first rest = .broken after ∨
          ∃ c, isAscii c = false ∧ front first rest = .character c after)) := by
  by_cases ascii : first.toNat < 0x80
  · refine .inl ⟨by simpa [isAsciiOctet] using ascii, ?_⟩
    unfold front
    simp [ascii]
  · refine .inr ⟨by simpa [isAsciiOctet] using ascii, ?_⟩
    have broken : ∃ skipped after, rest = skipped ++ after ∧
        (Front.broken rest = .broken after ∨
          ∃ c, isAscii c = false ∧ Front.broken rest = .character c after) :=
      ⟨[], rest, rfl, .inl rfl⟩
    -- By the width that the first octet announces, then by how many octets there are for it.
    unfold front
    dsimp only
    rw [if_neg ascii]
    split
    · rename_i two
      match rest, broken with
      | [], broken => exact broken
      | b :: after, broken =>
          dsimp only
          split
          · exact ⟨[b], after, rfl, .inr ⟨_, join_two two b, rfl⟩⟩
          · exact broken
    split
    · rename_i three
      match rest, broken with
      | [], broken => exact broken
      | [b], broken =>
          dsimp only
          split
          · exact ⟨[b], [], rfl, .inl rfl⟩
          · exact broken
      | b :: c :: after, broken =>
          dsimp only
          split
          · rename_i second
            split
            · exact ⟨[b, c], after, rfl, .inr ⟨_, join_three three second c, rfl⟩⟩
            · exact ⟨[b], c :: after, rfl, .inl rfl⟩
          · exact broken
    split
    · rename_i four
      match rest, broken with
      | [], broken => exact broken
      | [b], broken =>
          dsimp only
          split
          · exact ⟨[b], [], rfl, .inl rfl⟩
          · exact broken
      | [b, c], broken =>
          dsimp only
          split
          · split
            · exact ⟨[b, c], [], rfl, .inl rfl⟩
            · exact ⟨[b], [c], rfl, .inl rfl⟩
          · exact broken
      | b :: c :: d :: after, broken =>
          dsimp only
          split
          · rename_i second
            split
            · split
              · exact ⟨[b, c, d], after, rfl, .inr ⟨_, join_four four second c d, rfl⟩⟩
              · exact ⟨[b, c], d :: after, rfl, .inl rfl⟩
            · exact ⟨[b], c :: d :: after, rfl, .inl rfl⟩
          · exact broken
    · exact broken

theorem countP_replaceWithin (rounds : Nat) (octets : List UInt8) :
    (replaceWithin rounds octets).countP isAscii ≤ octets.countP isAsciiOctet := by
  induction rounds generalizing octets with
  | zero => simp [replaceWithin]
  | succ rounds ih =>
      cases octets with
      | nil => simp [replaceWithin]
      | cons first rest =>
          unfold replaceWithin
          rcases front_ascii first rest with ⟨ascii, c, found⟩ | ⟨high, skipped, after, rfl, found⟩
          · have later := ih rest
            have one : (c :: replaceWithin rounds rest).countP isAscii ≤
                (replaceWithin rounds rest).countP isAscii + 1 := by
              rw [List.countP_cons]
              split <;> omega
            rw [found, List.countP_cons_of_pos ascii]
            dsimp only
            omega
          · have later := ih after
            rw [List.countP_cons_of_neg (by simp [high]), List.countP_append]
            rcases found with found | ⟨c, wide, found⟩
            · rw [found, List.countP_cons_of_neg (by decide)]
              omega
            · rw [found, List.countP_cons_of_neg (by simp [wide])]
              omega

theorem isAsciiOctet_tail (n : Nat) : isAsciiOctet (tail n) = false := by
  rw [isAsciiOctet, toNat_tail, decide_eq_false_iff_not]
  omega

theorem isAsciiOctet_octet {n : Nat} (low : 0x80 ≤ n) (high : n < 0x100) :
    isAsciiOctet (octet n) = false := by
  rw [isAsciiOctet, toNat_octet high, decide_eq_false_iff_not]
  omega

theorem countP_encodeChar (c : Char) :
    (encodeChar c).countP isAsciiOctet = if isAscii c then 1 else 0 := by
  have scalar : c.toNat < 0xd800 ∨ 0xdfff < c.toNat ∧ c.toNat < 0x110000 := c.valid
  by_cases ascii : c.toNat < 0x80
  · have one : isAsciiOctet (octet c.toNat) = true := by
      rw [isAsciiOctet, toNat_octet (by omega), decide_eq_true ascii]
    simp [encodeChar, ascii, isAscii, one]
  · have wide : ∀ octet ∈ encodeChar c, isAsciiOctet octet = false := by
      intro octet member
      unfold encodeChar at member
      dsimp only at member
      rw [if_neg ascii] at member
      split_ifs at member <;>
        simp only [List.mem_cons, List.not_mem_nil, or_false] at member
      · rcases member with rfl | rfl
        · exact isAsciiOctet_octet (by omega) (by omega)
        · exact isAsciiOctet_tail _
      · rcases member with rfl | rfl | rfl
        · exact isAsciiOctet_octet (by omega) (by omega)
        · exact isAsciiOctet_tail _
        · exact isAsciiOctet_tail _
      · rcases member with rfl | rfl | rfl | rfl
        · exact isAsciiOctet_octet (by omega) (by omega)
        · exact isAsciiOctet_tail _
        · exact isAsciiOctet_tail _
        · exact isAsciiOctet_tail _
    have none : (encodeChar c).countP isAsciiOctet = 0 := by
      rw [List.countP_eq_zero]
      intro octet member
      simp [wide octet member]
    simp [none, isAscii, ascii]

end Utf8

/-! ## Escapes -/

def unescapedOctets : List Char → List UInt8
  | [] => []
  | '%' :: a :: b :: rest =>
      match hexValue? a, hexValue? b with
      | some high, some low => UInt8.ofNat (16 * high + low) :: unescapedOctets rest
      | _, _ => Utf8.encodeChar '%' ++ unescapedOctets (a :: b :: rest)
  | c :: rest => Utf8.encodeChar c ++ unescapedOctets rest

def unescape (text : List Char) : List Char := Utf8.decodeReplacing (unescapedOctets text)

def HasEscape (text : List Char) : Prop :=
  ∃ before a b after, text = before ++ '%' :: a :: b :: after ∧
    isHexDigit a = true ∧ isHexDigit b = true

theorem hasEscape_cons {c : Char} {rest : List Char} :
    HasEscape (c :: rest) ↔
      (c = '%' ∧ ∃ a b after, rest = a :: b :: after ∧ isHexDigit a = true ∧ isHexDigit b = true) ∨
        HasEscape rest := by
  constructor
  · rintro ⟨before, a, b, after, same, ha, hb⟩
    cases before with
    | nil =>
        cases same
        exact .inl ⟨rfl, a, b, after, rfl, ha, hb⟩
    | cons first before =>
        cases same
        exact .inr ⟨before, a, b, after, rfl, ha, hb⟩
  · rintro (⟨rfl, a, b, after, rfl, ha, hb⟩ | ⟨before, a, b, after, rfl, ha, hb⟩)
    · exact ⟨[], a, b, after, rfl, ha, hb⟩
    · exact ⟨c :: before, a, b, after, rfl, ha, hb⟩

theorem isAscii_of_isHexDigit {c : Char} (h : isHexDigit c = true) : isAscii c = true := by
  simp only [isHexDigit, Bool.or_eq_true, Bool.and_eq_true, decide_eq_true_eq, Char.le_def,
    UInt32.le_iff_toNat_le] at h
  have code : c.toNat = c.val.toNat := rfl
  have nine : '9'.val.toNat = 57 := rfl
  have small : 'f'.val.toNat = 102 := rfl
  have large : 'F'.val.toNat = 70 := rfl
  rw [isAscii, decide_eq_true_eq]
  omega

theorem isHexDigit_of_hexValue {c : Char} {n : Nat} (h : hexValue? c = some n) :
    isHexDigit c = true := by
  rw [← isSome_hexValue?, h, Option.isSome_some]

theorem exists_hexValue {c : Char} (h : isHexDigit c = true) : ∃ n, hexValue? c = some n :=
  Option.isSome_iff_exists.mp ((isSome_hexValue? c).trans h)

theorem hasEscape_percent {a b : Char} {rest : List Char}
    (other : ∀ high low, hexValue? a = some high → hexValue? b = some low → False)
    (h : HasEscape ('%' :: a :: b :: rest)) : HasEscape (a :: b :: rest) := by
  rcases hasEscape_cons.mp h with ⟨-, first, second, after, same, hfirst, hsecond⟩ | later
  · cases same
    obtain ⟨high, hhigh⟩ := exists_hexValue hfirst
    obtain ⟨low, hlow⟩ := exists_hexValue hsecond
    exact absurd hlow (other high low hhigh)
  · exact later

theorem hasEscape_other {c : Char} {rest : List Char}
    (other : ∀ a b after, c = '%' → rest = a :: b :: after → False)
    (h : HasEscape (c :: rest)) : HasEscape rest := by
  rcases hasEscape_cons.mp h with ⟨percent, a, b, after, same, -, -⟩ | later
  · exact (other a b after percent same).elim
  · exact later

def Shrinks (octets : List UInt8) (text : List Char) : Prop :=
  octets.countP isAsciiOctet ≤ text.countP isAscii ∧
    (HasEscape text → octets.countP isAsciiOctet < text.countP isAscii)

theorem Shrinks.keep {octets : List UInt8} {c : Char} {rest : List Char} (h : Shrinks octets rest)
    (kept : HasEscape (c :: rest) → HasEscape rest) :
    Shrinks (Utf8.encodeChar c ++ octets) (c :: rest) := by
  obtain ⟨least, fewer⟩ := h
  have first : (Utf8.encodeChar c ++ octets).countP isAsciiOctet =
      octets.countP isAsciiOctet + if isAscii c then 1 else 0 := by
    rw [List.countP_append, Utf8.countP_encodeChar, Nat.add_comm]
  unfold Shrinks
  rw [first, List.countP_cons]
  refine ⟨by omega, fun escaped => ?_⟩
  have := fewer (kept escaped)
  omega

theorem unescapedOctets_shrinks (text : List Char) : Shrinks (unescapedOctets text) text := by
  fun_induction unescapedOctets text with
  | case1 =>
      refine ⟨Nat.le_refl _, ?_⟩
      rintro ⟨before, a, b, after, same, -⟩
      cases before <;> cases same
  | case2 a b rest high low hb ha ih =>
      have one : (UInt8.ofNat (16 * high + low) :: unescapedOctets rest).countP isAsciiOctet ≤
          (unescapedOctets rest).countP isAsciiOctet + 1 := by
        rw [List.countP_cons]
        split <;> omega
      have three : ('%' :: a :: b :: rest).countP isAscii = rest.countP isAscii + 3 := by
        have percent : isAscii '%' = true := by decide
        simp [percent, isAscii_of_isHexDigit (isHexDigit_of_hexValue ha),
          isAscii_of_isHexDigit (isHexDigit_of_hexValue hb)]
      have least := ih.1
      exact ⟨by omega, fun _ => by omega⟩
  | case3 a b rest other ih => exact ih.keep (hasEscape_percent other)
  | case4 c rest other ih => exact ih.keep (hasEscape_other other)

theorem unescapedOctets_eq {text : List Char} (h : ¬ HasEscape text) :
    unescapedOctets text = Utf8.encode text := by
  have later {c : Char} {rest : List Char} (h : ¬ HasEscape (c :: rest)) : ¬ HasEscape rest :=
    fun escaped => h (hasEscape_cons.mpr (.inr escaped))
  fun_induction unescapedOctets text with
  | case1 => rfl
  | case2 a b rest high low hb ha ih =>
      exact absurd ⟨[], a, b, rest, rfl, isHexDigit_of_hexValue ha, isHexDigit_of_hexValue hb⟩ h
  | case3 a b rest other ih =>
      rw [ih (later h)]
      rfl
  | case4 c rest other ih =>
      rw [ih (later h)]
      rfl

theorem countP_unescape (text : List Char) :
    (unescape text).countP isAscii ≤ text.countP isAscii :=
  Nat.le_trans (Utf8.countP_replaceWithin _ _) (unescapedOctets_shrinks text).1

theorem unescape_eq_iff {text : List Char} : unescape text = text ↔ ¬ HasEscape text := by
  constructor
  · intro same escaped
    have fewer := (unescapedOctets_shrinks text).2 escaped
    have none := Utf8.countP_replaceWithin (unescapedOctets text).length (unescapedOctets text)
    rw [← Utf8.decodeReplacing, ← unescape, same] at none
    omega
  · intro plain
    rw [unescape, unescapedOctets_eq plain, Utf8.decodeReplacing_encode]

end LedgerFeed
