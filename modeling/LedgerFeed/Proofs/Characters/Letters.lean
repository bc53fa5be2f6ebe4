import Mathlib.Data.List.TakeWhile
import LedgerFeed.Characters.Blank
import LedgerFeed.Characters.Case
import LedgerFeed.Proofs.Characters.Utf8

namespace LedgerFeed

/-! ## Blanks around a text -/

def Blank (text : Text) : Prop := ∀ letter ∈ text, letter.isIn isBlank = true

theorem blank_reverse {text : Text} : Blank text.reverse ↔ Blank text := by simp [Blank]

theorem dropWhile_padded {before text : Text} (inFront : Blank before)
    (solid : ∀ letter ∈ text, letter.isIn isBlank = false) (nonempty : text ≠ []) (rest : Text) :
    (before ++ (text ++ rest)).dropWhile (Letter.isIn isBlank) = text ++ rest := by
  rw [List.dropWhile_append_of_pos inFront]
  cases text with
  | nil => exact absurd rfl nonempty
  | cons letter text => simp [solid letter List.mem_cons_self]

theorem trim_padded {before text after : Text} (inFront : Blank before) (behind : Blank after)
    (solid : ∀ letter ∈ text, letter.isIn isBlank = false) (nonempty : text ≠ []) :
    trim (before ++ text ++ after) = text := by
  have front := dropWhile_padded inFront solid nonempty after
  have solidBack : ∀ letter ∈ text.reverse, letter.isIn isBlank = false := by simpa using solid
  have back := dropWhile_padded (blank_reverse.mpr behind) solidBack
    (List.reverse_ne_nil_iff.mpr nonempty) []
  rw [List.append_nil, ← List.reverse_append] at back
  rw [trim, trimWith, List.append_assoc, front, back, List.reverse_reverse]

theorem exists_padding (text : Text) :
    ∃ before after, text = before ++ trim text ++ after ∧ Blank before ∧ Blank after := by
  let solid := text.dropWhile (Letter.isIn isBlank)
  refine ⟨text.takeWhile (Letter.isIn isBlank),
    (solid.reverse.takeWhile (Letter.isIn isBlank)).reverse, ?_,
    fun letter listed => List.mem_takeWhile_imp listed,
    blank_reverse.mpr fun letter listed => List.mem_takeWhile_imp listed⟩
  have back := congrArg List.reverse
    (List.takeWhile_append_dropWhile (p := Letter.isIn isBlank) (l := solid.reverse))
  rw [List.reverse_append, List.reverse_reverse] at back
  rw [trim, trimWith, List.append_assoc, back, List.takeWhile_append_dropWhile]

theorem trim_eq_nil {text : Text} : trim text = [] ↔ Blank text := by
  constructor
  · intro empty
    obtain ⟨before, after, padded, inFront, behind⟩ := exists_padding text
    rw [empty, List.append_nil] at padded
    rw [padded]
    exact List.forall_mem_append.mpr ⟨inFront, behind⟩
  · intro blank
    rw [trim, trimWith, List.dropWhile_eq_nil_iff.mpr blank]
    rfl

/-! ## Small letters -/

def asciiForm (c : Char) : Char := if c = '\u212a' then 'k' else c.toLower

theorem lowerRuns_images : ∀ run ∈ lowerRuns,
    run.last < 128 ∨ run.first = 0x212a ∧ run.last = 0x212a ∨
      128 ≤ run.image ∧ run.image + (run.last - run.first) < 0x110000 ∧
        (run.image + (run.last - run.first) < 0xd800 ∨ 0xdfff < run.image) := by
  decide +kernel

theorem mapCase_of_lt : ∀ code < 128,
    mapCase lowerSequences lowerRuns (Char.ofNat code) = [asciiForm (Char.ofNat code)] := by
  decide +kernel

theorem toLower_eq_self {c : Char} (h : c.toNat < 65 ∨ 90 < c.toNat) : c.toLower = c := by
  unfold Char.toLower
  split
  · rename_i capital
    have : 65 ≤ c.toNat := capital.1
    have : c.toNat ≤ 90 := capital.2
    omega
  · rfl

theorem asciiForm_of_isBlank {c : Char} (h : isBlank c = true) : asciiForm c = c := by
  have apart : ∀ range ∈ blankRanges,
      (range.2 < 65 ∨ 90 < range.1) ∧ (range.2 < 0x212a ∨ 0x212a < range.1) := by decide
  obtain ⟨range, listed, within⟩ := List.any_eq_true.mp h
  simp only [Bool.and_eq_true, decide_eq_true_eq] at within
  have outside := apart range listed
  rw [asciiForm, if_neg, toLower_eq_self (by omega)]
  rintro rfl
  simp only [Char.reduceToNat] at within
  omega

theorem mapCase_cases (c : Char) :
    mapCase lowerSequences lowerRuns c = [asciiForm c] ∨
      128 ≤ (asciiForm c).toNat ∧ ∃ d ∈ mapCase lowerSequences lowerRuns c, 128 ≤ d.toNat := by
  by_cases ascii : c.toNat < 128
  · have small := mapCase_of_lt c.toNat ascii
    rw [Char.ofNat_toNat] at small
    exact .inl small
  by_cases kelvin : c = '\u212a'
  · subst kelvin
    exact .inl (by decide +kernel)
  have form : asciiForm c = c := by
    rw [asciiForm, if_neg kelvin, toLower_eq_self (by omega)]
  refine .inr ⟨by rw [form]; omega, ?_⟩
  unfold mapCase
  split
  · rename_i codes found
    obtain ⟨earlier, later, split, -⟩ := List.lookup_eq_some_iff.mp found
    have listed : (c.toNat, codes) ∈ lowerSequences := split ▸ by simp
    obtain ⟨-, rfl⟩ := Prod.mk.inj (List.mem_singleton.mp listed)
    exact ⟨Char.ofNat 0x307, by simp, by decide⟩
  · split
    · rename_i code found
      obtain ⟨run, listed, image⟩ := List.exists_of_findSome?_eq_some found
      unfold CaseRun.image? at image
      split at image
      · rename_i within
        cases image
        refine ⟨_, List.mem_singleton_self _, ?_⟩
        rcases lowerRuns_images run listed with low | ⟨first, last⟩ | high
        · omega
        · have code : c.toNat = ('\u212a').toNat := by
            simp only [Char.reduceToNat]
            omega
          exact absurd (Char.toNat_inj.mp code) kelvin
        · rw [Utf8.toNat_ofNat (by omega) (by omega)]
          omega
      · cases image
    · exact ⟨c, List.mem_singleton_self _, by omega⟩

theorem lowercase_chars {chars word : List Char} (ascii : ∀ c ∈ word, c.toNat < 128) :
    chars.flatMap (mapCase lowerSequences lowerRuns) = word ↔ chars.map asciiForm = word := by
  induction chars generalizing word with
  | nil => rfl
  | cons c chars ih =>
      rw [List.flatMap_cons, List.map_cons]
      rcases mapCase_cases c with same | ⟨apart, d, listed, foreign⟩
      · rw [same, List.singleton_append]
        cases word with
        | nil => simp
        | cons first word =>
            rw [List.cons.injEq, List.cons.injEq,
              ih fun c hc => ascii c (List.mem_cons_of_mem _ hc)]
      · -- Both sides have a character that is not in ASCII.
        constructor
        · rintro rfl
          have := ascii d (List.mem_append_left _ listed)
          omega
        · rintro rfl
          have := ascii _ List.mem_cons_self
          omega

theorem lowercase_ofChars (chars : List Char) :
    lowercase (.ofChars chars) = .ofChars (chars.flatMap (mapCase lowerSequences lowerRuns)) := by
  induction chars with
  | nil => rfl
  | cons c chars ih =>
      rw [Text.ofChars_cons, lowercase, List.flatMap_cons, ← lowercase, ih, lowerLetter,
        List.flatMap_cons, Text.ofChars_append]

theorem exists_chars_of_lowercase {text : Text} {word : List Char}
    (h : lowercase text = .ofChars word) : ∃ chars, text = .ofChars chars := by
  induction text generalizing word with
  | nil => exact ⟨[], rfl⟩
  | cons letter rest ih =>
      rw [lowercase, List.flatMap_cons, ← lowercase] at h
      obtain ⟨front, back, rfl, image, later⟩ := List.map_eq_append_iff.mp h.symm
      obtain ⟨chars, rfl⟩ := ih later.symm
      cases letter with
      | char c => exact ⟨c :: chars, rfl⟩
      | half place => cases front <;> simp [lowerLetter] at image

theorem lowercase_eq_iff {text : Text} {word : List Char} (ascii : ∀ c ∈ word, c.toNat < 128) :
    lowercase text = .ofChars word ↔ ∃ chars, text = .ofChars chars ∧ chars.map asciiForm = word := by
  constructor
  · intro h
    obtain ⟨chars, rfl⟩ := exists_chars_of_lowercase h
    rw [lowercase_ofChars, Text.ofChars_inj, lowercase_chars ascii] at h
    exact ⟨chars, rfl, h⟩
  · rintro ⟨chars, rfl, h⟩
    rw [lowercase_ofChars, Text.ofChars_inj, lowercase_chars ascii, h]

end LedgerFeed
