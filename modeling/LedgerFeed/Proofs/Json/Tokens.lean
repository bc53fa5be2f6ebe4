import Mathlib.Data.List.TakeWhile
import Mathlib.Tactic.SplitIfs
import LedgerFeed.Proofs.Characters.Hex
import LedgerFeed.Proofs.Number.Digits
import LedgerFeed.Json.Reader
import LedgerFeed.Json.Writer

namespace LedgerFeed.Json

/-! ## Numbers -/

theorem takeWhile_digits {digits : List Char} (h : ∀ c ∈ digits, isDigit c = true) :
    digits.takeWhile isDigit = digits ∧ digits.dropWhile isDigit = [] :=
  ⟨List.takeWhile_eq_self_iff.mpr h, List.dropWhile_eq_nil_iff.mpr h⟩

theorem wholePart_natDigits (n : Nat) : wholePart? (natDigits n) = some (natDigits n, []) := by
  rcases natDigits_head n with hzero | ⟨c, tail, hcons, hc⟩
  · rw [hzero]
    rfl
  · have hdigits : ∀ d ∈ c :: tail, isDigit d = true := fun d hd =>
      isDigit_of_mem_natDigits (hcons ▸ hd)
    obtain ⟨htake, hdrop⟩ := takeWhile_digits fun d hd => hdigits d (List.mem_cons_of_mem c hd)
    rw [hcons, wholePart?.eq_2 _ _ (fun h => hc h)]
    rw [if_pos (hdigits c List.mem_cons_self), htake, hdrop]

theorem signed_natAbs (n : Int) : signed (decide (n < 0)) n.natAbs = n := by
  unfold signed
  split
  · rename_i negative
    have below := of_decide_eq_true negative
    omega
  · rename_i positive
    have above : ¬ n < 0 := fun below => positive (decide_eq_true below)
    omega

theorem readNumeral_intDigits {n : Int} (hn : exceedsDigitLimit n = false) :
    readNumeral (intDigits n) = .ok (.int n, []) := by
  have limit : ¬ (natDigits n.natAbs).length > digitLimit :=
    Nat.not_lt.mpr (exceedsDigitLimit_false.mp hn)
  have value := signed_natAbs n
  by_cases hneg : n < 0
  · rw [intDigits, if_pos hneg]
    unfold readNumeral
    simp only [wholePart_natDigits, fractionPart, exponentPart, ofDigits_natDigits]
    simp only [hneg, decide_true] at value
    rw [if_pos ⟨rfl, rfl⟩, if_neg limit, value]
  · have unsigned : ∀ tail, natDigits n.natAbs ≠ '-' :: tail := by
      intro tail h
      have digit := isDigit_of_mem_natDigits (h ▸ List.mem_cons_self : '-' ∈ natDigits n.natAbs)
      cases digit
    rw [intDigits, if_neg hneg]
    unfold readNumeral
    split
    rename_i negative text hsign
    split at hsign
    · rename_i tail htail
      exact absurd htail (unsigned tail)
    · cases hsign
      simp only [wholePart_natDigits, fractionPart, exponentPart, ofDigits_natDigits]
      simp only [hneg, decide_false] at value
      rw [if_pos ⟨rfl, rfl⟩, if_neg limit, value]

def EndsNumber (rest : Text) : Prop := ∀ c, rest.head? = some (.char c) → inNumber c = false

theorem splitNumeral_ends {rest : Text} (h : EndsNumber rest) : splitNumeral rest = ([], rest) := by
  unfold splitNumeral
  split
  · rename_i c _
    rw [if_neg (by simp [h c rfl])]
  · rfl

theorem splitNumeral_append {run : List Char} (h : ∀ c ∈ run, inNumber c = true) (rest : Text) :
    splitNumeral (.ofChars run ++ rest) =
      (run ++ (splitNumeral rest).1, (splitNumeral rest).2) := by
  induction run with
  | nil => rfl
  | cons c run ih =>
      rw [Text.ofChars_cons, List.cons_append, splitNumeral, if_pos (h c List.mem_cons_self),
        ih fun d hd => h d (List.mem_cons_of_mem c hd)]
      rfl

theorem readNumber_append {run : List Char} (h : ∀ c ∈ run, inNumber c = true) (rest : Text) :
    readNumber (.ofChars run ++ rest) =
      (readNumeral (run ++ (splitNumeral rest).1)).map fun found =>
        (found.1, .ofChars found.2 ++ (splitNumeral rest).2) := by
  rw [readNumber, splitNumeral_append h]

theorem inNumber_digit {c : Char} (h : isDigit c = true) : inNumber c = true := by
  simp [inNumber, h]

theorem inNumber_intDigits {n : Int} : ∀ c ∈ intDigits n, inNumber c = true := by
  intro c hc
  have digit : ∀ c ∈ natDigits n.natAbs, inNumber c = true := fun c hc =>
    inNumber_digit (isDigit_of_mem_natDigits hc)
  unfold intDigits at hc
  split at hc
  · rcases List.mem_cons.mp hc with rfl | hc
    · rfl
    · exact digit c hc
  · exact digit c hc

theorem readNumber_intDigits {n : Int} (hn : exceedsDigitLimit n = false) {rest : Text}
    (hr : EndsNumber rest) : readNumber (.ofChars (intDigits n) ++ rest) = .ok (.int n, rest) := by
  rw [readNumber_append inNumber_intDigits, splitNumeral_ends hr, List.append_nil,
    readNumeral_intDigits hn]
  rfl

/-! ## Strings -/

theorem hexCode_control {code : Nat} (h : code < 0x20) :
    hexCode 4 code = [hexDigit 0, hexDigit 0, hexDigit (code / 16), hexDigit code] := by
  have codes : ∀ code < 0x20,
      hexCode 4 code = [hexDigit 0, hexDigit 0, hexDigit (code / 16), hexDigit code] := by decide
  exact codes code h

theorem fourDigits_hexCode {code : Nat} (h : code < 0x20) (rest : Text) :
    fourDigits? (.ofChars (hexCode 4 code) ++ rest) = some (code, rest) := by
  rw [hexCode_control h]
  simp only [Text.ofChars_cons, Text.ofChars_nil, List.cons_append, List.nil_append, fourDigits?,
    hexValue_hexDigit]
  congr 2
  omega

theorem ofUnit_alone {unit : Nat} (high : isHighHalf unit = false) (low : isLowHalf unit = false) :
    ofUnit unit = .char (Char.ofNat unit) := by
  simp only [isHighHalf, isLowHalf, Bool.and_eq_false_iff, decide_eq_false_iff_not] at high low
  exact dif_neg (by omega)

theorem ofUnit_code (place : Fin 0x800) : ofUnit (Letter.half place).code = .half place := by
  have within : 0xd800 ≤ (Letter.half place).code ∧ (Letter.half place).code ≤ 0xdfff := by
    simp only [Letter.code]
    omega
  rw [ofUnit, dif_pos within]
  simp [Letter.code]

theorem ofUnit_half {unit : Nat} (half : isHighHalf unit = true ∨ isLowHalf unit = true) :
    ∃ place, ofUnit unit = .half place ∧ (Letter.half place).code = unit := by
  simp only [isHighHalf, isLowHalf, Bool.and_eq_true, decide_eq_true_eq] at half
  obtain ⟨place, rfl⟩ : ∃ place : Fin 0x800, (Letter.half place).code = unit := by
    refine ⟨⟨unit - 0xd800, by omega⟩, ?_⟩
    simp only [Letter.code]
    omega
  exact ⟨place, ofUnit_code place, rfl⟩

theorem not_half_of_lt {unit : Nat} (h : unit < 0x20) :
    isHighHalf unit = false ∧ isLowHalf unit = false := by
  simp only [isHighHalf, isLowHalf, Bool.and_eq_false_iff, decide_eq_false_iff_not]
  omega

theorem readUnicode_control {c : Char} (h : c.toNat < 0x20) {rest : Text} (hr : rest ≠ []) :
    readUnicode (.ofChars (hexCode 4 c.toNat) ++ rest) = .ok (.char c, rest) := by
  obtain ⟨high, low⟩ := not_half_of_lt h
  have long : ¬ (Text.ofChars (hexCode 4 c.toNat) ++ rest).length ≤ 4 := by
    rw [hexCode_control h]
    have := List.length_pos_iff.mpr hr
    simp only [Text.ofChars_cons, Text.ofChars_nil, List.cons_append, List.nil_append,
      List.length_cons]
    omega
  simp only [readUnicode, readUnit, long, ↓reduceIte, fourDigits_hexCode h, high,
    ofUnit_alone high low, Char.ofNat_toNat]

theorem readString_plain {letter : Letter} (visible : 0x20 ≤ letter.code) (noQuote : letter ≠ '"')
    (noSlash : letter ≠ '\\') (rounds : Nat) (rest : Text) :
    readString (rounds + 1) (letter :: rest) =
      (readString rounds rest).map fun (text, rest) => (letter :: text, rest) := by
  rw [readString.eq_def]
  split
  case h_7 same_rounds same_text =>
    cases same_rounds
    cases same_text
    rw [if_neg (Nat.not_lt.mpr visible)]
  all_goals simp_all

theorem readString_escape (c : Char) (rounds : Nat) {rest : Text} (hr : rest ≠ []) :
    readString (rounds + 1) (escapeChar false c ++ rest) =
      (readString rounds rest).map fun (text, rest) => (.char c :: text, rest) := by
  unfold escapeChar
  split_ifs with hquote hslash hline hreturn htab hback hfeed hcontrol
  · subst hquote
    rfl
  · subst hslash
    rfl
  · subst hline
    rfl
  · subst hreturn
    rfl
  · subst htab
    rfl
  · subst hback
    rfl
  · subst hfeed
    rfl
  · simp only [unicodeEscape, List.cons_append]
    rw [readString, readUnicode_control hcontrol hr]
  · rename_i hascii
    cases hascii
  · have visible : 0x20 ≤ (Letter.char c).code := Nat.not_lt.mp hcontrol
    exact readString_plain visible (by simpa using hquote) (by simpa using hslash) rounds rest

theorem readString_letter (letter : Letter) (rounds : Nat) {rest : Text} (hr : rest ≠ []) :
    readString (rounds + 1) (escapeLetter false letter ++ rest) =
      (readString rounds rest).map fun (text, rest) => (letter :: text, rest) := by
  cases letter with
  | char c => exact readString_escape c rounds hr
  | half place =>
      have visible : 0x20 ≤ (Letter.half place).code := by
        simp only [Letter.code]
        omega
      exact readString_plain visible (by simp) (by simp) rounds rest

theorem readString_text (text : Text) {rounds : Nat} (h : text.length < rounds) (rest : Text) :
    readString rounds (text.flatMap (escapeLetter false) ++ .char '"' :: rest) =
      .ok (text, rest) := by
  induction text generalizing rounds with
  | nil =>
      obtain ⟨r, rfl⟩ : ∃ r, rounds = r + 1 := ⟨rounds - 1, by omega⟩
      rfl
  | cons letter tail ih =>
      obtain ⟨r, rfl⟩ : ∃ r, rounds = r + 1 := ⟨rounds - 1, by omega⟩
      rw [List.flatMap_cons, List.append_assoc, readString_letter letter r (by simp),
        ih (by simpa using h)]
      rfl

end LedgerFeed.Json
