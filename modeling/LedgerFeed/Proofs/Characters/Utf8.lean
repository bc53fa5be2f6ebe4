import Mathlib.Tactic.SplitIfs
import LedgerFeed.Characters.Utf8

namespace LedgerFeed.Utf8

theorem toNat_octet {n : Nat} (h : n < 0x100) : (octet n).toNat = n := by
  rw [octet, UInt8.toNat_ofNat']
  exact Nat.mod_eq_of_lt h

theorem toNat_tail (n : Nat) : (tail n).toNat = 0x80 + n % 0x40 :=
  toNat_octet (by omega)

theorem inRange_tail (n : Nat) : inRange 0x80 0xbf (tail n) = true := by
  simp only [inRange, toNat_tail, Bool.and_eq_true, decide_eq_true_eq]
  omega

theorem join_tail {high n : Nat} (h : high = n / 0x40) : join high (tail n) = n := by
  unfold join
  rw [toNat_tail]
  omega

/-! ## One character -/

theorem front_one {n : Nat} (short : n < 0x80) (rest : List UInt8) :
    front (octet n) rest = .character (Char.ofNat n) rest := by
  have first : (octet n).toNat = n := toNat_octet (by omega)
  unfold front
  simp only [first, short, ↓reduceIte]

theorem front_two {n : Nat} (long : 0x80 ≤ n) (short : n < 0x800) (rest : List UInt8) :
    front (octet (0xc0 + n / 0x40)) (tail n :: rest) = .character (Char.ofNat n) rest := by
  have first : (octet (0xc0 + n / 0x40)).toNat = 0xc0 + n / 0x40 := toNat_octet (by omega)
  have above : ¬ 0xc0 + n / 0x40 < 0x80 := by omega
  have within : 0xc2 ≤ 0xc0 + n / 0x40 ∧ 0xc0 + n / 0x40 ≤ 0xdf := by omega
  have joined : join ((0xc0 + n / 0x40) % 0x20) (tail n) = n := join_tail (by omega)
  unfold front
  simp only [first, above, within, and_self, ↓reduceIte, inRange_tail, joined]

theorem secondRange_three {n : Nat} (long : 0x800 ≤ n) (short : n < 0x10000)
    (scalar : n < 0xd800 ∨ 0xdfff < n) :
    inRange (secondRange (0xe0 + n / 0x1000)).1 (secondRange (0xe0 + n / 0x1000)).2
      (tail (n / 0x40)) = true := by
  simp only [inRange, toNat_tail, Bool.and_eq_true, decide_eq_true_eq]
  unfold secondRange
  split_ifs <;> omega

theorem front_three {n : Nat} (long : 0x800 ≤ n) (short : n < 0x10000)
    (scalar : n < 0xd800 ∨ 0xdfff < n) (rest : List UInt8) :
    front (octet (0xe0 + n / 0x1000)) (tail (n / 0x40) :: tail n :: rest) =
      .character (Char.ofNat n) rest := by
  have first : (octet (0xe0 + n / 0x1000)).toNat = 0xe0 + n / 0x1000 := toNat_octet (by omega)
  have above : ¬ 0xe0 + n / 0x1000 < 0x80 := by omega
  have beyond : ¬ (0xc2 ≤ 0xe0 + n / 0x1000 ∧ 0xe0 + n / 0x1000 ≤ 0xdf) := by omega
  have within : 0xe0 ≤ 0xe0 + n / 0x1000 ∧ 0xe0 + n / 0x1000 ≤ 0xef := by omega
  have joined : join (join ((0xe0 + n / 0x1000) % 0x10) (tail (n / 0x40))) (tail n) = n :=
    join_tail (join_tail (by omega))
  unfold front
  simp only [first, above, beyond, within, and_self, ↓reduceIte,
    secondRange_three long short scalar, inRange_tail, joined]

theorem secondRange_four {n : Nat} (long : 0x10000 ≤ n) (short : n < 0x110000) :
    inRange (secondRange (0xf0 + n / 0x40000)).1 (secondRange (0xf0 + n / 0x40000)).2
      (tail (n / 0x1000)) = true := by
  simp only [inRange, toNat_tail, Bool.and_eq_true, decide_eq_true_eq]
  unfold secondRange
  split_ifs <;> omega

theorem front_four {n : Nat} (long : 0x10000 ≤ n) (short : n < 0x110000) (rest : List UInt8) :
    front (octet (0xf0 + n / 0x40000)) (tail (n / 0x1000) :: tail (n / 0x40) :: tail n :: rest) =
      .character (Char.ofNat n) rest := by
  have first : (octet (0xf0 + n / 0x40000)).toNat = 0xf0 + n / 0x40000 := toNat_octet (by omega)
  have above : ¬ 0xf0 + n / 0x40000 < 0x80 := by omega
  have beyond : ¬ (0xc2 ≤ 0xf0 + n / 0x40000 ∧ 0xf0 + n / 0x40000 ≤ 0xdf) := by omega
  have further : ¬ (0xe0 ≤ 0xf0 + n / 0x40000 ∧ 0xf0 + n / 0x40000 ≤ 0xef) := by omega
  have within : 0xf0 ≤ 0xf0 + n / 0x40000 ∧ 0xf0 + n / 0x40000 ≤ 0xf4 := by omega
  have top : join ((0xf0 + n / 0x40000) % 0x08) (tail (n / 0x1000)) = n / 0x1000 :=
    join_tail (by omega)
  have middle : join (n / 0x1000) (tail (n / 0x40)) = n / 0x40 := join_tail (by omega)
  have bottom : join (n / 0x40) (tail n) = n := join_tail rfl
  unfold front
  simp only [first, above, beyond, further, within, and_self, ↓reduceIte,
    secondRange_four long short, inRange_tail, top, middle, bottom]

theorem front_encodeChar (c : Char) (rest : List UInt8) :
    ∃ first more, encodeChar c ++ rest = first :: more ∧ front first more = .character c rest := by
  have same : Front.character (Char.ofNat c.toNat) rest = .character c rest := by
    rw [Char.ofNat_toNat]
  have scalar : c.toNat < 0xd800 ∨ 0xdfff < c.toNat ∧ c.toNat < 0x110000 := c.valid
  unfold encodeChar
  dsimp only
  split_ifs with one two three
  · exact ⟨_, _, rfl, (front_one one rest).trans same⟩
  · exact ⟨_, _, rfl, (front_two (by omega) two rest).trans same⟩
  · exact ⟨_, _, rfl, (front_three (by omega) three (by omega) rest).trans same⟩
  · exact ⟨_, _, rfl, (front_four (by omega) (by omega) rest).trans same⟩

/-! ## Texts -/

theorem encode_cons (c : Char) (text : List Char) :
    encode (c :: text) = encodeChar c ++ encode text := by
  rw [encode, List.flatMap_cons, ← encode]

theorem decodeWithin_encode (text : List Char) {rounds : Nat} (h : text.length ≤ rounds) :
    decodeWithin rounds (encode text) = some text := by
  induction text generalizing rounds with
  | nil => cases rounds <;> rfl
  | cons c tail ih =>
      rw [List.length_cons] at h
      obtain ⟨r, rfl⟩ : ∃ r, rounds = r + 1 := ⟨rounds - 1, by omega⟩
      obtain ⟨first, more, split, found⟩ := front_encodeChar c (encode tail)
      rw [encode_cons, split]
      simp only [decodeWithin, found, ih (Nat.le_of_succ_le_succ h), Option.map_some]

theorem length_le_encode (text : List Char) : text.length ≤ (encode text).length := by
  induction text with
  | nil => exact Nat.le_refl _
  | cons c tail ih =>
      have some : 1 ≤ (encodeChar c).length := by
        unfold encodeChar
        dsimp only
        split_ifs <;> simp
      rw [encode_cons, List.length_append, List.length_cons]
      omega

theorem decode?_encode (text : List Char) : decode? (encode text) = some text :=
  decodeWithin_encode text (length_le_encode text)

theorem replaceWithin_encode (text : List Char) {rounds : Nat} (h : text.length ≤ rounds) :
    replaceWithin rounds (encode text) = text := by
  induction text generalizing rounds with
  | nil => cases rounds <;> rfl
  | cons c tail ih =>
      rw [List.length_cons] at h
      obtain ⟨r, rfl⟩ : ∃ r, rounds = r + 1 := ⟨rounds - 1, by omega⟩
      obtain ⟨first, more, split, found⟩ := front_encodeChar c (encode tail)
      rw [encode_cons, split]
      simp only [replaceWithin, found, ih (Nat.le_of_succ_le_succ h)]

theorem decodeReplacing_encode (text : List Char) : decodeReplacing (encode text) = text :=
  replaceWithin_encode text (length_le_encode text)

/-! ## Octets that hold a text -/

theorem toNat_ofNat {n : Nat} (scalar : n < 0xd800 ∨ 0xdfff < n) (short : n < 0x110000) :
    (Char.ofNat n).toNat = n := by
  have valid : n.isValidChar := by
    unfold Nat.isValidChar
    omega
  rw [Char.ofNat, dif_pos valid]
  rfl

theorem octet_eq {n : Nat} {b : UInt8} (h : n = b.toNat) : octet n = b := by
  rw [octet, h, UInt8.ofNat_toNat]

theorem tail_eq {n : Nat} {b : UInt8} (within : 0x80 ≤ b.toNat ∧ b.toNat ≤ 0xbf)
    (low : n % 0x40 = b.toNat % 0x40) : tail n = b :=
  octet_eq (by omega)

theorem inRange_iff {low high : Nat} {b : UInt8} :
    inRange low high b = true ↔ low ≤ b.toNat ∧ b.toNat ≤ high := by
  simp [inRange]

theorem secondRange_within (first : Nat) :
    0x80 ≤ (secondRange first).1 ∧ (secondRange first).2 ≤ 0xbf := by
  unfold secondRange
  split_ifs <;> decide

theorem join_div (high : Nat) (b : UInt8) : join high b / 0x40 = high := by
  unfold join
  omega

theorem join_mod (high : Nat) (b : UInt8) : join high b % 0x40 = b.toNat % 0x40 := by
  unfold join
  omega

/-- The second octet of `0xe0` keeps out overlong forms, and that of `0xed` keeps out surrogates. -/
theorem join_three_bounds {n : Nat} (first : 0xe0 ≤ n ∧ n ≤ 0xef) {b : UInt8}
    (second : inRange (secondRange n).1 (secondRange n).2 b = true) (c : UInt8) :
    0x800 ≤ join (join (n % 0x10) b) c ∧
      (join (join (n % 0x10) b) c < 0xd800 ∨ 0xdfff < join (join (n % 0x10) b) c) ∧
        join (join (n % 0x10) b) c < 0x10000 := by
  rw [inRange_iff] at second
  unfold secondRange at second
  unfold join
  split_ifs at second <;> simp only at second <;> omega

theorem join_four_bounds {n : Nat} (first : 0xf0 ≤ n ∧ n ≤ 0xf4) {b : UInt8}
    (second : inRange (secondRange n).1 (secondRange n).2 b = true) (c d : UInt8) :
    0x10000 ≤ join (join (join (n % 0x08) b) c) d ∧
      join (join (join (n % 0x08) b) c) d < 0x110000 := by
  rw [inRange_iff] at second
  unfold secondRange at second
  unfold join
  split_ifs at second <;> simp only at second <;> omega

theorem encodeChar_one {first : UInt8} (one : first.toNat < 0x80) :
    encodeChar (Char.ofNat first.toNat) = [first] := by
  have value : (Char.ofNat first.toNat).toNat = first.toNat := toNat_ofNat (by omega) (by omega)
  simp only [encodeChar, value, one, ↓reduceIte, octet_eq (b := first) rfl]

theorem encodeChar_two {first b : UInt8} (lead : 0xc2 ≤ first.toNat ∧ first.toNat ≤ 0xdf)
    (second : 0x80 ≤ b.toNat ∧ b.toNat ≤ 0xbf) :
    encodeChar (Char.ofNat (join (first.toNat % 0x20) b)) = [first, b] := by
  have high := join_div (first.toNat % 0x20) b
  have low := join_mod (first.toNat % 0x20) b
  generalize join (first.toNat % 0x20) b = n at high low ⊢
  have long : ¬ n < 0x80 := by omega
  have short : n < 0x800 := by omega
  have value : (Char.ofNat n).toNat = n := toNat_ofNat (by omega) (by omega)
  have first : octet (0xc0 + n / 0x40) = first := octet_eq (by omega)
  simp only [encodeChar, value, long, short, ↓reduceIte, first, tail_eq second low]

theorem encodeChar_three {first b c : UInt8} (lead : 0xe0 ≤ first.toNat ∧ first.toNat ≤ 0xef)
    (second : inRange (secondRange first.toNat).1 (secondRange first.toNat).2 b = true)
    (third : 0x80 ≤ c.toNat ∧ c.toNat ≤ 0xbf) :
    encodeChar (Char.ofNat (join (join (first.toNat % 0x10) b) c)) = [first, b, c] := by
  have bounds := join_three_bounds lead second c
  have top := join_div (first.toNat % 0x10) b
  have middle := join_mod (first.toNat % 0x10) b
  have high := join_div (join (first.toNat % 0x10) b) c
  have low := join_mod (join (first.toNat % 0x10) b) c
  generalize join (join (first.toNat % 0x10) b) c = n at bounds high low ⊢
  generalize join (first.toNat % 0x10) b = m at top middle high
  have within := secondRange_within first.toNat
  have range := inRange_iff.mp second
  have short : ¬ n < 0x80 := by omega
  have medium : ¬ n < 0x800 := by omega
  have value : (Char.ofNat n).toNat = n := toNat_ofNat bounds.2.1 (by omega)
  have second : tail (n / 0x40) = b := tail_eq (by omega) (by omega)
  have first : octet (0xe0 + n / 0x1000) = first := octet_eq (by omega)
  simp only [encodeChar, value, short, medium, bounds.2.2, ↓reduceIte, first, second,
    tail_eq third low]

theorem encodeChar_four {first b c d : UInt8} (lead : 0xf0 ≤ first.toNat ∧ first.toNat ≤ 0xf4)
    (second : inRange (secondRange first.toNat).1 (secondRange first.toNat).2 b = true)
    (third : 0x80 ≤ c.toNat ∧ c.toNat ≤ 0xbf) (fourth : 0x80 ≤ d.toNat ∧ d.toNat ≤ 0xbf) :
    encodeChar (Char.ofNat (join (join (join (first.toNat % 0x08) b) c) d)) = [first, b, c, d] := by
  have bounds := join_four_bounds lead second c d
  have top := join_div (first.toNat % 0x08) b
  have upper := join_mod (first.toNat % 0x08) b
  have middle := join_div (join (first.toNat % 0x08) b) c
  have lower := join_mod (join (first.toNat % 0x08) b) c
  have high := join_div (join (join (first.toNat % 0x08) b) c) d
  have low := join_mod (join (join (first.toNat % 0x08) b) c) d
  generalize join (join (join (first.toNat % 0x08) b) c) d = n at bounds high low ⊢
  generalize join (join (first.toNat % 0x08) b) c = m at middle lower high
  generalize join (first.toNat % 0x08) b = k at top upper middle
  have within := secondRange_within first.toNat
  have range := inRange_iff.mp second
  have short : ¬ n < 0x80 := by omega
  have medium : ¬ n < 0x800 := by omega
  have long : ¬ n < 0x10000 := by omega
  have value : (Char.ofNat n).toNat = n := toNat_ofNat (by omega) bounds.2
  have second : tail (n / 0x1000) = b := tail_eq (by omega) (by omega)
  have third : tail (n / 0x40) = c := tail_eq third (by omega)
  have first : octet (0xf0 + n / 0x40000) = first := octet_eq (by omega)
  simp only [encodeChar, value, short, medium, long, ↓reduceIte, first, second, third,
    tail_eq fourth low]

theorem front_eq_character {first : UInt8} {rest after : List UInt8} {c : Char}
    (h : front first rest = .character c after) : first :: rest = encodeChar c ++ after := by
  unfold front at h
  dsimp only at h
  split at h
  · rename_i one
    cases h
    rw [encodeChar_one one]
    rfl
  split at h
  · rename_i two
    split at h
    · split at h
      · rename_i second
        cases h
        rw [encodeChar_two two (inRange_iff.mp second)]
        rfl
      · cases h
    · cases h
  split at h
  · rename_i three
    split at h
    · split at h
      · rename_i second
        split at h
        · split at h
          · rename_i third
            cases h
            rw [encodeChar_three three second (inRange_iff.mp third)]
            rfl
          · cases h
        · cases h
      · cases h
    · cases h
  split at h
  · rename_i four
    split at h
    · split at h
      · rename_i second
        split at h
        · split at h
          · rename_i third
            split at h
            · split at h
              · rename_i fourth
                cases h
                rw [encodeChar_four four second (inRange_iff.mp third) (inRange_iff.mp fourth)]
                rfl
              · cases h
            · cases h
          · cases h
        · cases h
      · cases h
    · cases h
  · cases h

theorem decodeWithin_eq_some {rounds : Nat} {octets : List UInt8} {text : List Char}
    (h : decodeWithin rounds octets = some text) : octets = encode text := by
  induction rounds generalizing octets text with
  | zero =>
      cases octets with
      | nil =>
          cases h
          rfl
      | cons first rest => cases h
  | succ rounds ih =>
      cases octets with
      | nil =>
          cases h
          rfl
      | cons first rest =>
          rw [decodeWithin] at h
          split at h
          · rename_i c after found
            obtain ⟨later, hlater, rfl⟩ := Option.map_eq_some_iff.mp h
            rw [front_eq_character found, ih hlater, encode_cons]
          · cases h

theorem decode?_eq_some {octets : List UInt8} {text : List Char} :
    decode? octets = some text ↔ octets = encode text := by
  constructor
  · exact decodeWithin_eq_some
  · rintro rfl
    exact decode?_encode text

end LedgerFeed.Utf8
