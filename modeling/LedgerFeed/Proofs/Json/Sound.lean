import LedgerFeed.Proofs.Json.Meaning

namespace LedgerFeed.Json

open Grammar

theorem skipSpace_split (text : Text) : ∃ space, text = space ++ skipSpace text ∧ Space space := by
  refine ⟨text.takeWhile isSpace, List.takeWhile_append_dropWhile.symm, ?_⟩
  intro c hc
  exact List.mem_takeWhile_imp hc

/-! ## Strings -/

theorem fourDigits_iff {text rest : Text} {unit : Nat} :
    fourDigits? text = some (unit, rest) ↔
      ∃ digits, text = digits ++ rest ∧ UnitOf digits unit := by
  constructor
  · intro h
    unfold fourDigits? at h
    split at h
    · rename_i a b c d after
      split at h
      · rename_i w x y z hw hx hy hz
        cases h
        exact ⟨_, rfl, .mk hw hx hy hz⟩
      · cases h
    · cases h
  · rintro ⟨digits, rfl, number⟩
    cases number with
    | mk first second third fourth => simp [fourDigits?, first, second, third, fourth]

theorem simpleEscape_iff {mark letter : Letter} :
    simpleEscape? mark = some letter ↔
      ∃ d c, mark = .char d ∧ letter = .char c ∧ (d, c) ∈ escapes := by
  constructor
  · intro h
    unfold simpleEscape? at h
    split at h <;> cases h <;> exact ⟨_, _, rfl, rfl, by decide⟩
  · rintro ⟨d, c, rfl, rfl, h⟩
    simp only [escapes, List.mem_cons, Prod.mk.injEq, List.not_mem_nil, or_false] at h
    rcases h with ⟨rfl, rfl⟩ | ⟨rfl, rfl⟩ | ⟨rfl, rfl⟩ | ⟨rfl, rfl⟩ | ⟨rfl, rfl⟩ | ⟨rfl, rfl⟩ |
      ⟨rfl, rfl⟩ | ⟨rfl, rfl⟩ <;> rfl

theorem spells_half {digits rest text : Text} {unit : Nat} (number : UnitOf digits unit)
    (alone : isHighHalf unit = true ∧ ¬ StartsLow rest ∨ isLowHalf unit = true)
    (others : Spells rest text) :
    Spells (.char '\\' :: .char 'u' :: (digits ++ rest)) (ofUnit unit :: text) := by
  have half : isHighHalf unit = true ∨ isLowHalf unit = true := alone.imp_left (·.1)
  obtain ⟨place, letter, rfl⟩ := ofUnit_half half
  rw [letter]
  exact .half number alone others

theorem readUnit_sound {text rest : Text} {unit : Nat}
    (h : readUnit text = .ok (unit, rest)) :
    ∃ digits, text = digits ++ rest ∧ UnitOf digits unit := by
  unfold readUnit at h
  split at h
  · cases h
  · split at h
    · rename_i found
      cases h
      exact fourDigits_iff.mp found
    · cases h

theorem not_startsLow {second characters last : Text}
    (text : .char '\\' :: .char 'u' :: second = characters ++ .char '"' :: last)
    (other : second.length ≤ 4 ∨
      ∃ low after, fourDigits? second = some (low, after) ∧ isLowHalf low = false) :
    ¬ StartsLow characters := by
  rintro ⟨digits, low, rest, rfl, number, isLow⟩
  simp only [List.cons_append, List.cons.injEq, true_and, List.append_assoc] at text
  rcases other with short | ⟨found, after, read, notLow⟩
  · have size := number.length
    rw [text, List.length_append, List.length_append, List.length_cons] at short
    omega
  · have same := fourDigits_iff.mpr ⟨digits, text, number⟩
    rw [read] at same
    cases same
    rw [isLow] at notLow
    cases notLow

theorem readUnicode_sound {text characters last found : Text} {letter : Letter}
    (h : readUnicode text = .ok (letter, characters ++ .char '"' :: last))
    (others : Spells characters found) :
    ∃ more, text = more ++ .char '"' :: last ∧
      Spells (.char '\\' :: .char 'u' :: more) (letter :: found) := by
  unfold readUnicode at h
  split at h
  · cases h
  · rename_i unit rest hunit
    obtain ⟨digits, rfl, number⟩ := readUnit_sound hunit
    split at h
    -- A first half stands alone unless the escape of a second half follows.
    · rename_i second high
      split at h
      · rename_i short
        obtain ⟨rfl, same⟩ : ofUnit unit = letter ∧
            .char '\\' :: .char 'u' :: second = characters ++ .char '"' :: last := by
          simpa using h
        rw [same]
        refine ⟨digits ++ characters, by simp, spells_half number (.inl ⟨high, ?_⟩) others⟩
        exact not_startsLow same (.inl short)
      · split at h
        · cases h
        · rename_i low after read
          split at h
          · rename_i isLow
            obtain ⟨rfl, rfl⟩ : .char (Char.ofNat (joinHalves unit low)) = letter ∧
                after = characters ++ .char '"' :: last := by
              simpa using h
            obtain ⟨digits', rfl, number'⟩ := fourDigits_iff.mp read
            exact ⟨digits ++ .char '\\' :: .char 'u' :: (digits' ++ characters), by simp,
              .pair number high number' isLow others⟩
          · rename_i notLow
            obtain ⟨rfl, same⟩ : ofUnit unit = letter ∧
                .char '\\' :: .char 'u' :: second = characters ++ .char '"' :: last := by
              simpa using h
            rw [same]
            refine ⟨digits ++ characters, by simp, spells_half number (.inl ⟨high, ?_⟩) others⟩
            exact not_startsLow same (.inr ⟨low, after, read, by simpa using notLow⟩)
    · rename_i plain
      simp only [Except.ok.injEq, Prod.mk.injEq] at h
      obtain ⟨rfl, rfl⟩ := h
      refine ⟨digits ++ characters, by simp, ?_⟩
      cases high : isHighHalf unit with
      | true =>
          refine spells_half number (.inl ⟨high, ?_⟩) others
          rintro ⟨digits', low, rest, rfl, number', isLow⟩
          exact plain _ high rfl
      | false =>
          cases low : isLowHalf unit with
          | true => exact spells_half number (.inr low) others
          | false =>
              rw [ofUnit_alone high low]
              exact .unit number high low others

theorem readString_sound {rounds : Nat} {text found last : Text}
    (h : readString rounds text = .ok (found, last)) :
    ∃ characters, text = characters ++ .char '"' :: last ∧ Spells characters found := by
  -- On the rounds; the cases are the fronts of a text that the reader tells apart.
  induction rounds generalizing text found with
  | zero => simp [readString] at h
  | succ rounds ih =>
      rw [readString.eq_def] at h
      split at h
      · cases h
      · cases h
      · cases h
        exact ⟨[], rfl, .nil⟩
      · cases h
      · rename_i rest same
        cases same
        split at h
        · cases h
        · rename_i c after hunicode
          obtain ⟨⟨others, end_⟩, hothers, same⟩ := map_eq_ok.mp h
          cases same
          obtain ⟨characters, rfl, spelled⟩ := ih hothers
          obtain ⟨more, rfl, spelled⟩ := readUnicode_sound hunicode spelled
          exact ⟨.char '\\' :: .char 'u' :: more, rfl, spelled⟩
      · rename_i rest _ same
        cases same
        split at h
        · cases h
        · rename_i c known
          obtain ⟨⟨others, end_⟩, hothers, same⟩ := map_eq_ok.mp h
          cases same
          obtain ⟨characters, rfl, spelled⟩ := ih hothers
          obtain ⟨mark, c, rfl, rfl, listed⟩ := simpleEscape_iff.mp known
          exact ⟨.char '\\' :: .char mark :: characters, rfl, .escape listed spelled⟩
      · rename_i c rest noQuote noSlash _ other same
        cases same
        split at h
        · cases h
        · rename_i visible
          obtain ⟨⟨others, end_⟩, hothers, same⟩ := map_eq_ok.mp h
          cases same
          obtain ⟨characters, rfl, spelled⟩ := ih hothers
          have noSlash : c ≠ '\\' := by
            rintro rfl
            cases characters with
            | nil => exact other _ _ rfl rfl
            | cons letter characters => exact other _ _ rfl rfl
          exact ⟨c :: characters, rfl, .plain (Nat.not_lt.mp visible) noQuote noSlash spelled⟩

/-! ## Numbers -/

theorem digits_takeWhile {c : Char} (digit : isDigit c = true) (text : List Char) :
    Digits (c :: text.takeWhile isDigit) := by
  refine ⟨by simp, ?_⟩
  intro d hd
  rcases List.mem_cons.mp hd with rfl | hd
  · exact digit
  · exact List.mem_takeWhile_imp hd

theorem wholePart_sound {text whole rest : List Char}
    (h : wholePart? text = some (whole, rest)) : text = whole ++ rest ∧ Whole whole := by
  unfold wholePart? at h
  split at h
  · cases h
    exact ⟨rfl, .zero⟩
  · rename_i c tail nonzero
    split at h
    · rename_i digit
      cases h
      exact ⟨by simp, .digits nonzero (digits_takeWhile digit tail)⟩
    · cases h
  · cases h

theorem fractionPart_sound {text digits rest : List Char}
    (h : fractionPart text = (digits, rest)) :
    ∃ fraction, text = fraction ++ rest ∧ Fraction fraction ∧ digits = fraction.drop 1 ∧
      (digits = [] ↔ fraction = []) := by
  unfold fractionPart at h
  split at h
  · rename_i c tail
    split at h
    · rename_i digit
      cases h
      exact ⟨'.' :: c :: tail.takeWhile isDigit, by simp, .some (digits_takeWhile digit tail), rfl,
        by simp⟩
    · cases h
      exact ⟨[], rfl, .none, rfl, by simp⟩
  · cases h
    exact ⟨[], rfl, .none, rfl, by simp⟩

theorem splitSign_digit {c : Char} (digit : isDigit c = true) (rest : List Char) :
    splitSign (c :: rest) = (false, c :: rest) := by
  unfold splitSign
  split
  case h_3 => rfl
  all_goals
    rename_i same
    cases same
    cases digit

theorem splitSign_cases (text : List Char) :
    (∃ sign rest, (sign = '+' ∨ sign = '-') ∧ text = sign :: rest ∧
      splitSign text = (decide (sign = '-'), rest)) ∨ splitSign text = (false, text) := by
  unfold splitSign
  split
  · exact .inl ⟨'-', _, .inr rfl, rfl, rfl⟩
  · exact .inl ⟨'+', _, .inl rfl, rfl, rfl⟩
  · exact .inr rfl

theorem readInt_digits {digits : List Char} (run : Digits digits) :
    readInt digits = signed false (ofDigits digits) := by
  obtain ⟨c, rest, rfl⟩ := List.exists_cons_of_ne_nil run.1
  rw [readInt, splitSign_digit (run.2 c List.mem_cons_self)]

theorem readInt_sign {sign : Char} (either : sign = '+' ∨ sign = '-') (digits : List Char) :
    readInt (sign :: digits) = signed (decide (sign = '-')) (ofDigits digits) := by
  rcases either with rfl | rfl <;> rfl

theorem takeWhile_run {text : List Char} (some : (text.takeWhile isDigit).isEmpty ≠ true) :
    Digits (text.takeWhile isDigit) := by
  refine ⟨by simpa using some, ?_⟩
  intro d hd
  exact List.mem_takeWhile_imp hd

theorem exponentPart_sound {text rest : List Char} {power : Option Int}
    (h : exponentPart text = (power, rest)) :
    ∃ exponent, text = exponent ++ rest ∧ Exponent exponent ∧
      power.getD 0 = readInt (exponent.drop 1) ∧ (power = none ↔ exponent = []) := by
  unfold exponentPart at h
  split at h
  · rename_i mark tail
    split at h
    · rename_i letter
      dsimp only at h
      split at h
      · cases h
        exact ⟨[], rfl, .none, rfl, by simp⟩
      · rename_i some
        cases h
        have run := takeWhile_run some
        rcases splitSign_cases tail with ⟨sign, digits, either, rfl, parts⟩ | parts
        · rw [parts] at run ⊢
          exact ⟨mark :: sign :: digits.takeWhile isDigit, by simp, .signed letter either run,
            (readInt_sign either _).symm, by simp⟩
        · rw [parts] at run ⊢
          exact ⟨mark :: tail.takeWhile isDigit, by simp, .plain letter run,
            (readInt_digits run).symm, by simp⟩
    · cases h
      exact ⟨[], rfl, .none, rfl, by simp⟩
  · cases h
    exact ⟨[], rfl, .none, rfl, by simp⟩

structure Stops (rest : List Char) : Prop where
  digit : rest.takeWhile isDigit = []
  fraction : fractionPart rest = ([], rest)
  exponent : exponentPart rest = (none, rest)

inductive NumeralRead : List Char → Except ReadError (Json × List Char) → Prop
  | none (text : List Char) : NumeralRead text (.error .expectingValue)
  | number {word rest : List Char} {json : Json} (number : NumberOf word json) :
      NumeralRead (word ++ rest) (.ok (json, rest))
  | long {sign whole rest : List Char} {negative : Bool} (front : SignOf sign negative)
      (first : Whole whole) (stops : Stops rest) (long : digitLimit < whole.length) :
      NumeralRead (sign ++ (whole ++ rest)) (.error (.tooManyDigits whole.length))

theorem Stops.part {part more : List Char} (h : Stops (part ++ more)) :
    ¬ Digits part ∧ (Fraction part → part = []) ∧ (Exponent part → part = []) := by
  obtain ⟨digit, fraction, exponent⟩ := h
  refine ⟨?_, ?_, ?_⟩
  · rintro ⟨some, run⟩
    obtain ⟨c, tail, rfl⟩ := List.exists_cons_of_ne_nil some
    simp [run c List.mem_cons_self] at digit
  · intro h
    cases h with
    | none => rfl
    | some run =>
        obtain ⟨c, tail, rfl⟩ := List.exists_cons_of_ne_nil run.1
        simp [fractionPart, run.2 c List.mem_cons_self] at fraction
  · intro h
    cases h with
    | none => rfl
    | plain letter run =>
        obtain ⟨c, tail, rfl⟩ := List.exists_cons_of_ne_nil run.1
        have first := run.2 c List.mem_cons_self
        simp [exponentPart, letter, splitSign_digit first, first] at exponent
    | signed letter either run =>
        obtain ⟨c, tail, rfl⟩ := List.exists_cons_of_ne_nil run.1
        have first := run.2 c List.mem_cons_self
        rcases either with rfl | rfl <;> simp [exponentPart, letter, splitSign, first] at exponent

theorem takeWhile_dropWhile (text : List Char) :
    (text.dropWhile isDigit).takeWhile isDigit = [] := by
  induction text with
  | nil => rfl
  | cons c rest ih =>
      cases digit : isDigit c <;> simp [digit, ih]

theorem wholePart_ends {text whole rest : List Char}
    (h : wholePart? text = some (whole, rest)) (long : 1 < whole.length) :
    rest.takeWhile isDigit = [] := by
  unfold wholePart? at h
  split at h
  · cases h
    simp at long
  · split at h
    · cases h
      exact takeWhile_dropWhile _
    · cases h
  · cases h

theorem readNumeral_read (text : List Char) : NumeralRead text (readNumeral text) := by
  unfold readNumeral
  split
  rename_i negative unsigned hsign
  have front : ∃ sign, text = sign ++ unsigned ∧ SignOf sign negative := by
    split at hsign
    · cases hsign
      exact ⟨['-'], rfl, .minus⟩
    · cases hsign
      exact ⟨[], rfl, .none⟩
  obtain ⟨sign, rfl, front⟩ := front
  split
  · exact .none _
  · rename_i whole after hwhole
    obtain ⟨rfl, first⟩ := wholePart_sound hwhole
    obtain ⟨fraction, hfraction, second, digits, noFraction⟩ :=
      fractionPart_sound (Prod.eta (fractionPart after)).symm
    obtain ⟨exponent, hexponent, third, power, noExponent⟩ :=
      exponentPart_sound (Prod.eta (exponentPart (fractionPart after).2)).symm
    dsimp only
    split
    · rename_i neither
      rw [List.isEmpty_iff, Option.isNone_iff_eq_none, noExponent] at neither
      obtain ⟨empty, rfl⟩ := neither
      cases noFraction.mp empty
      have fractionRead : fractionPart after = ([], after) := Prod.ext empty hfraction.symm
      rw [fractionRead] at hexponent noExponent ⊢
      have exponentRead : exponentPart after = (none, after) :=
        Prod.ext (noExponent.mpr rfl) hexponent.symm
      split
      · rename_i long
        have many : 1 < whole.length := Nat.lt_trans (by decide) long
        exact .long front first
          ⟨wholePart_ends hwhole many, fractionRead, exponentRead⟩ long
      · rename_i short
        have number := NumberOf.int front first (Nat.not_lt.mp short)
        rw [exponentRead, ← List.append_assoc]
        exact .number number
    · rename_i some
      rw [List.isEmpty_iff, Option.isNone_iff_eq_none, noFraction, noExponent] at some
      have number := NumberOf.float front first second third (not_and_or.mp some)
      rw [digits, power]
      have text : sign ++ (whole ++ after) = sign ++ (whole ++ (fraction ++ exponent)) ++
          (exponentPart (fractionPart after).2).2 := by
        rw [List.append_assoc, List.append_assoc, List.append_assoc, ← hexponent, ← hfraction]
      rw [text]
      exact .number number

theorem splitNumeral_split (text : Text) :
    text = .ofChars (splitNumeral text).1 ++ (splitNumeral text).2 ∧
      (∀ c ∈ (splitNumeral text).1, inNumber c = true) ∧ EndsNumber (splitNumeral text).2 := by
  induction text with
  | nil => exact ⟨rfl, List.forall_mem_nil _, fun c hc => by cases hc⟩
  | cons letter rest ih =>
      cases letter with
      | half place => exact ⟨rfl, List.forall_mem_nil _, fun c hc => by cases hc⟩
      | char c =>
          obtain ⟨split, run, ends⟩ := ih
          rw [splitNumeral]
          split
          · rename_i part
            refine ⟨?_, List.forall_mem_cons.mpr ⟨part, run⟩, ends⟩
            rw [Text.ofChars_cons, List.cons_append, ← split]
          · rename_i outside
            refine ⟨rfl, List.forall_mem_nil _, fun d hd => ?_⟩
            cases hd
            exact Bool.eq_false_iff.mpr outside

theorem readNumber_sound {text rest : Text} {json : Json} (h : readNumber text = .ok (json, rest)) :
    ∃ word, text = .ofChars word ++ rest ∧ NumberOf word json := by
  obtain ⟨⟨value, left⟩, numeral, found⟩ := map_eq_ok.mp h
  cases found
  obtain ⟨split, -, -⟩ := splitNumeral_split text
  have read := readNumeral_read (splitNumeral text).1
  rw [numeral] at read
  generalize (splitNumeral text).1 = run at split read
  cases read with
  | @number word _ _ number =>
      refine ⟨word, ?_, number⟩
      rw [← List.append_assoc, ← Text.ofChars_append]
      exact split

/-! ### The characters of a number -/

theorem Grammar.Digits.inNumber {digits : List Char} (h : Digits digits) :
    ∀ c ∈ digits, inNumber c = true :=
  fun c hc => inNumber_digit (h.2 c hc)

theorem Grammar.Whole.inNumber {whole : List Char} (h : Whole whole) :
    ∀ c ∈ whole, inNumber c = true := by
  cases h with
  | zero => exact List.forall_mem_singleton.mpr rfl
  | digits nonzero run => exact run.inNumber

theorem Grammar.Fraction.inNumber {fraction : List Char} (h : Fraction fraction) :
    ∀ c ∈ fraction, inNumber c = true := by
  cases h with
  | none => exact List.forall_mem_nil _
  | some run => exact List.forall_mem_cons.mpr ⟨rfl, run.inNumber⟩

theorem Grammar.Exponent.inNumber {exponent : List Char} (h : Exponent exponent) :
    ∀ c ∈ exponent, inNumber c = true := by
  have mark : ∀ {mark : Char}, mark = 'e' ∨ mark = 'E' → Json.inNumber mark = true := by
    rintro mark (rfl | rfl) <;> rfl
  cases h with
  | none => exact List.forall_mem_nil _
  | plain letter run => exact List.forall_mem_cons.mpr ⟨mark letter, run.inNumber⟩
  | signed letter either run =>
      refine List.forall_mem_cons.mpr ⟨mark letter, List.forall_mem_cons.mpr ⟨?_, run.inNumber⟩⟩
      rcases either with rfl | rfl <;> rfl

theorem Grammar.EndsWhole.stops {rest : Text} (h : EndsWhole rest) :
    Stops (splitNumeral rest).1 := by
  obtain ⟨split, -, -⟩ := splitNumeral_split rest
  generalize (splitNumeral rest).1 = run at split ⊢
  have part : ∀ front back, run = front ++ back →
      ¬ Digits front ∧ (Fraction front → front = []) ∧ (Exponent front → front = []) := by
    rintro front back rfl
    rw [Text.ofChars_append, List.append_assoc] at split
    exact h front _ split
  refine ⟨?_, ?_, ?_⟩
  · by_contra some
    refine (part _ _ (List.takeWhile_append_dropWhile (p := isDigit)).symm).1 (takeWhile_run ?_)
    simpa using some
  · obtain ⟨fraction, cut, derived, digits, -⟩ :=
      fractionPart_sound (Prod.eta (fractionPart run)).symm
    cases (part _ _ cut).2.1 derived
    exact Prod.ext digits cut.symm
  · obtain ⟨exponent, cut, derived, -, none⟩ :=
      exponentPart_sound (Prod.eta (exponentPart run)).symm
    cases (part _ _ cut).2.2 derived
    exact Prod.ext (none.mpr rfl) cut.symm

theorem Stops.endsWhole {rest : Text} (h : Stops (splitNumeral rest).1) : EndsWhole rest := by
  rintro part more rfl
  have front : (∀ c ∈ part, inNumber c = true) →
      ¬ Digits part ∧ (Fraction part → part = []) ∧ (Exponent part → part = []) := by
    intro run
    rw [splitNumeral_append run] at h
    exact h.part
  exact ⟨fun digits => (front digits.inNumber).1 digits,
    fun fraction => (front fraction.inNumber).2.1 fraction,
    fun exponent => (front exponent.inNumber).2.2 exponent⟩

/-! ## Values -/

theorem dropWord_eq_some {α : Type} [DecidableEq α] {word text rest : List α}
    (h : dropWord? word text = some rest) :
    text = word ++ rest := by
  induction word generalizing text with
  | nil =>
      cases h
      rfl
  | cons c word ih =>
      cases text with
      | nil => cases h
      | cons d text =>
          unfold dropWord? at h
          split at h
          · rename_i same
            rw [same, ih h, List.cons_append]
          · cases h

theorem readScalar_sound {text rest : Text} {json : Json}
    (h : readScalar text = .ok (json, rest)) : ∃ word, text = word ++ rest ∧ ValueOf word json := by
  unfold readScalar at h
  extract_lets names at h
  split at h
  · rename_i found hfound
    cases h
    obtain ⟨⟨word, value⟩, hname, hdrop⟩ := List.exists_of_findSome?_eq_some hfound
    obtain ⟨after, hword, hpair⟩ := Option.map_eq_some_iff.mp hdrop
    cases hpair
    refine ⟨word, dropWord_eq_some hword, ?_⟩
    simp only [names, List.mem_cons, List.not_mem_nil, or_false] at hname
    rcases hname with h | h | h | h | h | h <;> cases h
    · exact .null
    · exact .true
    · exact .false
    · exact .nan
    · exact .infinity
    · exact .negativeInfinity
  · obtain ⟨word, rfl, number⟩ := readNumber_sound h
    exact ⟨.ofChars word, rfl, .number number⟩

structure ReadsSound (rounds : Nat) : Prop where
  value : ∀ {text json rest}, readValue rounds text = .ok (json, rest) →
    ∃ word, text = word ++ rest ∧ ValueOf word json
  items : ∀ {text found rest}, readItems rounds text = .ok (found, rest) →
    ∃ body, text = body ++ .char ']' :: rest ∧ ElementsOf body found
  members : ∀ {text found rest}, readMembers rounds text = .ok (found, rest) →
    ∃ body, text = body ++ .char '\x7d' :: rest ∧ MembersOf body found

theorem readValue_sound {rounds : Nat} (inner : ReadsSound rounds) {text rest : Text}
    {json : Json} (h : readValue (rounds + 1) text = .ok (json, rest)) :
    ∃ word, text = word ++ rest ∧ ValueOf word json := by
  unfold readValue at h
  split at h
  · obtain ⟨⟨s, after⟩, hs, found⟩ := map_eq_ok.mp h
    cases found
    obtain ⟨characters, rfl, spelled⟩ := readString_sound hs
    exact ⟨.char '"' :: (characters ++ [.char '"']), by simp, .string spelled⟩
  · rename_i rest'
    obtain ⟨space, hspace, blank⟩ := skipSpace_split rest'
    split at h
    · rename_i after hafter
      cases h
      rw [hspace, hafter]
      exact ⟨.char '[' :: (space ++ [.char ']']), by simp, .emptyArray blank⟩
    · obtain ⟨⟨items, after⟩, hitems, found⟩ := map_eq_ok.mp h
      cases found
      obtain ⟨body, hbody, elements⟩ := inner.items hitems
      rw [hspace, hbody]
      exact ⟨.char '[' :: (space ++ body ++ [.char ']']), by simp, .array (elements.space blank)⟩
  · rename_i rest'
    obtain ⟨space, hspace, blank⟩ := skipSpace_split rest'
    split at h
    · rename_i after hafter
      cases h
      rw [hspace, hafter]
      exact ⟨.char '\x7b' :: (space ++ [.char '\x7d']), by simp, .emptyObject blank⟩
    · obtain ⟨⟨members, after⟩, hmembers, found⟩ := map_eq_ok.mp h
      cases found
      obtain ⟨body, hbody, derived⟩ := inner.members hmembers
      rw [hspace, hbody]
      exact ⟨.char '\x7b' :: (space ++ body ++ [.char '\x7d']), by simp,
        .object (derived.space blank) (merged_mergeMembers members)⟩
  · exact readScalar_sound h

theorem readItems_sound {rounds : Nat} (inner : ReadsSound rounds) {text rest : Text}
    {found : List Json} (h : readItems (rounds + 1) text = .ok (found, rest)) :
    ∃ body, text = body ++ .char ']' :: rest ∧ ElementsOf body found := by
  unfold readItems at h
  split at h
  · cases h
  · rename_i item after hitem
    obtain ⟨word, rfl, value⟩ := inner.value hitem
    obtain ⟨space, hspace, blank⟩ := skipSpace_split after
    have element : ElementOf (word ++ space) item := .mk Space.nil value blank
    split at h
    · rename_i last hlast
      cases h
      rw [hspace, hlast, ← List.append_assoc]
      exact ⟨_, rfl, .one element⟩
    · rename_i more hmore
      obtain ⟨⟨others, last⟩, hothers, same⟩ := map_eq_ok.mp h
      cases same
      obtain ⟨body, hbody, elements⟩ := inner.items hothers
      obtain ⟨gap, hgap, clear⟩ := skipSpace_split more
      rw [hspace, hmore, hgap, hbody]
      exact ⟨word ++ space ++ .char ',' :: (gap ++ body), by simp,
        .more element (elements.space clear)⟩
    · cases h

theorem readMembers_sound {rounds : Nat} (inner : ReadsSound rounds) {text rest : Text}
    {found : List (Text × Json)} (h : readMembers (rounds + 1) text = .ok (found, rest)) :
    ∃ body, text = body ++ .char '\x7d' :: rest ∧ MembersOf body found := by
  unfold readMembers at h
  split at h
  · split at h
    · cases h
    · rename_i name afterName hname
      obtain ⟨characters, rfl, spelled⟩ := readString_sound hname
      obtain ⟨space, hspace, blank⟩ := skipSpace_split afterName
      split at h
      · rename_i afterColon hcolon
        obtain ⟨gap, hgap, clear⟩ := skipSpace_split afterColon
        split at h
        · cases h
        · rename_i value afterValue hvalue
          obtain ⟨word, hword, derived⟩ := inner.value hvalue
          obtain ⟨tail, htail, bare⟩ := skipSpace_split afterValue
          have member : MemberOf (_ ++ _) (name, value) :=
            .mk (.mk Space.nil spelled blank) (.mk clear derived bare)
          dsimp only at h
          split at h
          · rename_i last hlast
            cases h
            rw [hspace, hcolon, hgap, hword, htail, hlast]
            exact ⟨_, by simp, .one member⟩
          · rename_i more hmore
            obtain ⟨⟨others, last⟩, hothers, same⟩ := map_eq_ok.mp h
            cases same
            obtain ⟨body, hbody, members⟩ := inner.members hothers
            obtain ⟨space', hspace', blank'⟩ := skipSpace_split more
            rw [hspace, hcolon, hgap, hword, htail, hmore, hspace', hbody]
            exact ⟨_, by simp, .more member (members.space blank')⟩
          · cases h
      · cases h
  · cases h

theorem readsSound (rounds : Nat) : ReadsSound rounds := by
  induction rounds with
  | zero =>
      refine ⟨?_, ?_, ?_⟩
      · intro text json rest h
        simp [readValue] at h
      · intro text found rest h
        simp [readItems] at h
      · intro text found rest h
        simp [readMembers] at h
  | succ rounds ih => exact ⟨readValue_sound ih, readItems_sound ih, readMembers_sound ih⟩

theorem space_of_skipSpace {text : Text} (h : (skipSpace text).isEmpty = true) : Space text := by
  obtain ⟨space, hspace, blank⟩ := skipSpace_split text
  rw [List.isEmpty_iff.mp h, List.append_nil] at hspace
  exact hspace ▸ blank

theorem read_sound {text : Text} {json : Json} (h : read text = .ok json) :
    ElementOf text json := by
  unfold read at h
  split at h
  · cases h
  · split at h
    · cases h
    · rename_i value rest hvalue
      split at h
      · rename_i ends
        cases h
        obtain ⟨word, hword, derived⟩ := (readsSound _).value hvalue
        obtain ⟨space, hspace, blank⟩ := skipSpace_split text
        rw [hspace, hword]
        exact .mk blank derived (space_of_skipSpace ends)
      · cases h

end LedgerFeed.Json
