import LedgerFeed.Proofs.Json.Sound

namespace LedgerFeed.Json

open Grammar

/-! ## Strings -/

theorem readUnit_complete {digits rest : Text} {unit : Nat} (number : UnitOf digits unit)
    (more : rest ≠ []) : readUnit (digits ++ rest) = .ok (unit, rest) := by
  have size := number.length
  have some := List.length_pos_iff.mpr more
  have long : ¬ (digits ++ rest).length ≤ 4 := by
    rw [List.length_append]
    omega
  rw [readUnit, if_neg long, fourDigits_iff.mpr ⟨digits, rfl, number⟩]

theorem not_low {unit : Nat} (high : isHighHalf unit = true) : isLowHalf unit = false := by
  simp only [isLowHalf, isHighHalf, Bool.and_eq_true, decide_eq_true_eq, Bool.and_eq_false_iff,
    decide_eq_false_iff_not] at high ⊢
  omega

theorem readUnicode_pair {first second rest : Text} {high low : Nat}
    (upper : UnitOf first high) (isHigh : isHighHalf high = true) (lower : UnitOf second low)
    (isLow : isLowHalf low = true) (more : rest ≠ []) :
    readUnicode (first ++ .char '\\' :: .char 'u' :: (second ++ rest)) =
      .ok (.char (Char.ofNat (joinHalves high low)), rest) := by
  have size := lower.length
  have some := List.length_pos_iff.mpr more
  have long : ¬ (second ++ rest).length ≤ 4 := by
    rw [List.length_append]
    omega
  rw [readUnicode, readUnit_complete upper (by simp)]
  simp only [isHigh, if_neg long, fourDigits_iff.mpr ⟨second, rfl, lower⟩, isLow, if_true]

theorem Grammar.Spells.unit_first {characters found : Text}
    (h : Spells (.char '\\' :: .char 'u' :: characters) found) :
    ∃ digits unit rest, characters = digits ++ rest ∧ UnitOf digits unit := by
  cases h with
  | plain visible noQuote noSlash others => exact absurd rfl noSlash
  | escape known others => simp [escapes] at known
  | unit number high low others => exact ⟨_, _, _, rfl, number⟩
  | pair upper isHigh lower isLow others => exact ⟨_, _, _, rfl, upper⟩
  | half number alone others => exact ⟨_, _, _, rfl, number⟩

theorem readUnicode_alone {digits characters found last : Text} {unit : Nat}
    (number : UnitOf digits unit) (others : Spells characters found)
    (alone : isHighHalf unit = true → ¬ StartsLow characters) :
    readUnicode (digits ++ (characters ++ .char '"' :: last)) =
      .ok (ofUnit unit, characters ++ .char '"' :: last) := by
  rw [readUnicode, readUnit_complete number (by simp)]
  dsimp only
  split
  · rename_i second high same
    obtain ⟨tail, rfl, rfl⟩ : ∃ tail, characters = .char '\\' :: .char 'u' :: tail ∧
        second = tail ++ .char '"' :: last := by
      cases characters with
      | nil => cases same
      | cons c rest =>
          cases rest with
          | nil => cases same
          | cons d tail =>
              cases same
              exact ⟨tail, rfl, rfl⟩
    obtain ⟨digits', low, rest, rfl, number'⟩ := others.unit_first
    have size := number'.length
    have long : ¬ (digits' ++ rest ++ .char '"' :: last).length ≤ 4 := by
      simp only [List.length_append, List.length_cons]
      omega
    have read := fourDigits_iff.mpr
      ⟨digits', List.append_assoc digits' rest (.char '"' :: last), number'⟩
    have notLow : isLowHalf low = false := by
      cases isLow : isLowHalf low with
      | true => exact absurd ⟨digits', low, rest, rfl, number', isLow⟩ (alone high)
      | false => rfl
    simp only [if_neg long, read, notLow, Bool.false_eq_true, if_false, List.cons_append]
  · rfl

theorem readString_unicode {text rest : Text} {letter : Letter}
    (h : readUnicode text = .ok (letter, rest))
    {rounds : Nat} {found last : Text} (others : readString rounds rest = .ok (found, last)) :
    readString (rounds + 1) (.char '\\' :: .char 'u' :: text) = .ok (letter :: found, last) := by
  rw [readString, h]
  simp only [others, Except.map]

theorem readString_short {mark c : Char} (known : (mark, c) ∈ escapes) {rounds : Nat}
    {rest found last : Text} (others : readString rounds rest = .ok (found, last)) :
    readString (rounds + 1) (.char '\\' :: .char mark :: rest) = .ok (.char c :: found, last) := by
  have other : mark ≠ 'u' := by
    rintro rfl
    simp [escapes] at known
  rw [readString, simpleEscape_iff.mpr ⟨mark, c, rfl, rfl, known⟩]
  · simp only [others, Except.map]
  · simpa using other

theorem readString_complete {characters found : Text} (h : Spells characters found)
    {rounds : Nat} (enough : characters.length < rounds) (last : Text) :
    readString rounds (characters ++ .char '"' :: last) = .ok (found, last) := by
  induction h generalizing rounds with
  | nil =>
      obtain ⟨r, rfl⟩ : ∃ r, rounds = r + 1 := ⟨rounds - 1, by omega⟩
      rfl
  | plain visible noQuote noSlash others ih =>
      rw [List.length_cons] at enough
      obtain ⟨r, rfl⟩ : ∃ r, rounds = r + 1 := ⟨rounds - 1, by omega⟩
      rw [List.cons_append, readString_plain visible noQuote noSlash, ih (by omega)]
      rfl
  | escape known others ih =>
      simp only [List.length_cons] at enough
      obtain ⟨r, rfl⟩ : ∃ r, rounds = r + 1 := ⟨rounds - 1, by omega⟩
      exact readString_short known (ih (by omega))
  | @unit digits rest text unit number high low others ih =>
      simp only [List.length_cons, List.length_append] at enough
      obtain ⟨r, rfl⟩ : ∃ r, rounds = r + 1 := ⟨rounds - 1, by omega⟩
      have read := @readUnicode_alone _ _ _ last _ number others (by simp [high])
      rw [ofUnit_alone high low] at read
      simpa using readString_unicode read (ih (by omega))
  | @pair first second rest text high low upper isHigh lower isLow others ih =>
      simp only [List.length_cons, List.length_append] at enough
      obtain ⟨r, rfl⟩ : ∃ r, rounds = r + 1 := ⟨rounds - 1, by omega⟩
      have more : rest ++ .char '"' :: last ≠ [] := by simp
      have read := readUnicode_pair upper isHigh lower isLow more
      simpa using readString_unicode read (ih (by omega))
  | @half digits rest text place number alone others ih =>
      simp only [List.length_cons, List.length_append] at enough
      obtain ⟨r, rfl⟩ : ∃ r, rounds = r + 1 := ⟨rounds - 1, by omega⟩
      have first : isHighHalf (Letter.half place).code = true → ¬ StartsLow rest := by
        intro high
        exact alone.resolve_right (by simp [not_low high]) |>.2
      have read := @readUnicode_alone _ _ _ last _ number others first
      rw [ofUnit_code place] at read
      simpa using readString_unicode read (ih (by omega))

/-! ## Numbers -/

theorem Grammar.Whole.head {whole : List Char} (h : Whole whole) :
    ∃ c rest, whole = c :: rest ∧ isDigit c = true := by
  cases h with
  | zero => exact ⟨'0', [], rfl, rfl⟩
  | digits nonzero run => exact ⟨_, _, rfl, run.2 _ List.mem_cons_self⟩

theorem takeWhile_append_run {digits rest : List Char} (run : ∀ c ∈ digits, isDigit c = true)
    (ends : rest.takeWhile isDigit = []) :
    (digits ++ rest).takeWhile isDigit = digits ∧ (digits ++ rest).dropWhile isDigit = rest := by
  rw [List.takeWhile_append_of_pos run, List.dropWhile_append_of_pos run, ends, List.append_nil]
  refine ⟨rfl, ?_⟩
  cases rest with
  | nil => rfl
  | cons c tail =>
      cases digit : isDigit c with
      | true => simp [digit] at ends
      | false => simp [digit]

theorem wholePart_complete {whole rest : List Char} (h : Whole whole)
    (ends : rest.takeWhile isDigit = []) : wholePart? (whole ++ rest) = some (whole, rest) := by
  cases h with
  | zero => rfl
  | @digits c tail nonzero run =>
      obtain ⟨taken, dropped⟩ :=
        takeWhile_append_run (fun d hd => run.2 d (List.mem_cons_of_mem c hd)) ends
      rw [List.cons_append, wholePart?.eq_2 _ _ (fun h => nonzero h),
        if_pos (run.2 c List.mem_cons_self), taken, dropped]

theorem fractionPart_complete {fraction rest : List Char} (h : Fraction fraction)
    (ends : rest.takeWhile isDigit = []) (alone : fractionPart rest = ([], rest)) :
    fractionPart (fraction ++ rest) = (fraction.drop 1, rest) := by
  cases h with
  | none => exact alone
  | some run =>
      obtain ⟨c, tail, rfl⟩ := List.exists_cons_of_ne_nil run.1
      obtain ⟨taken, dropped⟩ :=
        takeWhile_append_run (fun d hd => run.2 d (List.mem_cons_of_mem c hd)) ends
      simp only [List.cons_append, fractionPart, run.2 c List.mem_cons_self, if_true, taken,
        dropped, List.drop_one, List.tail_cons]

theorem exponentPart_complete {exponent rest : List Char} (h : Exponent exponent)
    (ends : rest.takeWhile isDigit = []) (alone : exponentPart rest = (none, rest)) :
    exponentPart (exponent ++ rest) =
      (if exponent = [] then none else some (readInt (exponent.drop 1)), rest) := by
  cases h with
  | none => exact alone
  | @plain mark digits letter run =>
      obtain ⟨taken, dropped⟩ := takeWhile_append_run run.2 ends
      have value := readInt_digits run
      obtain ⟨c, tail, rfl⟩ := List.exists_cons_of_ne_nil run.1
      rw [List.cons_append] at taken dropped ⊢
      have first := splitSign_digit (run.2 c List.mem_cons_self) (tail ++ rest)
      simp only [exponentPart, letter, if_true, List.cons_append, first, taken, dropped]
      simp [value]
  | @signed mark sign digits letter either run =>
      obtain ⟨taken, dropped⟩ := takeWhile_append_run run.2 ends
      have some : digits.isEmpty = false := by simpa using run.1
      have value := readInt_sign either digits
      have first : splitSign (sign :: (digits ++ rest)) =
          (decide (sign = '-'), digits ++ rest) := by
        rcases either with rfl | rfl <;> rfl
      simp only [exponentPart, letter, if_true, List.cons_append, first, taken, dropped, some]
      simp [value]

theorem Grammar.Exponent.head {exponent : List Char} (h : Exponent exponent) (some : exponent ≠ [])
    (rest : List Char) :
    (exponent ++ rest).takeWhile isDigit = [] ∧
      fractionPart (exponent ++ rest) = ([], exponent ++ rest) := by
  cases h with
  | none => exact absurd rfl some
  | plain letter run => rcases letter with rfl | rfl <;> exact ⟨rfl, rfl⟩
  | signed letter either run => rcases letter with rfl | rfl <;> exact ⟨rfl, rfl⟩

def numberAfter (negative : Bool) (whole after : List Char) :
    Except ReadError (Json × List Char) :=
  if (fractionPart after).1.isEmpty ∧ (exponentPart (fractionPart after).2).1.isNone then
    if whole.length > digitLimit then
      .error (.tooManyDigits whole.length)
    else
      .ok (.int (signed negative (ofDigits whole)), (exponentPart (fractionPart after).2).2)
  else
    .ok (.float (ofParts negative whole (fractionPart after).1
      ((exponentPart (fractionPart after).2).1.getD 0)), (exponentPart (fractionPart after).2).2)

theorem readNumeral_sign {sign unsigned whole after : List Char} {negative : Bool}
    (front : SignOf sign negative) (noSign : unsigned.head? ≠ some '-')
    (h : wholePart? unsigned = some (whole, after)) :
    readNumeral (sign ++ unsigned) = numberAfter negative whole after := by
  unfold readNumeral
  split
  rename_i found text hsign
  obtain ⟨rfl, rfl⟩ : found = negative ∧ text = unsigned := by
    cases front with
    | none =>
        split at hsign
        · rename_i same
          rw [List.nil_append] at same
          exact absurd (congrArg List.head? same) noSign
        · cases hsign
          exact ⟨rfl, rfl⟩
    | minus =>
        cases hsign
        exact ⟨rfl, rfl⟩
  rw [h]
  rfl

theorem digit_noSign {c : Char} (h : isDigit c = true) : c ≠ '-' := by
  rintro rfl
  cases h

theorem Grammar.Whole.noSign {whole : List Char} (h : Whole whole) (rest : List Char) :
    (whole ++ rest).head? ≠ some '-' := by
  obtain ⟨c, tail, rfl, digit⟩ := h.head
  simpa using digit_noSign digit

theorem Stops.nil : Stops [] := ⟨rfl, rfl, rfl⟩

theorem readNumeral_whole {sign whole rest : List Char} {negative : Bool}
    (front : SignOf sign negative) (first : Whole whole) (stops : Stops rest) :
    readNumeral (sign ++ (whole ++ rest)) =
      if whole.length > digitLimit then .error (.tooManyDigits whole.length)
      else .ok (.int (signed negative (ofDigits whole)), rest) := by
  rw [readNumeral_sign front (first.noSign rest) (wholePart_complete first stops.digit),
    numberAfter, stops.fraction, stops.exponent]
  rfl

theorem readNumeral_parted {sign whole fraction exponent rest : List Char} {negative : Bool}
    (front : SignOf sign negative) (first : Whole whole) (second : Fraction fraction)
    (third : Exponent exponent) (parted : fraction ≠ [] ∨ exponent ≠ []) (stops : Stops rest) :
    readNumeral (sign ++ (whole ++ (fraction ++ (exponent ++ rest)))) =
      .ok (.float (ofParts negative whole (fraction.drop 1) (readInt (exponent.drop 1))),
        rest) := by
  have exponentRead := exponentPart_complete third stops.digit stops.exponent
  have bare : (exponent ++ rest).takeWhile isDigit = [] ∧
      fractionPart (exponent ++ rest) = ([], exponent ++ rest) := by
    by_cases none : exponent = []
    · rw [none, List.nil_append]
      exact ⟨stops.digit, stops.fraction⟩
    · exact third.head none rest
  have fractionRead := fractionPart_complete second bare.1 bare.2
  have ends : (fraction ++ (exponent ++ rest)).takeWhile isDigit = [] := by
    cases second with
    | none => exact bare.1
    | some run => rfl
  rw [readNumeral_sign front (first.noSign _) (wholePart_complete first ends), numberAfter,
    fractionRead, exponentRead]
  rw [if_neg]
  · by_cases none : exponent = [] <;> simp [none, readInt, splitSign, ofDigits, signed]
  · rintro ⟨noFraction, noExponent⟩
    rcases parted with some | some
    · cases second with
      | none => exact some rfl
      | some run => exact run.1 (List.isEmpty_iff.mp noFraction)
    · simp [some] at noExponent

theorem readNumeral_complete {word rest : List Char} {json : Json} (h : NumberOf word json)
    (stops : Stops rest) : readNumeral (word ++ rest) = .ok (json, rest) := by
  cases h with
  | int front first short =>
      rw [List.append_assoc, readNumeral_whole front first stops, if_neg (Nat.not_lt.mpr short)]
  | float front first second third parted =>
      simpa only [List.append_assoc] using
        readNumeral_parted front first second third parted stops

theorem Grammar.SignOf.inNumber {sign : List Char} {negative : Bool} (h : SignOf sign negative) :
    ∀ c ∈ sign, inNumber c = true := by
  cases h with
  | none => exact List.forall_mem_nil _
  | minus => exact List.forall_mem_singleton.mpr rfl

theorem Grammar.NumberOf.inNumber {word : List Char} {json : Json} (h : NumberOf word json) :
    ∀ c ∈ word, inNumber c = true := by
  cases h with
  | int front first short => exact List.forall_mem_append.mpr ⟨front.inNumber, first.inNumber⟩
  | float front first second third parted =>
      exact List.forall_mem_append.mpr ⟨front.inNumber, List.forall_mem_append.mpr
        ⟨first.inNumber, List.forall_mem_append.mpr ⟨second.inNumber, third.inNumber⟩⟩⟩

theorem readNumber_complete {word : List Char} {json : Json} (h : NumberOf word json) {rest : Text}
    (ends : EndsNumber rest) : readNumber (.ofChars word ++ rest) = .ok (json, rest) := by
  rw [readNumber_append h.inNumber, splitNumeral_ends ends, readNumeral_complete h .nil]
  rfl

theorem readNumber_long {sign whole : List Char} {negative : Bool} (front : SignOf sign negative)
    (first : Whole whole) {rest : Text} (ends : EndsWhole rest) (long : digitLimit < whole.length) :
    readNumber (.ofChars (sign ++ whole) ++ rest) = .error (.tooManyDigits whole.length) := by
  have run := List.forall_mem_append.mpr ⟨front.inNumber, first.inNumber⟩
  rw [readNumber_append run, List.append_assoc, readNumeral_whole front first ends.stops,
    if_pos long]
  rfl

/-! ## Values -/

theorem readValue_numeral {sign whole : List Char} {negative : Bool} (front : SignOf sign negative)
    (first : Whole whole) (rounds : Nat) (rest : Text) :
    readValue (rounds + 1) (.ofChars (sign ++ whole) ++ rest) =
      readNumber (.ofChars (sign ++ whole) ++ rest) := by
  obtain ⟨c, tail, rfl, digit⟩ := first.head
  cases front with
  | none => exact readValue_digit digit rounds _
  | minus => exact readValue_minus digit rounds _

theorem readValue_number {word : List Char} {json : Json} (h : NumberOf word json) {rest : Text}
    (ends : EndsNumber rest) (rounds : Nat) :
    readValue (rounds + 1) (.ofChars word ++ rest) = .ok (json, rest) := by
  rw [← readNumber_complete h ends]
  cases h with
  | int front first short => exact readValue_numeral front first rounds rest
  | float front first second third parted =>
      rw [← List.append_assoc, Text.ofChars_append, List.append_assoc]
      exact readValue_numeral front first rounds _

def Opens (c : Letter) : Prop := isSpace c = false ∧ c ≠ ']' ∧ c ≠ '\x7d' ∧ c ≠ '\ufeff'

instance (c : Letter) : Decidable (Opens c) := inferInstanceAs (Decidable (_ ∧ _ ∧ _ ∧ _))

theorem opens_digit {c : Char} (h : isDigit c = true) : Opens (.char c) := by
  refine ⟨?_, ?_, ?_, ?_⟩
  · exact isSpace_digit h
  all_goals
    rintro ⟨⟩
    cases h

theorem numeral_opens {sign whole : List Char} {negative : Bool} (front : SignOf sign negative)
    (first : Whole whole) (rest : Text) :
    ∃ c tail, Text.ofChars (sign ++ whole) ++ rest = c :: tail ∧ Opens c := by
  obtain ⟨d, tail, rfl, digit⟩ := first.head
  cases front with
  | none => exact ⟨.char d, _, rfl, opens_digit digit⟩
  | minus => exact ⟨.char '-', _, rfl, by decide⟩

theorem Grammar.NumberOf.opens {word : List Char} {json : Json} (h : NumberOf word json) :
    ∃ c tail, Text.ofChars word = c :: tail ∧ Opens c := by
  cases h with
  | int front first short => simpa using numeral_opens front first []
  | float front first second third parted =>
      rw [← List.append_assoc, Text.ofChars_append]
      exact numeral_opens front first _

theorem Grammar.ValueOf.opens {word : Text} {json : Json} (h : ValueOf word json) :
    ∃ c tail, word = c :: tail ∧ Opens c := by
  cases h with
  | number number => exact number.opens
  | _ => exact ⟨_, _, rfl, by decide⟩

theorem skipSpace_space {space : Text} (blank : Space space) (rest : Text) :
    skipSpace (space ++ rest) = skipSpace rest :=
  List.dropWhile_append_of_pos blank

theorem skipSpace_opens {c : Letter} (h : Opens c) (rest : Text) :
    skipSpace (c :: rest) = c :: rest :=
  skipSpace_cons h.1 rest

def Delimited (text : Text) : Prop :=
  ∀ c, text.head? = some c → c ∈ [Letter.char ',', .char ']', .char '\x7d']

theorem Delimited.skip {rest : Text} (h : Delimited rest) : skipSpace rest = rest := by
  cases rest with
  | nil => rfl
  | cons c tail =>
      apply skipSpace_cons
      have closing := h c rfl
      simp only [List.mem_cons, List.not_mem_nil, or_false] at closing
      rcases closing with rfl | rfl | rfl <;> rfl

theorem Delimited.ends {space rest : Text} (blank : Space space) (h : Delimited rest) :
    EndsNumber (space ++ rest) := by
  intro c hc
  have choice : isSpace (.char c) = true ∨
      .char c ∈ [Letter.char ',', .char ']', .char '\x7d'] := by
    cases space with
    | nil => exact .inr (h _ hc)
    | cons d tail =>
        cases hc
        exact .inl (blank _ List.mem_cons_self)
  simp only [isSpace, Bool.or_eq_true, decide_eq_true_eq, List.mem_cons, List.not_mem_nil,
    or_false, Letter.char.injEq] at choice
  rcases choice with ((((rfl | rfl) | rfl) | rfl)) | rfl | rfl | rfl <;> decide

theorem delimited_comma (rest : Text) : Delimited (.char ',' :: rest) := by
  rintro c ⟨⟩
  decide

theorem delimited_bracket (rest : Text) : Delimited (.char ']' :: rest) := by
  rintro c ⟨⟩
  decide

theorem delimited_brace (rest : Text) : Delimited (.char '\x7d' :: rest) := by
  rintro c ⟨⟩
  decide

/-! ## One round of a reader -/

theorem readValue_string_complete {characters text : Text} (inner : Spells characters text)
    (rounds : Nat) (rest : Text) :
    readValue (rounds + 1) (.char '"' :: (characters ++ .char '"' :: rest)) =
      .ok (.string text, rest) := by
  have enough : characters.length < (characters ++ .char '"' :: rest).length + 1 := by
    rw [List.length_append]
    omega
  rw [readValue, readString_complete inner enough]
  rfl

theorem readValue_emptyArray {space : Text} (blank : Space space) (rounds : Nat)
    (rest : Text) :
    readValue (rounds + 1) (.char '[' :: (space ++ .char ']' :: rest)) = .ok (.array [], rest) := by
  rw [readValue, skipSpace_space blank, skipSpace_cons (show isSpace (.char ']') = false from rfl)]
  rfl

theorem readValue_items {c : Letter} {tail rest : Text} (front : skipSpace rest = c :: tail)
    (more : c ≠ .char ']') (rounds : Nat) :
    readValue (rounds + 1) (.char '[' :: rest) =
      (readItems rounds (skipSpace rest)).map fun found => (.array found.1, found.2) := by
  rw [readValue]
  split
  · rename_i same
    rw [front] at same
    cases same
    exact absurd rfl more
  · rfl

theorem readValue_emptyObject {space : Text} (blank : Space space) (rounds : Nat)
    (rest : Text) :
    readValue (rounds + 1) (.char '\x7b' :: (space ++ .char '\x7d' :: rest)) =
      .ok (.object [], rest) := by
  rw [readValue, skipSpace_space blank,
    skipSpace_cons (show isSpace (.char '\x7d') = false from rfl)]
  rfl

theorem readValue_members {c : Letter} {tail rest : Text} (front : skipSpace rest = c :: tail)
    (more : c ≠ .char '\x7d') (rounds : Nat) :
    readValue (rounds + 1) (.char '\x7b' :: rest) =
      (readMembers rounds (skipSpace rest)).map fun found =>
        (.object (mergeMembers found.1), found.2) := by
  rw [readValue]
  split
  · rename_i same
    rw [front] at same
    cases same
    exact absurd rfl more
  · rfl

theorem readItems_error {rounds : Nat} {text : Text} {e : ReadError}
    (h : readValue rounds text = .error e) : readItems (rounds + 1) text = .error e := by
  rw [readItems, h]

theorem readItems_last {rounds : Nat} {text after last : Text} {item : Json}
    (h : readValue rounds text = .ok (item, after)) (ends : skipSpace after = .char ']' :: last) :
    readItems (rounds + 1) text = .ok ([item], last) := by
  rw [readItems, h]
  simp only [ends]

theorem readItems_more {rounds : Nat} {text after rest : Text} {item : Json}
    (h : readValue rounds text = .ok (item, after)) (goes : skipSpace after = .char ',' :: rest) :
    readItems (rounds + 1) text =
      (readItems rounds (skipSpace rest)).map fun found => (item :: found.1, found.2) := by
  rw [readItems, h]
  simp only [goes]

theorem Grammar.LabelOf.read {label : Text} {name : Text} (h : LabelOf label name)
    (rest : Text) :
    ∃ inner afterName, skipSpace (label ++ rest) = .char '"' :: inner ∧
      readString (inner.length + 1) inner = .ok (name, afterName) ∧
        skipSpace afterName = .char ':' :: rest := by
  cases h with
  | @mk before characters text after front inner back =>
      have enough : characters.length <
          (characters ++ .char '"' :: (after ++ .char ':' :: rest)).length + 1 := by
        rw [List.length_append]
        omega
      refine ⟨_, after ++ .char ':' :: rest, ?_, readString_complete inner enough _, ?_⟩
      · simp only [List.append_assoc, List.cons_append, List.nil_append]
        rw [skipSpace_space front]
        rfl
      · rw [skipSpace_space back]
        rfl

theorem readMembers_error {label : Text} {name : Text} (front : LabelOf label name)
    {rounds : Nat} {rest : Text} {e : ReadError}
    (h : readValue rounds (skipSpace rest) = .error e) :
    readMembers (rounds + 1) (skipSpace (label ++ rest)) = .error e := by
  obtain ⟨inner, afterName, start, read, colon⟩ := front.read rest
  rw [start, readMembers, read]
  simp only [colon, h]

theorem readMembers_last {label : Text} {name : Text} (front : LabelOf label name)
    {rounds : Nat} {rest after last : Text} {value : Json}
    (h : readValue rounds (skipSpace rest) = .ok (value, after))
    (ends : skipSpace after = .char '\x7d' :: last) :
    readMembers (rounds + 1) (skipSpace (label ++ rest)) = .ok ([(name, value)], last) := by
  obtain ⟨inner, afterName, start, read, colon⟩ := front.read rest
  rw [start, readMembers, read]
  simp only [colon, h, ends]

theorem readMembers_more {label : Text} {name : Text} (front : LabelOf label name)
    {rounds : Nat} {rest after more : Text} {value : Json}
    (h : readValue rounds (skipSpace rest) = .ok (value, after))
    (goes : skipSpace after = .char ',' :: more) :
    readMembers (rounds + 1) (skipSpace (label ++ rest)) =
      (readMembers rounds (skipSpace more)).map fun found =>
        ((name, value) :: found.1, found.2) := by
  obtain ⟨inner, afterName, start, read, colon⟩ := front.read rest
  rw [start, readMembers, read]
  simp only [colon, h, goes]

/-! ## Derivable texts are read -/

theorem Grammar.ElementOf.skip {text : Text} {json : Json} (h : ElementOf text json)
    (rest : Text) : ∃ c tail, skipSpace (text ++ rest) = c :: tail ∧ Opens c := by
  cases h with
  | @mk before value after json front inner back =>
      obtain ⟨c, tail, rfl, opens⟩ := inner.opens
      refine ⟨c, tail ++ (after ++ rest), ?_, opens⟩
      rw [List.append_assoc, skipSpace_space front, List.append_assoc, List.cons_append,
        skipSpace_opens opens]

theorem Grammar.ElementsOf.skip {text : Text} {items : List Json} (h : ElementsOf text items)
    (rest : Text) : ∃ c tail, skipSpace (text ++ rest) = c :: tail ∧ Opens c := by
  cases h with
  | one element => exact element.skip rest
  | more element others =>
      rw [List.append_assoc]
      exact element.skip _

theorem Grammar.LabelOf.skip {label : Text} {name : Text} (h : LabelOf label name)
    (rest : Text) : ∃ tail, skipSpace (label ++ rest) = .char '"' :: tail := by
  obtain ⟨inner, afterName, start, -⟩ := h.read rest
  exact ⟨inner, start⟩

theorem Grammar.MemberOf.skip {text : Text} {member : Text × Json} (h : MemberOf text member)
    (rest : Text) : ∃ tail, skipSpace (text ++ rest) = .char '"' :: tail := by
  cases h with
  | mk front element =>
      rw [List.append_assoc]
      exact front.skip _

theorem Grammar.MembersOf.skip {text : Text} {members : List (Text × Json)}
    (h : MembersOf text members) (rest : Text) :
    ∃ tail, skipSpace (text ++ rest) = .char '"' :: tail := by
  cases h with
  | one first => exact first.skip rest
  | more first others =>
      rw [List.append_assoc]
      exact first.skip _

mutual

theorem Grammar.ValueOf.read : ∀ {word : Text} {json : Json}, ValueOf word json →
    ∀ {rounds : Nat} {rest : Text}, 2 * word.length ≤ rounds + 1 → EndsNumber rest →
      readValue (rounds + 1) (word ++ rest) = .ok (json, rest)
  | _, _, .null, _, _, _, _ => rfl
  | _, _, .true, _, _, _, _ => rfl
  | _, _, .false, _, _, _, _ => rfl
  | _, _, .nan, _, _, _, _ => rfl
  | _, _, .infinity, _, _, _, _ => rfl
  | _, _, .negativeInfinity, _, _, _, _ => rfl
  | _, _, .number number, rounds, _, _, ends => readValue_number number ends rounds
  | _, _, .string inner, rounds, rest, _, _ => by
      simpa using readValue_string_complete inner rounds rest
  | _, _, .emptyArray blank, rounds, rest, _, _ => by
      simpa using readValue_emptyArray blank rounds rest
  | _, _, @ValueOf.array text _ inner, rounds, rest, enough, _ => by
      simp only [List.length_cons, List.length_append, List.length_nil] at enough
      have within : 2 * text.length + 1 ≤ rounds := by omega
      obtain ⟨c, tail, front, opens⟩ := inner.skip (.char ']' :: rest)
      have items := @ElementsOf.read _ _ inner _ rest within
      have value := readValue_items front opens.2.1 rounds
      rw [items] at value
      simpa [Except.map] using value
  | _, _, .emptyObject blank, rounds, rest, _, _ => by
      simpa using readValue_emptyObject blank rounds rest
  | _, _, @ValueOf.object text _ _ inner merged, rounds, rest, enough, _ => by
      simp only [List.length_cons, List.length_append, List.length_nil] at enough
      have within : 2 * text.length + 1 ≤ rounds := by omega
      obtain ⟨tail, front⟩ := inner.skip (.char '\x7d' :: rest)
      have members := @MembersOf.read _ _ inner _ rest within
      have value := readValue_members front (by decide) rounds
      rw [members] at value
      rw [merged.unique (merged_mergeMembers _)]
      simpa [Except.map] using value

theorem Grammar.ElementOf.read : ∀ {text : Text} {json : Json}, ElementOf text json →
    ∀ {rounds : Nat} {rest : Text}, 2 * text.length ≤ rounds → Delimited rest →
      ∃ after, readValue rounds (skipSpace (text ++ rest)) = .ok (json, after) ∧
        skipSpace after = rest
  | _, _, @ElementOf.mk before value after json front inner back, rounds, rest, enough,
      delimited => by
      obtain ⟨c, tail, split, opens⟩ := inner.opens
      have some : 0 < value.length := by simp [split]
      simp only [List.length_append] at enough
      obtain ⟨r, rfl⟩ : ∃ r, rounds = r + 1 := ⟨rounds - 1, by omega⟩
      refine ⟨after ++ rest, ?_, by rw [skipSpace_space back, delimited.skip]⟩
      have start : skipSpace (value ++ (after ++ rest)) = value ++ (after ++ rest) := by
        rw [split]
        exact skipSpace_opens opens _
      rw [List.append_assoc, skipSpace_space front, List.append_assoc, start]
      exact ValueOf.read inner (by omega) (delimited.ends back)

theorem Grammar.ElementsOf.read : ∀ {text : Text} {items : List Json}, ElementsOf text items →
    ∀ {rounds : Nat} {rest : Text}, 2 * text.length + 1 ≤ rounds →
      readItems rounds (skipSpace (text ++ .char ']' :: rest)) = .ok (items, rest)
  | _, _, @ElementsOf.one text _ element, rounds, rest, enough => by
      obtain ⟨r, rfl⟩ : ∃ r, rounds = r + 1 := ⟨rounds - 1, by omega⟩
      have within : 2 * text.length ≤ r := by omega
      obtain ⟨after, value, ends⟩ := ElementOf.read element within (delimited_bracket rest)
      exact readItems_last value ends
  | _, _, @ElementsOf.more text others json items element later, rounds, rest, enough => by
      simp only [List.length_append, List.length_cons] at enough
      obtain ⟨r, rfl⟩ : ∃ r, rounds = r + 1 := ⟨rounds - 1, by omega⟩
      have within : 2 * text.length ≤ r := by omega
      obtain ⟨after, value, goes⟩ :=
        ElementOf.read element within (delimited_comma (others ++ .char ']' :: rest))
      rw [List.append_assoc, List.cons_append, readItems_more value goes,
        ElementsOf.read later (by omega)]
      rfl

theorem Grammar.MembersOf.read : ∀ {text : Text} {members : List (Text × Json)},
    MembersOf text members → ∀ {rounds : Nat} {rest : Text}, 2 * text.length + 1 ≤ rounds →
      readMembers rounds (skipSpace (text ++ .char '\x7d' :: rest)) = .ok (members, rest)
  | _, _, .one (@MemberOf.mk _ text _ _ front element), rounds, rest, enough => by
      rw [List.length_append] at enough
      obtain ⟨r, rfl⟩ : ∃ r, rounds = r + 1 := ⟨rounds - 1, by omega⟩
      have within : 2 * text.length ≤ r := by omega
      obtain ⟨after, value, ends⟩ := ElementOf.read element within (delimited_brace rest)
      rw [List.append_assoc]
      exact readMembers_last front value ends
  | _, _, @MembersOf.more _ others _ members (@MemberOf.mk _ text _ _ front element) later, rounds,
      rest, enough => by
      simp only [List.length_append, List.length_cons] at enough
      obtain ⟨r, rfl⟩ : ∃ r, rounds = r + 1 := ⟨rounds - 1, by omega⟩
      have within : 2 * text.length ≤ r := by omega
      obtain ⟨after, value, goes⟩ :=
        ElementOf.read element within (delimited_comma (others ++ .char '\x7d' :: rest))
      rw [List.append_assoc, List.append_assoc, List.cons_append, readMembers_more front value goes,
        MembersOf.read later (by omega)]
      rfl

end

theorem ne_mark {text tail : Text} {c : Letter} (start : skipSpace text = c :: tail)
    (opens : Opens c) (rest : Text) : text ≠ .char '\ufeff' :: rest := by
  rintro rfl
  rw [skipSpace_cons rfl] at start
  cases start
  exact opens.2.2.2 rfl

theorem read_complete {text : Text} {json : Json} (h : ElementOf text json) :
    read text = .ok json := by
  have within : 2 * text.length ≤ 2 * text.length + 2 := Nat.le_add_right _ 2
  obtain ⟨after, value, ends⟩ := @ElementOf.read _ _ h _ [] within (fun c hc => by cases hc)
  rw [List.append_nil] at value
  unfold read
  split
  · obtain ⟨c, tail, start, opens⟩ := h.skip []
    rw [List.append_nil] at start
    exact absurd rfl (ne_mark start opens _)
  · rw [value]
    simp [ends]

theorem read_eq_ok {text : Text} {json : Json} : read text = .ok json ↔ ElementOf text json :=
  ⟨read_sound, read_complete⟩

end LedgerFeed.Json
