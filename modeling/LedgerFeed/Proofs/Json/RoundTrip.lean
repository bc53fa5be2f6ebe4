import LedgerFeed.Proofs.Json.Tokens

namespace LedgerFeed.Json

theorem natDigits_cons (n : Nat) :
    ∃ c tail, natDigits n = c :: tail ∧ isDigit c = true := by
  obtain ⟨c, tail, h⟩ := List.exists_cons_of_ne_nil (natDigits_ne_nil n)
  exact ⟨c, tail, h, isDigit_of_mem_natDigits (h ▸ List.mem_cons_self : c ∈ natDigits n)⟩

/-- A tree that its text determines. -/
inductive Faithful : Json → Prop
  | null : Faithful .null
  | bool (b : Bool) : Faithful (.bool b)
  | int {n : Int} (short : exceedsDigitLimit n = false) : Faithful (.int n)
  | string (s : Text) : Faithful (.string s)
  | array {items : List Json} (inner : ∀ item ∈ items, Faithful item) : Faithful (.array items)
  | object {members : List (Text × Json)} (once : (members.map (·.1)).Nodup)
      (inner : ∀ member ∈ members, Faithful member.2) : Faithful (.object members)

/-! ## Compact text -/

theorem writeItems_eq (layout : JsonLayout) (items : List Json) :
    writeItems layout items = items.map (write layout) := by
  induction items with
  | nil => rfl
  | cons item rest ih => rw [writeItems, ih, List.map_cons]

def writeMember (member : Text × Json) : Text :=
  writeText false member.1 ++ .char ':' :: write .compact member.2

theorem writeMembers_eq (members : List (Text × Json)) :
    writeMembers .compact members = members.map writeMember := by
  induction members with
  | nil => rfl
  | cons member rest ih =>
      rw [writeMembers, ih, List.map_cons]
      simp [writeMember, JsonLayout.compact]

theorem write_array (items : List Json) :
    write .compact (.array items) =
      .char '[' :: separate [.char ','] (items.map (write .compact)) ++ [.char ']'] := by
  rw [write, writeItems_eq]
  rfl

theorem write_object (members : List (Text × Json)) :
    write .compact (.object members) =
      .char '\x7b' :: separate [.char ','] (members.map writeMember) ++ [.char '\x7d'] := by
  rw [write, writeMembers_eq]
  rfl

theorem separate_cons (first : Text) (rest : List Text) :
    separate [.char ','] (first :: rest) =
      first ++ (if rest.isEmpty then [] else .char ',' :: separate [.char ','] rest) := by
  cases rest <;> simp [separate]

theorem skipSpace_cons {letter : Letter} (h : isSpace letter = false) (rest : Text) :
    skipSpace (letter :: rest) = letter :: rest := by
  simp [skipSpace, h]

theorem ne_of_digit {c d : Char} (h : isDigit c = true) (other : isDigit d = false) :
    Letter.char c ≠ .char d := by
  intro same
  rw [Letter.char.inj same, other] at h
  cases h

theorem isSpace_digit {c : Char} (h : isDigit c = true) : isSpace (.char c) = false := by
  have ne (d : Char) (other : isDigit d = false) : Letter.char c ≠ .char d := ne_of_digit h other
  simp [isSpace, -Letter.char.injEq, ne ' ' rfl, ne '\t' rfl, ne '\n' rfl, ne '\r' rfl]

theorem write_head {j : Json} (h : j.Faithful) :
    ∃ letter tail, write .compact j = letter :: tail ∧ isSpace letter = false ∧
      letter ≠ .char ']' ∧ letter ≠ .char '\ufeff' := by
  cases h with
  | null => exact ⟨_, _, rfl, rfl, by decide, by decide⟩
  | bool b => cases b <;> exact ⟨_, _, rfl, rfl, by decide, by decide⟩
  | int short =>
      rename_i n
      obtain ⟨c, tail, hcons, hc⟩ := natDigits_cons n.natAbs
      rw [write]
      unfold intDigits
      split
      · exact ⟨_, _, rfl, rfl, by decide, by decide⟩
      · rw [hcons]
        exact ⟨_, _, rfl, isSpace_digit hc, ne_of_digit hc rfl, ne_of_digit hc rfl⟩
  | string s => exact ⟨_, _, rfl, rfl, by decide, by decide⟩
  | array inner => exact ⟨_, _, write_array _, rfl, by decide, by decide⟩
  | object once inner => exact ⟨_, _, write_object _, rfl, by decide, by decide⟩

/-! ## Scalars -/

theorem readValue_null (rounds : Nat) (rest : Text) :
    readValue (rounds + 1) (write .compact .null ++ rest) = .ok (.null, rest) := by
  rfl

theorem readValue_bool (rounds : Nat) (b : Bool) (rest : Text) :
    readValue (rounds + 1) (write .compact (.bool b) ++ rest) = .ok (.bool b, rest) := by
  cases b <;> rfl

theorem digit_ne {c : Char} (h : isDigit c = true) :
    c ≠ '"' ∧ c ≠ '[' ∧ c ≠ '\x7b' ∧ c ≠ 'n' ∧ c ≠ 't' ∧ c ≠ 'f' ∧ c ≠ 'N' ∧ c ≠ 'I' ∧ c ≠ '-' := by
  refine ⟨?_, ?_, ?_, ?_, ?_, ?_, ?_, ?_, ?_⟩ <;> (rintro rfl; cases h)

theorem name_heads :
    Text.ofString "null" = .char 'n' :: Text.ofString "ull" ∧
    Text.ofString "true" = .char 't' :: Text.ofString "rue" ∧
    Text.ofString "false" = .char 'f' :: Text.ofString "alse" ∧
    Text.ofString "NaN" = .char 'N' :: Text.ofString "aN" ∧
    Text.ofString "Infinity" = .char 'I' :: Text.ofString "nfinity" ∧
    Text.ofString "-Infinity" = .char '-' :: .char 'I' :: Text.ofString "nfinity" :=
  ⟨rfl, rfl, rfl, rfl, rfl, rfl⟩

theorem readValue_digit {c : Char} (h : isDigit c = true) (rounds : Nat) (tail : Text) :
    readValue (rounds + 1) (.char c :: tail) = readNumber (.char c :: tail) := by
  obtain ⟨hquote, hbracket, hbrace, hn, ht, hf, hN, hI, hminus⟩ := digit_ne h
  obtain ⟨null, true, false, nan, infinity, negative⟩ := name_heads
  have names : readScalar (.char c :: tail) = readNumber (.char c :: tail) := by
    unfold readScalar
    simp [dropWord?, null, true, false, nan, infinity, negative, hn.symm, ht.symm, hf.symm, hN.symm,
      hI.symm, hminus.symm]
  rw [← names, readValue]
  all_goals
    intro rest same
    cases same
    contradiction

theorem readValue_minus {c : Char} (h : isDigit c = true) (rounds : Nat) (tail : Text) :
    readValue (rounds + 1) (.char '-' :: .char c :: tail) =
      readNumber (.char '-' :: .char c :: tail) := by
  obtain ⟨null, true, false, nan, infinity, negative⟩ := name_heads
  have names : readScalar (.char '-' :: .char c :: tail) =
      readNumber (.char '-' :: .char c :: tail) := by
    unfold readScalar
    simp [dropWord?, null, true, false, nan, infinity, negative,
      (digit_ne h).2.2.2.2.2.2.2.1.symm]
  rw [← names]
  rfl

theorem readValue_int {n : Int} (hn : exceedsDigitLimit n = false) (rounds : Nat)
    {rest : Text} (hr : EndsNumber rest) :
    readValue (rounds + 1) (write .compact (.int n) ++ rest) = .ok (.int n, rest) := by
  rw [write, ← readNumber_intDigits hn hr]
  obtain ⟨c, tail, hcons, hc⟩ := natDigits_cons n.natAbs
  unfold intDigits
  split
  · rw [hcons]
    exact readValue_minus hc rounds _
  · rw [hcons]
    exact readValue_digit hc rounds _

theorem length_le_escaped (text : Text) :
    text.length ≤ (text.flatMap (escapeLetter false)).length := by
  induction text with
  | nil => exact Nat.le_refl _
  | cons letter tail ih =>
      have escape : 1 ≤ (escapeLetter false letter).length := by
        cases letter with
        | char c =>
            unfold escapeLetter escapeChar
            dsimp only
            split_ifs <;> simp_all [unicodeEscape]
        | half place => exact Nat.le_refl 1
      rw [List.flatMap_cons, List.length_append, List.length_cons]
      omega

theorem readString_written (text rest : Text) :
    readString ((text.flatMap (escapeLetter false) ++ .char '"' :: rest).length + 1)
        (text.flatMap (escapeLetter false) ++ .char '"' :: rest) = .ok (text, rest) := by
  apply readString_text
  have := length_le_escaped text
  rw [List.length_append]
  omega

theorem readValue_string (s : Text) (rounds : Nat) (rest : Text) :
    readValue (rounds + 1) (write .compact (.string s) ++ rest) = .ok (.string s, rest) := by
  have text : write .compact (.string s) ++ rest =
      .char '"' :: (s.flatMap (escapeLetter false) ++ .char '"' :: rest) := by
    simp [write, writeText, JsonLayout.compact]
  rw [text, readValue, readString_written]
  rfl

/-! ## Arrays -/

def ReadsBack (j : Json) : Prop :=
  ∀ rounds rest, 2 * (write .compact j).length ≤ rounds → EndsNumber rest →
    readValue rounds (write .compact j ++ rest) = .ok (j, rest)

theorem ends_comma (rest : Text) : EndsNumber (.char ',' :: rest) := by
  rintro c h
  cases h
  rfl

theorem ends_bracket (rest : Text) : EndsNumber (.char ']' :: rest) := by
  rintro c h
  cases h
  rfl

theorem ends_brace (rest : Text) : EndsNumber (.char '\x7d' :: rest) := by
  rintro c h
  cases h
  rfl

theorem skipSpace_items {item : Json} (h : item.Faithful) (more : List Text)
    (rest : Text) :
    skipSpace (separate [.char ','] (write .compact item :: more) ++ rest) =
      separate [.char ','] (write .compact item :: more) ++ rest := by
  obtain ⟨c, tail, hcons, hspace, -⟩ := write_head h
  rw [separate_cons, hcons]
  exact skipSpace_cons hspace _

theorem readItems_write {items : List Json} (hne : items ≠ [])
    (h : ∀ item ∈ items, item.Faithful ∧ item.ReadsBack) {rounds : Nat}
    (hrounds : 2 * (separate [.char ','] (items.map (write .compact))).length + 1 ≤ rounds)
    (rest : Text) :
    readItems rounds (separate [.char ','] (items.map (write .compact)) ++ .char ']' :: rest) =
      .ok (items, rest) := by
  induction items generalizing rounds with
  | nil => exact absurd rfl hne
  | cons item others ih =>
      obtain ⟨r, rfl⟩ : ∃ r, rounds = r + 1 := ⟨rounds - 1, by omega⟩
      have back := (h item List.mem_cons_self).2
      rw [List.map_cons, separate_cons] at hrounds ⊢
      cases others with
      | nil =>
          simp only [List.map_nil, List.isEmpty_nil, ↓reduceIte, List.append_nil] at hrounds ⊢
          rw [readItems, back r _ (by omega) (ends_bracket rest)]
          rfl
      | cons next others =>
          simp only [List.map_cons, List.isEmpty_cons, Bool.false_eq_true, ↓reduceIte,
            List.append_assoc, List.cons_append, List.length_append, List.length_cons]
            at hrounds ⊢
          rw [readItems, back r _ (by omega) (ends_comma _)]
          have enough :
              2 * (separate [.char ','] ((next :: others).map (write .compact))).length + 1 ≤ r := by
            simp only [List.map_cons]
            omega
          have later := ih (by simp) (fun i hi => h i (List.mem_cons_of_mem _ hi)) enough
          rw [List.map_cons] at later
          simp only [skipSpace_cons (show isSpace ',' = false from rfl),
            skipSpace_items (h next (by simp)).1, later]
          rfl

/-! ## Objects -/

theorem insertMember_fresh {members : List (Text × Json)} {name : Text} (value : Json)
    (h : name ∉ members.map (·.1)) :
    insertMember members name value = members ++ [(name, value)] := by
  induction members with
  | nil => rfl
  | cons member rest ih =>
      simp only [List.map_cons, List.mem_cons, not_or] at h
      rw [insertMember, if_neg (Ne.symm h.1), ih h.2]
      rfl

theorem mergeMembers_of_nodup {members : List (Text × Json)} (h : (members.map (·.1)).Nodup) :
    mergeMembers members = members := by
  have from_merged : ∀ (later merged : List (Text × Json)),
      ((merged ++ later).map (·.1)).Nodup →
      later.foldl (fun found member => insertMember found member.1 member.2) merged =
        merged ++ later := by
    intro later
    induction later with
    | nil => simp
    | cons member rest ih =>
        rcases member with ⟨name, value⟩
        intro merged hnodup
        have fresh : name ∉ merged.map (·.1) := by
          simp only [List.map_append, List.map_cons, List.nodup_append, List.mem_cons] at hnodup
          exact fun hm => hnodup.2.2 _ hm _ (.inl rfl) rfl
        rw [List.foldl_cons]
        simp only [insertMember_fresh value fresh]
        rw [ih _ (by simpa using hnodup)]
        simp
  exact from_merged members [] (by simpa using h)

theorem writeMember_append (name : Text) (value : Json) (rest : Text) :
    writeMember (name, value) ++ rest =
      .char '"' :: (name.flatMap (escapeLetter false) ++
        .char '"' :: .char ':' :: (write .compact value ++ rest)) := by
  simp [writeMember, writeText]

theorem skipSpace_value {j : Json} (h : j.Faithful) (rest : Text) :
    skipSpace (write .compact j ++ rest) = write .compact j ++ rest := by
  obtain ⟨c, tail, hcons, hspace, -⟩ := write_head h
  rw [hcons]
  exact skipSpace_cons hspace _

section
variable {name : Text} {value : Json} {rounds : Nat} {rest last more : Text}

theorem readMembers_written (hf : value.Faithful) (hb : value.ReadsBack)
    (hrounds : 2 * (write .compact value).length ≤ rounds) (hr : EndsNumber rest)
    (ends : skipSpace rest = .char '\x7d' :: last) :
    readMembers (rounds + 1) (writeMember (name, value) ++ rest) = .ok ([(name, value)], last) := by
  rw [writeMember_append, readMembers, readString_written]
  simp only [skipSpace_cons (show isSpace ':' = false from rfl), skipSpace_value hf,
    hb rounds rest hrounds hr, ends]

theorem readMembers_written_more (hf : value.Faithful) (hb : value.ReadsBack)
    (hrounds : 2 * (write .compact value).length ≤ rounds) (hr : EndsNumber rest)
    (goes : skipSpace rest = .char ',' :: more) :
    readMembers (rounds + 1) (writeMember (name, value) ++ rest) =
      (readMembers rounds (skipSpace more)).map fun found =>
        ((name, value) :: found.1, found.2) := by
  rw [writeMember_append, readMembers, readString_written]
  simp only [skipSpace_cons (show isSpace ':' = false from rfl), skipSpace_value hf,
    hb rounds rest hrounds hr, goes]

end

theorem length_writeMember (member : Text × Json) :
    (write .compact member.2).length + 3 ≤ (writeMember member).length := by
  simp only [writeMember, writeText, List.length_append, List.length_cons, List.length_nil]
  omega

theorem readMembers_write {members : List (Text × Json)} (hne : members ≠ [])
    (h : ∀ member ∈ members, member.2.Faithful ∧ member.2.ReadsBack) {rounds : Nat}
    (hrounds : 2 * (separate [.char ','] (members.map writeMember)).length + 1 ≤ rounds)
    (rest : Text) :
    readMembers rounds (separate [.char ','] (members.map writeMember) ++ .char '\x7d' :: rest) =
      .ok (members, rest) := by
  induction members generalizing rounds with
  | nil => exact absurd rfl hne
  | cons member others ih =>
      obtain ⟨r, rfl⟩ : ∃ r, rounds = r + 1 := ⟨rounds - 1, by omega⟩
      obtain ⟨faithful, back⟩ := h member List.mem_cons_self
      have length := length_writeMember member
      rw [List.map_cons, separate_cons] at hrounds ⊢
      cases others with
      | nil =>
          simp only [List.map_nil, List.isEmpty_nil, ↓reduceIte, List.append_nil] at hrounds ⊢
          exact readMembers_written faithful back (by omega) (ends_brace rest)
            (skipSpace_cons rfl rest)
      | cons next others =>
          simp only [List.map_cons, List.isEmpty_cons, Bool.false_eq_true, ↓reduceIte,
            List.append_assoc, List.cons_append, List.length_append, List.length_cons]
            at hrounds ⊢
          have enough :
              2 * (separate [.char ','] ((next :: others).map writeMember)).length + 1 ≤ r := by
            simp only [List.map_cons]
            omega
          have later := ih (by simp) (fun m hm => h m (List.mem_cons_of_mem _ hm)) enough
          have start :
              skipSpace (separate [.char ','] (writeMember next :: others.map writeMember) ++
              .char '\x7d' :: rest) =
              separate [.char ','] (writeMember next :: others.map writeMember) ++
                .char '\x7d' :: rest := by
            rw [separate_cons, List.append_assoc, writeMember_append]
            rfl
          rw [List.map_cons] at later
          rw [readMembers_written_more faithful back (by omega) (ends_comma _)
            (skipSpace_cons rfl _), start, later]
          rfl

/-! ## Values -/

theorem readValue_array {items : List Json}
    (h : ∀ item ∈ items, item.Faithful ∧ item.ReadsBack) {rounds : Nat}
    (hrounds : 2 * (separate [.char ','] (items.map (write .compact))).length + 1 ≤ rounds)
    (rest : Text) :
    readValue (rounds + 1) (write .compact (.array items) ++ rest) = .ok (.array items, rest) := by
  have text : write .compact (.array items) ++ rest =
      .char '[' :: (separate [.char ','] (items.map (write .compact)) ++ .char ']' :: rest) := by
    simp [write_array]
  rw [text, readValue]
  cases items with
  | nil => rfl
  | cons item others =>
      have faithful := (h item List.mem_cons_self).1
      have read := readItems_write (by simp) h hrounds rest
      obtain ⟨c, tail, hcons, -, hne, -⟩ := write_head faithful
      rw [List.map_cons] at read ⊢
      rw [skipSpace_items faithful]
      split
      · rename_i after same
        rw [separate_cons, hcons] at same
        cases same
        exact absurd rfl hne
      · rw [read]
        rfl

theorem readValue_object {members : List (Text × Json)} (once : (members.map (·.1)).Nodup)
    (h : ∀ member ∈ members, member.2.Faithful ∧ member.2.ReadsBack) {rounds : Nat}
    (hrounds : 2 * (separate [.char ','] (members.map writeMember)).length + 1 ≤ rounds)
    (rest : Text) :
    readValue (rounds + 1) (write .compact (.object members) ++ rest) =
      .ok (.object members, rest) := by
  have text : write .compact (.object members) ++ rest =
      .char '\x7b' :: (separate [.char ','] (members.map writeMember) ++ .char '\x7d' :: rest) := by
    simp [write_object]
  rw [text, readValue]
  cases members with
  | nil => rfl
  | cons member others =>
      have read := readMembers_write (by simp) h hrounds rest
      rw [List.map_cons, separate_cons, List.append_assoc, writeMember_append] at read ⊢
      rw [skipSpace_cons rfl]
      split
      · rename_i same
        cases same
      · rw [read]
        simp only [Except.map, mergeMembers_of_nodup once]

theorem exists_rounds {j : Json} (h : j.Faithful) {rounds : Nat}
    (hrounds : 2 * (write .compact j).length ≤ rounds) : ∃ r, rounds = r + 1 := by
  obtain ⟨letter, tail, hcons, -⟩ := write_head h
  rw [hcons, List.length_cons] at hrounds
  exact ⟨rounds - 1, by omega⟩

theorem Faithful.readsBack {j : Json} (h : j.Faithful) : j.ReadsBack := by
  -- On the tree. Each constructor takes a round and has enough of them left for its parts.
  induction h with
  | null =>
      intro rounds rest hrounds _
      obtain ⟨r, rfl⟩ := exists_rounds .null hrounds
      exact readValue_null r rest
  | bool b =>
      intro rounds rest hrounds _
      obtain ⟨r, rfl⟩ := exists_rounds (.bool b) hrounds
      exact readValue_bool r b rest
  | int short =>
      intro rounds rest hrounds hr
      obtain ⟨r, rfl⟩ := exists_rounds (.int short) hrounds
      exact readValue_int short r hr
  | string s =>
      intro rounds rest hrounds _
      obtain ⟨r, rfl⟩ := exists_rounds (.string s) hrounds
      exact readValue_string s r rest
  | array inner ih =>
      intro rounds rest hrounds _
      rw [write_array] at hrounds
      simp only [List.cons_append, List.length_cons, List.length_append] at hrounds
      obtain ⟨r, rfl⟩ : ∃ r, rounds = r + 1 := ⟨rounds - 1, by omega⟩
      exact readValue_array (fun item hi => ⟨inner item hi, ih item hi⟩) (by omega) rest
  | object once inner ih =>
      intro rounds rest hrounds _
      rw [write_object] at hrounds
      simp only [List.cons_append, List.length_cons, List.length_append] at hrounds
      obtain ⟨r, rfl⟩ : ∃ r, rounds = r + 1 := ⟨rounds - 1, by omega⟩
      exact readValue_object once (fun member hm => ⟨inner member hm, ih member hm⟩) (by omega) rest

theorem read_compact {j : Json} (h : j.Faithful) : read j.compact = .ok j := by
  obtain ⟨c, tail, hcons, hspace, -, hmark⟩ := write_head h
  have value := h.readsBack (2 * (write .compact j).length + 2) [] (by omega)
    (fun c hc => by cases hc)
  rw [compact]
  unfold read
  rw [hcons] at value ⊢
  split
  · rename_i same
    cases same
    exact absurd rfl hmark
  · rw [skipSpace_cons hspace]
    rw [List.append_nil] at value
    rw [value]
    rfl

end LedgerFeed.Json
