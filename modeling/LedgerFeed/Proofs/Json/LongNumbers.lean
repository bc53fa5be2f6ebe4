import LedgerFeed.Proofs.Json.Complete

namespace LedgerFeed.Json

open Grammar

/-! ## Where reading stops -/

theorem readUnit_fails {text : Text} {e : ReadError} (h : readUnit text = .error e) :
    e = .unicodeEscape := by
  unfold readUnit at h
  split at h
  · cases h
    rfl
  · split at h
    · cases h
    · cases h
      rfl

theorem readUnicode_fails {text : Text} {e : ReadError} (h : readUnicode text = .error e) :
    e = .unicodeEscape := by
  unfold readUnicode at h
  split at h
  · rename_i hunit
    cases h
    exact readUnit_fails hunit
  · split at h
    · split at h
      · cases h
      · split at h
        · cases h
          rfl
        · split at h <;> cases h
    · cases h

theorem readString_fails {rounds : Nat} {text : Text} {count : Nat} :
    readString rounds text ≠ .error (.tooManyDigits count) := by
  induction rounds generalizing text with
  | zero => simp [readString]
  | succ rounds ih =>
      intro h
      rw [readString.eq_def] at h
      split at h
      case h_5 same =>
        cases same
        split at h
        · rename_i fails
          cases h
          cases readUnicode_fails fails
        · exact ih (map_eq_error.mp h)
      case h_6 same =>
        cases same
        split at h
        · cases h
        · exact ih (map_eq_error.mp h)
      case h_7 same =>
        cases same
        split at h
        · cases h
        · exact ih (map_eq_error.mp h)
      all_goals cases h

theorem readNumber_fails {text : Text} {count : Nat}
    (h : readNumber text = .error (.tooManyDigits count)) :
    ∃ sign negative whole rest, text = .ofChars (sign ++ whole) ++ rest ∧ SignOf sign negative ∧
      Whole whole ∧ EndsWhole rest ∧ whole.length = count ∧ digitLimit < count := by
  have numeral := map_eq_error.mp h
  obtain ⟨split, run, ends⟩ := splitNumeral_split text
  have read := readNumeral_read (splitNumeral text).1
  rw [numeral] at read
  generalize (splitNumeral text).1 = found at split run read
  generalize (splitNumeral text).2 = after at split ends
  cases read with
  | @long sign whole left negative front first stops long =>
      refine ⟨sign, negative, whole, .ofChars left ++ after, ?_, front, first, ?_, rfl, long⟩
      · rw [split, ← List.append_assoc, Text.ofChars_append, List.append_assoc]
      · have inside : ∀ c ∈ left, inNumber c = true := fun c hc =>
          run c (List.mem_append_right _ (List.mem_append_right _ hc))
        apply Stops.endsWhole
        rw [splitNumeral_append inside, splitNumeral_ends ends, List.append_nil]
        exact stops

theorem readItems_stops {rounds : Nat} {text : Text} {count : Nat}
    (h : readItems rounds text = .error (.tooManyDigits count)) :
    ∃ earlier inner r, r < rounds ∧ text = earlier ++ inner ∧ ItemDue earlier ∧
      readValue r inner = .error (.tooManyDigits count) := by
  induction rounds generalizing text with
  | zero => simp [readItems] at h
  | succ rounds ih =>
      rw [readItems] at h
      split at h
      · rename_i stops
        cases h
        exact ⟨[], text, rounds, Nat.lt_succ_self _, rfl, .first .nil, stops⟩
      · rename_i item after hitem
        obtain ⟨word, rfl, value⟩ := (readsSound rounds).value hitem
        obtain ⟨tail, htail, bare⟩ := skipSpace_split after
        split at h
        · cases h
        · rename_i more hmore
          obtain ⟨earlier, inner, r, less, split, due, stops⟩ := ih (map_eq_error.mp h)
          obtain ⟨gap, hgap, clear⟩ := skipSpace_split more
          have element : ElementOf (word ++ tail) item := .mk .nil value bare
          rw [htail, hmore, hgap, split]
          exact ⟨word ++ tail ++ .char ',' :: (gap ++ earlier), inner, r, by omega, by simp,
            .next element (due.space clear), stops⟩
        · cases h

theorem readMembers_stops {rounds : Nat} {text : Text} {count : Nat}
    (h : readMembers rounds text = .error (.tooManyDigits count)) :
    ∃ earlier inner r, r < rounds ∧ text = earlier ++ inner ∧ MemberDue earlier ∧
      readValue r inner = .error (.tooManyDigits count) := by
  -- On the rounds: reading stops in the first member or in one after it.
  induction rounds generalizing text with
  | zero => simp [readMembers] at h
  | succ rounds ih =>
      rw [readMembers.eq_def] at h
      dsimp only at h
      split at h
      · split at h
        · rename_i fails
          cases h
          exact absurd fails readString_fails
        · rename_i name afterName hname
          obtain ⟨characters, rfl, spelled⟩ := readString_sound hname
          obtain ⟨space, hspace, blank⟩ := skipSpace_split afterName
          split at h
          · rename_i afterColon hcolon
            obtain ⟨gap, hgap, clear⟩ := skipSpace_split afterColon
            have label : LabelOf
                ([] ++ .char '"' :: (characters ++ .char '"' :: (space ++ [.char ':']))) name :=
              .mk .nil spelled blank
            split at h
            · rename_i stops
              cases h
              rw [hspace, hcolon, hgap]
              exact ⟨_, skipSpace afterColon, rounds, Nat.lt_succ_self _, by simp,
                .first label clear, stops⟩
            · rename_i value afterValue hvalue
              obtain ⟨word, hword, derived⟩ := (readsSound rounds).value hvalue
              obtain ⟨tail, htail, bare⟩ := skipSpace_split afterValue
              have member : MemberOf (_ ++ _) (name, value) :=
                .mk label (.mk clear derived bare)
              split at h
              · cases h
              · rename_i more hmore
                obtain ⟨earlier, inner, r, less, split, due, stops⟩ := ih (map_eq_error.mp h)
                obtain ⟨space', hspace', blank'⟩ := skipSpace_split more
                rw [hspace, hcolon, hgap, hword, htail, hmore, hspace', split]
                exact ⟨_, inner, r, by omega, by simp, .next member (due.space blank'), stops⟩
              · cases h
          · cases h
      · cases h

theorem readScalar_fails {text : Text} {e : ReadError} (h : readScalar text = .error e) :
    readNumber text = .error e := by
  unfold readScalar at h
  extract_lets names at h
  split at h
  · cases h
  · exact h

theorem readValue_stops {rounds : Nat} {before text : Text} {count : Nat} (due : Due before)
    (h : readValue rounds text = .error (.tooManyDigits count)) :
    LongAt count (before ++ text) := by
  induction rounds using Nat.strongRecOn generalizing before text with
  | ind rounds ih =>
      cases rounds with
      | zero => simp [readValue] at h
      | succ rounds =>
          unfold readValue at h
          split at h
          · exact absurd (map_eq_error.mp h) readString_fails
          · rename_i rest
            split at h
            · cases h
            · obtain ⟨earlier, inner, r, less, split, items, stops⟩ :=
                readItems_stops (map_eq_error.mp h)
              obtain ⟨space, hspace, blank⟩ := skipSpace_split rest
              have found := ih r (by omega) (.item due (items.space blank)) stops
              rw [hspace, split]
              simpa using found
          · rename_i rest
            split at h
            · cases h
            · obtain ⟨earlier, inner, r, less, split, members, stops⟩ :=
                readMembers_stops (map_eq_error.mp h)
              obtain ⟨space, hspace, blank⟩ := skipSpace_split rest
              have found := ih r (by omega) (.member due (members.space blank)) stops
              rw [hspace, split]
              simpa using found
          · obtain ⟨sign, negative, whole, rest, rfl, front, first, ends, size, long⟩ :=
              readNumber_fails (readScalar_fails h)
            exact .mk due front first ends size long

/-! ## Where a long number stands -/

/-- Reading this text stops at a number with this many digits, whatever rounds there are. -/
structure StopsAt (count : Nat) (text : Text) : Prop where
  opens : ∃ c tail, text = c :: tail ∧ Opens c
  stops : ∀ rounds, 2 * text.length ≤ rounds + 1 →
    readValue (rounds + 1) text = .error (.tooManyDigits count)

theorem StopsAt.skip {count : Nat} {text space : Text} (h : StopsAt count text)
    (blank : Space space) : skipSpace (space ++ text) = text := by
  obtain ⟨c, tail, rfl, opens⟩ := h.opens
  rw [skipSpace_space blank, skipSpace_opens opens]

theorem StopsAt.read {count : Nat} {text : Text} (h : StopsAt count text) {rounds : Nat}
    (enough : 2 * text.length ≤ rounds) :
    readValue rounds text = .error (.tooManyDigits count) := by
  obtain ⟨c, tail, split, -⟩ := h.opens
  have some : 0 < text.length := by simp [split]
  obtain ⟨r, rfl⟩ : ∃ r, rounds = r + 1 := ⟨rounds - 1, by omega⟩
  exact h.stops r enough

theorem Grammar.ItemDue.skip {text : Text} (h : ItemDue text) {inner : Text} {count : Nat}
    (stops : StopsAt count inner) : ∃ c tail, skipSpace (text ++ inner) = c :: tail ∧ Opens c := by
  cases h with
  | first blank =>
      rw [stops.skip blank]
      exact stops.opens
  | next element rest =>
      rw [List.append_assoc]
      exact element.skip _

theorem Grammar.ItemDue.stops {text : Text} (h : ItemDue text) {inner : Text}
    {count : Nat} (stops : StopsAt count inner) {rounds : Nat}
    (enough : 2 * (text ++ inner).length + 1 ≤ rounds) :
    readItems rounds (skipSpace (text ++ inner)) = .error (.tooManyDigits count) := by
  induction h generalizing rounds with
  | first blank =>
      rw [List.length_append] at enough
      obtain ⟨r, rfl⟩ : ∃ r, rounds = r + 1 := ⟨rounds - 1, by omega⟩
      rw [stops.skip blank]
      exact readItems_error (stops.read (by omega))
  | @next text _ _ element rest ih =>
      simp only [List.length_append, List.length_cons] at enough ih
      obtain ⟨r, rfl⟩ : ∃ r, rounds = r + 1 := ⟨rounds - 1, by omega⟩
      have within : 2 * text.length ≤ r := by omega
      obtain ⟨after, value, goes⟩ := element.read within (delimited_comma _)
      rw [List.append_assoc, List.cons_append, readItems_more value goes, ih (by omega)]
      rfl

theorem Grammar.MemberDue.skip {text : Text} (h : MemberDue text) (inner : Text) :
    ∃ tail, skipSpace (text ++ inner) = .char '"' :: tail := by
  cases h with
  | first front blank =>
      rw [List.append_assoc]
      exact front.skip _
  | next earlier rest =>
      rw [List.append_assoc]
      exact earlier.skip _

theorem Grammar.MemberDue.stops {text : Text} (h : MemberDue text) {inner : Text}
    {count : Nat} (stops : StopsAt count inner) {rounds : Nat}
    (enough : 2 * (text ++ inner).length + 1 ≤ rounds) :
    readMembers rounds (skipSpace (text ++ inner)) = .error (.tooManyDigits count) := by
  induction h generalizing rounds with
  | first front blank =>
      simp only [List.length_append] at enough
      obtain ⟨r, rfl⟩ : ∃ r, rounds = r + 1 := ⟨rounds - 1, by omega⟩
      rw [List.append_assoc]
      apply readMembers_error front
      rw [stops.skip blank]
      exact stops.read (by omega)
  | next earlier rest ih =>
      simp only [List.length_append, List.length_cons] at enough ih
      obtain ⟨r, rfl⟩ : ∃ r, rounds = r + 1 := ⟨rounds - 1, by omega⟩
      cases earlier with
      | @mk _ text _ _ front element =>
          rw [List.length_append] at enough
          have within : 2 * text.length ≤ r := by omega
          obtain ⟨after, value, goes⟩ := element.read within (delimited_comma _)
          rw [List.append_assoc, List.append_assoc, List.cons_append,
            readMembers_more front value goes, ih (by omega)]
          rfl

theorem Grammar.Due.stops {before : Text} (h : Due before) {text : Text} {count : Nat}
    (stops : StopsAt count text) : read (before ++ text) = .error (.tooManyDigits count) := by
  induction h generalizing text with
  | @whole space blank =>
      have enough : 2 * text.length ≤ 2 * (space ++ text).length + 2 := by
        rw [List.length_append]
        omega
      have value := stops.read enough
      have start := stops.skip blank
      obtain ⟨c, tail, split, opens⟩ := stops.opens
      unfold read
      split
      · rename_i same
        exact absurd same (ne_mark (start.trans split) opens _)
      · rw [start, value]
  | item outer inner ih =>
      rw [List.append_assoc]
      apply ih
      refine ⟨⟨.char '[', _, rfl, by decide⟩, fun rounds enough => ?_⟩
      rw [List.cons_append, List.length_cons] at enough
      obtain ⟨c, tail, front, opens⟩ := inner.skip stops
      rw [List.cons_append, readValue_items front opens.2.1, inner.stops stops (by omega)]
      rfl
  | member outer inner ih =>
      rw [List.append_assoc]
      apply ih
      refine ⟨⟨.char '\x7b', _, rfl, by decide⟩, fun rounds enough => ?_⟩
      rw [List.cons_append, List.length_cons] at enough
      obtain ⟨tail, front⟩ := inner.skip text
      rw [List.cons_append, readValue_members front (by decide), inner.stops stops (by omega)]
      rfl

theorem stopsAt_long {sign whole : List Char} {rest : Text} {negative : Bool}
    (front : SignOf sign negative) (first : Whole whole) (ends : EndsWhole rest)
    (long : digitLimit < whole.length) :
    StopsAt whole.length (.ofChars (sign ++ whole) ++ rest) := by
  refine ⟨numeral_opens front first rest, fun rounds _ => ?_⟩
  rw [readValue_numeral front first, readNumber_long front first ends long]

theorem read_eq_tooManyDigits {text : Text} {count : Nat} :
    read text = .error (.tooManyDigits count) ↔ LongAt count text := by
  constructor
  · intro h
    unfold read at h
    split at h
    · cases h
    · split at h
      · rename_i stops
        cases h
        obtain ⟨space, hspace, blank⟩ := skipSpace_split text
        rw [hspace]
        exact readValue_stops (.whole blank) stops
      · split at h <;> cases h
  · rintro ⟨due, front, first, ends, rfl, long⟩
    exact due.stops (stopsAt_long front first ends long)

end LedgerFeed.Json
