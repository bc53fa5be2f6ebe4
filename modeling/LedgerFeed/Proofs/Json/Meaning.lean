import LedgerFeed.Proofs.Json.Grammar

/-!
# What JSON text stands for

The grammar of the texts that are read, each production with the tree that its text stands for
(`ElementOf` for a whole text). Beside standard JSON it has `NaN`, `Infinity` and `-Infinity`, and
its whole numbers stay within the digit limit. `LongAt` says that a longer one stands where a value
is due.
-/

namespace LedgerFeed.Json.Grammar

/-! ## Strings -/

def escapes : List (Char × Char) :=
  [('"', '"'), ('\\', '\\'), ('/', '/'), ('b', '\x08'), ('f', '\x0c'), ('n', '\n'), ('r', '\r'),
   ('t', '\t')]

inductive UnitOf : Text → Nat → Prop
  | mk {a b c d : Char} {w x y z : Nat} (first : hexValue? a = some w)
      (second : hexValue? b = some x) (third : hexValue? c = some y)
      (fourth : hexValue? d = some z) :
      UnitOf [.char a, .char b, .char c, .char d] (((w * 16 + x) * 16 + y) * 16 + z)

theorem UnitOf.length {digits : Text} {unit : Nat} (h : UnitOf digits unit) :
    digits.length = 4 := by
  cases h
  rfl

def StartsLow (text : Text) : Prop :=
  ∃ digits low rest, text = .char '\\' :: .char 'u' :: (digits ++ rest) ∧ UnitOf digits low ∧
    isLowHalf low = true

/-- What stands between the quotes of a string with the text that it spells. Half a pair that has no
second half after it, or that is a second half itself, stands for itself alone. -/
inductive Spells : Text → Text → Prop
  | nil : Spells [] []
  | plain {letter : Letter} {rest text : Text} (visible : 0x20 ≤ letter.code)
      (noQuote : letter ≠ '"') (noSlash : letter ≠ '\\') (others : Spells rest text) :
      Spells (letter :: rest) (letter :: text)
  | escape {mark c : Char} {rest text : Text} (known : (mark, c) ∈ escapes)
      (others : Spells rest text) : Spells (.char '\\' :: .char mark :: rest) (.char c :: text)
  | unit {digits rest text : Text} {unit : Nat} (number : UnitOf digits unit)
      (high : isHighHalf unit = false) (low : isLowHalf unit = false)
      (others : Spells rest text) :
      Spells (.char '\\' :: .char 'u' :: (digits ++ rest)) (.char (Char.ofNat unit) :: text)
  | pair {first second rest text : Text} {high low : Nat} (upper : UnitOf first high)
      (isHigh : isHighHalf high = true) (lower : UnitOf second low)
      (isLow : isLowHalf low = true) (others : Spells rest text) :
      Spells (.char '\\' :: .char 'u' :: (first ++ .char '\\' :: .char 'u' :: (second ++ rest)))
        (.char (Char.ofNat (joinHalves high low)) :: text)
  | half {digits rest text : Text} {place : Fin 0x800}
      (number : UnitOf digits (Letter.half place).code)
      (alone : isHighHalf (Letter.half place).code = true ∧ ¬ StartsLow rest ∨
        isLowHalf (Letter.half place).code = true)
      (others : Spells rest text) :
      Spells (.char '\\' :: .char 'u' :: (digits ++ rest)) (.half place :: text)

/-! ## Numbers -/

inductive SignOf : List Char → Bool → Prop
  | none : SignOf [] false
  | minus : SignOf ['-'] true

inductive NumberOf : List Char → Json → Prop
  | int {sign whole : List Char} {negative : Bool} (front : SignOf sign negative)
      (first : Whole whole) (short : whole.length ≤ digitLimit) :
      NumberOf (sign ++ whole) (.int (signed negative (ofDigits whole)))
  | float {sign whole fraction exponent : List Char} {negative : Bool}
      (front : SignOf sign negative) (first : Whole whole) (second : Fraction fraction)
      (third : Exponent exponent) (parted : fraction ≠ [] ∨ exponent ≠ []) :
      NumberOf (sign ++ (whole ++ (fraction ++ exponent)))
        (.float (ofParts negative whole (fraction.drop 1) (readInt (exponent.drop 1))))

/-! ## Values -/

/-- The members of an object: each name once, where it is given first, with the value that it is
given last. -/
structure Merged (members object : List (Text × Json)) : Prop where
  names : object.map (·.1) = (members.map (·.1)).eraseDups
  last : ∀ member ∈ object, ∃ before after, members = before ++ member :: after ∧
    member.1 ∉ after.map (·.1)

theorem mergeMembers_snoc (members : List (Text × Json)) (member : Text × Json) :
    mergeMembers (members ++ [member]) = insertMember (mergeMembers members) member.1 member.2 := by
  rw [mergeMembers, List.foldl_append]
  rfl

theorem mergeMembers_nodup (members : List (Text × Json)) :
    ((mergeMembers members).map (·.1)).Nodup := by
  induction members using List.reverseRecOn with
  | nil => exact List.nodup_nil
  | append_singleton members member ih =>
      rw [mergeMembers_snoc]
      exact insertMember_nodup ih _ _

theorem mem_insertMember_iff {members : List (Text × Json)}
    (once : (members.map (·.1)).Nodup) {name : Text} {value : Json} {member : Text × Json}
    (h : member ∈ insertMember members name value) :
    member = (name, value) ∨ member ∈ members ∧ member.1 ≠ name := by
  induction members with
  | nil => exact .inl (List.mem_singleton.mp h)
  | cons first rest ih =>
      obtain ⟨fresh, once⟩ := List.nodup_cons.mp once
      unfold insertMember at h
      split at h
      · rename_i same
        subst same
        rcases List.mem_cons.mp h with rfl | h
        · exact .inl rfl
        · refine .inr ⟨List.mem_cons_of_mem _ h, ?_⟩
          intro same
          exact fresh (List.mem_map.mpr ⟨member, h, same⟩)
      · rename_i differs
        rcases List.mem_cons.mp h with rfl | h
        · exact .inr ⟨List.mem_cons_self, differs⟩
        · rcases ih once h with h | ⟨h, other⟩
          · exact .inl h
          · exact .inr ⟨List.mem_cons_of_mem _ h, other⟩

theorem merged_mergeMembers (members : List (Text × Json)) :
    Merged members (mergeMembers members) := by
  induction members using List.reverseRecOn with
  | nil => exact ⟨rfl, fun member hm => by cases hm⟩
  | append_singleton members member ih =>
      refine ⟨?_, fun other hother => ?_⟩
      · rw [mergeMembers_snoc, insertMember_names, ih.names, List.map_append,
          List.eraseDups_append, List.map_singleton, List.cons_removeAll, List.nil_removeAll]
        by_cases known : member.1 ∈ members.map (·.1)
        · rw [if_pos (List.mem_eraseDups.mpr known), if_neg (by simpa using known)]
          simp
        · rw [if_neg (fun h => known (List.mem_eraseDups.mp h)), if_pos (by simpa using known)]
          rfl
      · rw [mergeMembers_snoc] at hother
        rcases mem_insertMember_iff (mergeMembers_nodup members) hother with rfl | ⟨old, differs⟩
        · exact ⟨members, [], rfl, by simp⟩
        · obtain ⟨before, after, rfl, absent⟩ := ih.last other old
          refine ⟨before, after ++ [member], by simp, ?_⟩
          rw [List.map_append, List.mem_append, not_or]
          exact ⟨absent, by simpa using differs⟩

theorem eq_of_last {members before before' after after' : List (Text × Json)}
    {member member' : Text × Json} (first : members = before ++ member :: after)
    (absent : member.1 ∉ after.map (·.1)) (second : members = before' ++ member' :: after')
    (absent' : member'.1 ∉ after'.map (·.1)) (same : member.1 = member'.1) : member = member' := by
  rw [first] at second
  rcases List.append_eq_append_iff.mp second with ⟨between, rfl, split⟩ | ⟨between, rfl, split⟩
  · cases between with
    | nil =>
        cases split
        rfl
    | cons c between =>
        cases split
        exact absurd (by simp [same]) absent
  · cases between with
    | nil =>
        cases split
        rfl
    | cons c between =>
        cases split
        exact absurd (by simp [same]) absent'

theorem Merged.unique {members object object' : List (Text × Json)} (h : Merged members object)
    (h' : Merged members object') : object = object' := by
  have pairs : ∀ member ∈ object, ∀ member' ∈ object', member.1 = member'.1 → member = member' := by
    intro member hm member' hm' same
    obtain ⟨before, after, text, absent⟩ := h.last member hm
    obtain ⟨before', after', text', absent'⟩ := h'.last member' hm'
    exact eq_of_last text absent text' absent' same
  have names : object.map (·.1) = object'.map (·.1) := h.names.trans h'.names.symm
  clear h h'
  induction object generalizing object' with
  | nil => simpa using names.symm
  | cons member rest ih =>
      cases object' with
      | nil => cases names
      | cons member' rest' =>
          rw [List.map_cons, List.map_cons, List.cons.injEq] at names
          rw [pairs member List.mem_cons_self member' List.mem_cons_self names.1,
            ih (fun m hm m' hm' =>
              pairs m (List.mem_cons_of_mem _ hm) m' (List.mem_cons_of_mem _ hm')) names.2]

inductive LabelOf : Text → Text → Prop
  | mk {before characters text after : Text} (front : Space before)
      (inner : Spells characters text) (back : Space after) :
      LabelOf (before ++ .char '"' :: (characters ++ .char '"' :: (after ++ [.char ':']))) text

mutual

inductive ValueOf : Text → Json → Prop
  | null : ValueOf (.ofChars ['n', 'u', 'l', 'l']) .null
  | true : ValueOf (.ofChars ['t', 'r', 'u', 'e']) (.bool true)
  | false : ValueOf (.ofChars ['f', 'a', 'l', 's', 'e']) (.bool false)
  | nan : ValueOf (.ofChars ['N', 'a', 'N']) (.float .nan)
  | infinity :
      ValueOf (.ofChars ['I', 'n', 'f', 'i', 'n', 'i', 't', 'y']) (.float (.infinity false))
  | negativeInfinity :
      ValueOf (.ofChars ['-', 'I', 'n', 'f', 'i', 'n', 'i', 't', 'y']) (.float (.infinity true))
  | number {word : List Char} {json : Json} (number : NumberOf word json) :
      ValueOf (.ofChars word) json
  | string {characters text : Text} (inner : Spells characters text) :
      ValueOf (.char '"' :: (characters ++ [.char '"'])) (.string text)
  | emptyArray {space : Text} (blank : Space space) :
      ValueOf (.char '[' :: (space ++ [.char ']'])) (.array [])
  | array {text : Text} {items : List Json} (inner : ElementsOf text items) :
      ValueOf (.char '[' :: (text ++ [.char ']'])) (.array items)
  | emptyObject {space : Text} (blank : Space space) :
      ValueOf (.char '\x7b' :: (space ++ [.char '\x7d'])) (.object [])
  | object {text : Text} {members object : List (Text × Json)}
      (inner : MembersOf text members) (merged : Merged members object) :
      ValueOf (.char '\x7b' :: (text ++ [.char '\x7d'])) (.object object)

inductive ElementOf : Text → Json → Prop
  | mk {before value after : Text} {json : Json} (front : Space before)
      (inner : ValueOf value json) (back : Space after) :
      ElementOf (before ++ (value ++ after)) json

inductive ElementsOf : Text → List Json → Prop
  | one {text : Text} {json : Json} (element : ElementOf text json) : ElementsOf text [json]
  | more {text others : Text} {json : Json} {items : List Json}
      (element : ElementOf text json) (rest : ElementsOf others items) :
      ElementsOf (text ++ .char ',' :: others) (json :: items)

inductive MemberOf : Text → Text × Json → Prop
  | mk {label text : Text} {name : Text} {json : Json} (front : LabelOf label name)
      (element : ElementOf text json) : MemberOf (label ++ text) (name, json)

inductive MembersOf : Text → List (Text × Json) → Prop
  | one {text : Text} {member : Text × Json} (first : MemberOf text member) :
      MembersOf text [member]
  | more {text others : Text} {member : Text × Json} {members : List (Text × Json)}
      (first : MemberOf text member) (rest : MembersOf others members) :
      MembersOf (text ++ .char ',' :: others) (member :: members)

end

/-! ## Space in front -/

theorem Space.nil : Space [] := fun c hc => by cases hc

theorem Space.append {first second : Text} (h : Space first) (h' : Space second) :
    Space (first ++ second) := by
  intro c hc
  rcases List.mem_append.mp hc with hc | hc
  · exact h c hc
  · exact h' c hc

theorem ElementOf.space {before text : Text} {json : Json} (blank : Space before)
    (h : ElementOf text json) : ElementOf (before ++ text) json := by
  cases h with
  | mk front inner back =>
      rw [← List.append_assoc]
      exact .mk (blank.append front) inner back

theorem ElementsOf.space {before text : Text} {items : List Json} (blank : Space before)
    (h : ElementsOf text items) : ElementsOf (before ++ text) items := by
  cases h with
  | one element => exact .one (element.space blank)
  | more element rest =>
      rw [← List.append_assoc]
      exact .more (element.space blank) rest

theorem LabelOf.space {before text : Text} {name : Text} (blank : Space before)
    (h : LabelOf text name) : LabelOf (before ++ text) name := by
  cases h with
  | mk front inner back =>
      rw [← List.append_assoc]
      exact .mk (blank.append front) inner back

theorem MemberOf.space {before text : Text} {member : Text × Json} (blank : Space before)
    (h : MemberOf text member) : MemberOf (before ++ text) member := by
  cases h with
  | mk front element =>
      rw [← List.append_assoc]
      exact .mk (front.space blank) element

theorem MembersOf.space {before text : Text} {members : List (Text × Json)}
    (blank : Space before) (h : MembersOf text members) : MembersOf (before ++ text) members := by
  cases h with
  | one first => exact .one (first.space blank)
  | more first rest =>
      rw [← List.append_assoc]
      exact .more (first.space blank) rest

/-! ## Numbers with too many digits -/

inductive ItemDue : Text → Prop
  | first {space : Text} (blank : Space space) : ItemDue space
  | next {text others : Text} {json : Json} (element : ElementOf text json)
      (rest : ItemDue others) : ItemDue (text ++ .char ',' :: others)

inductive MemberDue : Text → Prop
  | first {label space : Text} {name : Text} (front : LabelOf label name)
      (blank : Space space) : MemberDue (label ++ space)
  | next {text others : Text} {member : Text × Json} (earlier : MemberOf text member)
      (rest : MemberDue others) : MemberDue (text ++ .char ',' :: others)

inductive Due : Text → Prop
  | whole {space : Text} (blank : Space space) : Due space
  | item {before text : Text} (outer : Due before) (inner : ItemDue text) :
      Due (before ++ .char '[' :: text)
  | member {before text : Text} (outer : Due before) (inner : MemberDue text) :
      Due (before ++ .char '\x7b' :: text)

theorem ItemDue.space {gap text : Text} (blank : Space gap) (h : ItemDue text) :
    ItemDue (gap ++ text) := by
  cases h with
  | first last => exact .first (blank.append last)
  | next element rest =>
      rw [← List.append_assoc]
      exact .next (element.space blank) rest

theorem MemberDue.space {gap text : Text} (blank : Space gap) (h : MemberDue text) :
    MemberDue (gap ++ text) := by
  cases h with
  | first front last =>
      rw [← List.append_assoc]
      exact .first (front.space blank) last
  | next earlier rest =>
      rw [← List.append_assoc]
      exact .next (earlier.space blank) rest

def EndsWhole (rest : Text) : Prop :=
  ∀ part more, rest = .ofChars part ++ more →
    ¬ Digits part ∧ (Fraction part → part = []) ∧ (Exponent part → part = [])

/-- A whole number of `count` digits, which are too many, stands where a value is due. -/
inductive LongAt (count : Nat) : Text → Prop
  | mk {before rest : Text} {sign whole : List Char} {negative : Bool} (due : Due before)
      (front : SignOf sign negative) (first : Whole whole) (ends : EndsWhole rest)
      (size : whole.length = count) (long : digitLimit < count) :
      LongAt count (before ++ (.ofChars (sign ++ whole) ++ rest))

end LedgerFeed.Json.Grammar
