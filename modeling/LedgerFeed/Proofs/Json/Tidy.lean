import Mathlib.Data.List.Nodup
import Mathlib.Data.List.TakeWhile
import LedgerFeed.Proofs.Except
import LedgerFeed.Proofs.Json.RoundTrip

namespace LedgerFeed.Json

inductive Tidy : Json → Prop
  | null : Tidy .null
  | bool (b : Bool) : Tidy (.bool b)
  | int {n : Int} (short : exceedsDigitLimit n = false) : Tidy (.int n)
  | float (x : Binary64) : Tidy (.float x)
  | string (s : Text) : Tidy (.string s)
  | array {items : List Json} (inner : ∀ item ∈ items, Tidy item) : Tidy (.array items)
  | object {members : List (Text × Json)} (once : (members.map (·.1)).Nodup)
      (inner : ∀ member ∈ members, Tidy member.2) : Tidy (.object members)

inductive Floats (p : Binary64 → Prop) : Json → Prop
  | null : Floats p .null
  | bool (b : Bool) : Floats p (.bool b)
  | int (n : Int) : Floats p (.int n)
  | float {x : Binary64} (one : p x) : Floats p (.float x)
  | string (s : Text) : Floats p (.string s)
  | array {items : List Json} (inner : ∀ item ∈ items, Floats p item) : Floats p (.array items)
  | object {members : List (Text × Json)} (inner : ∀ member ∈ members, Floats p member.2) :
      Floats p (.object members)

def FloatFree (j : Json) : Prop := j.Floats fun _ => False

mutual

theorem Floats.trivial : ∀ j : Json, j.Floats fun _ => True
  | .null => .null
  | .bool b => .bool b
  | .int n => .int n
  | .float _ => .float True.intro
  | .string s => .string s
  | .array items => .array (Floats.trivial_items items)
  | .object members => .object (Floats.trivial_members members)

theorem Floats.trivial_items : ∀ items : List Json, ∀ item ∈ items, item.Floats fun _ => True
  | [] => List.forall_mem_nil _
  | item :: rest => List.forall_mem_cons.mpr ⟨Floats.trivial item, Floats.trivial_items rest⟩

theorem Floats.trivial_members : ∀ members : List (Text × Json), ∀ member ∈ members,
    member.2.Floats fun _ => True
  | [] => List.forall_mem_nil _
  | (_, value) :: rest =>
      List.forall_mem_cons.mpr ⟨Floats.trivial value, Floats.trivial_members rest⟩

end

theorem Faithful.tidy {j : Json} (h : j.Faithful) : j.Tidy := by
  induction h with
  | null => exact .null
  | bool b => exact .bool b
  | int short => exact .int short
  | string s => exact .string s
  | array _ ih => exact .array ih
  | object once _ ih => exact .object once ih

theorem Faithful.floats {p : Binary64 → Prop} {j : Json} (h : j.Faithful) : j.Floats p := by
  induction h with
  | null => exact .null
  | bool b => exact .bool b
  | int => exact .int _
  | string s => exact .string s
  | array _ ih => exact .array ih
  | object _ _ ih => exact .object ih

theorem Tidy.faithful {j : Json} (h : j.Tidy) (free : j.FloatFree) : j.Faithful := by
  induction h with
  | null => exact .null
  | bool b => exact .bool b
  | int short => exact .int short
  | float x =>
      cases free
      contradiction
  | string s => exact .string s
  | array _ ih =>
      cases free with
      | array inner => exact .array fun item hi => ih item hi (inner item hi)
  | object once _ ih =>
      cases free with
      | object inner => exact .object once fun member hm => ih member hm (inner member hm)

/-! ## Numbers -/

theorem wholePart_digits {text whole rest : List Char}
    (h : wholePart? text = some (whole, rest)) : ∀ c ∈ whole, isDigit c = true := by
  intro c hc
  unfold wholePart? at h
  split at h
  · cases h
    cases List.mem_singleton.mp hc
    rfl
  · rename_i first tail _
    split at h
    · rename_i digit
      cases h
      rcases List.mem_cons.mp hc with rfl | hc
      · exact digit
      · exact List.mem_takeWhile_imp hc
    · cases h
  · cases h

theorem signed_within {whole : List Char} (digits : ∀ c ∈ whole, isDigit c = true)
    (short : whole.length ≤ digitLimit) (negative : Bool) :
    exceedsDigitLimit (signed negative (ofDigits whole)) = false := by
  have below := ofDigits_lt digits
  unfold exceedsDigitLimit
  rw [natAbs_signed, decide_eq_false_iff_not]
  generalize digitLimit = limit at short ⊢
  have : 10 ^ whole.length ≤ Nat.pow 10 limit := Nat.pow_le_pow_right (by decide) short
  omega

theorem readNumeral_tidy {text rest : List Char} {j : Json}
    (h : readNumeral text = .ok (j, rest)) : j.Tidy := by
  unfold readNumeral at h
  split at h
  split at h
  · cases h
  · rename_i whole after hwhole
    have digits := wholePart_digits hwhole
    dsimp only at h
    split at h
    · split at h
      · cases h
      · rename_i short
        cases h
        exact .int (signed_within digits (Nat.not_lt.mp short) _)
    · cases h
      exact .float _

theorem readNumber_tidy {text rest : Text} {j : Json} (h : readNumber text = .ok (j, rest)) :
    j.Tidy := by
  obtain ⟨⟨value, left⟩, read, found⟩ := map_eq_ok.mp h
  cases found
  exact readNumeral_tidy read

theorem readScalar_tidy {text rest : Text} {j : Json}
    (h : readScalar text = .ok (j, rest)) : j.Tidy := by
  unfold readScalar at h
  extract_lets names at h
  split at h
  · rename_i found hfound
    cases h
    obtain ⟨⟨word, value⟩, hname, hdrop⟩ := List.exists_of_findSome?_eq_some hfound
    obtain ⟨after, -, hpair⟩ := Option.map_eq_some_iff.mp hdrop
    cases hpair
    simp only [names, List.mem_cons, List.not_mem_nil, or_false] at hname
    rcases hname with h | h | h | h | h | h <;> cases h <;> constructor
  · exact readNumber_tidy h

/-! ## Merged members -/

theorem insertMember_names (members : List (Text × Json)) (name : Text) (value : Json) :
    (insertMember members name value).map (·.1) =
      if name ∈ members.map (·.1) then members.map (·.1) else members.map (·.1) ++ [name] := by
  induction members with
  | nil => rfl
  | cons member rest ih =>
      rcases member with ⟨other, old⟩
      by_cases same : other = name
      · simp [insertMember, same]
      · have differs : name ≠ other := fun h => same h.symm
        rw [insertMember, if_neg same, List.map_cons, ih]
        simp only [List.map_cons, List.mem_cons, differs, false_or]
        split <;> rfl

theorem insertMember_nodup {members : List (Text × Json)} (once : (members.map (·.1)).Nodup)
    (name : Text) (value : Json) : ((insertMember members name value).map (·.1)).Nodup := by
  rw [insertMember_names]
  split
  · exact once
  · rename_i fresh
    rw [List.nodup_append]
    refine ⟨once, by simp, ?_⟩
    rintro other hother _ hname rfl
    exact fresh (List.mem_singleton.mp hname ▸ hother)

theorem mem_insertMember {members : List (Text × Json)} {name : Text} {value : Json}
    {member : Text × Json} (h : member ∈ insertMember members name value) :
    member ∈ members ∨ member.2 = value := by
  induction members with
  | nil =>
      cases List.mem_singleton.mp h
      exact .inr rfl
  | cons first rest ih =>
      rcases first with ⟨other, old⟩
      unfold insertMember at h
      split at h
      · rcases List.mem_cons.mp h with rfl | h
        · exact .inr rfl
        · exact .inl (List.mem_cons_of_mem _ h)
      · rcases List.mem_cons.mp h with rfl | h
        · exact .inl List.mem_cons_self
        · rcases ih h with h | h
          · exact .inl (List.mem_cons_of_mem _ h)
          · exact .inr h

theorem insertMember_tidy {members : List (Text × Json)} (h : (Json.object members).Tidy)
    (name : Text) {value : Json} (tidy : value.Tidy) :
    (Json.object (insertMember members name value)).Tidy := by
  cases h with
  | object once inner =>
      refine .object (insertMember_nodup once name value) fun member hm => ?_
      rcases mem_insertMember hm with old | new
      · exact inner member old
      · rw [new]
        exact tidy

theorem mergeMembers_tidy {members : List (Text × Json)}
    (h : ∀ member ∈ members, member.2.Tidy) : (Json.object (mergeMembers members)).Tidy := by
  have fold : ∀ (later merged : List (Text × Json)), (∀ member ∈ later, member.2.Tidy) →
      (Json.object merged).Tidy →
      (Json.object (later.foldl (fun found member => insertMember found member.1 member.2)
        merged)).Tidy := by
    intro later
    induction later with
    | nil => exact fun merged _ tidy => tidy
    | cons member rest ih =>
        intro merged inner tidy
        apply ih _ fun m hm => inner m (List.mem_cons_of_mem _ hm)
        exact insertMember_tidy tidy member.1 (inner member List.mem_cons_self)
  apply fold members [] h
  exact .object List.nodup_nil fun member hm => by cases hm

/-! ## Values -/

structure ReadsTidy (rounds : Nat) : Prop where
  value : ∀ text j rest, readValue rounds text = .ok (j, rest) → j.Tidy
  items : ∀ text found rest, readItems rounds text = .ok (found, rest) →
    ∀ item ∈ found, Tidy item
  members : ∀ text found rest, readMembers rounds text = .ok (found, rest) →
    ∀ member ∈ found, Tidy member.2

theorem readValue_tidy {rounds : Nat} (inner : ReadsTidy rounds) {text rest : Text} {j : Json}
    (h : readValue (rounds + 1) text = .ok (j, rest)) : j.Tidy := by
  unfold readValue at h
  split at h
  · obtain ⟨⟨s, after⟩, -, found⟩ := map_eq_ok.mp h
    cases found
    exact .string _
  · split at h
    · cases h
      exact .array fun item hi => by cases hi
    · obtain ⟨⟨items, after⟩, hitems, found⟩ := map_eq_ok.mp h
      cases found
      exact .array (inner.items _ _ _ hitems)
  · split at h
    · cases h
      exact .object List.nodup_nil fun member hm => by cases hm
    · obtain ⟨⟨members, after⟩, hmembers, found⟩ := map_eq_ok.mp h
      cases found
      exact mergeMembers_tidy (inner.members _ _ _ hmembers)
  · exact readScalar_tidy h

theorem readItems_tidy {rounds : Nat} (inner : ReadsTidy rounds) {text rest : Text}
    {found : List Json} (h : readItems (rounds + 1) text = .ok (found, rest)) :
    ∀ item ∈ found, item.Tidy := by
  unfold readItems at h
  split at h
  · cases h
  · rename_i first after hfirst
    have tidy := inner.value _ _ _ hfirst
    split at h
    · cases h
      intro item hi
      cases List.mem_singleton.mp hi
      exact tidy
    · obtain ⟨⟨others, last⟩, hothers, same⟩ := map_eq_ok.mp h
      cases same
      intro item hi
      rcases List.mem_cons.mp hi with rfl | hi
      · exact tidy
      · exact inner.items _ _ _ hothers item hi
    · cases h

theorem readMembers_tidy {rounds : Nat} (inner : ReadsTidy rounds) {text rest : Text}
    {found : List (Text × Json)} (h : readMembers (rounds + 1) text = .ok (found, rest)) :
    ∀ member ∈ found, member.2.Tidy := by
  unfold readMembers at h
  split at h
  · split at h
    · cases h
    · split at h
      · split at h
        · cases h
        · rename_i value after hvalue
          have tidy := inner.value _ _ _ hvalue
          dsimp only at h
          split at h
          · cases h
            intro member hm
            cases List.mem_singleton.mp hm
            exact tidy
          · obtain ⟨⟨others, last⟩, hothers, same⟩ := map_eq_ok.mp h
            cases same
            intro member hm
            rcases List.mem_cons.mp hm with rfl | hm
            · exact tidy
            · exact inner.members _ _ _ hothers member hm
          · cases h
      · cases h
  · cases h

theorem readsTidy (rounds : Nat) : ReadsTidy rounds := by
  induction rounds with
  | zero =>
      refine ⟨?_, ?_, ?_⟩
      · intro text j rest h
        simp [readValue] at h
      · intro text found rest h
        simp [readItems] at h
      · intro text found rest h
        simp [readMembers] at h
  | succ rounds ih =>
      exact ⟨fun _ _ _ => readValue_tidy ih, fun _ _ _ => readItems_tidy ih,
        fun _ _ _ => readMembers_tidy ih⟩

theorem read_tidy {text : Text} {j : Json} (h : read text = .ok j) : j.Tidy := by
  unfold read at h
  split at h
  · cases h
  · split at h
    · cases h
    · rename_i value rest hvalue
      split at h
      · cases h
        exact (readsTidy _).value _ _ _ hvalue
      · cases h

end LedgerFeed.Json
