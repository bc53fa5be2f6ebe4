import LedgerFeed.Characters.Utf8
import LedgerFeed.Proofs.Json.Tidy

namespace LedgerFeed

namespace Text

def Encodable (text : Text) : Prop := ∀ place, .half place ∉ text

theorem Encodable.nil : Encodable [] := fun _ => List.not_mem_nil

theorem encodable_append {first second : Text} :
    Encodable (first ++ second) ↔ Encodable first ∧ Encodable second := by
  simp only [Encodable, List.mem_append, not_or, forall_and]

theorem encodable_cons {c : Char} {rest : Text} :
    Encodable (.char c :: rest) ↔ Encodable rest := by
  simp [Encodable]

theorem encodable_ofChars (chars : List Char) : Encodable (.ofChars chars) := by
  intro place listed
  obtain ⟨c, -, same⟩ := List.mem_map.mp listed
  cases same

theorem encode?_iff {text : Text} :
    (∃ octets, Utf8.encode? text = some octets) ↔ text.Encodable := by
  constructor
  · rintro ⟨octets, encoded⟩
    obtain ⟨chars, found, -⟩ := Option.map_eq_some_iff.mp encoded
    rw [chars?_eq_some.mp found]
    exact encodable_ofChars chars
  · intro encodable
    suffices ∃ chars, text = .ofChars chars by
      obtain ⟨chars, rfl⟩ := this
      exact ⟨Utf8.encode chars, by simp [Utf8.encode?]⟩
    induction text with
    | nil => exact ⟨[], rfl⟩
    | cons letter rest ih =>
        cases letter with
        | char c =>
            obtain ⟨chars, rfl⟩ := ih (encodable_cons.mp encodable)
            exact ⟨c :: chars, rfl⟩
        | half place => exact absurd List.mem_cons_self (encodable place)

end Text

namespace Json

inductive Texts (p : Text → Prop) : Json → Prop
  | null : Texts p .null
  | bool (b : Bool) : Texts p (.bool b)
  | int (n : Int) : Texts p (.int n)
  | float (x : Binary64) : Texts p (.float x)
  | string {s : Text} (one : p s) : Texts p (.string s)
  | array {items : List Json} (inner : ∀ item ∈ items, Texts p item) : Texts p (.array items)
  | object {members : List (Text × Json)} (names : ∀ member ∈ members, p member.1)
      (inner : ∀ member ∈ members, Texts p member.2) : Texts p (.object members)

def Encodable (j : Json) : Prop := j.Texts Text.Encodable

theorem encodable_escapeChar (c : Char) : (escapeChar false c).Encodable := by
  have escaped : (unicodeEscape c.toNat).Encodable :=
    Text.encodable_ofChars ('\\' :: 'u' :: hexCode 4 c.toNat)
  simp only [escapeChar, Bool.false_and, Bool.false_eq_true, ↓reduceIte]
  split_ifs
  all_goals first
    | exact escaped
    | simp [Text.Encodable]

theorem encodable_escapeLetter (letter : Letter) :
    (escapeLetter false letter).Encodable ↔ Text.Encodable [letter] := by
  cases letter with
  | half place => rfl
  | char c => exact iff_of_true (encodable_escapeChar c) (Text.encodable_ofChars [c])

theorem encodable_escaped (text : Text) :
    Text.Encodable (text.flatMap (escapeLetter false)) ↔ text.Encodable := by
  induction text with
  | nil => rfl
  | cons letter rest ih =>
      rw [List.flatMap_cons, Text.encodable_append, encodable_escapeLetter]
      exact (and_congr_right fun _ => ih).trans Text.encodable_append.symm

theorem encodable_between {front back : Char} {text : Text} :
    Text.Encodable (.char front :: text ++ [.char back]) ↔ text.Encodable := by
  have closes : Text.Encodable [.char back] := Text.encodable_ofChars [back]
  rw [List.cons_append, Text.encodable_cons, Text.encodable_append, and_iff_left closes]

theorem encodable_writeText (text : Text) : (writeText false text).Encodable ↔ text.Encodable :=
  encodable_between.trans (encodable_escaped text)

theorem encodable_separate {texts : List Text} :
    (separate [.char ','] texts).Encodable ↔ ∀ text ∈ texts, text.Encodable := by
  induction texts with
  | nil => simp [separate, Text.Encodable.nil]
  | cons first rest ih =>
      rw [separate_cons, Text.encodable_append, List.forall_mem_cons]
      refine and_congr_right fun _ => ?_
      cases rest with
      | nil => simp [Text.Encodable.nil]
      | cons second others => exact Text.encodable_cons.trans ih

theorem encodable_writeMember (member : Text × Json) :
    (writeMember member).Encodable ↔ member.1.Encodable ∧ (write .compact member.2).Encodable := by
  rw [writeMember, Text.encodable_append, encodable_writeText, Text.encodable_cons]

theorem texts_array {p : Text → Prop} {items : List Json} :
    (array items).Texts p ↔ ∀ item ∈ items, item.Texts p :=
  ⟨fun h => by cases h; assumption, .array⟩

theorem texts_object {p : Text → Prop} {members : List (Text × Json)} :
    (object members).Texts p ↔ ∀ member ∈ members, p member.1 ∧ member.2.Texts p := by
  constructor
  · intro h
    cases h with
    | object names inner => exact fun member hm => ⟨names member hm, inner member hm⟩
  · exact fun h => .object (fun member hm => (h member hm).1) fun member hm => (h member hm).2

theorem encodable_write (j : Json) : (write .compact j).Encodable ↔ j.Encodable := by
  induction Floats.trivial j with
  | null => exact iff_of_true (Text.encodable_ofChars _) .null
  | bool b =>
      refine iff_of_true ?_ (.bool b)
      cases b <;> exact Text.encodable_ofChars _
  | int n => exact iff_of_true (Text.encodable_ofChars _) (.int n)
  | float => exact iff_of_true (Text.encodable_ofChars _) (.float _)
  | string s =>
      refine (encodable_writeText s).trans ⟨.string, fun h => ?_⟩
      cases h
      assumption
  | array _ ih =>
      rw [write_array, encodable_between, encodable_separate, Encodable, texts_array,
        List.forall_mem_map]
      exact forall₂_congr ih
  | object _ ih =>
      rw [write_object, encodable_between, encodable_separate, Encodable, texts_object,
        List.forall_mem_map]
      refine forall₂_congr fun member hm => ?_
      rw [encodable_writeMember, ih member hm]
      rfl

end Json

end LedgerFeed
