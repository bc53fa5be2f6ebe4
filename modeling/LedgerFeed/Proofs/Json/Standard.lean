import Mathlib.Tactic.SplitIfs
import LedgerFeed.Proofs.Json.Grammar
import LedgerFeed.Proofs.Number.Shortest

namespace LedgerFeed

def Binary64.isFinite : Binary64 → Bool
  | .finite .. => true
  | _ => false

namespace Json
open Grammar

def IsText (text : Text) : Prop := Element text

def Finite (j : Json) : Prop := j.Floats fun x => x.isFinite = true

/-! ## Numbers -/

theorem digits_natDigits (n : Nat) : Digits (natDigits n) :=
  ⟨natDigits_ne_nil n, fun _ => isDigit_of_mem_natDigits⟩

theorem whole_natDigits (n : Nat) : Whole (natDigits n) := by
  have digits := digits_natDigits n
  rcases natDigits_head n with zero | ⟨c, rest, head, nonzero⟩
  · rw [zero]
    exact .zero
  · rw [head] at digits ⊢
    exact .digits nonzero digits

theorem whole_single {c : Char} (h : isDigit c = true) : Whole [c] := by
  by_cases zero : c = '0'
  · rw [zero]
    exact .zero
  · refine .digits zero ⟨by simp, fun d hd => ?_⟩
    cases List.mem_singleton.mp hd
    exact h

theorem number_intDigits (n : Int) : Number (intDigits n) := by
  have unsigned : Unsigned (natDigits n.natAbs) := by
    simpa using Unsigned.mk (whole_natDigits n.natAbs) .none .none
  unfold intDigits
  split
  · exact .negative unsigned
  · exact .positive unsigned

theorem digits_zeros_append {digits : List Char} (h : Digits digits) (count : Nat) :
    Digits (List.replicate count '0' ++ digits) := by
  refine ⟨by simp [h.1], fun c hc => ?_⟩
  rcases List.mem_append.mp hc with hc | hc
  · rw [List.eq_of_mem_replicate hc]
    rfl
  · exact h.2 c hc

theorem digits_zero : Digits ['0'] := ⟨by simp, fun c hc => by cases List.mem_singleton.mp hc; rfl⟩

theorem unsigned_fraction {whole digits : List Char} (first : Whole whole) (second : Digits digits) :
    Unsigned (whole ++ '.' :: digits) := by
  simpa using Unsigned.mk first (.some second) .none

theorem unsigned_positional {digits : List Char} (h : Digits digits)
    (head : ∀ rest, digits ≠ '0' :: rest) (point : Int) : Unsigned (positional digits point) := by
  unfold positional
  split
  · exact unsigned_fraction .zero (digits_zeros_append h _)
  · rename_i positive
    obtain ⟨places, hplaces⟩ : ∃ places, point.toNat = places + 1 := ⟨point.toNat - 1, by omega⟩
    obtain ⟨c, rest, rfl⟩ := List.exists_cons_of_ne_nil h.1
    have nonzero : c ≠ '0' := by
      rintro rfl
      exact head rest rfl
    have digits : ∀ d ∈ c :: (rest.take places ++
        List.replicate (places + 1 - (c :: rest).length) '0'), isDigit d = true := by
      intro d hd
      rcases List.mem_cons.mp hd with rfl | hd
      · exact h.2 _ List.mem_cons_self
      · rcases List.mem_append.mp hd with hd | hd
        · exact h.2 d (List.mem_cons_of_mem _ (List.mem_of_mem_take hd))
        · rw [List.eq_of_mem_replicate hd]
          rfl
    have whole := Whole.digits nonzero ⟨List.cons_ne_nil _ _, digits⟩
    dsimp only
    rw [hplaces, List.take_succ_cons, List.drop_succ_cons, List.cons_append]
    apply unsigned_fraction whole
    split
    · exact digits_zero
    · rename_i more
      refine ⟨by simpa using more, fun d hd => ?_⟩
      exact h.2 d (List.mem_cons_of_mem _ (List.mem_of_mem_drop hd))

theorem unsigned_scientific {digits : List Char} (h : Digits digits) (layout : FloatLayout)
    (point : Int) : Unsigned (scientific layout digits point) := by
  have exponent : Exponent ('e' :: (if point - 1 < 0 then '-' else '+') ::
      padLeft layout.exponentDigits (natDigits (point - 1).natAbs)) := by
    apply Exponent.signed (.inl rfl)
    · split
      · exact .inr rfl
      · exact .inl rfl
    · exact digits_zeros_append (digits_natDigits _) _
  unfold scientific
  match digits, h with
  | [c], h => exact .mk (whole_single (h.2 c List.mem_cons_self)) .none exponent
  | first :: second :: rest, h =>
      have fraction : Fraction ('.' :: second :: rest) :=
        .some ⟨List.cons_ne_nil _ _, fun d hd => h.2 d (List.mem_cons_of_mem _ hd)⟩
      have whole := whole_single (h.2 first List.mem_cons_self)
      simpa using Unsigned.mk whole fraction exponent
  | [], h => exact absurd rfl h.1

theorem number_finite (negative : Bool) (significand : Nat) (exponent : Int) :
    Number (FloatLayout.json.write (.finite negative significand exponent)) := by
  have signed : ∀ {text}, Unsigned text → Number ((if negative then ['-'] else []) ++ text) := by
    intro text unsigned
    cases negative
    · exact .positive unsigned
    · exact .negative unsigned
  unfold FloatLayout.write
  dsimp only
  by_cases zero : significand = 0
  · rw [if_pos zero]
    exact signed (unsigned_fraction .zero digits_zero)
  · rw [if_neg zero]
    apply signed
    have tiny : (Shortest.shortest significand exponent).digits = 0 →
        (Shortest.shortest significand exponent).power = -397 := Shortest.shortest_zero zero
    generalize Shortest.shortest significand exponent = decimal at tiny ⊢
    have digits := digits_natDigits decimal.digits
    split
    · rename_i near
      apply unsigned_positional digits
      intro rest head
      rcases natDigits_head decimal.digits with single | ⟨c, others, cons, nonzero⟩
      · have none : decimal.digits = 0 := by rw [← ofDigits_natDigits decimal.digits, single]; rfl
        have power := tiny none
        have least : FloatLayout.json.leastPoint = -3 := rfl
        rw [single, power, least] at near
        simp at near
      · rw [cons] at head
        cases head
        exact nonzero rfl
    · exact unsigned_scientific digits _ _

/-! ## Strings -/

theorem characters_escape (c : Char) {rest : Text} (h : Characters rest) :
    Characters (escapeChar false c ++ rest) := by
  unfold escapeChar
  split_ifs with hquote hslash hline hreturn htab hback hfeed hcontrol
  · exact .escape (by decide) h
  · exact .escape (by decide) h
  · exact .escape (by decide) h
  · exact .escape (by decide) h
  · exact .escape (by decide) h
  · exact .escape (by decide) h
  · exact .escape (by decide) h
  · rw [unicodeEscape, hexCode_control hcontrol]
    refine .unicode (fun x hx => ?_) h
    simp only [List.mem_cons, List.not_mem_nil, or_false] at hx
    rcases hx with rfl | rfl | rfl | rfl <;> exact isHexDigit_hexDigit _
  · rename_i outside
    cases outside
  · have visible : 0x20 ≤ (Letter.char c).code := Nat.not_lt.mp hcontrol
    exact .plain visible (by simpa using hquote) (by simpa using hslash) h

theorem characters_letter (letter : Letter) {rest : Text} (h : Characters rest) :
    Characters (escapeLetter false letter ++ rest) := by
  cases letter with
  | char c => exact characters_escape c h
  | half place =>
      have visible : 0x20 ≤ (Letter.half place).code := by
        simp only [Letter.code]
        omega
      exact .plain visible (by simp) (by simp) h

theorem quoted_writeText (text : Text) : Quoted (writeText false text) := by
  have inner : Characters (text.flatMap (escapeLetter false)) := by
    induction text with
    | nil => exact .nil
    | cons letter rest ih => exact characters_letter letter ih
  exact .mk inner

/-! ## Finite trees are written in standard text -/

theorem elements_separate {texts : List Text} (some : texts ≠ [])
    (h : ∀ text ∈ texts, Element text) : Elements (separate [.char ','] texts) := by
  induction texts with
  | nil => exact absurd rfl some
  | cons first rest ih =>
      have head := h first List.mem_cons_self
      rw [separate_cons]
      cases rest with
      | nil => simpa using Elements.one head
      | cons second others =>
          exact .more head (ih (by simp) fun text ht => h text (List.mem_cons_of_mem _ ht))

theorem members_separate {texts : List Text} (some : texts ≠ [])
    (h : ∀ text ∈ texts, Member text) : Members (separate [.char ','] texts) := by
  induction texts with
  | nil => exact absurd rfl some
  | cons first rest ih =>
      have head := h first List.mem_cons_self
      rw [separate_cons]
      cases rest with
      | nil => simpa using Members.one head
      | cons second others =>
          exact .more head (ih (by simp) fun text ht => h text (List.mem_cons_of_mem _ ht))

theorem space_nil : Space [] := fun c hc => by cases hc

theorem member_writeMember {member : Text × Json} (h : Value (write .compact member.2)) :
    Member (writeMember member) := by
  have quoted := quoted_writeText member.1
  simpa [writeMember] using Member.mk space_nil quoted space_nil h.element

theorem value_write {j : Json} (h : j.Finite) : Value (write .compact j) := by
  induction h with
  | null => exact .null
  | bool b => cases b <;> constructor
  | int n => exact .number (number_intDigits n)
  | @float x finite =>
      cases x with
      | finite negative significand exponent => exact .number (number_finite _ _ _)
      | _ => cases finite
  | string s => exact .string (quoted_writeText s)
  | @array items _ ih =>
      rw [write_array]
      cases items with
      | nil => exact .emptyArray space_nil
      | cons item rest =>
          apply Value.array
          apply elements_separate (by simp)
          intro text ht
          obtain ⟨part, hpart, rfl⟩ := List.mem_map.mp ht
          exact (ih part hpart).element
  | @object members _ ih =>
      rw [write_object]
      cases members with
      | nil => exact .emptyObject space_nil
      | cons member rest =>
          apply Value.object
          apply members_separate (by simp)
          intro text ht
          obtain ⟨part, hpart, rfl⟩ := List.mem_map.mp ht
          exact member_writeMember (ih part hpart)

/-! ## Standard text is of finite trees -/

theorem closed_separate {texts : List Text}
    (h : ∀ text ∈ texts, Place.outside.after text = .outside) :
    Place.outside.after (separate [.char ','] texts) = .outside := by
  induction texts with
  | nil => rfl
  | cons first rest ih =>
      have later := ih fun text ht => h text (List.mem_cons_of_mem _ ht)
      rw [separate_cons, after_append, h first List.mem_cons_self]
      split
      · rfl
      · exact later

theorem clear_separate {texts : List Text}
    (closed : ∀ text ∈ texts, Place.outside.after text = .outside)
    (h : Clear (separate [.char ','] texts)) : ∀ text ∈ texts, Clear text := by
  induction texts with
  | nil =>
      intro text ht
      cases ht
  | cons first rest ih =>
      rw [separate_cons] at h
      obtain ⟨head, tail⟩ := h.split (closed first List.mem_cons_self)
      intro text ht
      rcases List.mem_cons.mp ht with rfl | ht
      · exact head
      · rw [if_neg (by simpa using List.ne_nil_of_mem ht)] at tail
        exact ih (fun t hm => closed t (List.mem_cons_of_mem _ hm)) (tail.tail (by decide)) text ht

theorem clear_float {x : Binary64} (h : Clear (.ofChars (FloatLayout.json.write x))) :
    x.isFinite = true := by
  have named : ∀ c ∈ bare .outside (.ofChars (FloatLayout.json.write x)), c ≠ 'N' ∧ c ≠ 'I' :=
    h.letters
  cases x with
  | nan => exact absurd rfl (named 'N' (by decide)).1
  | infinity negative => cases negative <;> exact absurd rfl (named 'I' (by decide)).2
  | finite negative significand exponent => rfl

theorem closed_float (x : Binary64) :
    Place.outside.after (.ofChars (FloatLayout.json.write x)) = .outside := by
  cases x with
  | nan => decide
  | infinity negative => cases negative <;> decide
  | finite negative significand exponent => exact (number_finite _ _ _).clear.closed

theorem clear_name (name : Text) : Clear (writeText false name) :=
  (quoted_writeText name).clear

theorem closed_between {front back : Letter} {text : Text}
    (opens : Place.outside.next front = .outside) (closes : Place.outside.next back = .outside)
    (h : Place.outside.after text = .outside) :
    Place.outside.after (front :: text ++ [back]) = .outside := by
  have inner : Place.outside.after (front :: text) = .outside := by
    rw [Place.after, List.foldl_cons, opens]
    exact h
  rw [after_append, inner]
  exact closes

theorem closed_members {members : List (Text × Json)}
    (h : ∀ member ∈ members, Place.outside.after (write .compact member.2) = .outside) :
    ∀ text ∈ members.map writeMember, Place.outside.after text = .outside := by
  intro text ht
  obtain ⟨member, hm, rfl⟩ := List.mem_map.mp ht
  rw [writeMember, after_append, (clear_name member.1).closed]
  exact h member hm

theorem closed_write (j : Json) : Place.outside.after (write .compact j) = .outside := by
  induction Floats.trivial j with
  | null => rfl
  | bool b => cases b <;> rfl
  | int n => exact (number_intDigits n).clear.closed
  | float => exact closed_float _
  | string s => exact (clear_name s).closed
  | array _ ih =>
      rw [write_array]
      apply closed_between rfl rfl
      apply closed_separate
      intro text ht
      obtain ⟨item, hi, rfl⟩ := List.mem_map.mp ht
      exact ih item hi
  | object _ ih =>
      rw [write_object]
      exact closed_between rfl rfl (closed_separate (closed_members ih))

theorem clear_between {front back : Letter} {text : Text} (quote : front ≠ '"')
    (closed : Place.outside.after text = .outside) (h : Clear (front :: text ++ [back])) :
    Clear text :=
  (h.tail quote).split closed |>.1

theorem clear_member {member : Text × Json} (h : Clear (writeMember member)) :
    Clear (write .compact member.2) :=
  (h.split (clear_name member.1).closed).2.tail (by decide)

theorem finite_of_clear {j : Json} (h : Clear (write .compact j)) : j.Finite := by
  induction Floats.trivial j with
  | null => exact .null
  | bool b => exact .bool b
  | int n => exact .int n
  | float => exact .float (clear_float h)
  | string s => exact .string s
  | @array items _ ih =>
      have closed : ∀ text ∈ items.map (write .compact), Place.outside.after text = .outside := by
        intro text ht
        obtain ⟨item, -, rfl⟩ := List.mem_map.mp ht
        exact closed_write item
      rw [write_array] at h
      have inner := clear_separate closed (clear_between (by decide) (closed_separate closed) h)
      exact .array fun item hi => ih item hi (inner _ (List.mem_map_of_mem hi))
  | @object members _ ih =>
      have closed := closed_members fun member (_ : member ∈ members) => closed_write member.2
      rw [write_object] at h
      have inner := clear_separate closed (clear_between (by decide) (closed_separate closed) h)
      exact .object fun member hm => ih member hm (clear_member (inner _ (List.mem_map_of_mem hm)))

theorem isText_iff {j : Json} : IsText (write .compact j) ↔ j.Finite := by
  constructor
  · intro h
    exact finite_of_clear h.clear
  · intro h
    exact (value_write h).element

end Json

end LedgerFeed
