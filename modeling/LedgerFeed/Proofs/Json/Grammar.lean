import LedgerFeed.Proofs.Json.Tidy

namespace LedgerFeed.Json.Grammar

/-! ## Numbers -/

def Digits (text : List Char) : Prop := text ≠ [] ∧ ∀ c ∈ text, isDigit c = true

inductive Whole : List Char → Prop
  | zero : Whole ['0']
  | digits {c : Char} {rest : List Char} (nonzero : c ≠ '0') (run : Digits (c :: rest)) :
      Whole (c :: rest)

inductive Fraction : List Char → Prop
  | none : Fraction []
  | some {digits : List Char} (run : Digits digits) : Fraction ('.' :: digits)

inductive Exponent : List Char → Prop
  | none : Exponent []
  | plain {mark : Char} {digits : List Char} (letter : mark = 'e' ∨ mark = 'E')
      (run : Digits digits) : Exponent (mark :: digits)
  | signed {mark sign : Char} {digits : List Char} (letter : mark = 'e' ∨ mark = 'E')
      (either : sign = '+' ∨ sign = '-') (run : Digits digits) : Exponent (mark :: sign :: digits)

inductive Unsigned : List Char → Prop
  | mk {whole fraction exponent : List Char} (first : Whole whole) (second : Fraction fraction)
      (third : Exponent exponent) : Unsigned (whole ++ (fraction ++ exponent))

inductive Number : List Char → Prop
  | positive {text : List Char} (unsigned : Unsigned text) : Number text
  | negative {text : List Char} (unsigned : Unsigned text) : Number ('-' :: text)

/-! ## Strings -/

def escapable : List Char := ['"', '\\', '/', 'b', 'f', 'n', 'r', 't']

inductive Characters : Text → Prop
  | nil : Characters []
  | plain {letter : Letter} {rest : Text} (visible : 0x20 ≤ letter.code) (noQuote : letter ≠ '"')
      (noSlash : letter ≠ '\\') (others : Characters rest) : Characters (letter :: rest)
  | escape {c : Char} {rest : Text} (letter : c ∈ escapable) (others : Characters rest) :
      Characters (.char '\\' :: .char c :: rest)
  | unicode {a b c d : Char} {rest : Text} (digits : ∀ x ∈ [a, b, c, d], isHexDigit x = true)
      (others : Characters rest) :
      Characters (.char '\\' :: .char 'u' :: .char a :: .char b :: .char c :: .char d :: rest)

inductive Quoted : Text → Prop
  | mk {characters : Text} (inner : Characters characters) :
      Quoted (.char '"' :: characters ++ [.char '"'])

/-! ## Values -/

def Space (text : Text) : Prop := ∀ c ∈ text, isSpace c = true

mutual

inductive Value : Text → Prop
  | null : Value (.ofChars ['n', 'u', 'l', 'l'])
  | true : Value (.ofChars ['t', 'r', 'u', 'e'])
  | false : Value (.ofChars ['f', 'a', 'l', 's', 'e'])
  | number {word : List Char} (number : Number word) : Value (.ofChars word)
  | string {text : Text} (quoted : Quoted text) : Value text
  | emptyArray {space : Text} (blank : Space space) : Value (.char '[' :: space ++ [.char ']'])
  | array {items : Text} (inner : Elements items) : Value (.char '[' :: items ++ [.char ']'])
  | emptyObject {space : Text} (blank : Space space) :
      Value (.char '\x7b' :: space ++ [.char '\x7d'])
  | object {members : Text} (inner : Members members) :
      Value (.char '\x7b' :: members ++ [.char '\x7d'])

inductive Element : Text → Prop
  | mk {before value after : Text} (front : Space before) (inner : Value value)
      (back : Space after) : Element (before ++ value ++ after)

inductive Elements : Text → Prop
  | one {item : Text} (element : Element item) : Elements item
  | more {item others : Text} (element : Element item) (rest : Elements others) :
      Elements (item ++ .char ',' :: others)

inductive Member : Text → Prop
  | mk {before name after value : Text} (front : Space before) (quoted : Quoted name)
      (back : Space after) (element : Element value) :
      Member (before ++ name ++ after ++ .char ':' :: value)

inductive Members : Text → Prop
  | one {member : Text} (first : Member member) : Members member
  | more {member others : Text} (first : Member member) (rest : Members others) :
      Members (member ++ .char ',' :: others)

end

theorem Value.element {text : Text} (h : Value text) : Element text := by
  have blank : Space [] := fun c hc => by cases hc
  simpa using Element.mk blank h blank

/-! ## Characters outside strings -/

inductive Place
  | outside
  | inside
  | escaped
  deriving DecidableEq

def Place.next : Place → Letter → Place
  | .outside, c => if c = '"' then .inside else .outside
  | .inside, c => if c = '"' then .outside else if c = '\\' then .escaped else .inside
  | .escaped, _ => .inside

def Place.after (place : Place) (text : Text) : Place := text.foldl Place.next place

def bare : Place → Text → Text
  | _, [] => []
  | .outside, c :: rest => c :: bare (Place.outside.next c) rest
  | place, c :: rest => bare (place.next c) rest

theorem after_append (place : Place) (first second : Text) :
    place.after (first ++ second) = (place.after first).after second :=
  List.foldl_append

theorem bare_append (place : Place) (first second : Text) :
    bare place (first ++ second) = bare place first ++ bare (place.after first) second := by
  induction first generalizing place with
  | nil => cases place <;> rfl
  | cons c rest ih => cases place <;> simp [bare, ih, Place.after]

/-- A text that ends outside strings and has no `N` and no `I` there. -/
structure Clear (text : Text) : Prop where
  closed : Place.outside.after text = .outside
  letters : ∀ c ∈ bare .outside text, c ≠ 'N' ∧ c ≠ 'I'

theorem Clear.append {first second : Text} (h : Clear first) (h' : Clear second) :
    Clear (first ++ second) where
  closed := by rw [after_append, h.closed, h'.closed]
  letters c hc := by
    rw [bare_append, h.closed] at hc
    rcases List.mem_append.mp hc with hc | hc
    · exact h.letters c hc
    · exact h'.letters c hc

theorem Clear.split {first second : Text} (closed : Place.outside.after first = .outside)
    (h : Clear (first ++ second)) : Clear first ∧ Clear second := by
  have later := h.closed
  rw [after_append, closed] at later
  have letters := h.letters
  rw [bare_append, closed] at letters
  refine ⟨⟨closed, ?_⟩, ⟨later, ?_⟩⟩
  · intro c hc
    exact letters c (List.mem_append_left _ hc)
  · intro c hc
    exact letters c (List.mem_append_right _ hc)

def Neutral (c : Letter) : Prop := c ≠ '"' ∧ c ≠ 'N' ∧ c ≠ 'I'

instance (c : Letter) : Decidable (Neutral c) := inferInstanceAs (Decidable (_ ∧ _ ∧ _))

theorem clear_of_neutral {text : Text} (h : ∀ c ∈ text, Neutral c) : Clear text := by
  induction text with
  | nil => exact ⟨rfl, fun c hc => by cases hc⟩
  | cons c rest ih =>
      obtain ⟨quote, letters⟩ := h c List.mem_cons_self
      have tail := ih fun d hd => h d (List.mem_cons_of_mem _ hd)
      have same : Place.outside.next c = .outside := if_neg quote
      refine ⟨?_, ?_⟩
      · rw [Place.after, List.foldl_cons, same]
        exact tail.closed
      · intro d hd
        rw [bare, same] at hd
        rcases List.mem_cons.mp hd with rfl | hd
        · exact letters
        · exact tail.letters d hd

theorem clear_word {text : Text} (h : text.all (fun c => Neutral c) = true) : Clear text :=
  clear_of_neutral (by simpa using h)

theorem Clear.cons {c : Letter} {rest : Text} (neutral : Neutral c) (h : Clear rest) :
    Clear (c :: rest) := by
  have single : Clear [c] := clear_of_neutral fun d hd => by
    cases List.mem_singleton.mp hd
    exact neutral
  exact single.append h

theorem Clear.tail {c : Letter} {rest : Text} (quote : c ≠ '"') (h : Clear (c :: rest)) :
    Clear rest := by
  have closed : Place.outside.after [c] = .outside := if_neg quote
  exact (Clear.split closed h).2

/-! ## Texts of the grammar are clear -/

theorem neutral_digit {c : Char} (h : isDigit c = true) : Neutral (.char c) := by
  refine ⟨?_, ?_, ?_⟩ <;> (rintro ⟨⟩; cases h)

theorem Digits.clear {text : List Char} (h : Digits text) : Clear (.ofChars text) :=
  clear_of_neutral fun _ hc => by
    obtain ⟨c, digit, rfl⟩ := List.mem_map.mp hc
    exact neutral_digit (h.2 c digit)

theorem Whole.clear {text : List Char} (h : Whole text) : Clear (.ofChars text) := by
  cases h with
  | zero => exact clear_word (by decide)
  | digits _ run => exact run.clear

theorem Fraction.clear {text : List Char} (h : Fraction text) : Clear (.ofChars text) := by
  cases h with
  | none => exact clear_word (by decide)
  | some run => exact run.clear.cons (by decide)

theorem neutral_mark {mark : Char} (h : mark = 'e' ∨ mark = 'E') : Neutral (.char mark) := by
  rcases h with rfl | rfl <;> decide

theorem neutral_sign {sign : Char} (h : sign = '+' ∨ sign = '-') : Neutral (.char sign) := by
  rcases h with rfl | rfl <;> decide

theorem Exponent.clear {text : List Char} (h : Exponent text) : Clear (.ofChars text) := by
  cases h with
  | none => exact clear_word (by decide)
  | plain letter run => exact run.clear.cons (neutral_mark letter)
  | signed letter either run =>
      exact (run.clear.cons (neutral_sign either)).cons (neutral_mark letter)

theorem Unsigned.clear {text : List Char} (h : Unsigned text) : Clear (.ofChars text) := by
  cases h with
  | mk first second third =>
      rw [Text.ofChars_append, Text.ofChars_append]
      exact first.clear.append (second.clear.append third.clear)

theorem Number.clear {text : List Char} (h : Number text) : Clear (.ofChars text) := by
  cases h with
  | positive unsigned => exact unsigned.clear
  | negative unsigned => exact unsigned.clear.cons (by decide)

theorem Space.clear {text : Text} (h : Space text) : Clear text := by
  refine clear_of_neutral fun c hc => ?_
  have blank := h c hc
  refine ⟨?_, ?_, ?_⟩ <;> (rintro rfl; cases blank)

theorem inside_next {c : Letter} (quote : c ≠ '"') (slash : c ≠ '\\') :
    Place.inside.next c = .inside := by
  simp [Place.next, quote, slash]

theorem hexDigit_inside {c : Char} (h : isHexDigit c = true) :
    Place.inside.next (.char c) = .inside := by
  apply inside_next <;> (rintro ⟨⟩; cases h)

theorem Characters.inside {text : Text} (h : Characters text) :
    Place.inside.after text = .inside ∧ bare .inside text = [] := by
  induction h with
  | nil => exact ⟨rfl, rfl⟩
  | plain visible noQuote noSlash others ih =>
      simpa [Place.after, bare, inside_next noQuote noSlash] using ih
  | escape letter others ih => simpa [Place.after, bare, Place.next] using ih
  | @unicode a b c d rest digits others ih =>
      have ha := hexDigit_inside (digits a (by simp))
      have hb := hexDigit_inside (digits b (by simp))
      have hc := hexDigit_inside (digits c (by simp))
      have hd := hexDigit_inside (digits d (by simp))
      have slash : Place.inside.next (.char '\\') = .escaped := rfl
      have letter : Place.escaped.next (.char 'u') = .inside := rfl
      simpa [Place.after, bare, slash, letter, ha, hb, hc, hd] using ih

theorem Quoted.clear {text : Text} (h : Quoted text) : Clear text := by
  cases h with
  | @mk characters inner =>
      obtain ⟨after, nothing⟩ := inner.inside
      have start : Place.outside.next (.char '"') = .inside := rfl
      have opened : Place.outside.after (.char '"' :: characters) = .inside := after
      have ends : Place.inside.after [.char '"'] = .outside := rfl
      refine ⟨?_, ?_⟩
      · rw [after_append, opened, ends]
      · intro c hc
        rw [List.cons_append, bare, start, bare_append, nothing, after] at hc
        cases List.mem_singleton.mp hc
        decide

mutual

theorem Value.clear : ∀ {text : Text}, Value text → Clear text
  | _, .null => clear_word (by decide)
  | _, .true => clear_word (by decide)
  | _, .false => clear_word (by decide)
  | _, .number number => number.clear
  | _, .string quoted => quoted.clear
  | _, .emptyArray blank => by
      have ends : Clear [.char ']'] := clear_word (by decide)
      exact (blank.clear.append ends).cons (by decide)
  | _, .array inner => by
      have ends : Clear [.char ']'] := clear_word (by decide)
      exact (inner.clear.append ends).cons (by decide)
  | _, .emptyObject blank => by
      have ends : Clear [.char '\x7d'] := clear_word (by decide)
      exact (blank.clear.append ends).cons (by decide)
  | _, .object inner => by
      have ends : Clear [.char '\x7d'] := clear_word (by decide)
      exact (inner.clear.append ends).cons (by decide)

theorem Element.clear : ∀ {text : Text}, Element text → Clear text
  | _, .mk front inner back => (front.clear.append inner.clear).append back.clear

theorem Elements.clear : ∀ {text : Text}, Elements text → Clear text
  | _, .one element => element.clear
  | _, .more element rest => element.clear.append (rest.clear.cons (by decide))

theorem Member.clear : ∀ {text : Text}, Member text → Clear text
  | _, .mk front quoted back element =>
      ((front.clear.append quoted.clear).append back.clear).append
        (element.clear.cons (by decide))

theorem Members.clear : ∀ {text : Text}, Members text → Clear text
  | _, .one first => first.clear
  | _, .more first rest => first.clear.append (rest.clear.cons (by decide))

end

end LedgerFeed.Json.Grammar
