/-!
# Texts

A text is a list of letters. A letter is a character or half of a pair of UTF-16 units that stands
alone; the escapes of JSON can spell such a half, and no octets of UTF-8 encode one.
-/

namespace LedgerFeed

/-- A character, or one of the halves U+D800 to U+DFFF by its place among them. -/
inductive Letter
  | char (c : Char)
  | half (place : Fin 0x800)
  deriving DecidableEq, Repr

namespace Letter

instance : Coe Char Letter := ⟨char⟩

instance : Inhabited Letter := ⟨char ' '⟩

def code : Letter → Nat
  | .char c => c.toNat
  | .half place => 0xd800 + place

def isIn (charClass : Char → Bool) : Letter → Bool
  | .char c => charClass c
  | .half _ => false

end Letter

abbrev Text := List Letter

namespace Text

def ofChars (chars : List Char) : Text := chars.map .char

def ofString (s : String) : Text := ofChars s.toList

instance : Coe String Text := ⟨ofString⟩

def chars? : Text → Option (List Char)
  | [] => some []
  | .char c :: rest => (chars? rest).map (c :: ·)
  | .half _ :: _ => none

def string? (text : Text) : Option String := (chars? text).map String.ofList

def legible (text : Text) : String :=
  String.ofList (text.filterMap fun
    | .char c => some c
    | .half _ => none)

@[simp] theorem ofChars_nil : ofChars [] = [] := rfl

@[simp] theorem ofChars_cons (c : Char) (rest : List Char) :
    ofChars (c :: rest) = .char c :: ofChars rest := rfl

@[simp] theorem ofChars_append (first second : List Char) :
    ofChars (first ++ second) = ofChars first ++ ofChars second :=
  List.map_append

@[simp] theorem length_ofChars (chars : List Char) : (ofChars chars).length = chars.length :=
  List.length_map _

@[simp] theorem chars?_ofChars (chars : List Char) : chars? (ofChars chars) = some chars := by
  induction chars with
  | nil => rfl
  | cons c rest ih => simp [chars?, ih]

@[simp] theorem string?_ofString (s : String) : string? (ofString s) = some s := by
  simp [string?, ofString]

theorem ofChars_injective {first second : List Char} (h : ofChars first = ofChars second) :
    first = second := by
  simpa using congrArg chars? h

@[simp] theorem ofChars_inj {first second : List Char} :
    ofChars first = ofChars second ↔ first = second :=
  ⟨ofChars_injective, congrArg ofChars⟩

theorem ofString_injective {s t : String} (h : ofString s = ofString t) : s = t :=
  String.toList_injective (ofChars_injective h)

@[simp] theorem ofString_inj {s t : String} : ofString s = ofString t ↔ s = t :=
  ⟨ofString_injective, congrArg ofString⟩

theorem chars?_eq_some {text : Text} {chars : List Char} :
    chars? text = some chars ↔ text = ofChars chars := by
  constructor
  · intro h
    induction text generalizing chars with
    | nil => cases h; rfl
    | cons letter rest ih =>
        cases letter with
        | char c =>
            obtain ⟨others, found, rfl⟩ := Option.map_eq_some_iff.mp h
            rw [ofChars_cons, ih found]
        | half place => cases h
  · rintro rfl
    exact chars?_ofChars chars

end Text

end LedgerFeed
