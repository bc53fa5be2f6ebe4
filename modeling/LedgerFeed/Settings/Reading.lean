import LedgerFeed.Value.Access
import LedgerFeed.Characters.Utf8

namespace LedgerFeed

inductive Issue
  | intType
  | intParsing
  | intSize
  | intFromFloat
  | notFinite
  | floatType
  | floatParsing
  | boolType
  | boolParsing
  | stringType
  | stringUnicode
  | below (bound : String)
  | above (bound : String)
  | refused (text : String)
  deriving DecidableEq, Repr

namespace Issue

def kind : Issue → String
  | .intType => "int_type"
  | .intParsing => "int_parsing"
  | .intSize => "int_parsing_size"
  | .intFromFloat => "int_from_float"
  | .notFinite => "finite_number"
  | .floatType => "float_type"
  | .floatParsing => "float_parsing"
  | .boolType => "bool_type"
  | .boolParsing => "bool_parsing"
  | .stringType => "string_type"
  | .stringUnicode => "string_unicode"
  | .below _ => "greater_than_equal"
  | .above _ => "less_than_equal"
  | .refused _ => "value_error"

def message : Issue → String
  | .intType => "Input should be a valid integer"
  | .intParsing => "Input should be a valid integer, unable to parse string as an integer"
  | .intSize => "Unable to parse input string as an integer, exceeded maximum size"
  | .intFromFloat => "Input should be a valid integer, got a number with a fractional part"
  | .notFinite => "Input should be a finite number"
  | .floatType => "Input should be a valid number"
  | .floatParsing => "Input should be a valid number, unable to parse string as a number"
  | .boolType => "Input should be a valid boolean"
  | .boolParsing => "Input should be a valid boolean, unable to interpret input"
  | .stringType => "Input should be a valid string"
  | .stringUnicode => "Input should be a valid string, unable to parse raw data as a unicode string"
  | .below bound => s!"Input should be greater than or equal to {bound}"
  | .above bound => s!"Input should be less than or equal to {bound}"
  | .refused text => s!"Value error, {text}"

end Issue

/-! ## Text -/

def withoutUnderscores? (text : List Char) : Option (List Char) :=
  let parts := splitAt '_' text
  if parts.length > 1 ∧ parts.all (!·.isEmpty) then some parts.flatten else none

/-- The text of a value that can be read like one: text itself, or octets that encode it. Octets
that encode none are the given issue. -/
def readable? (broken : Issue) (value : Value) : Except Issue (Option (List Char)) :=
  match value.text?, value.slot with
  | some text, _ =>
      match text.chars? with
      | some chars => .ok (some chars)
      | none => .error .stringUnicode
  | none, .buffer .bytes octets =>
      match Utf8.decode? octets with
      | some text => .ok (some text)
      | none => .error broken
  | none, _ => .ok none

def readText (value : Value) : Except Issue String :=
  match value.text?, value.slot with
  | some text, _ =>
      match text.string? with
      | some s => .ok s
      | none => .error .stringUnicode
  | none, .buffer .memoryview _ => .error .stringType
  | none, .buffer _ octets =>
      match Utf8.decode? octets with
      | some text => .ok (String.ofList text)
      | none => .error .stringUnicode
  | none, _ => .error .stringType

/-! ## Whole numbers -/

def withoutZeroFraction? (text : List Char) : Option (List Char) :=
  match splitAt '.' text with
  | [whole] => some whole
  | [whole, fraction] =>
      if !fraction.isEmpty && fraction.all (· = '0') then some whole else none
  | _ => none

def intOfText (text : List Char) : Except Issue Int :=
  let trimmed := trimWith isWhiteSpace text
  if trimmed.length > digitLimit then
    .error .intSize
  else
    let (negative, body) := splitSign trimmed
    match (withoutZeroFraction? body).bind groupedDigits? with
    | some digits => .ok (signed negative (ofDigits digits))
    | none => .error .intParsing

def intOfFloat (x : Binary64) : Except Issue Int :=
  match x.ratio? with
  | none => .error .notFinite
  | some _ =>
      match x.whole? with
      | none => .error .intFromFloat
      | some n => if n.natAbs < Nat.pow 2 63 then .ok n else .error .intSize

def readInteger (value : Value) : Except Issue Int := do
  match ← readable? .intParsing value, value.slot with
  | some text, _ => intOfText text
  | none, .float x => intOfFloat x
  | none, slot =>
      match slot.int? with
      | some n => .ok n
      | none => .error .intType

/-! ## Binary numbers -/

def floatOfText (text : List Char) : Except Issue Binary64 :=
  let trimmed := trimWith isWhiteSpace text
  match readFloat? trimmed with
  | some x => .ok x
  | none =>
      match (withoutUnderscores? trimmed).bind readFloat? with
      | some x => .ok x
      | none => .error .floatParsing

def floatOfInt (n : Int) : Except Issue Binary64 :=
  match Binary64.ofInt n with
  | .infinity _ => .error .floatType
  | x => .ok x

def readNumber (value : Value) : Except Issue Binary64 := do
  match ← readable? .floatParsing value, value.slot with
  | some text, _ => floatOfText text
  | none, .float x => .ok x
  | none, slot =>
      match slot.int? with
      | some n => floatOfInt n
      | none => .error .floatType

/-! ## Truth values -/

def trueWords : List String := ["1", "on", "t", "true", "y", "yes"]

def falseWords : List String := ["0", "off", "f", "false", "n", "no"]

def boolOfText (text : List Char) : Except Issue Bool :=
  let word := String.ofList (lowerAscii text)
  if trueWords.contains word then .ok true
  else if falseWords.contains word then .ok false
  else .error .boolParsing

def boolOfInt (n : Int) : Except Issue Bool :=
  if n = 0 then .ok false else if n = 1 then .ok true else .error .boolParsing

def readTruth (value : Value) : Except Issue Bool := do
  match ← readable? .boolParsing value, value.slot with
  | some text, _ => boolOfText text
  | none, .bool b => .ok b
  | none, .float x =>
      match x.whole? with
      | some n => boolOfInt n
      | none => .error .boolType
  | none, slot =>
      match slot.int? with
      | some n => boolOfInt n
      | none => .error .boolType

/-! ## Bounds -/

def atLeast (bound n : Int) : Except Issue Int :=
  if n < bound then .error (.below (intText bound)) else .ok n

def atMost (bound n : Int) : Except Issue Int :=
  if n > bound then .error (.above (intText bound)) else .ok n

structure Bound where
  text : String
  value : Binary64

def bound (text : String) : Bound := ⟨text, (readFloat? text.toList).getD .nan⟩

/-- Refuses what lies outside; what is not a number lies nowhere. -/
def between (low high : Bound) (x : Binary64) : Except Issue Binary64 :=
  if high.value.lt x then .error (.above high.text)
  else if x.lt low.value then .error (.below low.text)
  else .ok x

end LedgerFeed
