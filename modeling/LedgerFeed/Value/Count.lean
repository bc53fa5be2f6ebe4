import LedgerFeed.Value.Access
import LedgerFeed.Characters.Digit

namespace LedgerFeed

def spelledInt? (blank : Char → Bool) (text : List Char) : Option (Bool × List Char) :=
  let (negative, digits) := splitSign (trimWith blank text)
  (groupedDigits? digits).map (negative, ·)

def countOfText (blank : Char → Bool) (label : List Char) (text : List Char) : Except Fault Int :=
  match spelledInt? blank text with
  | none => .error (.notANumber (String.ofList (label.take 200)))
  | some (negative, digits) =>
      if digits.length > digitLimit then .error (.longInteger digits.length)
      else .ok (signed negative (ofDigits digits))

def Value.toInt (value : Value) : Except Fault Int :=
  match value.text?, value.slot with
  | some text, _ => countOfText isWhiteSpace value.shown.toList (text.map asciiDigit)
  | none, .buffer _ octets =>
      countOfText isAsciiBlank (quoteOctets octets) (octets.map fun b => Char.ofNat b.toNat)
  | none, .float .nan => .error .nanToInteger
  | none, .float x =>
      match x.truncate? with
      | some n => .ok n
      | none => .error .infinityToInteger
  | none, slot =>
      match slot.int? with
      | some n => .ok n
      | none => .error (.notNumeric value.typeName)

def Value.count (value : Value) : Except Fault Int :=
  if value.isTrue then value.toInt else .ok 0

end LedgerFeed
