import LedgerFeed.Json.Basic
import LedgerFeed.Number.Text
import LedgerFeed.Characters.Hex

namespace LedgerFeed

inductive ReadError
  | byteOrderMark
  | expectingValue
  | expectingName
  | expectingColon
  | expectingComma
  | extraData
  | unterminatedString
  | controlCharacter
  | unknownEscape
  | unicodeEscape
  | tooManyDigits (count : Nat)
  deriving DecidableEq, Repr

def ReadError.message : ReadError → String
  | .byteOrderMark => "Unexpected UTF-8 BOM (decode using utf-8-sig)"
  | .expectingValue => "Expecting value"
  | .expectingName => "Expecting property name enclosed in double quotes"
  | .expectingColon => "Expecting ':' delimiter"
  | .expectingComma => "Expecting ',' delimiter"
  | .extraData => "Extra data"
  | .unterminatedString => "Unterminated string starting at"
  | .controlCharacter => "Invalid control character at"
  | .unknownEscape => "Invalid \\escape"
  | .unicodeEscape => "Invalid \\uXXXX escape"
  | .tooManyDigits count =>
      s!"{digitLimitText}: value has {count} digits" ++
        "; use sys.set_int_max_str_digits() to increase the limit"

namespace Json

def isSpace (letter : Letter) : Bool :=
  letter = ' ' || letter = '\t' || letter = '\n' || letter = '\r'

def skipSpace (text : Text) : Text := text.dropWhile isSpace

def dropWord? {α : Type} [DecidableEq α] : List α → List α → Option (List α)
  | [], text => some text
  | _ :: _, [] => none
  | c :: word, d :: text => if c = d then dropWord? word text else none

/-! ## Strings -/

def fourDigits? : Text → Option (Nat × Text)
  | .char a :: .char b :: .char c :: .char d :: rest =>
      match hexValue? a, hexValue? b, hexValue? c, hexValue? d with
      | some w, some x, some y, some z => some (((w * 16 + x) * 16 + y) * 16 + z, rest)
      | _, _, _, _ => none
  | _ => none

def isHighHalf (unit : Nat) : Bool := 0xd800 ≤ unit && unit ≤ 0xdbff

def isLowHalf (unit : Nat) : Bool := 0xdc00 ≤ unit && unit ≤ 0xdfff

def joinHalves (high low : Nat) : Nat := 0x10000 + (high - 0xd800) * 0x400 + (low - 0xdc00)

def ofUnit (unit : Nat) : Letter :=
  if half : 0xd800 ≤ unit ∧ unit ≤ 0xdfff then .half ⟨unit - 0xd800, by omega⟩
  else .char (Char.ofNat unit)

/-- Reads a unit after `\u`; at least one more character has to follow its digits. -/
def readUnit (text : Text) : Except ReadError (Nat × Text) :=
  if text.length ≤ 4 then
    .error .unicodeEscape
  else
    match fourDigits? text with
    | some found => .ok found
    | none => .error .unicodeEscape

/-- The letter of an escape whose `\u` is read, with the second half of a pair. -/
def readUnicode (text : Text) : Except ReadError (Letter × Text) :=
  match readUnit text with
  | .error e => .error e
  | .ok (unit, rest) =>
      match isHighHalf unit, rest with
      | true, .char '\\' :: .char 'u' :: second =>
          if second.length ≤ 4 then
            .ok (ofUnit unit, rest)
          else
            match fourDigits? second with
            | none => .error .unicodeEscape
            | some (low, after) =>
                if isLowHalf low then .ok (.char (Char.ofNat (joinHalves unit low)), after)
                else .ok (ofUnit unit, rest)
      | _, _ => .ok (ofUnit unit, rest)

def simpleEscape? : Letter → Option Letter
  | .char '"' => some '"'
  | .char '\\' => some '\\'
  | .char '/' => some '/'
  | .char 'b' => some '\x08'
  | .char 'f' => some '\x0c'
  | .char 'n' => some '\n'
  | .char 'r' => some '\r'
  | .char 't' => some '\t'
  | _ => none

def readString : Nat → Text → Except ReadError (Text × Text)
  | 0, _ => .error .unterminatedString
  | _ + 1, [] => .error .unterminatedString
  | _ + 1, .char '"' :: rest => .ok ([], rest)
  | _ + 1, [.char '\\'] => .error .unterminatedString
  | rounds + 1, .char '\\' :: .char 'u' :: rest =>
      match readUnicode rest with
      | .error e => .error e
      | .ok (letter, after) =>
          (readString rounds after).map fun (text, rest) => (letter :: text, rest)
  | rounds + 1, .char '\\' :: mark :: rest =>
      match simpleEscape? mark with
      | none => .error .unknownEscape
      | some letter => (readString rounds rest).map fun (text, rest) => (letter :: text, rest)
  | rounds + 1, letter :: rest =>
      if letter.code < 0x20 then .error .controlCharacter
      else (readString rounds rest).map fun (text, rest) => (letter :: text, rest)

/-! ## Numbers -/

def wholePart? : List Char → Option (List Char × List Char)
  | '0' :: rest => some (['0'], rest)
  | c :: rest =>
      if isDigit c then some (c :: rest.takeWhile isDigit, rest.dropWhile isDigit) else none
  | [] => none

def fractionPart : List Char → List Char × List Char
  | '.' :: c :: rest =>
      if isDigit c then (c :: rest.takeWhile isDigit, rest.dropWhile isDigit)
      else ([], '.' :: c :: rest)
  | text => ([], text)

def exponentPart (text : List Char) : Option Int × List Char :=
  match text with
  | mark :: rest =>
      if mark = 'e' ∨ mark = 'E' then
        let (negative, digits) := splitSign rest
        let found := digits.takeWhile isDigit
        if found.isEmpty then (none, text)
        else (some (signed negative (ofDigits found)), digits.dropWhile isDigit)
      else
        (none, text)
  | [] => (none, text)

def readNumeral (text : List Char) : Except ReadError (Json × List Char) :=
  let (negative, unsigned) := match text with
    | '-' :: rest => (true, rest)
    | _ => (false, text)
  match wholePart? unsigned with
  | none => .error .expectingValue
  | some (whole, afterWhole) =>
      let (fraction, afterFraction) := fractionPart afterWhole
      let (power, rest) := exponentPart afterFraction
      if fraction.isEmpty ∧ power.isNone then
        if whole.length > digitLimit then
          .error (.tooManyDigits whole.length)
        else
          .ok (.int (signed negative (ofDigits whole)), rest)
      else
        .ok (.float (ofParts negative whole fraction (power.getD 0)), rest)

def inNumber (c : Char) : Bool :=
  isDigit c || c = '.' || c = 'e' || c = 'E' || c = '+' || c = '-'

def splitNumeral : Text → List Char × Text
  | .char c :: rest =>
      if inNumber c then
        let (run, after) := splitNumeral rest
        (c :: run, after)
      else
        ([], .char c :: rest)
  | text => ([], text)

def readNumber (text : Text) : Except ReadError (Json × Text) :=
  let (run, after) := splitNumeral text
  (readNumeral run).map fun (value, left) => (value, .ofChars left ++ after)

/-! ## Values -/

def readScalar (text : Text) : Except ReadError (Json × Text) :=
  let names : List (Text × Json) :=
    [("null", .null), ("true", .bool true), ("false", .bool false), ("NaN", .float .nan),
     ("Infinity", .float (.infinity false)), ("-Infinity", .float (.infinity true))]
  match names.findSome? fun (word, value) => (dropWord? word text).map (value, ·) with
  | some found => .ok found
  | none => readNumber text

mutual

/-- Reads the value at the front of a text. Two rounds for each character are enough. -/
def readValue : Nat → Text → Except ReadError (Json × Text)
  | 0, _ => .error .expectingValue
  | rounds + 1, text =>
      match text with
      | .char '"' :: rest =>
          (readString (rest.length + 1) rest).map fun (text, after) => (.string text, after)
      | .char '[' :: rest =>
          match skipSpace rest with
          | .char ']' :: after => .ok (.array [], after)
          | items => (readItems rounds items).map fun (found, after) => (.array found, after)
      | .char '\x7b' :: rest =>
          match skipSpace rest with
          | .char '\x7d' :: after => .ok (.object [], after)
          | members =>
              (readMembers rounds members).map fun (found, after) =>
                (.object (mergeMembers found), after)
      | _ => readScalar text

def readItems : Nat → Text → Except ReadError (List Json × Text)
  | 0, _ => .error .expectingValue
  | rounds + 1, text =>
      match readValue rounds text with
      | .error e => .error e
      | .ok (item, after) =>
          match skipSpace after with
          | .char ']' :: rest => .ok ([item], rest)
          | .char ',' :: rest =>
              (readItems rounds (skipSpace rest)).map fun (items, last) => (item :: items, last)
          | _ => .error .expectingComma

def readMembers : Nat → Text → Except ReadError (List (Text × Json) × Text)
  | 0, _ => .error .expectingName
  | rounds + 1, text =>
      match text with
      | .char '"' :: rest =>
          match readString (rest.length + 1) rest with
          | .error e => .error e
          | .ok (name, afterName) =>
              match skipSpace afterName with
              | .char ':' :: afterColon =>
                  match readValue rounds (skipSpace afterColon) with
                  | .error e => .error e
                  | .ok (value, afterValue) =>
                      let member := (name, value)
                      match skipSpace afterValue with
                      | .char '\x7d' :: last => .ok ([member], last)
                      | .char ',' :: more =>
                          (readMembers rounds (skipSpace more)).map fun (members, last) =>
                            (member :: members, last)
                      | _ => .error .expectingComma
              | _ => .error .expectingColon
      | _ => .error .expectingName

end

def read (text : Text) : Except ReadError Json :=
  match text with
  | .char '\ufeff' :: _ => .error .byteOrderMark
  | _ =>
      match readValue (2 * text.length + 2) (skipSpace text) with
      | .error e => .error e
      | .ok (value, rest) => if (skipSpace rest).isEmpty then .ok value else .error .extraData

end Json

end LedgerFeed
