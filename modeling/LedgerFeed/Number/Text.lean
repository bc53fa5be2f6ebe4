import LedgerFeed.Number.Shortest

namespace LedgerFeed

def digitLimit : Nat := 4300

def digitLimitText : String :=
  s!"Exceeds the limit ({digitLimit} digits) for integer string conversion"

def natDigits (n : Nat) : List Char := Nat.toDigits 10 n

def exceedsDigitLimit (n : Int) : Bool := n.natAbs ≥ Nat.pow 10 digitLimit

def intDigits (n : Int) : List Char :=
  if n < 0 then '-' :: natDigits n.natAbs else natDigits n.natAbs

def intText (n : Int) : String := String.ofList (intDigits n)

def isDigit (c : Char) : Bool := '0' ≤ c && c ≤ '9'

def digitValue (c : Char) : Nat := c.toNat - '0'.toNat

def ofDigits (digits : List Char) : Nat := digits.foldl (fun n c => 10 * n + digitValue c) 0

def groupedDigits? : List Char → Option (List Char)
  | [] => none
  | [c] => if isDigit c then some [c] else none
  | c :: '_' :: rest => if isDigit c then (groupedDigits? rest).map (c :: ·) else none
  | c :: d :: rest => if isDigit c then (groupedDigits? (d :: rest)).map (c :: ·) else none

def splitSign : List Char → Bool × List Char
  | '-' :: rest => (true, rest)
  | '+' :: rest => (false, rest)
  | text => (false, text)

def signed (negative : Bool) (n : Nat) : Int := if negative then -(n : Int) else (n : Int)

structure FloatLayout where
  nan : String
  infinity : String
  negativeInfinity : String
  leastPoint : Int
  greatestPoint : Int
  exponentDigits : Nat

/-- How values show a number: positional from `1e-4` up to `1e16`. -/
def FloatLayout.plain : FloatLayout := ⟨"nan", "inf", "-inf", -3, 16, 2⟩

def FloatLayout.json : FloatLayout := { FloatLayout.plain with
  nan := "NaN", infinity := "Infinity", negativeInfinity := "-Infinity" }

def padLeft (width : Nat) (digits : List Char) : List Char :=
  List.replicate (width - digits.length) '0' ++ digits

def positional (digits : List Char) (point : Int) : List Char :=
  if point ≤ 0 then
    '0' :: '.' :: (List.replicate (-point).toNat '0' ++ digits)
  else
    let places := point.toNat
    let whole := digits.take places ++ List.replicate (places - digits.length) '0'
    let fraction := digits.drop places
    whole ++ '.' :: (if fraction.isEmpty then ['0'] else fraction)

def scientific (layout : FloatLayout) (digits : List Char) (point : Int) : List Char :=
  let mantissa := match digits with
    | first :: second :: rest => first :: '.' :: second :: rest
    | short => short
  let exponent := point - 1
  let sign := if exponent < 0 then '-' else '+'
  mantissa ++ 'e' :: sign :: padLeft layout.exponentDigits (natDigits exponent.natAbs)

def FloatLayout.write (layout : FloatLayout) : Binary64 → List Char
  | .nan => layout.nan.toList
  | .infinity false => layout.infinity.toList
  | .infinity true => layout.negativeInfinity.toList
  | .finite negative significand exponent =>
      let sign := if negative then ['-'] else []
      if significand = 0 then
        sign ++ ['0', '.', '0']
      else
        let decimal := Shortest.shortest significand exponent
        let digits := natDigits decimal.digits
        let point : Int := (digits.length : Int) + decimal.power
        sign ++ (if layout.leastPoint ≤ point ∧ point ≤ layout.greatestPoint then
          positional digits point
        else
          scientific layout digits point)

def floatText (x : Binary64) : String := String.ofList (FloatLayout.plain.write x)

def ofParts (negative : Bool) (whole fraction : List Char) (power : Int) : Binary64 :=
  Binary64.ofDecimal negative (ofDigits (whole ++ fraction)) (power - (fraction.length : Int))

def readPower? : List Char → Option Int
  | [] => some 0
  | mark :: rest =>
      if mark = 'e' ∨ mark = 'E' then
        let (negative, digits) := splitSign rest
        (groupedDigits? digits).map fun ds => signed negative (ofDigits ds)
      else
        none

def lowerAscii (text : List Char) : List Char := text.map Char.toLower

def readFloat? (text : List Char) : Option Binary64 :=
  let (negative, body) := splitSign text
  let name := String.ofList (lowerAscii body)
  if name = "inf" ∨ name = "infinity" then
    some (.infinity negative)
  else if name = "nan" then
    some .nan
  else
    let inNumber := fun c => isDigit c || c = '_'
    let whole := body.takeWhile inNumber
    let afterWhole := body.dropWhile inNumber
    let (fraction, rest) := match afterWhole with
      | '.' :: tail => (tail.takeWhile inNumber, tail.dropWhile inNumber)
      | tail => ([], tail)
    let digits? := fun (part : List Char) => if part.isEmpty then some [] else groupedDigits? part
    match digits? whole, digits? fraction, readPower? rest with
    | some w, some f, some power =>
        if w.isEmpty ∧ f.isEmpty then none else some (ofParts negative w f power)
    | _, _, _ => none

end LedgerFeed
