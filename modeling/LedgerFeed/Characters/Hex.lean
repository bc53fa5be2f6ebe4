namespace LedgerFeed

def hexDigit (n : Nat) : Char := Nat.digitChar (n % 16)

def hexOctet (octet : UInt8) : List Char := [hexDigit (octet.toNat / 16), hexDigit octet.toNat]

def writeHex (octets : List UInt8) : List Char := octets.flatMap hexOctet

def hexValue? (c : Char) : Option Nat :=
  if '0' ≤ c ∧ c ≤ '9' then some (c.toNat - '0'.toNat)
  else if 'a' ≤ c ∧ c ≤ 'f' then some (c.toNat - 'a'.toNat + 10)
  else if 'A' ≤ c ∧ c ≤ 'F' then some (c.toNat - 'A'.toNat + 10)
  else none

def hexCode (width : Nat) (n : Nat) : List Char :=
  let digits := Nat.toDigits 16 n
  List.replicate (width - digits.length) '0' ++ digits

def readHex? (blank : Char → Bool) : List Char → Option (List UInt8)
  | [] => some []
  | [c] => if blank c then some [] else none
  | c :: d :: rest =>
      if blank c then
        readHex? blank (d :: rest)
      else
        match hexValue? c, hexValue? d with
        | some high, some low =>
            (readHex? blank rest).map (UInt8.ofNat (16 * high + low) :: ·)
        | _, _ => none

end LedgerFeed
