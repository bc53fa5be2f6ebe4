import LedgerFeed.Characters.Text

namespace LedgerFeed.Utf8

def octet (n : Nat) : UInt8 := UInt8.ofNat n

def tail (n : Nat) : UInt8 := octet (0x80 + n % 0x40)

def encodeChar (c : Char) : List UInt8 :=
  let n := c.toNat
  if n < 0x80 then [octet n]
  else if n < 0x800 then [octet (0xc0 + n / 0x40), tail n]
  else if n < 0x10000 then [octet (0xe0 + n / 0x1000), tail (n / 0x40), tail n]
  else [octet (0xf0 + n / 0x40000), tail (n / 0x1000), tail (n / 0x40), tail n]

def encode (text : List Char) : List UInt8 := text.flatMap encodeChar

def encode? (text : Text) : Option (List UInt8) := text.chars?.map encode

inductive Front
  | character (c : Char) (rest : List UInt8)
  | broken (rest : List UInt8)

def inRange (low high : Nat) (b : UInt8) : Bool := low ≤ b.toNat && b.toNat ≤ high

/-- The least and greatest second octet after a first one of three or four, which keep out overlong
forms, surrogates and codes above U+10FFFF. -/
def secondRange (first : Nat) : Nat × Nat :=
  if first = 0xe0 then (0xa0, 0xbf)
  else if first = 0xed then (0x80, 0x9f)
  else if first = 0xf0 then (0x90, 0xbf)
  else if first = 0xf4 then (0x80, 0x8f)
  else (0x80, 0xbf)

def join (high : Nat) (b : UInt8) : Nat := high * 0x40 + b.toNat % 0x40

/-- The character at the front, or the octets left after the longest start of one. -/
def front (first : UInt8) (rest : List UInt8) : Front :=
  let n := first.toNat
  let (low, high) := secondRange n
  if n < 0x80 then
    .character (Char.ofNat n) rest
  else if 0xc2 ≤ n ∧ n ≤ 0xdf then
    match rest with
    | b :: after =>
        if inRange 0x80 0xbf b then .character (Char.ofNat (join (n % 0x20) b)) after
        else .broken rest
    | [] => .broken []
  else if 0xe0 ≤ n ∧ n ≤ 0xef then
    match rest with
    | b :: after =>
        if inRange low high b then
          match after with
          | c :: last =>
              if inRange 0x80 0xbf c then
                .character (Char.ofNat (join (join (n % 0x10) b) c)) last
              else
                .broken after
          | [] => .broken []
        else
          .broken rest
    | [] => .broken []
  else if 0xf0 ≤ n ∧ n ≤ 0xf4 then
    match rest with
    | b :: after =>
        if inRange low high b then
          match after with
          | c :: next =>
              if inRange 0x80 0xbf c then
                match next with
                | d :: last =>
                    if inRange 0x80 0xbf d then
                      .character (Char.ofNat (join (join (join (n % 0x08) b) c) d)) last
                    else
                      .broken next
                | [] => .broken []
              else
                .broken after
          | [] => .broken []
        else
          .broken rest
    | [] => .broken []
  else
    .broken rest

def decodeWithin : Nat → List UInt8 → Option (List Char)
  | _, [] => some []
  | 0, _ :: _ => none
  | rounds + 1, first :: rest =>
      match front first rest with
      | .character c after => (decodeWithin rounds after).map (c :: ·)
      | .broken _ => none

def decode? (octets : List UInt8) : Option (List Char) := decodeWithin octets.length octets

def replaceWithin : Nat → List UInt8 → List Char
  | 0, _ => []
  | _ + 1, [] => []
  | rounds + 1, first :: rest =>
      match front first rest with
      | .character c after => c :: replaceWithin rounds after
      | .broken after => '\ufffd' :: replaceWithin rounds after

def decodeReplacing (octets : List UInt8) : List Char := replaceWithin octets.length octets

end LedgerFeed.Utf8
