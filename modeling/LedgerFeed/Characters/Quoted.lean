import LedgerFeed.Characters.Text
import LedgerFeed.Characters.Printable
import LedgerFeed.Characters.Hex

namespace LedgerFeed

def quoteFor (text : Text) : Char :=
  if text.contains (.char '\'') && !text.contains (.char '"') then '"' else '\''

def escapeCode (code : Nat) : List Char :=
  if code < 0x100 then '\\' :: 'x' :: hexCode 2 code
  else if code < 0x10000 then '\\' :: 'u' :: hexCode 4 code
  else '\\' :: 'U' :: hexCode 8 code

def quoteChar (quote c : Char) : List Char :=
  if c = quote ∨ c = '\\' then ['\\', c]
  else if c = '\n' then ['\\', 'n']
  else if c = '\r' then ['\\', 'r']
  else if c = '\t' then ['\\', 't']
  else if isPrintable c then [c]
  else escapeCode c.toNat

def quoteLetter (quote : Char) : Letter → List Char
  | .char c => quoteChar quote c
  | .half place => escapeCode (Letter.half place).code

def quoteText (text : Text) : List Char :=
  let quote := quoteFor text
  quote :: text.flatMap (quoteLetter quote) ++ [quote]

def quoteOctet (quote : Char) (octet : UInt8) : List Char :=
  if octet.toNat < 0x7f then quoteChar quote (Char.ofNat octet.toNat) else escapeCode octet.toNat

def quoteForOctets (octets : List UInt8) : Char :=
  quoteFor (octets.map fun octet => .char (Char.ofNat octet.toNat))

def quoteOctets (octets : List UInt8) : List Char :=
  let quote := quoteForOctets octets
  'b' :: quote :: octets.flatMap (quoteOctet quote) ++ [quote]

/-- Octets that can be changed: quoted in the same way, but a single quote is always escaped. -/
def quoteMutableOctets (octets : List UInt8) : List Char :=
  let quote := quoteForOctets octets
  let escape := fun (octet : UInt8) =>
    if octet.toNat = '\''.toNat then ['\\', '\''] else quoteOctet quote octet
  'b' :: quote :: octets.flatMap escape ++ [quote]

def quoted (text : Text) : String := String.ofList (quoteText text)

end LedgerFeed
