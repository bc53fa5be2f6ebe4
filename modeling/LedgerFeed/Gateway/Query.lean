import LedgerFeed.Characters.Blank
import LedgerFeed.Characters.Hex
import LedgerFeed.Characters.Utf8

namespace LedgerFeed.Query
open LedgerFeed

def octets : List Char → List UInt8
  | '%' :: a :: b :: rest =>
      match hexValue? a, hexValue? b with
      | some high, some low => UInt8.ofNat (16 * high + low) :: octets rest
      | _, _ => UInt8.ofNat '%'.toNat :: octets (a :: b :: rest)
  | c :: rest => UInt8.ofNat c.toNat :: octets rest
  | [] => []

def addToRuns (c : Char) : List (Bool × List Char) → List (Bool × List Char)
  | (ascii, run) :: rest =>
      if ascii = decide (c.toNat < 128) then (ascii, c :: run) :: rest
      else (decide (c.toNat < 128), [c]) :: (ascii, run) :: rest
  | [] => [(decide (c.toNat < 128), [c])]

def decode (text : List Char) : List Char :=
  let runs := (text.map fun c => if c = '+' then ' ' else c).foldr addToRuns []
  runs.flatMap fun (ascii, run) => if ascii then Utf8.decodeReplacing (octets run) else run

def pair (part : List Char) : String × String :=
  let name := part.takeWhile (· ≠ '=')
  let value := (part.dropWhile (· ≠ '=')).drop 1
  (String.ofList (decode name), String.ofList (decode value))

def pairs (query : String) : List (String × String) :=
  ((splitAt '&' query.toList).filter fun part => !part.isEmpty).map pair

def find? (query name : String) : Option String := (pairs query).reverse.lookup name

end LedgerFeed.Query
