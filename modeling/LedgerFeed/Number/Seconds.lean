import LedgerFeed.Number.Shortest
import LedgerFeed.Number.Text
import LedgerFeed.Logging.Entry

namespace LedgerFeed

inductive Seconds
  | whole (n : Int)
  | float (x : Binary64)
  deriving DecidableEq, Repr

/-- The decimal that a finite binary number is written as. -/
def decimalValue (negative : Bool) (significand : Nat) (exponent : Int) : Rat :=
  if significand = 0 then 0
  else
    let decimal := Shortest.shortest significand exponent
    let (n, d) := Shortest.tenfold decimal.digits decimal.power
    mkRat (signed negative n) d

namespace Seconds

def milliseconds? : Seconds → Option Rat
  | .whole n => some (1000 * n)
  | .float (.finite negative significand exponent) =>
      some (1000 * decimalValue negative significand exponent)
  | .float _ => none

def isPositive : Seconds → Bool
  | .whole n => 0 < n
  | .float x => !(x.le (Binary64.zero false))

def double : Seconds → Seconds
  | .whole n => .whole (2 * n)
  | .float x => .float x.double

def lt : Seconds → Seconds → Bool
  | .whole n, .whole m => n < m
  | .float x, .float y => x.lt y
  | .whole n, .float y =>
      match y.ratio? with
      | some (p, q) => n * (q : Int) < p
      | none => y.equals (.infinity false)
  | .float x, .whole m =>
      match x.ratio? with
      | some (p, q) => p < m * (q : Int)
      | none => x.equals (.infinity true)

def least (a b : Seconds) : Seconds := if b.lt a then b else a

def shown : Seconds → String
  | .whole n => intText n
  | .float x => floatText x

def toValue : Seconds → Value
  | .whole n => .ofInt n
  | .float x => .ofFloat x

end Seconds

end LedgerFeed
