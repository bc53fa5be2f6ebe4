import LedgerFeed.Number.Binary64

/-!
# Shortest decimals

`shortest` finds the decimal with the fewest digits that reads back as a given binary number, and of
those the one nearest to it. The search looks at one decimal grid after the other: on a grid only
the two neighbours of the number can qualify, because the numbers that read back as it form an
interval around it.
-/

namespace LedgerFeed.Shortest
open LedgerFeed

structure Decimal where
  digits : Nat
  power : Int
  deriving DecidableEq, Repr

/-- A closed or open interval of quotients with one common denominator. -/
structure Interval where
  low : Nat
  value : Nat
  high : Nat
  denominator : Nat
  closed : Bool

def readingBack (significand : Nat) (exponent : Int) : Interval :=
  let below := if significand = Nat.pow 2 52 ∧ exponent > Binary64.leastExponent then 1 else 2
  let (n, d) := Binary64.quotient 1 (exponent - 2)
  { low := (4 * significand - below) * n
    value := 4 * significand * n
    high := (4 * significand + 2) * n
    denominator := d
    closed := significand % 2 = 0 }

def tenfold (n : Nat) (power : Int) : Nat × Nat :=
  if 0 ≤ power then (n * Nat.pow 10 power.toNat, 1) else (n, Nat.pow 10 (-power).toNat)

def Interval.contains (interval : Interval) (candidate : Decimal) : Bool :=
  let (n, d) := tenfold candidate.digits candidate.power
  let point := n * interval.denominator
  let low := interval.low * d
  let high := interval.high * d
  if interval.closed then low ≤ point && point ≤ high else low < point && point < high

def Interval.distance (interval : Interval) (candidate : Decimal) : Nat :=
  let (n, d) := tenfold candidate.digits candidate.power
  let point := n * interval.denominator
  let value := interval.value * d
  (point - value) + (value - point)

def Interval.neighbours (interval : Interval) (power : Int) : Decimal × Decimal :=
  let (n, d) := tenfold 1 power
  let below := interval.value * d / (interval.denominator * n)
  (⟨below, power⟩, ⟨below + 1, power⟩)

/-- The better neighbour on a grid, if one reads back; a tie goes to the even digit. -/
def Interval.onGrid? (interval : Interval) (power : Int) : Option Decimal :=
  let (below, above) := interval.neighbours power
  match interval.contains below, interval.contains above with
  | true, true =>
      let lower := interval.distance below
      let upper := interval.distance above
      if lower < upper ∨ (lower = upper ∧ below.digits % 2 = 0) then some below else some above
  | true, false => some below
  | false, true => some above
  | false, false => none

def countDigits (n : Nat) : Nat := (Nat.toDigits 10 n).length

def Interval.magnitude (interval : Interval) : Int :=
  (countDigits (interval.value * Nat.pow 10 400 / interval.denominator) : Int) - 400

def Interval.search (interval : Interval) (magnitude : Int) : Nat → Nat → Decimal
  | 0, count => (interval.neighbours (magnitude - count)).1
  | rounds + 1, count =>
      match interval.onGrid? (magnitude - count) with
      | some found => found
      | none => interval.search magnitude rounds (count + 1)

def dropZeros : Nat → Decimal → Decimal
  | 0, decimal => decimal
  | rounds + 1, decimal =>
      if decimal.digits % 10 = 0 then
        dropZeros rounds ⟨decimal.digits / 10, decimal.power + 1⟩
      else
        decimal

/-- The shortest decimal that reads back as `significand * 2 ^ exponent`, for a positive one. -/
def shortest (significand : Nat) (exponent : Int) : Decimal :=
  let interval := readingBack significand exponent
  dropZeros 20 (interval.search interval.magnitude 17 1)

end LedgerFeed.Shortest
