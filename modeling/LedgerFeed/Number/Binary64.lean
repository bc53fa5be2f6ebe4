namespace LedgerFeed

/-- A 64-bit binary number. A finite one stands for `± significand * 2 ^ exponent`. -/
inductive Binary64
  | nan
  | infinity (negative : Bool)
  | finite (negative : Bool) (significand : Nat) (exponent : Int)
  deriving DecidableEq, Repr, Inhabited

namespace Binary64

def leastExponent : Int := -1074

def greatestExponent : Int := 971

def significandBound : Nat := Nat.pow 2 53

def zero (negative : Bool) : Binary64 := .finite negative 0 leastExponent

/-- The quotient rounded to the nearest natural number, a half to the even neighbour. -/
def roundQuotient (numerator denominator : Nat) : Nat :=
  let quotient := numerator / denominator
  let remainder := numerator % denominator
  if 2 * remainder > denominator ∨ (2 * remainder = denominator ∧ quotient % 2 = 1) then
    quotient + 1
  else
    quotient

def scaled (numerator denominator : Nat) (exponent : Int) : Nat × Nat :=
  if 0 ≤ exponent then
    (numerator, denominator * Nat.pow 2 exponent.toNat)
  else
    (numerator * Nat.pow 2 (-exponent).toNat, denominator)

def normalExponent (numerator denominator : Nat) : Int :=
  let guess : Int := (numerator.log2 : Int) - (denominator.log2 : Int) - 52
  let (n, d) := scaled numerator denominator guess
  if n / d < Nat.pow 2 52 then guess - 1 else guess

/-- The number nearest to `± numerator / denominator`, a half going to the even significand. -/
def ofQuotient (negative : Bool) (numerator denominator : Nat) : Binary64 :=
  if numerator = 0 then
    zero negative
  else
    let exponent := max (normalExponent numerator denominator) leastExponent
    let (n, d) := scaled numerator denominator exponent
    let significand := roundQuotient n d
    let (significand, exponent) :=
      if significand = significandBound then (Nat.pow 2 52, exponent + 1)
      else (significand, exponent)
    if exponent > greatestExponent then
      .infinity negative
    else
      .finite negative significand exponent

/-- The number nearest to `± digits * 10 ^ power`. Powers that leave no doubt are not computed. -/
def ofDecimal (negative : Bool) (digits : Nat) (power : Int) : Binary64 :=
  if digits = 0 then
    zero negative
  else
    let magnitude : Int := (digits.log2 : Int) + 1
    if power > 400 then
      .infinity negative
    else if power < -400 - magnitude then
      zero negative
    else if 0 ≤ power then
      ofQuotient negative (digits * Nat.pow 10 power.toNat) 1
    else
      ofQuotient negative digits (Nat.pow 10 (-power).toNat)

def ofInt (n : Int) : Binary64 := ofQuotient (n < 0) n.natAbs 1

def quotient (significand : Nat) (exponent : Int) : Nat × Nat :=
  if 0 ≤ exponent then
    (significand * Nat.pow 2 exponent.toNat, 1)
  else
    (significand, Nat.pow 2 (-exponent).toNat)

def ratio? : Binary64 → Option (Int × Nat)
  | .finite negative significand exponent =>
      let (n, d) := quotient significand exponent
      some (if negative then -(n : Int) else (n : Int), d)
  | _ => none

def isNan : Binary64 → Bool
  | .nan => true
  | _ => false

def le : Binary64 → Binary64 → Bool
  | .nan, _ => false
  | _, .nan => false
  | .infinity true, _ => true
  | _, .infinity false => true
  | .infinity false, _ => false
  | _, .infinity true => false
  | x, y =>
      match x.ratio?, y.ratio? with
      | some (a, b), some (c, d) => a * (d : Int) ≤ c * (b : Int)
      | _, _ => false

def lt (x y : Binary64) : Bool := !x.isNan && !y.isNan && !y.le x

def equals (x y : Binary64) : Bool := x.le y && y.le x

def truncate? (x : Binary64) : Option Int :=
  x.ratio?.map fun (n, d) => n.tdiv (d : Int)

def whole? (x : Binary64) : Option Int :=
  match x.ratio? with
  | some (n, d) => if n % (d : Int) = 0 then some (n / (d : Int)) else none
  | none => none

/-- Twice the number, which is exact below the largest one. -/
def double : Binary64 → Binary64
  | .finite negative significand exponent =>
      let (n, d) := quotient (2 * significand) exponent
      ofQuotient negative n d
  | x => x

end Binary64

end LedgerFeed
