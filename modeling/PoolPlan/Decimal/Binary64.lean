namespace PoolPlan

/-- The number `± significand · 2^exponent`. Kept in the one form in which the significand is below
2^53, the exponent at least -1074, and one of the two as low as it can be. -/
structure Binary64 where
  negative : Bool
  significand : Nat
  exponent : Int
deriving DecidableEq, Repr

namespace Binary64

def leastExponent : Int := -1074
def greatestExponent : Int := 971
def significandLimit : Nat := 9007199254740992

def zero (negative : Bool) : Binary64 := ⟨negative, 0, leastExponent⟩

def isZero (x : Binary64) : Bool := x.significand == 0

/-- Equality of the numbers: zero has two signs and is one number. -/
def equals (x y : Binary64) : Bool := (x.isZero && y.isZero) || x == y

def ratio (x : Binary64) : Nat × Nat :=
  if 0 ≤ x.exponent then (x.significand * Nat.pow 2 x.exponent.toNat, 1)
  else (x.significand, Nat.pow 2 (-x.exponent).toNat)

/-- The quotient `num / den` in units of `2^exponent`, again as numerator and denominator. -/
def inUnits (num den : Nat) (exponent : Int) : Nat × Nat :=
  if 0 ≤ exponent then (num, den * Nat.pow 2 exponent.toNat) else (num * Nat.pow 2 (-exponent).toNat, den)

/-- The nearest natural number to `num / den`, a tie to the even one. -/
def roundEven (num den : Nat) : Nat :=
  let q := num / den
  let r := num % den
  if 2 * r < den then q
  else if den < 2 * r then q + 1
  else if q % 2 = 0 then q
  else q + 1

/-- The exponent in whose units `num / den` has 53 binary digits before the point, or the least one. -/
def unitExponent (num den : Nat) : Int :=
  let guess : Int := max leastExponent ((Nat.log2 num : Int) - (Nat.log2 den : Int) - 53)
  let (n, d) := inUnits num den guess
  if significandLimit ≤ n / d then guess + 1 else guess

/-- The nearest number to `± num / den`, or none if that is too great to be finite. -/
def ofRatio? (negative : Bool) (num den : Nat) : Option Binary64 :=
  if num = 0 then some (zero negative)
  else
    let e := unitExponent num den
    let (n, d) := inUnits num den e
    let m := roundEven n d
    let (m, e) := if m = significandLimit then (significandLimit / 2, e + 1) else (m, e)
    if greatestExponent < e then none else some ⟨negative, m, e⟩

def ofNat? (negative : Bool) (n : Nat) : Option Binary64 := ofRatio? negative n 1

def ofDecimal? (negative : Bool) (digits : Nat) (exponent : Int) : Option Binary64 :=
  if digits = 0 then some (zero negative)
  else if 400 < exponent then none
  else if exponent + (Nat.log2 digits : Int) < -1500 then some (zero negative)
  else if 0 ≤ exponent then ofRatio? negative (digits * Nat.pow 10 exponent.toNat) 1
  else ofRatio? negative digits (Nat.pow 10 (-exponent).toNat)

def mul? (x y : Binary64) : Option Binary64 :=
  let (a, b) := x.ratio
  let (c, d) := y.ratio
  ofRatio? (x.negative != y.negative) (a * c) (b * d)

def div? (x y : Binary64) : Option Binary64 :=
  let (a, b) := x.ratio
  let (c, d) := y.ratio
  ofRatio? (x.negative != y.negative) (a * d) (b * c)

end Binary64
end PoolPlan
