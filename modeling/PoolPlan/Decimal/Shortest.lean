import PoolPlan.Decimal.Binary64

namespace PoolPlan.Decimal

structure Scaled where
  digits : Nat
  exponent : Int
deriving DecidableEq, Repr

/-- The reals that round to one float, in units of `1 / den`: its value and both ends, and whether the
ends belong to it. -/
structure Interval where
  low : Nat
  mid : Nat
  high : Nat
  den : Nat
  closed : Bool

/-- Half way to either neighbour. Below a power of two the neighbours lie twice as close. -/
def Interval.ofFloat (x : Binary64) : Interval :=
  let m := x.significand
  let below := if 2 * m = Binary64.significandLimit ∧ Binary64.leastExponent < x.exponent then 1 else 2
  let e := x.exponent - 2
  let scale := if 0 ≤ e then Nat.pow 2 e.toNat else 1
  let den := if 0 ≤ e then 1 else Nat.pow 2 (-e).toNat
  ⟨(4 * m - below) * scale, 4 * m * scale, (4 * m + 2) * scale, den, m % 2 = 0⟩

def Scaled.ratio (s : Scaled) : Nat × Nat :=
  if 0 ≤ s.exponent then (s.digits * Nat.pow 10 s.exponent.toNat, 1)
  else (s.digits, Nat.pow 10 (-s.exponent).toNat)

def Interval.contains (i : Interval) (s : Scaled) : Bool :=
  let (a, b) := s.ratio
  let p := a * i.den
  if i.closed then i.low * b ≤ p && p ≤ i.high * b else i.low * b < p && p < i.high * b

/-- How far a decimal lies from the float, in units that `other` shares. -/
def Interval.distance (i : Interval) (s other : Scaled) : Nat :=
  let (a, b) := s.ratio
  let c := other.ratio.2
  let p := a * i.den * c
  let q := i.mid * b * c
  if p ≤ q then q - p else p - q

def Interval.floor (i : Interval) (exponent : Int) : Nat :=
  if 0 ≤ exponent then i.mid / (i.den * Nat.pow 10 exponent.toNat)
  else i.mid * Nat.pow 10 (-exponent).toNat / i.den

/-- The better of the float's two neighbours on the grid of `10^exponent`, if one rounds to it. -/
def Interval.onGrid? (i : Interval) (exponent : Int) : Option Scaled :=
  let below : Scaled := ⟨i.floor exponent, exponent⟩
  let above : Scaled := ⟨i.floor exponent + 1, exponent⟩
  match i.contains below && below.digits != 0, i.contains above with
  | true, true =>
    let p := i.distance below above
    let q := i.distance above below
    if p < q then some below
    else if q < p then some above
    else if below.digits % 2 = 0 then some below
    else some above
  | true, false => some below
  | false, true => some above
  | false, false => none

def Interval.search (i : Interval) : Nat → Int → Option Scaled
  | 0, _ => none
  | fuel + 1, exponent =>
    match i.onGrid? exponent with
    | some s => some s
    | none => i.search fuel (exponent - 1)

def Scaled.reduce : Nat → Scaled → Scaled
  | 0, s => s
  | fuel + 1, s =>
    if s.digits ≠ 0 ∧ s.digits % 10 = 0 then reduce fuel ⟨s.digits / 10, s.exponent + 1⟩ else s

/-- The decimal exponent above which no grid point but zero lies near the float. -/
def coarsest (x : Binary64) : Int :=
  let bits : Int := (Nat.log2 x.significand : Int) + x.exponent
  bits * 30103 / 100000 + 2

/-- Of the decimals that round to the number those with the fewest digits, and of those the nearest. -/
def shortest (x : Binary64) : Scaled :=
  if x.isZero then ⟨0, 0⟩
  else ((Interval.ofFloat x).search 25 (coarsest x)).getD ⟨0, 0⟩ |>.reduce 20

/-- How a number is laid out: positional where `10^least ≤ |x| < 10^limit`. -/
structure Layout where
  least : Int
  limit : Int

/-- Positional text: always a point, and at least one digit on either side of it. -/
def positional (ds : List Char) (point : Int) : List Char :=
  if point ≤ 0 then ['0', '.'] ++ List.replicate (-point).toNat '0' ++ ds
  else if (ds.length : Int) ≤ point then
    ds ++ List.replicate (point.toNat - ds.length) '0' ++ ['.', '0']
  else ds.take point.toNat ++ ['.'] ++ ds.drop point.toNat

/-- One digit before the point, no point where no digit follows, a sign in every exponent. -/
def scientific (ds : List Char) (point : Int) : List Char :=
  let e := point - 1
  let sign := if 0 ≤ e then '+' else '-'
  ds.take 1 ++ (if 1 < ds.length then '.' :: ds.drop 1 else []) ++
    ['e', sign] ++ Nat.toDigits 10 e.natAbs

def Layout.write (layout : Layout) (x : Binary64) : List Char :=
  let s := shortest x
  let ds := Nat.toDigits 10 s.digits
  let point : Int := ds.length + s.exponent
  let body :=
    if x.isZero then ['0', '.', '0']
    else if layout.least < point ∧ point ≤ layout.limit then positional ds point
    else scientific ds point
  if x.negative then '-' :: body else body

end PoolPlan.Decimal
