import PoolPlan.Decimal.Shortest

namespace PoolPlan.Json

inductive Number where
  | integer (n : Int)
  | float (x : Binary64)
deriving DecidableEq, Repr

/-- An integer that is kept exactly: one of 64 bits, signed or unsigned. -/
def Number.ofInt? (n : Int) : Option Number :=
  if -9223372036854775808 ≤ n ∧ n < 18446744073709551616 then some (.integer n) else none

/-- An integer never equals a float, and the two zeros of floats are equal. -/
def Number.equals : Number → Number → Bool
  | .integer m, .integer n => m == n
  | .float x, .float y => x.equals y
  | _, _ => false

/-- Floats are written positionally from 10^-5 up to below 10^16. -/
def floatLayout : Decimal.Layout := ⟨-5, 16⟩

def integerChars (n : Int) : List Char :=
  if n < 0 then '-' :: Nat.toDigits 10 n.natAbs else Nat.toDigits 10 n.natAbs

def Number.chars : Number → List Char
  | .integer n => integerChars n
  | .float x => floatLayout.write x

/-- A number as it is spelled: sign, digits before and after the point, sign and digits of the
exponent. -/
structure Numeral where
  negative : Bool
  whole : List Char
  fraction : List Char
  exponent : Option (Bool × List Char)
  /-- Neither point nor exponent. -/
  isInteger : Bool

def digits? (cs : List Char) : Option (List Char × List Char) :=
  match cs.takeWhile Char.isDigit with
  | [] => none
  | d :: ds => some (d :: ds, cs.dropWhile Char.isDigit)

/-- Digits of a whole number: a zero stands alone. -/
def whole? (cs : List Char) : Option (List Char × List Char) :=
  match digits? cs with
  | some ('0' :: _ :: _, _) => none
  | r => r

def exponent? : List Char → Option (Option (Bool × List Char) × List Char)
  | c :: cs =>
    if c = 'e' ∨ c = 'E' then
      match cs with
      | '+' :: r => (digits? r).map (fun (ds, r) => (some (false, ds), r))
      | '-' :: r => (digits? r).map (fun (ds, r) => (some (true, ds), r))
      | r => (digits? r).map (fun (ds, r) => (some (false, ds), r))
    else some (none, c :: cs)
  | [] => some (none, [])

def unsigned? (negative : Bool) (cs : List Char) : Option (Numeral × List Char) := do
  let (whole, r) ← whole? cs
  let (fraction, r) ← match r with
    | '.' :: r => digits? r
    | r => some ([], r)
  let (exponent, r) ← exponent? r
  return (⟨negative, whole, fraction, exponent, fraction.isEmpty && exponent.isNone⟩, r)

def numeral? : List Char → Option (Numeral × List Char)
  | '-' :: cs => unsigned? true cs
  | cs => unsigned? false cs

/-- The significand of a float has room for this many values. -/
def significandLimit : Nat := UInt64.size

def digitValue (c : Char) : Nat := c.toNat - '0'.toNat

/-- Take digits before the point into a significand while it has room. Those left over only count. -/
def takeWhole (significand : Nat) : List Char → Nat × Nat
  | [] => (significand, 0)
  | c :: cs =>
    let next := 10 * significand + digitValue c
    if next < significandLimit then takeWhole next cs else (significand, cs.length + 1)

def takeFraction (significand : Nat) : List Char → Nat × Nat
  | [] => (significand, 0)
  | c :: cs =>
    let next := 10 * significand + digitValue c
    if next < significandLimit then
      let (s, taken) := takeFraction next cs
      (s, taken + 1)
    else (significand, 0)

def powerOfTen (k : Nat) : Binary64 := (Binary64.ofNat? false (Nat.pow 10 k)).getD (.zero false)

def divide (x y : Binary64) : Binary64 := (x.div? y).getD (.zero x.negative)

/-- Scale a float by a power of ten in float arithmetic. A power beyond 10^308 overflows; below
10^-308 the division is done in steps, of which three leave nothing of any significand. -/
def scale? (x : Binary64) (exponent : Int) : Option Binary64 :=
  if x.isZero then some x
  else if 308 < exponent then none
  else if 0 ≤ exponent then x.mul? (powerOfTen exponent.toNat)
  else
    let k := (-exponent).toNat
    let steps := (k - 1) / 308
    if 3 ≤ steps then some (.zero x.negative)
    else some (divide (Nat.repeat (divide · (powerOfTen 308)) steps x) (powerOfTen (k - 308 * steps)))

def Numeral.float? (n : Numeral) : Option Binary64 := do
  let (s, dropped) := takeWhole 0 n.whole
  let (s, taken) := takeFraction s n.fraction
  let explicit : Int := match n.exponent with
    | none => 0
    | some (negative, ds) =>
      let e : Int := Nat.ofDigitChars 10 ds 0
      if negative then -e else e
  let x ← Binary64.ofNat? n.negative s
  scale? x (explicit + dropped - taken)

/-- The number a numeral stands for. Minus zero is a float, and so is an integer that is out of range;
a float that is out of range is none. -/
def Numeral.value? (n : Numeral) : Option Number :=
  let m : Int := Nat.ofDigitChars 10 n.whole 0
  let whole := if n.negative then -m else m
  match if n.isInteger && !(n.negative && whole == 0) then Number.ofInt? whole else none with
  | some v => some v
  | none => n.float?.map .float

end PoolPlan.Json
