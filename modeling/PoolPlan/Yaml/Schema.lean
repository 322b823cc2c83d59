import PoolPlan.Json.Basic

namespace PoolPlan.Yaml

def isNullWord (cs : List Char) : Bool :=
  cs == "null".toList || cs == "Null".toList || cs == "NULL".toList || cs == "~".toList

def bool? (cs : List Char) : Option Bool :=
  if ["true".toList, "True".toList, "TRUE".toList].contains cs then some true
  else if ["false".toList, "False".toList, "FALSE".toList].contains cs then some false
  else none

/-- Digits after an optional sign, with a leading zero that is not the whole number: a text. -/
def isZeroPadded (cs : List Char) : Bool :=
  let digits := match cs with
    | '+' :: r => r
    | '-' :: r => r
    | r => r
  match digits with
  | '0' :: d :: ds => (d :: ds).all Char.isDigit
  | _ => false

def digitIn? (radix : Nat) (c : Char) : Option Nat :=
  let n := c.toNat
  let d := if 48 ≤ n ∧ n ≤ 57 then n - 48
    else if 97 ≤ n ∧ n ≤ 122 then n - 87
    else if 65 ≤ n ∧ n ≤ 90 then n - 55
    else radix
  if d < radix then some d else none

def inRadix? (radix : Nat) : List Char → Option Nat
  | [] => none
  | c :: cs => (c :: cs).foldl (fun acc c => do return radix * (← acc) + (← digitIn? radix c)) (some 0)

/-- Magnitude of a number without sign: decimal, or hexadecimal, octal or binary after its mark. -/
def magnitude? (cs : List Char) : Option Nat :=
  let marked := match cs with
    | '0' :: 'x' :: r => inRadix? 16 r
    | '0' :: 'o' :: r => inRadix? 8 r
    | '0' :: 'b' :: r => inRadix? 2 r
    | _ => none
  match marked with
  | some n => some n
  | none => if isZeroPadded cs then none else inRadix? 10 cs

def integer? : List Char → Option Int
  | '-' :: r => (magnitude? r).map (fun n => -(n : Int))
  | '+' :: r => (magnitude? r).map (fun n => (n : Int))
  | r => (magnitude? r).map (fun n => (n : Int))

def decimalDigits? (cs : List Char) : Option (List Char × Nat × List Char) :=
  let whole := cs.takeWhile Char.isDigit
  let (fraction, r) := match cs.dropWhile Char.isDigit with
    | '.' :: r => (r.takeWhile Char.isDigit, r.dropWhile Char.isDigit)
    | r => ([], r)
  if whole.isEmpty && fraction.isEmpty then none else some (whole ++ fraction, fraction.length, r)

/-- A decimal float after its sign, rounded once; none when it is not one or not finite. -/
def unsignedFloat? (negative : Bool) (cs : List Char) : Option Binary64 := do
  let (digits, places, r) ← decimalDigits? cs
  let (exponent, r) ← Json.exponent? r
  let e : Int := match exponent with
    | none => 0
    | some (minus, ds) => if minus then -(Nat.ofDigitChars 10 ds 0 : Int) else Nat.ofDigitChars 10 ds 0
  if r.isEmpty then Binary64.ofDecimal? negative (Nat.ofDigitChars 10 digits 0) (e - places) else none

inductive FloatWord where
  | finite (x : Binary64)
  | infinite
  | notANumber
deriving DecidableEq, Repr

def float? (cs : List Char) : Option FloatWord :=
  let infinities := [".inf".toList, ".Inf".toList, ".INF".toList]
  let plain := match cs with
    | '+' :: r => r
    | '-' :: r => r
    | r => r
  if infinities.contains plain then some .infinite
  else if [".nan".toList, ".NaN".toList, ".NAN".toList].contains cs then some .notANumber
  else match cs with
    | '-' :: r => (unsignedFloat? true r).map .finite
    | '+' :: r => (unsignedFloat? false r).map .finite
    | r => (unsignedFloat? false r).map .finite

inductive CoreTag where
  | bool | int | float | null
  /-- Text, and every tag that has no meaning of its own here. -/
  | text
deriving DecidableEq, Repr

inductive Resolved where
  | null
  | bool (b : Bool)
  | integer (n : Int)
  | float (x : FloatWord)
  | text
deriving DecidableEq, Repr

/-- An integer too long for 128 bits is no integer; it may still be a float. -/
def boundedInteger? (cs : List Char) : Option Int :=
  match integer? cs with
  | some n =>
    if -170141183460469231731687303715884105728 ≤ n ∧ n < 340282366920938463463374607431768211456
    then some n else none
  | none => none

def resolve (cs : List Char) : Resolved :=
  if cs.isEmpty || isNullWord cs then .null
  else match bool? cs with
    | some b => .bool b
    | none =>
      match boundedInteger? cs with
      | some n => .integer n
      | none =>
        if isZeroPadded cs then .text
        else match float? cs with
          | some x => .float x
          | none => .text

/-- A value without a JSON number to hold it: an integer beyond 64 bits has none, and a float that is
not finite becomes null. -/
def floatValue : FloatWord → Json
  | .finite x => .number (.float x)
  | _ => .null

def integerValue? (n : Int) : Option Json := (Json.Number.ofInt? n).map .number

/-- The value of a scalar with the given text. A quoted one is its text, whatever that looks like; a tag
decides before the text does. -/
def value? (text : String) (plain : Bool) (tag : Option CoreTag) : Option Json :=
  let cs := text.toList
  match tag with
  | some .bool => (bool? cs).map .bool
  | some .int => (boundedInteger? cs).bind integerValue?
  | some .float => (float? cs).map floatValue
  | some .null => if isNullWord cs then some .null else none
  | some .text => some (.string text)
  | none =>
    if plain then
      match resolve cs with
      | .null => some .null
      | .bool b => some (.bool b)
      | .integer n => integerValue? n
      | .float x => some (floatValue x)
      | .text => some (.string text)
    else some (.string text)

end PoolPlan.Yaml
