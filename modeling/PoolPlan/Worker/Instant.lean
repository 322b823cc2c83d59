import PoolPlan.Text.Blank

namespace PoolPlan

/-- A second of a day, counted in UTC from 1970-01-01. A leap second shares the number of the second
before it. -/
structure Instant where
  day : Int
  second : Nat
  leap : Bool
deriving DecidableEq, Repr

namespace Instant

/-- Days from 1970-01-01 to a date of the Gregorian calendar. Years begin in March here, so that the
leap day comes last. -/
def dayOf (year : Int) (month day : Nat) : Int :=
  let y := if month ≤ 2 then year - 1 else year
  let era := y / 400
  let yearOfEra := y % 400
  let m : Int := ((month : Int) + 9) % 12
  let dayOfYear : Int := (153 * m + 2) / 5 + (day : Int) - 1
  let dayOfEra := yearOfEra * 365 + yearOfEra / 4 - yearOfEra / 100 + dayOfYear
  era * 146097 + dayOfEra - 719468

def dateOf (day : Int) : Int × Nat × Nat :=
  let z := day + 719468
  let era := z / 146097
  let dayOfEra := z % 146097
  let yearOfEra := (dayOfEra - dayOfEra / 1460 + dayOfEra / 36524 - dayOfEra / 146096) / 365
  let dayOfYear := dayOfEra - (365 * yearOfEra + yearOfEra / 4 - yearOfEra / 100)
  let m := (5 * dayOfYear + 2) / 153
  let d := dayOfYear - (153 * m + 2) / 5 + 1
  let month := if m < 10 then m + 3 else m - 9
  let year := yearOfEra + era * 400 + (if month ≤ 2 then 1 else 0)
  (year, month.toNat, d.toNat)

def isLeapYear (year : Int) : Bool := year % 4 == 0 && (year % 100 != 0 || year % 400 == 0)

def daysIn (year : Int) (month : Nat) : Nat :=
  if month = 2 then (if isLeapYear year then 29 else 28)
  else if month = 4 ∨ month = 6 ∨ month = 9 ∨ month = 11 then 30
  else 31

def number? (width : Nat) (cs : List Char) : Option (Nat × List Char) :=
  match (cs.take width).takeWhile Char.isDigit with
  | [] => none
  | ds => some (Nat.ofDigitChars 10 ds 0, cs.drop ds.length)

def field? (width : Nat) (cs : List Char) : Option (Nat × List Char) :=
  number? width (Text.trimStart cs)

def literal? (c : Char) (cs : List Char) : Option (List Char) :=
  match Text.trimStart cs with
  | d :: r => if d = c then some r else none
  | [] => none

def year? (cs : List Char) : Option (Int × List Char) :=
  match Text.trimStart cs with
  | '-' :: r => (number? r.length r).map (fun (n, r) => (-(n : Int), r))
  | '+' :: r => (number? r.length r).map (fun (n, r) => ((n : Int), r))
  | r => (number? 4 r).map (fun (n, r) => ((n : Int), r))

def skipFraction? : List Char → Option (List Char)
  | '.' :: r => if (r.takeWhile Char.isDigit).isEmpty then none else some (r.dropWhile Char.isDigit)
  | r => some r

def twoDigits? : List Char → Option (Nat × List Char)
  | a :: b :: r =>
    if a.isDigit ∧ b.isDigit then some (Nat.ofDigitChars 10 [a, b] 0, r) else none
  | _ => none

def offsetSize? (cs : List Char) : Option (Int × List Char) := do
  let (hours, r) ← twoDigits? cs
  let (minutes, r) ← twoDigits? (r.dropWhile (fun c => c == ':' || Text.isBlank c))
  if 59 < minutes then none
  else
    let size := 3600 * hours + 60 * minutes
    if size < 86400 then return ((size : Int), r) else none

def offset? (cs : List Char) : Option (Int × List Char) :=
  match cs with
  | 'Z' :: r => some (0, r)
  | 'z' :: r => some (0, r)
  | '+' :: r => offsetSize? r
  | '-' :: r => (offsetSize? r).map (fun (n, r) => (-n, r))
  | '\u2212' :: r => (offsetSize? r).map (fun (n, r) => (-n, r))
  | a :: b :: c :: r => if [a, b, c].map Char.toUpper = ['U', 'T', 'C'] then some (0, r) else none
  | _ => none

def clock? (cs : List Char) : Option ((Nat × Nat × Nat) × List Char) := do
  let (hour, r) ← field? 2 cs
  let (minute, r) ← field? 2 (← literal? ':' r)
  let (second, r) ← field? 2 (← literal? ':' r)
  let r ← skipFraction? r
  if hour < 24 ∧ minute < 60 ∧ second ≤ 60 then return ((hour, minute, second), r) else none

def date? (cs : List Char) : Option (Int × List Char) := do
  let (year, r) ← year? cs
  let (month, r) ← field? 2 (← literal? '-' r)
  let (day, r) ← field? 2 (← literal? '-' r)
  if 1 ≤ month ∧ month ≤ 12 ∧ 1 ≤ day ∧ day ≤ daysIn year month ∧ -262143 ≤ year ∧ year ≤ 262142 then
    return (dayOf year month day, r)
  else none

/-- Components may lack their padding or have blanks before them. -/
def read? (cs : List Char) : Option Instant := do
  let (day, r) ← date? cs
  let r ← match r with
    | 't' :: r => some r
    | 'T' :: r => some r
    | ' ' :: r => some r
    | _ => none
  let ((hour, minute, second), r) ← clock? r
  let (offset, r) ← offset? (Text.trimStart r)
  if (Text.trimStart r).isEmpty then
    let leap := second == 60
    let local_ : Int := 3600 * hour + 60 * minute + (if leap then 59 else second)
    let utc := local_ - offset
    return ⟨day + utc / 86400, (utc % 86400).toNat, leap⟩
  else none

def ofString? (s : String) : Option Instant := read? s.toList

def padded (width n : Nat) : List Char :=
  let ds := Nat.toDigits 10 n
  List.replicate (width - ds.length) '0' ++ ds

def yearChars (year : Int) : List Char :=
  if 0 ≤ year ∧ year ≤ 9999 then padded 4 year.toNat
  else (if year < 0 then '-' else '+') :: padded 4 year.natAbs

def chars (t : Instant) : List Char :=
  let (year, month, day) := dateOf t.day
  let second := t.second % 60 + (if t.leap then 1 else 0)
  yearChars year ++ '-' :: padded 2 month ++ '-' :: padded 2 day ++
    'T' :: padded 2 (t.second / 3600) ++ ':' :: padded 2 (t.second / 60 % 60) ++
    ':' :: padded 2 second ++ ['Z']

def text (t : Instant) : String := String.ofList t.chars

end Instant
end PoolPlan
