import PoolPlan.Text.Blank
import PoolPlan.Text.Quoted

namespace PoolPlan

/-- The patch and what follows a dash or a plus sign do not matter. -/
structure VersionMarker where
  major : Nat
  minor : Nat
deriving DecidableEq, Repr

namespace VersionMarker

def text (m : VersionMarker) : String := s!"{m.major}.{m.minor}"

inductive Fault where
  /-- Not two or three parts between dots. -/
  | shape
  /-- The first part that is not a number below 2^64. -/
  | notNumber (part : String)
deriving DecidableEq, Repr

def Fault.message : Fault → String
  | .shape => "expected major.minor or major.minor.patch"
  | .notNumber part => Text.quote part ++ " is not a number"

/-- A number of a version: ASCII digits, leading zeros allowed, below 2^64. -/
def number? (cs : List Char) : Option Nat :=
  if cs ≠ [] ∧ cs.all Char.isDigit ∧ Nat.ofDigitChars 10 cs 0 < UInt64.size
  then some (Nat.ofDigitChars 10 cs 0) else none

def numbers : List (List Char) → Except Fault (List Nat)
  | [] => .ok []
  | part :: rest =>
    match number? part with
    | none => .error (.notNumber (String.ofList part))
    | some n => (numbers rest).map (n :: ·)

def stripV : List Char → List Char
  | 'v' :: cs => cs
  | cs => cs

def core (cs : List Char) : List Char := cs.takeWhile (fun c => c != '-' && c != '+')

def ofChars (cs : List Char) : Except Fault VersionMarker :=
  let parts := Text.split '.' (core (stripV (Text.trim cs)))
  if parts.length < 2 ∨ 3 < parts.length then .error .shape
  else match numbers parts with
    | .error fault => .error fault
    | .ok (major :: minor :: _) => .ok ⟨major, minor⟩
    | .ok _ => .error .shape

def ofVersion (version : String) : Except Fault VersionMarker := ofChars version.toList

end VersionMarker
end PoolPlan
