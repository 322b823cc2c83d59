import PoolPlan.Failure
import PoolPlan.Text.Blank
import PoolPlan.Worker.Pool

namespace PoolPlan
namespace Pool

/-- In the order in which they are looked for. -/
inductive Fault where
  | noName
  | noZones
  | negativeMinimum (n : Int)
  | maximumBelowMinimum (maximum minimum : Int)
  /-- A tolerance with a sign in front, as it was given. -/
  | negativeSurge (shown : String)
  | negativeUnavailable (shown : String)
  | repeatedName
deriving DecidableEq, Repr

namespace Fault

def field? : Fault → Option String
  | .noZones => some "zones"
  | .negativeMinimum _ => some "minimum"
  | .maximumBelowMinimum .. => some "maximum"
  | .negativeSurge _ => some "maxSurge"
  | .negativeUnavailable _ => some "maxUnavailable"
  | .noName | .repeatedName => none

def message : Fault → String
  | .noName => "pool name cannot be empty"
  | .noZones => "pool must span at least one zone"
  | .negativeMinimum n => s!"minimum must not be negative, got {n}"
  | .maximumBelowMinimum maximum minimum =>
    s!"maximum ({maximum}) must be greater than or equal to minimum ({minimum})"
  | .negativeSurge shown => s!"maxSurge must not be negative, got {shown}"
  | .negativeUnavailable shown => s!"maxUnavailable must not be negative, got {shown}"
  | .repeatedName => "pool name is used by more than one pool"

/-- A pool without a name cannot be named in the failure either. -/
def failure (pool : String) (fault : Fault) : Failure :=
  let named := match fault with
    | .noName => unknownPool
    | _ => pool
  .validation named fault.field? fault.message

end Fault
end Pool

namespace Tolerance

/-- The text of a tolerance that is negative: a count below zero, or a text that starts with a minus
sign after white space. -/
def negative? : Tolerance → Option String
  | .count n => if n < 0 then some (toString n) else none
  | .relative text =>
    match Text.trimStart text.toList with
    | '-' :: _ => some text
    | _ => none

end Tolerance

namespace Pool

def fault? (p : Pool) : Option Fault :=
  if p.name = "" then some .noName
  else if p.zones = [] then some .noZones
  else if p.minimum < 0 then some (.negativeMinimum p.minimum)
  else if p.maximum < p.minimum then some (.maximumBelowMinimum p.maximum p.minimum)
  else match p.maxSurge.negative? with
    | some shown => some (.negativeSurge shown)
    | none => p.maxUnavailable.negative?.map .negativeUnavailable

def validate (p : Pool) : Except Failure Unit :=
  match p.fault? with
  | some fault => .error (fault.failure p.name)
  | none => .ok ()

/-- Check pools in order; `seen` are the names of those before. -/
def validateAfter (seen : List String) : List Pool → Except Failure Unit
  | [] => .ok ()
  | p :: ps =>
    match p.fault? with
    | some fault => .error (fault.failure p.name)
    | none =>
      if p.name ∈ seen then .error (Fault.repeatedName.failure p.name)
      else validateAfter (p.name :: seen) ps

/-- Deployments are named after their pool, so no two pools may share a name. -/
def validateAll (pools : List Pool) : Except Failure Unit := validateAfter [] pools

end Pool
end PoolPlan
