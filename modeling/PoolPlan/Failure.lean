import PoolPlan.Text.Quoted
import PoolPlan.Version

namespace PoolPlan

def unknownPool : String := "unknown"

inductive Failure where
  /-- The cluster's API could not be used. An answer of the API itself has a status code. -/
  | api (code : Option Nat)
  | imageNotFound (name version cloudProfile : String)
  | statusDecode (kind detail : String)
  | missingResource (resource detail : String)
  | invalidVersion (version detail : String)
  | credentials (secret detail : String)
  | validation (pool : String) (field : Option String) (detail : String)
  | config (path detail : String)
  | cancelled (context : String)
deriving DecidableEq, Repr

namespace Failure

def invalidInput (detail : String) : Failure := .validation unknownPool none detail

def ofVersionFault (version : String) (fault : VersionMarker.Fault) : Failure :=
  .invalidVersion version fault.message

def message : Failure → String
  | .api none => "kubernetes error"
  | .api (some code) => s!"kubernetes error: status {code}"
  | .imageNotFound name version profile =>
    s!"could not find machine image for {name}/{version}/{profile} neither in controller configuration nor in worker status"
  | .statusDecode kind detail => s!"could not decode {kind}: {detail}"
  | .missingResource resource detail => s!"missing provider resource {resource}: {detail}"
  | .invalidVersion version detail =>
    "invalid kubernetes version " ++ Text.quote version ++ s!": {detail}"
  | .credentials secret detail => s!"invalid credentials in secret {secret}: {detail}"
  | .validation pool _ detail => s!"validation error for pool {pool}: {detail}"
  | .config path detail => s!"configuration error [{path}]: {detail}"
  | .cancelled context => s!"operation cancelled [{context}]"

/-- Whether trying again with the same input may succeed. A client error of the API will not go away;
a missing resource may appear once the infrastructure has been reconciled. -/
def isRetryable : Failure → Bool
  | .api (some code) => !(400 ≤ code && code < 500)
  | .api none => true
  | .missingResource .. => true
  | .cancelled _ => true
  | _ => false

def pool? : Failure → Option String
  | .validation pool _ _ => some pool
  | _ => none

end Failure
end PoolPlan
