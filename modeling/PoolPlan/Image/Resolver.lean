import PoolPlan.Image.Config
import PoolPlan.Image.Ledger
import PoolPlan.Status.Decoder
import PoolPlan.Traced

namespace PoolPlan

structure ImageResolver where
  config : ImageConfig
  persisted : ImageLedger

namespace ImageResolver

/-- A resolver with the ledger from a status document, if there is one. A status that cannot be decoded
is a failure even if the ledger would not be needed. -/
def ofStatus (config : ImageConfig) (status : Option Bytes) (decoder : StatusDecoder) :
    Except Failure ImageResolver :=
  match status with
  | none => .ok ⟨config, .empty⟩
  | some bytes =>
    match decoder.worker bytes with
    | .ok status => .ok ⟨config, .ofList status.machineImages⟩
    | .error failure => .error failure

def resolve (r : ImageResolver) (identity : ImageIdentity) : Traced Failure ResolvedImage :=
  match r.config.find? identity with
  | some image => do
    let resolved : ResolvedImage := ⟨identity, image⟩
    Traced.emit (.imageConfigured resolved)
    return resolved
  | none =>
    match r.persisted.find? identity with
    | some resolved => do
      Traced.emit (.imageRemembered resolved)
      return resolved
    | none => Traced.fail (.imageNotFound identity.name identity.version identity.cloudProfile)

end ImageResolver
end PoolPlan
