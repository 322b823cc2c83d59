import PoolPlan.Worker.Metadata

namespace PoolPlan

structure SecretReference where
  name : Option String
  ns : Option String
deriving DecidableEq, Repr

structure WorkerSpec where
  region : String
  secretRef : SecretReference
  infrastructureProviderStatus : Option Json
  pools : List Pool

structure WorkerObjectStatus where
  providerStatus : Option Json

structure Worker where
  metadata : Metadata
  spec : WorkerSpec
  status : Option WorkerObjectStatus

namespace SecretReference

def toJson (r : SecretReference) : Json :=
  .object (Json.optionalField "name" r.name .string ++ Json.optionalField "namespace" r.ns .string)

def ofDocument? (d : Document) : Option SecretReference := do
  let f ← d.looseRecord?
  return ⟨← f.last? "name" Document.text?, ← f.last? "namespace" Document.text?⟩

end SecretReference

namespace WorkerSpec

def toJson (s : WorkerSpec) : Json :=
  .object ([("region", .string s.region), ("secretRef", s.secretRef.toJson)] ++
    Json.optionalField "infrastructureProviderStatus" s.infrastructureProviderStatus id ++
    [("pools", .array (s.pools.map Pool.toJson))])

def ofDocument? (d : Document) : Option WorkerSpec := do
  let f ← d.record? ["region", "secretRef", "infrastructureProviderStatus", "pools"]
  return {
    region := ← f.required? "region" Document.text?
    secretRef := ← f.required? "secretRef" SecretReference.ofDocument?
    infrastructureProviderStatus := ← f.optional? "infrastructureProviderStatus" Document.value?
    pools := ← f.withDefault? "pools" [] (Document.list? Pool.ofDocument?) }

end WorkerSpec

namespace WorkerObjectStatus

def toJson (s : WorkerObjectStatus) : Json :=
  .object (Json.optionalField "providerStatus" s.providerStatus id)

def ofDocument? (d : Document) : Option WorkerObjectStatus := do
  let f ← d.record? ["providerStatus"]
  return ⟨← f.optional? "providerStatus" Document.value?⟩

end WorkerObjectStatus

namespace Worker

def apiVersion : String := "extensions.tessera.dev/v1alpha1"

def toJson (w : Worker) : Json :=
  .object ([
    ("apiVersion", .string apiVersion),
    ("kind", .string "Worker"),
    ("metadata", w.metadata.toJson),
    ("spec", w.spec.toJson)] ++
    Json.optionalField "status" w.status WorkerObjectStatus.toJson)

/-- Given by position the status has no default: it has to be there, if only as null. -/
def statusGiven (d : Document) : Bool :=
  match d.untagged with
  | .sequence true items => items.length == 3
  | _ => true

def ofDocument? (d : Document) : Option Worker := do
  let f ← d.record? ["metadata", "spec", "status"]
  let worker : Worker := {
    metadata := ← f.required? "metadata" Metadata.ofDocument?
    spec := ← f.required? "spec" WorkerSpec.ofDocument?
    status := ← f.optional? "status" WorkerObjectStatus.ofDocument? }
  if statusGiven d then return worker else none

end Worker
end PoolPlan
