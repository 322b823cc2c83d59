import PoolPlan.Plan.Planner
import PoolPlan.Secret.Store

namespace PoolPlan

structure ClusterInfo where
  version : String
  podNetworkCidr : Option String

structure Reconciler where
  secrets : SecretStore
  decoder : StatusDecoder
  config : ImageConfig
  provider : Provider
  cloudProfile : String

namespace Worker

def planNamespace (w : Worker) : Except Failure String :=
  match w.metadata.ns with
  | none => .error (.invalidInput "worker has no namespace")
  | some ns => if ns = "" then .error (.invalidInput "worker has no namespace") else .ok ns

def persistedStatus (w : Worker) : Option Bytes :=
  (w.status.bind WorkerObjectStatus.providerStatus).map Json.bytes

def withStatus (w : Worker) (status : Option Json) : Worker :=
  { w with status := status.map (fun s => ⟨some s⟩) }

end Worker

namespace ClusterInfo

def marker (c : ClusterInfo) : Except Failure VersionMarker :=
  match VersionMarker.ofVersion c.version with
  | .ok marker => .ok marker
  | .error fault => .error (.ofVersionFault c.version fault)

end ClusterInfo

namespace Reconciler

def credentials (r : Reconciler) (w : Worker) (cancelled : Bool) : Traced Failure Credentials := do
  let reference := w.spec.secretRef
  Traced.emit (.credentialsRead reference.key)
  if cancelled then Traced.fail (.cancelled "credentials")
  else
    let data ← r.secrets.get reference
    Traced.ofExcept (Credentials.ofSecretData reference.key data)

/-- A status of the infrastructure is decoded for every provider, whether it is needed or not. -/
def infrastructure (r : Reconciler) (w : Worker) : Except Failure (Option InfrastructureStatus) :=
  match w.spec.infrastructureProviderStatus with
  | none => .ok none
  | some raw =>
    match r.decoder.infrastructure raw.bytes with
    | .ok status => .ok (some status)
    | .error failure => .error failure

def plan (r : Reconciler) (w : Worker) (cluster : ClusterInfo) (cancelled : Bool) : Traced Failure Plan := do
  let ns ← Traced.ofExcept w.planNamespace
  let version ← Traced.ofExcept cluster.marker
  let credentials ← r.credentials w cancelled
  let infrastructure ← Traced.ofExcept (r.infrastructure w)
  let resolver ← Traced.ofExcept (ImageResolver.ofStatus r.config w.persistedStatus r.decoder)
  let planner : Planner := {
    context := ⟨ns, w.spec.region, r.cloudProfile, cluster.podNetworkCidr, infrastructure⟩
    version, resolver, provider := r.provider, credentials }
  let plan ← planner.plan w.spec.pools
  Traced.emit (.workerPlanned ns r.provider.name plan.zones.length)
  return plan

end Reconciler
end PoolPlan
