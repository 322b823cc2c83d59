import PoolPlan.Class.Fingerprint
import PoolPlan.Class.Provider
import PoolPlan.Image.Resolver
import PoolPlan.Plan.Basic
import PoolPlan.Worker.Validation

namespace PoolPlan

structure PlanContext where
  ns : String
  region : String
  cloudProfile : String
  podNetworkCidr : Option String
  infrastructure : Option InfrastructureStatus

structure Planner where
  context : PlanContext
  version : VersionMarker
  resolver : ImageResolver
  provider : Provider
  credentials : Credentials

structure PlannedPool where
  image : ResolvedImage
  zones : List PlannedZone

namespace Planner

def imageIdentity (p : Planner) (pool : Pool) : ImageIdentity :=
  ⟨pool.machineImage.name, pool.machineImage.version, p.context.cloudProfile⟩

def classInput (p : Planner) (pool : Pool) (image : ResolvedImage) (zone : String) : ClassInput where
  ns := p.context.ns
  region := p.context.region
  zone := zone
  pool := pool
  image := image
  podNetworkCidr := p.context.podNetworkCidr
  infrastructure := p.context.infrastructure

def deployment (p : Planner) (pool : Pool) (index : Nat) (zone className : String) : Deployment where
  name := Deployment.nameFor p.context.ns pool.name index
  className := className
  secretName := className
  pool := pool.name
  zone := zone
  minimum := Zone.share index pool.minimum pool.zones.length
  maximum := Zone.share index pool.maximum pool.zones.length
  maxSurge := pool.maxSurge.share index pool.zones.length
  maxUnavailable := pool.maxUnavailable.share index pool.zones.length
  labels := pool.labels
  annotations := pool.annotations
  taints := pool.taints

/-- A zone for which the fields of its class are known. The credentials come after the fingerprint. -/
def zoneOf (p : Planner) (pool : Pool) (index : Nat) (zone : String) (spec : ClassSpec) : PlannedZone :=
  let className := Deployment.nameFor p.context.ns pool.name index ++ "-" ++ spec.fingerprint p.version
  ⟨p.deployment pool index zone className,
    ⟨className, p.provider.classKind, spec.attachCredentials p.credentials⟩⟩

def zoneEvent (z : PlannedZone) : Event :=
  .deploymentPlanned z.deployment.pool z.deployment.zone z.deployment.name z.deployment.className
    z.deployment.minimum z.deployment.maximum

def planZone (p : Planner) (pool : Pool) (image : ResolvedImage) (index : Nat) (zone : String) :
    Traced Failure PlannedZone := do
  let spec ← Traced.ofExcept (p.provider.build (p.classInput pool image zone))
  let planned := p.zoneOf pool index zone spec
  Traced.emit (zoneEvent planned)
  return planned

def planZones (p : Planner) (pool : Pool) (image : ResolvedImage) (index : Nat) :
    List String → Traced Failure (List PlannedZone)
  | [] => return []
  | zone :: rest => do
    let planned ← p.planZone pool image index zone
    let others ← p.planZones pool image (index + 1) rest
    return planned :: others

def planPool (p : Planner) (pool : Pool) : Traced Failure PlannedPool := do
  let image ← p.resolver.resolve (p.imageIdentity pool)
  let zones ← p.planZones pool image 0 pool.zones
  return ⟨image, zones⟩

def planPools (p : Planner) : List Pool → Traced Failure (List PlannedPool)
  | [] => return []
  | pool :: rest => do
    let planned ← p.planPool pool
    let others ← p.planPools rest
    return planned :: others

def assemble (p : Planner) (parts : List PlannedPool) : Plan where
  zones := parts.flatMap PlannedPool.zones
  images := p.resolver.persisted.refreshAll (parts.map PlannedPool.image)

def plan (p : Planner) (pools : List Pool) : Traced Failure Plan := do
  Traced.ofExcept (Pool.validateAll pools)
  let parts ← p.planPools pools
  let plan := p.assemble parts
  Traced.emit (.poolsPlanned p.context.ns pools.length plan.zones.length plan.images.size p.version)
  return plan

end Planner
end PoolPlan
