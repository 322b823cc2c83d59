import PoolPlan.Class.Spec
import PoolPlan.Image.Ledger
import PoolPlan.Worker.Pool

namespace PoolPlan

/-- The machines of one pool in one zone. -/
structure Deployment where
  name : String
  className : String
  secretName : String
  pool : String
  zone : String
  minimum : Int
  maximum : Int
  maxSurge : Tolerance
  maxUnavailable : Tolerance
  labels : Dict String
  annotations : Dict String
  taints : List Taint
deriving DecidableEq

structure MachineClass where
  name : String
  kind : String
  spec : ClassSpec

structure PlannedZone where
  deployment : Deployment
  machineClass : MachineClass

structure Plan where
  zones : List PlannedZone
  /-- The images of the plan before, and those new to this one. -/
  images : ImageLedger

namespace Deployment

/-- Zones are numbered from one. -/
def nameFor (ns pool : String) (index : Nat) : String := s!"{ns}-{pool}-z{index + 1}"

def toJson (d : Deployment) : Json :=
  .object ([
    ("name", .string d.name),
    ("className", .string d.className),
    ("secretName", .string d.secretName),
    ("pool", .string d.pool),
    ("zone", .string d.zone),
    ("minimum", .integer d.minimum),
    ("maximum", .integer d.maximum),
    ("maxSurge", d.maxSurge.toJson),
    ("maxUnavailable", d.maxUnavailable.toJson)] ++
    fieldIf (!d.labels.isEmpty) "labels" (.ofTexts d.labels) ++
    fieldIf (!d.annotations.isEmpty) "annotations" (.ofTexts d.annotations) ++
    fieldIf (!d.taints.isEmpty) "taints" (.array (d.taints.map Taint.toJson)))

end Deployment

namespace MachineClass

def toJson (c : MachineClass) : Json := (c.spec.named c.name).toJson

end MachineClass

namespace Plan

def deployments (p : Plan) : List Deployment := p.zones.map PlannedZone.deployment

def classes (p : Plan) : List MachineClass := p.zones.map PlannedZone.machineClass

def deploymentsOf (p : Plan) (pool : String) : List Deployment :=
  p.deployments.filter (fun d => d.pool == pool)

def classValues (p : Plan) : Json :=
  .object [("machineClasses", .array (p.classes.map MachineClass.toJson))]

def status (p : Plan) : WorkerStatus := p.images.toStatus

end Plan
end PoolPlan
