import PoolPlan.Image.Basic
import PoolPlan.Worker.Pool

namespace PoolPlan

structure WorkerStatus where
  apiVersion : String
  kind : String
  machineImages : List ResolvedImage
deriving DecidableEq, Repr

structure SecurityGroup where
  purpose : String
  name : String
deriving DecidableEq, Repr

structure InfrastructureStatus where
  apiVersion : String
  kind : String
  securityGroups : List SecurityGroup
  /-- The key pair that nodes are reached with. -/
  keyName : String
  networkId : String
deriving DecidableEq, Repr

namespace WorkerStatus

def kindName : String := "WorkerStatus"

def ofImages (images : List ResolvedImage) : WorkerStatus :=
  ⟨"worker.tessera.dev/v1alpha1", kindName, images⟩

def toJson (s : WorkerStatus) : Json :=
  .object (fieldIf (s.apiVersion != "") "apiVersion" (.string s.apiVersion) ++
    fieldIf (s.kind != "") "kind" (.string s.kind) ++
    [("machineImages", .array (s.machineImages.map ResolvedImage.toJson))])

def ofDocument? (d : Document) : Option WorkerStatus := do
  let f ← d.record? ["apiVersion", "kind", "machineImages"]
  return {
    apiVersion := ← f.withDefault? "apiVersion" "" Document.text?
    kind := ← f.withDefault? "kind" "" Document.text?
    machineImages := ← f.withDefault? "machineImages" [] (Document.list? ResolvedImage.ofDocument?) }

end WorkerStatus

namespace SecurityGroup

def toJson (g : SecurityGroup) : Json :=
  .object [("purpose", .string g.purpose), ("name", .string g.name)]

def ofDocument? (d : Document) : Option SecurityGroup := do
  let f ← d.record? ["purpose", "name"]
  return ⟨← f.required? "purpose" Document.text?, ← f.required? "name" Document.text?⟩

end SecurityGroup

namespace InfrastructureStatus

def kindName : String := "InfrastructureStatus"

def toJson (s : InfrastructureStatus) : Json :=
  .object (fieldIf (s.apiVersion != "") "apiVersion" (.string s.apiVersion) ++
    fieldIf (s.kind != "") "kind" (.string s.kind) ++
    [("securityGroups", .array (s.securityGroups.map SecurityGroup.toJson)),
      ("node", .object [("keyName", .string s.keyName)]),
      ("networks", .object [("id", .string s.networkId)])])

/-- A record whose only field is a text with an empty default. -/
def only? (name : String) (d : Document) : Option String := do
  let f ← d.record? [name]
  f.withDefault? name "" Document.text?

def ofDocument? (d : Document) : Option InfrastructureStatus := do
  let f ← d.record? ["apiVersion", "kind", "securityGroups", "node", "networks"]
  return {
    apiVersion := ← f.withDefault? "apiVersion" "" Document.text?
    kind := ← f.withDefault? "kind" "" Document.text?
    securityGroups := ← f.withDefault? "securityGroups" [] (Document.list? SecurityGroup.ofDocument?)
    keyName := ← f.withDefault? "node" "" (only? "keyName")
    networkId := ← f.withDefault? "networks" "" (only? "id") }

def nodesPurpose : String := "nodes"

/-- The first security group with a purpose. -/
def securityGroup? (s : InfrastructureStatus) (purpose : String) : Option SecurityGroup :=
  s.securityGroups.find? (fun g => g.purpose == purpose)

end InfrastructureStatus
end PoolPlan
