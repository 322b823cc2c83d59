import PoolPlan.Worker.Pool

namespace PoolPlan

structure OwnerReference where
  apiVersion : String
  blockOwnerDeletion : Option Bool
  controller : Option Bool
  kind : String
  name : String
  uid : String
deriving DecidableEq, Repr

structure ManagedFields where
  apiVersion : Option String
  fieldsType : Option String
  fieldsV1 : Option Json
  manager : Option String
  operation : Option String
  subresource : Option String
  time : Option Instant
deriving Repr

structure Metadata where
  annotations : Option (Dict String) := none
  creationTimestamp : Option Instant := none
  deletionGracePeriodSeconds : Option Int := none
  deletionTimestamp : Option Instant := none
  finalizers : Option (List String) := none
  generateName : Option String := none
  generation : Option Int := none
  labels : Option (Dict String) := none
  managedFields : Option (List ManagedFields) := none
  name : Option String := none
  ns : Option String := none
  ownerReferences : Option (List OwnerReference) := none
  resourceVersion : Option String := none
  selfLink : Option String := none
  uid : Option String := none
deriving Repr

namespace OwnerReference

def toJson (r : OwnerReference) : Json :=
  .object ([("apiVersion", .string r.apiVersion)] ++
    Json.optionalField "blockOwnerDeletion" r.blockOwnerDeletion .bool ++
    Json.optionalField "controller" r.controller .bool ++
    [("kind", .string r.kind), ("name", .string r.name), ("uid", .string r.uid)])

def ofDocument? (d : Document) : Option OwnerReference := do
  let f ← d.looseRecord?
  let apiVersion ← f.last? "apiVersion" Document.text?
  let blockOwnerDeletion ← f.last? "blockOwnerDeletion" Document.bool?
  let controller ← f.last? "controller" Document.bool?
  let kind ← f.last? "kind" Document.text?
  let name ← f.last? "name" Document.text?
  let uid ← f.last? "uid" Document.text?
  return ⟨apiVersion.getD "", blockOwnerDeletion, controller, kind.getD "", name.getD "",
    uid.getD ""⟩

end OwnerReference

namespace ManagedFields

def toJson (m : ManagedFields) : Json :=
  .object (Json.optionalField "apiVersion" m.apiVersion .string ++
    Json.optionalField "fieldsType" m.fieldsType .string ++
    Json.optionalField "fieldsV1" m.fieldsV1 id ++
    Json.optionalField "manager" m.manager .string ++
    Json.optionalField "operation" m.operation .string ++
    Json.optionalField "subresource" m.subresource .string ++
    Json.optionalField "time" m.time Instant.toJson)

def ofDocument? (d : Document) : Option ManagedFields := do
  let f ← d.looseRecord?
  return {
    apiVersion := ← f.last? "apiVersion" Document.text?
    fieldsType := ← f.last? "fieldsType" Document.text?
    fieldsV1 := ← f.last? "fieldsV1" Document.value?
    manager := ← f.last? "manager" Document.text?
    operation := ← f.last? "operation" Document.text?
    subresource := ← f.last? "subresource" Document.text?
    time := ← f.last? "time" Instant.ofDocument? }

end ManagedFields

namespace Metadata

def toJson (m : Metadata) : Json :=
  .object (Json.optionalField "annotations" m.annotations Json.ofTexts ++
    Json.optionalField "creationTimestamp" m.creationTimestamp Instant.toJson ++
    Json.optionalField "deletionGracePeriodSeconds" m.deletionGracePeriodSeconds .integer ++
    Json.optionalField "deletionTimestamp" m.deletionTimestamp Instant.toJson ++
    Json.optionalField "finalizers" m.finalizers .strings ++
    Json.optionalField "generateName" m.generateName .string ++
    Json.optionalField "generation" m.generation .integer ++
    Json.optionalField "labels" m.labels Json.ofTexts ++
    Json.optionalField "managedFields" m.managedFields (fun ms => .array (ms.map ManagedFields.toJson)) ++
    Json.optionalField "name" m.name .string ++
    Json.optionalField "namespace" m.ns .string ++
    Json.optionalField "ownerReferences" m.ownerReferences
      (fun rs => .array (rs.map OwnerReference.toJson)) ++
    Json.optionalField "resourceVersion" m.resourceVersion .string ++
    Json.optionalField "selfLink" m.selfLink .string ++
    Json.optionalField "uid" m.uid .string)

def ofDocument? (d : Document) : Option Metadata := do
  let f ← d.looseRecord?
  return {
    annotations := ← f.last? "annotations" (Document.dict? Document.text?)
    creationTimestamp := ← f.last? "creationTimestamp" Instant.ofDocument?
    deletionGracePeriodSeconds := ← f.last? "deletionGracePeriodSeconds" Document.int64?
    deletionTimestamp := ← f.last? "deletionTimestamp" Instant.ofDocument?
    finalizers := ← f.last? "finalizers" (Document.list? Document.text?)
    generateName := ← f.last? "generateName" Document.text?
    generation := ← f.last? "generation" Document.int64?
    labels := ← f.last? "labels" (Document.dict? Document.text?)
    managedFields := ← f.last? "managedFields" (Document.list? ManagedFields.ofDocument?)
    name := ← f.last? "name" Document.text?
    ns := ← f.last? "namespace" Document.text?
    ownerReferences := ← f.last? "ownerReferences" (Document.list? OwnerReference.ofDocument?)
    resourceVersion := ← f.last? "resourceVersion" Document.text?
    selfLink := ← f.last? "selfLink" Document.text?
    uid := ← f.last? "uid" Document.text? }

end Metadata
end PoolPlan
