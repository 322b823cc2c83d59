import PoolPlan.Zone
import PoolPlan.Bytes.Base64
import PoolPlan.Document.Record
import PoolPlan.Json.Basic
import PoolPlan.Worker.Instant

namespace PoolPlan

/-- A machine image by its logical name; providers call it something else. -/
structure PoolImage where
  name : String
  version : String
deriving DecidableEq, Repr

structure Taint where
  effect : String
  key : String
  timeAdded : Option Instant
  value : Option String
deriving DecidableEq, Repr

/-- Nodes that share machine type, image and scaling bounds. -/
structure Pool where
  name : String
  machineType : String
  machineImage : PoolImage
  minimum : Int
  maximum : Int
  maxSurge : Tolerance
  maxUnavailable : Tolerance
  userData : Bytes
  zones : List String
  labels : Dict String
  annotations : Dict String
  taints : List Taint
deriving DecidableEq

def fieldIf (present : Bool) (name : String) (value : Json) : List (String × Json) :=
  if present then [(name, value)] else []

def Json.optionalField {α : Type} (name : String) (value : Option α) (toJson : α → Json) :
    List (String × Json) :=
  match value with
  | none => []
  | some v => [(name, toJson v)]

def Json.ofTexts (d : Dict String) : Json := .object (d.map (fun (k, v) => (k, .string v)))

namespace Tolerance

def toJson : Tolerance → Json
  | .count n => .integer n
  | .relative text => .string text

def ofDocument? (d : Document) : Option Tolerance :=
  match d.value? with
  | some (.number (.integer n)) => (int32Of? n).map .count
  | some (.string text) => some (.relative text)
  | _ => none

end Tolerance

namespace PoolImage

def toJson (i : PoolImage) : Json := .object [("name", .string i.name), ("version", .string i.version)]

def ofDocument? (d : Document) : Option PoolImage := do
  let f ← d.record? ["name", "version"]
  return ⟨← f.required? "name" Document.text?, ← f.required? "version" Document.text?⟩

end PoolImage

namespace Instant

def toJson (t : Instant) : Json := .string t.text

def ofDocument? (d : Document) : Option Instant := d.text?.bind ofString?

end Instant

namespace Taint

def toJson (t : Taint) : Json :=
  .object ([("effect", .string t.effect), ("key", .string t.key)] ++
    Json.optionalField "timeAdded" t.timeAdded Instant.toJson ++
    Json.optionalField "value" t.value .string)

def ofDocument? (d : Document) : Option Taint := do
  let f ← d.looseRecord?
  let effect ← f.last? "effect" Document.text?
  let key ← f.last? "key" Document.text?
  let timeAdded ← f.last? "timeAdded" Instant.ofDocument?
  let value ← f.last? "value" Document.text?
  return ⟨effect.getD "", key.getD "", timeAdded, value⟩

end Taint

namespace Pool

def fieldNames : List String :=
  ["name", "machineType", "machineImage", "minimum", "maximum", "maxSurge", "maxUnavailable",
    "userData", "zones", "labels", "annotations", "taints"]

def toJson (p : Pool) : Json :=
  .object ([
    ("name", .string p.name),
    ("machineType", .string p.machineType),
    ("machineImage", p.machineImage.toJson),
    ("minimum", .integer p.minimum),
    ("maximum", .integer p.maximum),
    ("maxSurge", p.maxSurge.toJson),
    ("maxUnavailable", p.maxUnavailable.toJson),
    ("userData", .string (Base64.toString p.userData)),
    ("zones", .strings p.zones)] ++
    fieldIf (!p.labels.isEmpty) "labels" (.ofTexts p.labels) ++
    fieldIf (!p.annotations.isEmpty) "annotations" (.ofTexts p.annotations) ++
    fieldIf (!p.taints.isEmpty) "taints" (.array (p.taints.map Taint.toJson)))

def bytes? (d : Document) : Option Bytes :=
  (d.optional? (fun d => d.text?.bind Base64.ofString?)).map (·.getD [])

def ofDocument? (d : Document) : Option Pool := do
  let f ← d.record? fieldNames
  return {
    name := ← f.required? "name" Document.text?
    machineType := ← f.required? "machineType" Document.text?
    machineImage := ← f.required? "machineImage" PoolImage.ofDocument?
    minimum := ← f.required? "minimum" Document.int32?
    maximum := ← f.required? "maximum" Document.int32?
    maxSurge := ← f.required? "maxSurge" Tolerance.ofDocument?
    maxUnavailable := ← f.required? "maxUnavailable" Tolerance.ofDocument?
    userData := ← f.withDefault? "userData" [] bytes?
    zones := ← f.required? "zones" (Document.list? Document.text?)
    labels := ← f.withDefault? "labels" [] (Document.dict? Document.text?)
    annotations := ← f.withDefault? "annotations" [] (Document.dict? Document.text?)
    taints := ← f.withDefault? "taints" [] (Document.list? Taint.ofDocument?) }

end Pool
end PoolPlan
