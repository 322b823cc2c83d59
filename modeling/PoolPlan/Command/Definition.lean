import PoolPlan.Yaml.Writer

namespace PoolPlan.Command

/-- The schema of a value, with what it is for. Its fields are in ascending order. -/
def schema (description : String) (fields : List (String × Json)) : Json :=
  .object (Dict.ofList (("description", .string description) :: fields))

def typed (name : String) : String × Json := ("type", .string name)

def textSchema (description : String) : Json := schema description [typed "string"]

def countSchema (description : String) : Json :=
  schema description [("format", .string "int32"), typed "integer"]

def toleranceSchema (description : String) : Json :=
  schema description [("x-kubernetes-int-or-string", .bool true)]

def anySchema (description : String) : Json :=
  schema description [("nullable", .bool true), typed "object"]

def textsSchema (description : String) : Json :=
  schema description [("additionalProperties", .object [typed "string"]), typed "object"]

def listSchema (description : String) (items : Json) : Json :=
  schema description [("items", items), typed "array"]

def recordFields (properties : List (String × Json)) (required : List String) : List (String × Json) :=
  ("properties", .object properties) ::
    (if required.isEmpty then [] else [("required", .strings required)]) ++ [typed "object"]

def recordSchema (description : String) (properties : List (String × Json)) (required : List String) :
    Json :=
  schema description (recordFields properties required)

def imageSchema : Json :=
  recordSchema "Symbolic OS image" [
    ("name", textSchema "Logical image name (e.g., \"ubuntu\")"),
    ("version", textSchema "Logical image version (e.g., \"22.04\")")]
    ["name", "version"]

def taintSchema : Json :=
  recordSchema "The node this Taint is attached to has the \"effect\" on any pod that does not tolerate the Taint." [
    ("effect", textSchema "Required. The effect of the taint on pods that do not tolerate the taint. Valid effects are NoSchedule, PreferNoSchedule and NoExecute."),
    ("key", textSchema "Required. The taint key to be applied to a node."),
    ("timeAdded", schema "TimeAdded represents the time at which the taint was added. It is only written for NoExecute taints."
      [("format", .string "date-time"), typed "string"]),
    ("value", textSchema "The taint value corresponding to the taint key.")]
    ["effect", "key"]

def poolSchema : Json :=
  recordSchema "A named group of nodes sharing machine type, image and scaling bounds" [
    ("annotations", textsSchema "Annotations applied to nodes of this pool"),
    ("labels", textsSchema "Labels applied to nodes of this pool"),
    ("machineImage", imageSchema),
    ("machineType", textSchema "Provider machine type (e.g., \"large\")"),
    ("maxSurge", toleranceSchema "Surge tolerance during rolling updates (absolute or percentage)"),
    ("maxUnavailable",
      toleranceSchema "Unavailability tolerance during rolling updates (absolute or percentage)"),
    ("maximum", countSchema "Maximum number of machines across all zones"),
    ("minimum", countSchema "Minimum number of machines across all zones"),
    ("name", textSchema "Pool name, unique within the Worker"),
    ("taints", listSchema "Taints applied to nodes of this pool" taintSchema),
    ("userData",
      schema "Cloud-init user data passed to every machine" [("default", .string ""), typed "string"]),
    ("zones", listSchema "Availability zones, in the order deployments are emitted"
      (.object [typed "string"]))]
    ["machineImage", "machineType", "maxSurge", "maxUnavailable", "maximum", "minimum", "name", "zones"]

def secretReferenceSchema : Json :=
  recordSchema "Secret holding the provider credentials" [
    ("name", textSchema "name is unique within a namespace to reference a secret resource."),
    ("namespace",
      textSchema "namespace defines the space within which the secret name must be unique.")]
    []

def specSchema : Json :=
  recordSchema "Specification for a Worker" [
    ("infrastructureProviderStatus",
      anySchema "Status written by the infrastructure controller (networks, security groups, keys)"),
    ("pools", schema "Worker pools, compiled in this order"
      [("default", .array []), ("items", poolSchema), typed "array"]),
    ("region", textSchema "Region the cluster's machines are created in"),
    ("secretRef", secretReferenceSchema)]
    ["region", "secretRef"]

def statusSchema : Json :=
  schema "Status of a Worker" (("nullable", .bool true) :: recordFields [
    ("providerStatus",
      anySchema "Provider status persisted by the previous reconciliation (the image ledger)")]
    [])

def workerSchema : Json :=
  .object [
    ("description", .string "Auto-generated derived type for WorkerSpec via \x60CustomResource\x60"),
    ("properties", .object [("spec", specSchema), ("status", statusSchema)]),
    ("required", .strings ["spec"]),
    ("title", .string "Worker"),
    typed "object"]

def column (path name type : String) : Json :=
  .object [("jsonPath", .string path), ("name", .string name), ("type", .string type)]

def version : Json :=
  .object [
    ("additionalPrinterColumns", .array [
      column ".spec.region" "Region" "string",
      column ".metadata.creationTimestamp" "Age" "date"]),
    ("name", .string "v1alpha1"),
    ("schema", .object [("openAPIV3Schema", workerSchema)]),
    ("served", .bool true),
    ("storage", .bool true),
    ("subresources", .object [("status", .object [])])]

def definition : Json :=
  .object [
    ("apiVersion", .string "apiextensions.k8s.io/v1"),
    ("kind", .string "CustomResourceDefinition"),
    ("metadata", .object [("name", .string "workers.extensions.tessera.dev")]),
    ("spec", .object [
      ("group", .string "extensions.tessera.dev"),
      ("names", .object [
        ("categories", .array []),
        ("kind", .string "Worker"),
        ("plural", .string "workers"),
        ("shortNames", .array []),
        ("singular", .string "worker")]),
      ("scope", .string "Namespaced"),
      ("versions", .array [version])])]

def definitionText : String := Yaml.text definition

end PoolPlan.Command
