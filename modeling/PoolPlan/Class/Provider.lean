import PoolPlan.Class.Spec
import PoolPlan.Image.Basic
import PoolPlan.Secret.Credentials
import PoolPlan.Status.Basic
import PoolPlan.Worker.UserData

namespace PoolPlan

inductive Provider where
  | kubeVirt | openStack
deriving DecidableEq, Repr

structure ClassInput where
  ns : String
  region : String
  zone : String
  pool : Pool
  image : ResolvedImage
  podNetworkCidr : Option String
  infrastructure : Option InfrastructureStatus

structure OpenStackResources where
  securityGroup : String
  keyName : String
  networkId : String
deriving DecidableEq, Repr

namespace Provider

def fallback : Provider := .kubeVirt

def name : Provider → String
  | .kubeVirt => "kubevirt"
  | .openStack => "openstack"

def classKind : Provider → String
  | .kubeVirt => "KubeVirtMachineClass"
  | .openStack => "OpenStackMachineClass"

/-- Lower case, as far as it can lead to a letter of a provider's name: the Kelvin sign is the only
other capital of one of them. -/
def lower (c : Char) : Char := if c = '\u212A' then 'k' else c.toLower

def ofName? (name : String) : Option Provider :=
  let cs := name.toList.map lower
  [kubeVirt, openStack].find? (fun p => p.name.toList == cs)

def ofName (name : String) : Except Failure Provider :=
  match ofName? name with
  | some p => .ok p
  | none => .error (.invalidInput s!"invalid provider: {name}, expected one of: kubevirt, openstack")

def ofDocument? (d : Document) : Option Provider :=
  d.case?.bind (fun name => [kubeVirt, openStack].find? (fun p => p.name == name))

def toJson (p : Provider) : Json := .string p.name

end Provider

namespace InfrastructureStatus

/-- The resources that an OpenStack class needs; the first one that is missing is the failure. -/
def openStackResources (status : Option InfrastructureStatus) : Except Failure OpenStackResources :=
  match status with
  | none =>
    .error (.missingResource "infrastructure status" "worker has no infrastructure provider status")
  | some s =>
    match s.securityGroup? nodesPurpose with
    | none =>
      .error (.missingResource "security group"
        ("no security group with purpose " ++ Text.quote nodesPurpose))
    | some group =>
      if s.keyName = "" then
        .error (.missingResource "key pair" "infrastructure status has no node key name")
      else if s.networkId = "" then
        .error (.missingResource "network" "infrastructure status has no network id")
      else .ok ⟨group.name, s.keyName, s.networkId⟩

end InfrastructureStatus

namespace ClassSpec

def secretField : String := "secret"

def cloudConfigKey : String := "cloudConfig"

def nodeTags (ns : String) : Json :=
  .object [("kubernetes.io-cluster-" ++ ns, .string "1"), ("kubernetes.io-role-node", .string "1")]

def userDataSecret (userData : String) : Json := .object [(cloudConfigKey, .string userData)]

def commonFields (input : ClassInput) (userData : String) : List (String × Json) :=
  [("region", .string input.region),
    ("availabilityZone", .string input.zone),
    ("machineType", .string input.pool.machineType),
    ("imageName", .string input.image.image),
    ("tags", nodeTags input.ns),
    (secretField, userDataSecret userData)] ++
    Json.optionalField "podNetworkCidr" input.podNetworkCidr .string

def openStackFields (resources : OpenStackResources) : List (String × Json) :=
  [("keyName", .string resources.keyName),
    ("networkID", .string resources.networkId),
    ("securityGroups", .strings [resources.securityGroup])]

/-- Put the credentials into the secret field, beside what is there. A field that is no object is left
alone. -/
def attachCredentials (spec : ClassSpec) (c : Credentials) : ClassSpec :=
  match (spec.get? secretField).getD (.object []) with
  | .object secret =>
    spec.insert secretField (.object
      (Dict.insert Credentials.namespaceKey (.string c.ns)
        (Dict.insert Credentials.kubeconfigKey (.string c.kubeconfig) secret)))
  | _ => spec

end ClassSpec

namespace Provider

def build (p : Provider) (input : ClassInput) : Except Failure ClassSpec :=
  match p with
  | .kubeVirt => do
    let userData ← input.pool.userDataText
    return .ofFields (ClassSpec.commonFields input userData)
  | .openStack => do
    let resources ← InfrastructureStatus.openStackResources input.infrastructure
    let userData ← input.pool.userDataText
    return .ofFields (ClassSpec.commonFields input userData ++ ClassSpec.openStackFields resources)

end Provider
end PoolPlan
