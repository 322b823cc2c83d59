import PoolPlan.Class.Provider
import PoolPlan.Proofs.Class.Spec
import PoolPlan.Proofs.Secret.Attachment
import PoolPlan.Proofs.Traced

namespace PoolPlan

/-- The text of user data has the user data's bytes. -/
theorem Pool.userData_of_text {pool : Pool} {userData : String}
    (h : pool.userDataText = .ok userData) : pool.userData = Utf8.encode userData := by
  unfold userDataText at h
  split at h
  · rename_i text ht
    rw [← Except.ok.inj h]
    exact Utf8.decode_eq_ok_iff.1 ht
  · contradiction

/-- All that the fields of a class are made from. -/
structure ClassContent where
  region : String
  zone : String
  machineType : String
  image : String
  ns : String
  userData : String
  podNetworkCidr : Option String
  resources : Option OpenStackResources
deriving DecidableEq

namespace ClassContent

def fields (c : ClassContent) : List (String × Json) :=
  [("region", .string c.region),
    ("availabilityZone", .string c.zone),
    ("machineType", .string c.machineType),
    ("imageName", .string c.image),
    ("tags", ClassSpec.nodeTags c.ns),
    (ClassSpec.secretField, ClassSpec.userDataSecret c.userData)] ++
    Json.optionalField "podNetworkCidr" c.podNetworkCidr .string ++
    (c.resources.map ClassSpec.openStackFields).getD []

def spec (c : ClassContent) : ClassSpec := .ofFields c.fields

/-- The fields of a class, by key. -/
structure HeldBy (c : ClassContent) (spec : ClassSpec) : Prop where
  region : spec.get? "region" = some (.string c.region)
  zone : spec.get? "availabilityZone" = some (.string c.zone)
  machineType : spec.get? "machineType" = some (.string c.machineType)
  image : spec.get? "imageName" = some (.string c.image)
  tags : spec.get? "tags" = some (ClassSpec.nodeTags c.ns).sortKeys
  secret : spec.get? ClassSpec.secretField = some (ClassSpec.userDataSecret c.userData)
  podNetworkCidr : spec.get? "podNetworkCidr" = c.podNetworkCidr.map .string
  keyName : spec.get? "keyName" = c.resources.map (fun r => .string r.keyName)
  networkId : spec.get? "networkID" = c.resources.map (fun r => .string r.networkId)
  securityGroups : spec.get? "securityGroups" = c.resources.map (fun r => .strings [r.securityGroup])

theorem heldBy_spec (c : ClassContent) : c.HeldBy c.spec := by
  obtain ⟨region, zone, machineType, image, ns, userData, podNetworkCidr, resources⟩ := c
  cases podNetworkCidr <;> cases resources <;> constructor <;>
    simp [spec, fields, ClassSpec.get?_ofFields, ClassSpec.openStackFields, ClassSpec.secretField,
      Json.optionalField, List.lookup_cons, Json.sortKeys, Json.sortItems, Json.sortFields,
      Json.strings, ClassSpec.userDataSecret, Dict.ofList, Dict.insert]

end ClassContent

namespace Provider

def resources (p : Provider) (infrastructure : Option InfrastructureStatus) :
    Except Failure (Option OpenStackResources) :=
  match p with
  | .kubeVirt => .ok none
  | .openStack => (InfrastructureStatus.openStackResources infrastructure).map some

theorem resources_cases {p : Provider} {infrastructure : Option InfrastructureStatus}
    {resources : Option OpenStackResources} (h : p.resources infrastructure = .ok resources) :
    (p = .kubeVirt ∧ resources = none) ∨
      (p = .openStack ∧ ∃ found, resources = some found ∧
        InfrastructureStatus.openStackResources infrastructure = .ok found) := by
  cases p with
  | kubeVirt => exact .inl ⟨rfl, (Except.ok.inj h).symm⟩
  | openStack =>
    simp only [Provider.resources] at h
    cases hs : InfrastructureStatus.openStackResources infrastructure with
    | error failure => simp [hs, Except.map] at h
    | ok found =>
      simp only [hs, Except.map, Except.ok.injEq] at h
      exact .inr ⟨rfl, found, h.symm, rfl⟩

def content (p : Provider) (input : ClassInput) : Except Failure ClassContent := do
  let resources ← p.resources input.infrastructure
  let userData ← input.pool.userDataText
  return ⟨input.region, input.zone, input.pool.machineType, input.image.image, input.ns, userData,
    input.podNetworkCidr, resources⟩

theorem content_eq_ok_iff {p : Provider} {input : ClassInput} {c : ClassContent} :
    p.content input = .ok c ↔
      ∃ resources userData, p.resources input.infrastructure = .ok resources ∧
        input.pool.userDataText = .ok userData ∧
        c = ⟨input.region, input.zone, input.pool.machineType, input.image.image, input.ns,
          userData, input.podNetworkCidr, resources⟩ := by
  simp only [content, bind_eq_ok_iff, pure, Except.pure, Except.ok.injEq, eq_comm (a := c)]
  constructor
  · rintro ⟨resources, hr, userData, hu, rfl⟩
    exact ⟨resources, userData, hr, hu, rfl⟩
  · rintro ⟨resources, userData, hr, hu, rfl⟩
    exact ⟨resources, hr, userData, hu, rfl⟩

theorem build_eq_map (p : Provider) (input : ClassInput) :
    p.build input = (p.content input).map ClassContent.spec := by
  cases p with
  | kubeVirt =>
    simp only [build, content, resources, ok_bind]
    cases input.pool.userDataText with
    | error failure => rfl
    | ok userData =>
      simp only [ok_bind, pure, Except.pure, Except.map, ClassContent.spec, ClassContent.fields,
        Option.map_none, Option.getD_none, List.append_nil]
      rfl
  | openStack =>
    simp only [build, content, resources]
    cases InfrastructureStatus.openStackResources input.infrastructure with
    | error failure => rfl
    | ok resources =>
      cases input.pool.userDataText with
      | error failure => rfl
      | ok userData => rfl

theorem build_eq_ok_iff {p : Provider} {input : ClassInput} {spec : ClassSpec} :
    p.build input = .ok spec ↔ ∃ content, p.content input = .ok content ∧ spec = content.spec := by
  rw [build_eq_map]
  cases p.content input with
  | error failure => simp [Except.map]
  | ok content => simp [Except.map, eq_comm]

end Provider

namespace ClassSpec

/-- The secret field after the credentials were put in beside the user data. -/
def secretOf (userData : String) (c : Credentials) : Json :=
  .object [
    (cloudConfigKey, .string userData),
    (Credentials.kubeconfigKey, .string c.kubeconfig),
    (Credentials.namespaceKey, .string c.ns)]

theorem sortKeys_secretOf (userData : String) (c : Credentials) :
    (secretOf userData c).sortKeys = secretOf userData c := by
  simp only [secretOf, Json.sortKeys, Json.sortFields, Dict.ofList, List.foldl_cons, List.foldl_nil,
    Dict.insert, cloudConfigKey, Credentials.kubeconfigKey, Credentials.namespaceKey,
    String.reduceLT, String.reduceEq, if_false]

/-- The credentials are put into a field of their own. -/
theorem attachCredentials_spec (content : ClassContent) (c : Credentials) :
    content.spec.attachCredentials c =
      content.spec.insert secretField (secretOf content.userData c) := by
  rw [attachCredentials_of_object content.heldBy_spec.secret]
  rfl

theorem get?_attachCredentials (content : ClassContent) (c : Credentials) :
    (content.spec.attachCredentials c).get? secretField = some (secretOf content.userData c) := by
  rw [attachCredentials_spec, get?_insert, if_pos rfl, sortKeys_secretOf]

end ClassSpec
end PoolPlan
