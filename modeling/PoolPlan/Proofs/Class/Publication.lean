import PoolPlan.Proofs.Plan.Names
import PoolPlan.Proofs.Secret.Noninterference

namespace PoolPlan

namespace ClassSpec

theorem withoutCredentials_named (spec : ClassSpec) (name : String) :
    (spec.named name).withoutCredentials = spec.withoutCredentials.named name := by
  have hne : secretField ≠ nameField := by decide
  have hsecret : (spec.named name).get? secretField = spec.get? secretField := by
    rw [named, get?_insert, if_neg hne]
  rw [withoutCredentials, withoutCredentials, hsecret]
  split
  · apply ext
    intro key
    by_cases hk : key = secretField
    · subst hk
      simp [named, hne]
    · simp [named, hk]
  · rfl

/-- The name of a class does not tell on its fingerprint. -/
theorem fingerprint_named (spec : ClassSpec) (name : String) (version : VersionMarker) :
    (spec.named name).fingerprint version = spec.fingerprint version := by
  have hsame : (spec.named name).erase nameField = spec.erase nameField := by
    apply ext
    intro key
    by_cases hk : key = nameField <;> simp [named, hk]
  simp only [fingerprint, hashedBytes, hsame]

theorem length_fingerprint (spec : ClassSpec) (version : VersionMarker) :
    (spec.fingerprint version).length = 16 := by
  rw [fingerprint_eq_suffix, length_suffix]

/-- A fingerprint has lower case digits only. -/
theorem mem_fingerprint {spec : ClassSpec} {version : VersionMarker} {c : Char}
    (h : c ∈ (spec.fingerprint version).toList) : c ∈ "0123456789abcdef".toList := by
  have hdigits : ∀ n : Fin 16, Hex.digit n ∈ "0123456789abcdef".toList := by decide
  by_contra hc
  refine not_mem_fingerprint ?_ spec version h
  intro n he
  exact hc (he ▸ hdigits n)

end ClassSpec

/-- The fingerprint that can be worked out from the document of a class: the credentials are taken out
of its secret, the name may stay. -/
def ClassSpec.recomputed (fields : List (String × Json)) (version : VersionMarker) : String :=
  (ofFields fields).withoutCredentials.fingerprint version

/-- The document is that of the class a deployment names, and what can be worked out from it are the
hexadecimal digits that the name ends with. -/
structure Deployment.CertifiedBy (d : Deployment) (version : VersionMarker)
    (fields : List (String × Json)) : Prop where
  name : Dict.get? fields "name" = some (.string d.className)
  fingerprint : d.className = d.name ++ "-" ++ ClassSpec.recomputed fields version
  length : (ClassSpec.recomputed fields version).length = 16
  digits : ∀ c ∈ (ClassSpec.recomputed fields version).toList, c ∈ "0123456789abcdef".toList

namespace Planner
variable {p : Planner} {pools : List Pool} {plan : Plan}

theorem certifiedBy_of_mem_zones (h : (p.plan pools).result = .ok plan) {z : PlannedZone}
    (hz : z ∈ plan.zones) :
    z.deployment.CertifiedBy p.version (z.machineClass.spec.named z.machineClass.name).fields := by
  obtain ⟨pool, -, image, -, zone, -, hplanned⟩ := exists_of_mem_zones h hz
  obtain ⟨content, -, rfl⟩ := zonePlanned_iff.1 hplanned
  constructor
  · have hname := ClassSpec.get?_insert (content.spec.attachCredentials p.credentials)
      ClassSpec.nameField ClassSpec.nameField
      (.string (p.zoneOf pool zone.2 zone.1 content.spec).machineClass.name)
    rw [if_pos rfl] at hname
    exact hname
  · -- Neither the credentials nor the name were there when the fingerprint was taken.
    rw [ClassSpec.recomputed, ClassSpec.ofFields_fields, ClassSpec.withoutCredentials_named,
      ClassSpec.fingerprint_named]
    simp only [zoneOf, ClassSpec.withoutCredentials_attachCredentials]
    rfl
  · exact ClassSpec.length_fingerprint _ _
  · intro c hc
    exact ClassSpec.mem_fingerprint hc

/-- Every class is handed on as an object under the name that its deployment gives it, and the digits
at the end of the name are the fingerprint of that object without its credentials. -/
theorem classes_certify_themselves (h : (p.plan pools).result = .ok plan) :
    ∃ documents : List (List (String × Json)),
      plan.classValues = .object [("machineClasses", .array (documents.map .object))] ∧
      List.Forall₂ (fun (d : Deployment) fields => d.CertifiedBy p.version fields)
        plan.deployments documents := by
  refine ⟨plan.zones.map (fun z => (z.machineClass.spec.named z.machineClass.name).fields), ?_, ?_⟩
  · simp only [Plan.classValues, Plan.classes, List.map_map]
    rfl
  · rw [Plan.deployments, List.forall₂_map_left_iff, List.forall₂_map_right_iff, List.forall₂_same]
    intro z hz
    exact certifiedBy_of_mem_zones h hz

end Planner

namespace Sample

/-- From the third document of the crowded plan the end of the name in the third deployment can be
worked out. -/
theorem third_class_certified :
    ∃ (plan : Plan) (documents : List (List (String × Json))),
      ((planner ⟨"config", "machines"⟩ ⟨config, .empty⟩).plan crowded).result = .ok plan ∧
      plan.classValues = .object [("machineClasses", .array (documents.map .object))] ∧
      ∃ d fields, plan.deployments[2]? = some d ∧ documents[2]? = some fields ∧
        d.className = "shoot-a-z3-" ++ ClassSpec.recomputed fields ⟨1, 29⟩ := by
  obtain ⟨plan, h⟩ := exists_crowded_plan
  obtain ⟨documents, hvalues, hall⟩ := Planner.classes_certify_themselves h
  have hname : (plan.deployments.map Deployment.name)[2]? = some "shoot-a-z3" := by
    rw [Planner.deployment_names h]
    rfl
  rw [List.getElem?_map, Option.map_eq_some_iff] at hname
  obtain ⟨d, hd, hn⟩ := hname
  obtain ⟨fields, hfields, hcertified⟩ := hall.exists_getElem? hd
  have hclass := hcertified.fingerprint
  rw [hn] at hclass
  exact ⟨plan, documents, h, hvalues, d, fields, hd, hfields, hclass⟩

end Sample
end PoolPlan
