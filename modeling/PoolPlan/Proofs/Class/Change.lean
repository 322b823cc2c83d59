import PoolPlan.Proofs.Class.Fingerprint
import PoolPlan.Proofs.Class.Written
import PoolPlan.Proofs.Plan.Classes

namespace PoolPlan

/-- All that decides on the machines of a zone. -/
structure ClassTraits where
  provider : Provider
  version : VersionMarker
  ns : String
  region : String
  zone : String
  machineType : String
  image : String
  userData : Bytes
  podNetworkCidr : Option String
  /-- With a provider that uses them, the node key, the network and the first group for nodes. -/
  resources : Option OpenStackResources
deriving DecidableEq

def InfrastructureStatus.nodeResources (s : InfrastructureStatus) : Option OpenStackResources :=
  (s.securityGroup? nodesPurpose).map (fun group => ⟨group.name, s.keyName, s.networkId⟩)

namespace Planner

def traits (p : Planner) (pool : Pool) (image : ResolvedImage) (zone : String) : ClassTraits where
  provider := p.provider
  version := p.version
  ns := p.context.ns
  region := p.context.region
  zone := zone
  machineType := pool.machineType
  image := image.image
  userData := pool.userData
  podNetworkCidr := p.context.podNetworkCidr
  resources := match p.provider with
    | .kubeVirt => none
    | .openStack => p.context.infrastructure.bind InfrastructureStatus.nodeResources

end Planner

namespace ClassContent

/-- A namespace can be told from the tags it is a part of. -/
theorem nodeTags_injective {a b : String}
    (h : (ClassSpec.nodeTags a).sortKeys = (ClassSpec.nodeTags b).sortKeys) : a = b := by
  have hd : Dict.ofList (Json.sortFields [("kubernetes.io-cluster-" ++ a, .string "1"),
      ("kubernetes.io-role-node", .string "1")]) =
        Dict.ofList (Json.sortFields [("kubernetes.io-cluster-" ++ b, .string "1"),
      ("kubernetes.io-role-node", .string "1")]) := by
    simpa [ClassSpec.nodeTags, Json.sortKeys] using h
  have hne (ns : String) : "kubernetes.io-cluster-" ++ ns ≠ "kubernetes.io-role-node" := by
    intro he
    have := congrArg String.toList he
    simp at this
  have hg := congrArg (fun d => Dict.get? d ("kubernetes.io-cluster-" ++ a)) hd
  simp only [Dict.get?_ofList, Json.sortFields, List.reverse_cons, List.reverse_nil,
    List.nil_append, List.cons_append, List.lookup_cons, beq_false_of_ne (hne a),
    beq_self_eq_true] at hg
  split at hg
  · rename_i he
    simpa using he
  · simp at hg

theorem HeldBy.withoutName {c : ClassContent} {spec : ClassSpec} (h : c.HeldBy spec) :
    c.HeldBy (spec.erase ClassSpec.nameField) := by
  have hget {key : String} (hk : key ≠ ClassSpec.nameField) :
      (spec.erase ClassSpec.nameField).get? key = spec.get? key := by
    rw [ClassSpec.get?_erase, if_neg hk]
  cases h
  constructor
  all_goals
    rw [hget (by decide)]
    assumption

theorem HeldBy.unique {c d : ClassContent} {spec : ClassSpec} (hc : c.HeldBy spec)
    (hd : d.HeldBy spec) : c = d := by
  have hregion : c.region = d.region := by simpa using hc.region.symm.trans hd.region
  have hzone : c.zone = d.zone := by simpa using hc.zone.symm.trans hd.zone
  have hmachine : c.machineType = d.machineType := by
    simpa using hc.machineType.symm.trans hd.machineType
  have himage : c.image = d.image := by simpa using hc.image.symm.trans hd.image
  have hns : c.ns = d.ns := nodeTags_injective (Option.some.inj (hc.tags.symm.trans hd.tags))
  have huser : c.userData = d.userData := by
    simpa [ClassSpec.userDataSecret] using hc.secret.symm.trans hd.secret
  have hcidr : c.podNetworkCidr = d.podNetworkCidr := by
    have hmap := hc.podNetworkCidr.symm.trans hd.podNetworkCidr
    cases hp : c.podNetworkCidr <;> cases hq : d.podNetworkCidr <;> simp_all
  have hresources : c.resources = d.resources := by
    have hkey := hc.keyName.symm.trans hd.keyName
    have hnetwork := hc.networkId.symm.trans hd.networkId
    have hgroup := hc.securityGroups.symm.trans hd.securityGroups
    cases hr : c.resources with
    | none => cases hs : d.resources <;> simp_all
    | some r =>
      cases hs : d.resources with
      | none => simp_all
      | some s =>
        obtain ⟨⟩ := r
        obtain ⟨⟩ := s
        simp_all [Json.strings]
  obtain ⟨⟩ := c
  obtain ⟨⟩ := d
  simp only [ClassContent.mk.injEq]
  exact ⟨hregion, hzone, hmachine, himage, hns, huser, hcidr, hresources⟩

/-- A class without its name has all that it was made from. -/
theorem spec_injective {c d : ClassContent}
    (h : c.spec.erase ClassSpec.nameField = d.spec.erase ClassSpec.nameField) : c = d := by
  have hheld := c.heldBy_spec.withoutName
  rw [h] at hheld
  exact hheld.unique d.heldBy_spec.withoutName

def traits (c : ClassContent) (provider : Provider) (version : VersionMarker) : ClassTraits :=
  ⟨provider, version, c.ns, c.region, c.zone, c.machineType, c.image, Utf8.encode c.userData,
    c.podNetworkCidr, c.resources⟩

end ClassContent

theorem InfrastructureStatus.nodeResources_of_openStackResources
    {status : Option InfrastructureStatus} {resources : OpenStackResources}
    (h : openStackResources status = .ok resources) :
    status.bind nodeResources = some resources := by
  unfold openStackResources at h
  split at h
  · contradiction
  · split at h
    · contradiction
    · rename_i s _ group hg
      split at h
      · contradiction
      · split at h
        · contradiction
        · simp [nodeResources, hg, Except.ok.inj h]

namespace Planner
variable {p q : Planner} {pool other : Pool} {image shown : ResolvedImage} {zone place : String}

theorem traits_of_content {c : ClassContent}
    (h : p.provider.content (p.classInput pool image zone) = .ok c) :
    p.traits pool image zone = c.traits p.provider p.version := by
  obtain ⟨resources, userData, hr, hu, rfl⟩ := Provider.content_eq_ok_iff.1 h
  simp only [traits, ClassContent.traits, classInput, ClassTraits.mk.injEq, true_and]
  refine ⟨Pool.userData_of_text hu, ?_⟩
  rcases Provider.resources_cases hr with ⟨hp, rfl⟩ | ⟨hp, found, rfl, hfound⟩
  · rw [hp]
  · rw [hp]
    exact InfrastructureStatus.nodeResources_of_openStackResources hfound

/-- Only with one provider does a class refer to resources for nodes. -/
theorem provider_of_content {c : ClassContent}
    (h : p.provider.content (p.classInput pool image zone) = .ok c) :
    p.provider = if c.resources.isSome then .openStack else .kubeVirt := by
  obtain ⟨resources, -, hr, -, rfl⟩ := Provider.content_eq_ok_iff.1 h
  rcases Provider.resources_cases hr with ⟨hp, rfl⟩ | ⟨hp, found, rfl, -⟩ <;> rw [hp] <;> rfl

/-- The hashed bytes tell exactly as much as the traits. -/
theorem hashedBytes_eq_iff {c d : ClassContent}
    (hc : p.provider.content (p.classInput pool image zone) = .ok c)
    (hd : q.provider.content (q.classInput other shown place) = .ok d) :
    c.spec.hashedBytes p.version = d.spec.hashedBytes q.version ↔
      p.traits pool image zone = q.traits other shown place := by
  rw [traits_of_content hc, traits_of_content hd]
  constructor
  · intro h
    obtain ⟨hversion, hspec⟩ := ClassSpec.hashedBytes_inj c.fits_spec.exact d.fits_spec.exact h
    obtain rfl := ClassContent.spec_injective hspec
    rw [provider_of_content hc, provider_of_content hd, hversion]
  · intro h
    simp only [ClassContent.traits, ClassTraits.mk.injEq] at h
    obtain ⟨-, hversion, hns, hregion, hzone, hmachine, himage, huser, hcidr, hresources⟩ := h
    have hsame : c = d := by
      obtain ⟨⟩ := c
      obtain ⟨⟩ := d
      simp only [ClassContent.mk.injEq]
      exact ⟨hregion, hzone, hmachine, himage, hns, Utf8.encode_injective huser, hcidr, hresources⟩
    rw [hsame, hversion]

end Planner

/-- The class that a plan has for the zone at an index of a pool, and what it was made from. -/
structure PlacedClass (p : Planner) (plan : Plan) (pool : Pool) (index : Nat) where
  zone : String
  image : ResolvedImage
  spec : ClassSpec
  planned : PlannedZone
  inPool : pool.zones[index]? = some zone
  resolved : (p.resolver.resolve (p.imageIdentity pool)).result = .ok image
  built : p.provider.build (p.classInput pool image zone) = .ok spec
  inPlan : plan.zoneAt? pool.name index = some planned
  named : planned = p.zoneOf pool index zone spec

namespace PlacedClass
variable {p : Planner} {plan : Plan} {pool : Pool} {index : Nat}

def traits (c : PlacedClass p plan pool index) : ClassTraits := p.traits pool c.image c.zone

/-- The bytes that the name of the class has a digest of. -/
def hashed (c : PlacedClass p plan pool index) : Bytes := c.spec.hashedBytes p.version

theorem name_eq (c : PlacedClass p plan pool index) :
    c.planned.machineClass.name =
      c.planned.deployment.name ++ "-" ++ ClassSpec.suffix c.hashed := by
  rw [hashed, ← ClassSpec.fingerprint_eq_suffix, c.named]
  rfl

theorem hashed_eq_iff {q : Planner} {other : Plan} {pool' : Pool} {index' : Nat}
    (c : PlacedClass p plan pool index) (d : PlacedClass q other pool' index') :
    c.hashed = d.hashed ↔ c.traits = d.traits := by
  obtain ⟨_, hc, hcs⟩ := Provider.build_eq_ok_iff.1 c.built
  obtain ⟨_, hd, hds⟩ := Provider.build_eq_ok_iff.1 d.built
  rw [hashed, hashed, hcs, hds]
  exact Planner.hashedBytes_eq_iff hc hd

/-- Every zone of every pool has its class in the plan. -/
theorem exists_of_plan {pools : List Pool} (h : (p.plan pools).result = .ok plan)
    (hp : pool ∈ pools) (hi : index < pool.zones.length) :
    Nonempty (PlacedClass p plan pool index) := by
  have hzone : pool.zones[index]? = some pool.zones[index] := List.getElem?_eq_getElem hi
  obtain ⟨image, z, hf, hz, spec, hb, he⟩ := Planner.exists_zoneAt? h hp hzone
  exact ⟨_, image, spec, z, hzone, ImageResolver.resolve_eq_ok_iff.2 hf, hb, hz, he⟩

end PlacedClass

/-- Different messages of whose digests the kept bytes are the same. -/
def Sha256.Collision (a b : Bytes) : Prop :=
  a ≠ b ∧ (digest a).take ClassSpec.fingerprintLength = (digest b).take ClassSpec.fingerprintLength

/-- Two classes have one fingerprint exactly if they have the same traits, collisions of the digest
apart. -/
theorem fingerprints_detect_change {p q : Planner} {pools others : List Pool} {plan other : Plan}
    (hp : (p.plan pools).result = .ok plan) (hq : (q.plan others).result = .ok other)
    {a b : Pool} (ha : a ∈ pools) (hb : b ∈ others) {i j : Nat} (hi : i < a.zones.length)
    (hj : j < b.zones.length) :
    ∃ (c : PlacedClass p plan a i) (d : PlacedClass q other b j),
      (c.hashed = d.hashed ↔ c.traits = d.traits) ∧
      c.planned.machineClass.name = c.planned.deployment.name ++ "-" ++ ClassSpec.suffix c.hashed ∧
      d.planned.machineClass.name = d.planned.deployment.name ++ "-" ++ ClassSpec.suffix d.hashed ∧
      (ClassSpec.suffix c.hashed).length = 16 ∧ (ClassSpec.suffix d.hashed).length = 16 ∧
      (c.traits = d.traits → ClassSpec.suffix c.hashed = ClassSpec.suffix d.hashed) ∧
      (c.traits ≠ d.traits → ClassSpec.suffix c.hashed = ClassSpec.suffix d.hashed →
        Sha256.Collision c.hashed d.hashed) := by
  obtain ⟨c⟩ := PlacedClass.exists_of_plan hp ha hi
  obtain ⟨d⟩ := PlacedClass.exists_of_plan hq hb hj
  have heq := c.hashed_eq_iff d
  refine ⟨c, d, heq, c.name_eq, d.name_eq, ClassSpec.length_suffix _, ClassSpec.length_suffix _,
    ?_, ?_⟩
  · intro h
    rw [heq.2 h]
  · intro hne hs
    exact ⟨fun h => hne (heq.1 h), ClassSpec.suffix_eq_iff.1 hs⟩

/-- Other credentials and another place where the image is found do not replace a machine. -/
theorem fingerprint_kept_with_other_credentials :
    ∃ plan other,
      ((Sample.planner ⟨"a", "b"⟩ ⟨Sample.config, .empty⟩).plan [Sample.pool]).result = .ok plan ∧
      ((Sample.planner ⟨"c", "d"⟩ ⟨.empty, .ofList Sample.config.images⟩).plan
        [Sample.pool]).result = .ok other ∧
      ∃ y z, plan.zoneAt? "workers" 0 = some y ∧ other.zoneAt? "workers" 0 = some z ∧
        y.machineClass.name = z.machineClass.name := by
  have hfound : (ImageResolver.mk Sample.config .empty).find? Sample.identity =
      some ⟨Sample.identity, "linux-1"⟩ := rfl
  have hkept : (ImageResolver.mk .empty (.ofList Sample.config.images)).find? Sample.identity =
      some ⟨Sample.identity, "linux-1"⟩ := rfl
  obtain ⟨plan, hp⟩ := Sample.exists_plan ⟨"a", "b"⟩ hfound
  obtain ⟨other, hq⟩ := Sample.exists_plan ⟨"c", "d"⟩ hkept
  obtain ⟨c, d, -, hc, hd, -, -, hsame, -⟩ := fingerprints_detect_change hp hq List.mem_cons_self
    List.mem_cons_self (i := 0) (j := 0) (by decide) (by decide)
  have himage : c.image = d.image := by
    have hci := ImageResolver.resolve_eq_ok_iff.1 c.resolved
    have hdi := ImageResolver.resolve_eq_ok_iff.1 d.resolved
    exact Option.some.inj (hci.symm.trans (hfound.trans (hkept.symm.trans hdi)))
  have hzone : c.zone = d.zone := Option.some.inj (c.inPool.symm.trans d.inPool)
  have htraits : c.traits = d.traits := by
    rw [PlacedClass.traits, PlacedClass.traits, himage, hzone]
    rfl
  have hname : c.planned.deployment.name = d.planned.deployment.name := by
    rw [c.named, d.named, Planner.deploymentName_zoneOf, Planner.deploymentName_zoneOf]
    rfl
  refine ⟨plan, other, hp, hq, c.planned, d.planned, c.inPlan, d.inPlan, ?_⟩
  rw [hc, hd, hsame htraits, hname]

end PoolPlan
