import PoolPlan.Proofs.Run.Stages

namespace PoolPlan

/-- The fields of a class that refer to the infrastructure have the names of the resources. -/
structure ClassSpec.RefersTo (spec : ClassSpec) (resources : OpenStackResources) : Prop where
  keyName : spec.get? "keyName" = some (.string resources.keyName)
  networkId : spec.get? "networkID" = some (.string resources.networkId)
  securityGroups : spec.get? "securityGroups" = some (.strings [resources.securityGroup])

def ClassSpec.RefersToNamed (spec : ClassSpec) : Prop :=
  ∃ resources, spec.RefersTo resources ∧
    resources.keyName ≠ "" ∧ resources.networkId ≠ "" ∧ resources.securityGroup ≠ ""

namespace ClassSpec
variable {spec : ClassSpec} {resources : OpenStackResources}

theorem RefersTo.securityGroup_eq {other : OpenStackResources} (h : spec.RefersTo resources)
    (hother : spec.RefersTo other) : resources.securityGroup = other.securityGroup := by
  have hsame := h.securityGroups.symm.trans hother.securityGroups
  simpa [Json.strings] using hsame

/-- With a key pair and a network that are named, it is left to the security group. -/
theorem RefersTo.named_iff (h : spec.RefersTo resources) (hkey : resources.keyName ≠ "")
    (hnetwork : resources.networkId ≠ "") :
    spec.RefersToNamed ↔ resources.securityGroup ≠ "" := by
  constructor
  · rintro ⟨other, hother, -, -, hgroup⟩
    exact h.securityGroup_eq hother ▸ hgroup
  · intro hgroup
    exact ⟨resources, h, hkey, hnetwork, hgroup⟩

/-- The credentials are put beside the references. -/
theorem refersTo_attachCredentials {content : ClassContent} (h : content.resources = some resources)
    (c : Credentials) : (content.spec.attachCredentials c).RefersTo resources := by
  have hheld := content.heldBy_spec
  have hkey := hheld.keyName
  have hnetwork := hheld.networkId
  have hgroups := hheld.securityGroups
  rw [h, Option.map_some] at hkey hnetwork hgroups
  rw [attachCredentials_spec]
  constructor
  all_goals
    simpa [get?_insert, secretField]

end ClassSpec

namespace InfrastructureStatus

/-- There are resources for classes if all three are there: then the security group is the first one for
nodes. -/
theorem openStackResources_eq_ok_iff {status : Option InfrastructureStatus}
    {resources : OpenStackResources} :
    openStackResources status = .ok resources ↔
      ∃ s group, status = some s ∧ s.securityGroup? nodesPurpose = some group ∧ s.keyName ≠ "" ∧
        s.networkId ≠ "" ∧ resources = ⟨group.name, s.keyName, s.networkId⟩ := by
  cases status with
  | none => simp [openStackResources]
  | some s =>
    cases hgroup : s.securityGroup? nodesPurpose with
    | none => simp [openStackResources, hgroup]
    | some group =>
      by_cases hkey : s.keyName = ""
      · simp [openStackResources, hgroup, hkey]
      · by_cases hnetwork : s.networkId = ""
        · simp [openStackResources, hgroup, hkey, hnetwork]
        · simp [openStackResources, hgroup, hkey, hnetwork, eq_comm (a := resources)]

end InfrastructureStatus

namespace Planner
variable {p : Planner} {pools : List Pool}

theorem refersTo_of_mem_classes (hprovider : p.provider = .openStack) {plan : Plan}
    (h : (p.plan pools).result = .ok plan) {c : MachineClass} (hc : c ∈ plan.classes) :
    ∃ resources, InfrastructureStatus.openStackResources p.context.infrastructure = .ok resources ∧
      c.spec.RefersTo resources := by
  obtain ⟨z, hz, rfl⟩ := List.mem_map.1 hc
  obtain ⟨pool, -, image, -, zone, -, hplanned⟩ := exists_of_mem_zones h hz
  obtain ⟨content, hcontent, rfl⟩ := zonePlanned_iff.1 hplanned
  obtain ⟨resources, _, hresources, -, rfl⟩ := Provider.content_eq_ok_iff.1 hcontent
  rcases Provider.resources_cases hresources with ⟨hother, -⟩ | ⟨-, found, rfl, hfound⟩
  · rw [hprovider] at hother
    cases hother
  · exact ⟨found, hfound, ClassSpec.refersTo_attachCredentials rfl p.credentials⟩

/-- What is missing of the infrastructure is missed by the first pool, if the pool's image is known. -/
theorem missingResource_of_not_complete (hprovider : p.provider = .openStack) (hpools : pools ≠ [])
    (hv : Pool.validateAll pools = .ok ()) (hknown : ∀ pool ∈ pools, p.Knows pool)
    (hmissing : ¬∃ s, p.context.infrastructure = some s ∧ s.Complete) :
    ∃ resource detail, (p.plan pools).result = .error (.missingResource resource detail) := by
  obtain ⟨pool, rest, rfl⟩ := List.exists_cons_of_ne_nil hpools
  rw [← InfrastructureStatus.missing_eq_nil_iff] at hmissing
  obtain ⟨failure, others, hlist⟩ := List.exists_cons_of_ne_nil hmissing
  obtain ⟨resource, detail, rfl⟩ :=
    InfrastructureStatus.missingResource_of_mem_missing (hlist ▸ List.mem_cons_self)
  have hfirst : (p.problems pool).head? = some (.missingResource resource detail) := by
    simp only [problems, classProblems, if_pos (hknown pool List.mem_cons_self), hprovider, hlist]
    rfl
  refine ⟨resource, detail, plan_eq_error_iff.2 (.inr ⟨hv, [], pool, rest, rfl, ?_, hfirst⟩)⟩
  exact List.forall_mem_nil _

end Planner

namespace Run
variable {r : Run}

def Finds (r : Run) (s : InfrastructureStatus) : Prop :=
  ∃ document, r.worker.spec.infrastructureProviderStatus = some document ∧
    StatusDecoder.json.infrastructure document.bytes = .ok s

theorem Gathered.finds_iff {s : PlanSetting} (h : r.Gathered s) {status : InfrastructureStatus} :
    r.Finds status ↔ s.context.infrastructure = some status := by
  have hfinds : r.Finds status ↔ (r.worker.spec.infrastructureProviderStatus.map fun document =>
      StatusDecoder.json.infrastructure document.bytes) = some (.ok status) :=
    Option.map_eq_some_iff.symm
  rw [hfinds, h.infrastructure, Option.map_eq_some_iff]
  simp

theorem Gathered.imageIdentity_eq {s : PlanSetting} (h : r.Gathered s) (resolver : ImageResolver)
    (pool : Pool) : (s.planner resolver).imageIdentity pool = r.imageIdentity pool := by
  simp only [Planner.imageIdentity, PlanSetting.planner, h.cloudProfile, imageIdentity]

theorem refersTo_of_mem_classes (hprovider : r.provider = .openStack) {plan : Plan}
    (h : r.outcome = .ok plan) {c : MachineClass} (hc : c ∈ plan.classes) :
    ∃ s group, r.Finds s ∧ s.securityGroup? InfrastructureStatus.nodesPurpose = some group ∧
      s.keyName ≠ "" ∧ s.networkId ≠ "" ∧
        c.spec.RefersTo ⟨group.name, s.keyName, s.networkId⟩ := by
  obtain ⟨setting, hgathered, hplan⟩ := outcome_of_passes (passes_of_outcome h)
  obtain ⟨resources, hresources, hrefers⟩ := Planner.refersTo_of_mem_classes
    (hgathered.provider.trans hprovider) (hplan.symm.trans h) hc
  obtain ⟨s, group, hs, hgroup, hkey, hnetwork, rfl⟩ :=
    InfrastructureStatus.openStackResources_eq_ok_iff.1 hresources
  exact ⟨s, group, hgathered.finds_iff.2 hs, hgroup, hkey, hnetwork, hrefers⟩

/-- An OpenStack class has the names of the key pair, of the network and of the first security group for
nodes, of which only that of the group may be empty. Pools that nothing else is wrong with fail if one of
the three is missing. -/
theorem classes_refer_to_infrastructure (r : Run) (hprovider : r.provider = .openStack) :
    (∀ plan, r.outcome = .ok plan → ∀ c ∈ plan.classes, ∃ s group, r.Finds s ∧
        s.securityGroup? InfrastructureStatus.nodesPurpose = some group ∧
        s.keyName ≠ "" ∧ s.networkId ≠ "" ∧
        c.spec.RefersTo ⟨group.name, s.keyName, s.networkId⟩ ∧
        (c.spec.RefersToNamed ↔ group.name ≠ "")) ∧
      ((∀ stage, r.Passes stage) → r.pools ≠ [] → Pool.validateAll r.pools = .ok () →
        (∀ pool ∈ r.pools, ∃ image, r.lookUp (r.imageIdentity pool) = .ok image) →
        (∀ s, r.Finds s → ¬s.Complete) →
          ∃ resource detail, r.outcome = .error (.missingResource resource detail)) := by
  constructor
  · intro plan h c hc
    obtain ⟨s, group, hs, hgroup, hkey, hnetwork, hrefers⟩ := refersTo_of_mem_classes hprovider h hc
    exact ⟨s, group, hs, hgroup, hkey, hnetwork, hrefers, hrefers.named_iff hkey hnetwork⟩
  · intro hpasses hpools hv himages hmissing
    obtain ⟨setting, hgathered, hplan⟩ := outcome_of_passes hpasses
    have hreadable := readable_of_passes (hpasses .images)
    rw [hplan]
    apply Planner.missingResource_of_not_complete (hgathered.provider.trans hprovider) hpools hv
    · intro pool hpool
      obtain ⟨image, himage⟩ := himages pool hpool
      rw [lookUp_eq_ok_iff hreadable, ← hgathered.imageIdentity_eq r.resolver] at himage
      exact Planner.knows_iff.2 (Option.isSome_of_eq_some himage)
    · rintro ⟨s, hs, hcomplete⟩
      exact hmissing s (hgathered.finds_iff.2 hs) hcomplete

end Run

namespace Sample

def infrastructure (group keyName : String) : InfrastructureStatus :=
  ⟨"", "InfrastructureStatus", [⟨"nodes", group⟩], keyName, "network"⟩

def openStackRun (s : InfrastructureStatus) : Run :=
  { run config none with
    provider := .openStack
    worker.spec.infrastructureProviderStatus := some s.toJson }

def openStackSetting (s : InfrastructureStatus) : PlanSetting :=
  { setting with context.infrastructure := some s, provider := .openStack }

section
variable {s : InfrastructureStatus}

theorem setting_openStackRun (hkind : s.kind = "InfrastructureStatus") :
    (openStackRun s).setting = .ok (openStackSetting s) := by
  have hcredentials : ((openStackRun s).reconciler.credentials (openStackRun s).worker false).result =
      .ok ⟨"config", "machines"⟩ := credentials_run config none
  have hinfrastructure : (openStackRun s).reconciler.infrastructure (openStackRun s).worker =
      .ok (some s) := by
    have hfound : (openStackRun s).worker.spec.infrastructureProviderStatus = some s.toJson := rfl
    have hdecoded : (openStackRun s).reconciler.decoder.infrastructure s.toJson.bytes = .ok s :=
      StatusDecoder.infrastructure_toJson (.inr hkind)
    simp only [Reconciler.infrastructure, hfound, hdecoded]
  simp only [Run.setting, Reconciler.setting]
  rw [show (openStackRun s).worker.planNamespace = .ok "shoot" from rfl,
    show (openStackRun s).cluster = ⟨"1.29.4", none⟩ from rfl, marker_run,
    show (openStackRun s).cancelled = false from rfl, hcredentials, hinfrastructure]
  rfl

theorem readable_openStackRun (s : InfrastructureStatus) : Readable (openStackRun s).found :=
  readable_none

theorem passes_openStackRun (hkind : s.kind = "InfrastructureStatus") (stage : Stage) :
    (openStackRun s).Passes stage := by
  cases stage with
  | images =>
    intro failure hf
    cases hf with
    | images h _ => cases h
  | _ => exact Run.passes_of_setting (setting_openStackRun hkind) (by decide)

theorem eq_of_finds (hkind : s.kind = "InfrastructureStatus") {other : InfrastructureStatus}
    (h : (openStackRun s).Finds other) : other = s := by
  obtain ⟨document, hdocument, hdecoded⟩ := h
  obtain rfl : s.toJson = document := Option.some.inj hdocument
  rw [StatusDecoder.infrastructure_toJson (.inr hkind)] at hdecoded
  exact (Except.ok.inj hdecoded).symm

/-- With all that is needed of the infrastructure there is a plan, and it has a class. -/
theorem exists_class (hkind : s.kind = "InfrastructureStatus") (hs : s.Complete) :
    ∃ plan, (openStackRun s).outcome = .ok plan ∧ ∃ c, c ∈ plan.classes := by
  have hproblems : ∀ q ∈ [pool],
      ((openStackSetting s).planner (openStackRun s).resolver).problems q = [] := by
    intro q hq
    obtain rfl := List.mem_singleton.1 hq
    exact Planner.problems_eq_nil_iff.2 ⟨.inl List.mem_cons_self, ⟨"boot", rfl⟩, fun _ => ⟨s, rfl, hs⟩⟩
  obtain ⟨plan, hplan⟩ := Planner.exists_plan_iff.2 ⟨rfl, hproblems⟩
  have houtcome : (openStackRun s).outcome = .ok plan :=
    (Run.outcome_eq_ok_iff (readable_openStackRun s)).2 ⟨_, setting_openStackRun hkind, hplan⟩
  obtain ⟨_, z, -, hz, -⟩ := Planner.exists_zoneAt? hplan List.mem_cons_self
    (show pool.zones[0]? = some "a" from rfl)
  have hmem : z ∈ plan.zones := List.mem_of_mem_filter (List.mem_of_getElem? hz)
  exact ⟨plan, houtcome, z.machineClass, List.mem_map_of_mem hmem⟩

end

/-- The name of the security group is in the class, and without a key pair there is none. -/
theorem class_refers_to_named_group :
    (∃ plan c, (openStackRun (infrastructure "group" "key")).outcome = .ok plan ∧
      c ∈ plan.classes ∧ c.spec.RefersTo ⟨"group", "key", "network"⟩ ∧ c.spec.RefersToNamed) ∧
    ∃ resource detail, (openStackRun (infrastructure "group" "")).outcome =
      .error (.missingResource resource detail) := by
  constructor
  · obtain ⟨hclasses, -⟩ :=
      (openStackRun (infrastructure "group" "key")).classes_refer_to_infrastructure rfl
    obtain ⟨plan, hplan, c, hc⟩ := exists_class (s := infrastructure "group" "key") rfl
      ⟨⟨_, List.mem_cons_self, rfl⟩, by decide, by decide⟩
    obtain ⟨s, group, hs, hgroup, -, -, hrefers, hnamed⟩ := hclasses plan hplan c hc
    obtain rfl := eq_of_finds rfl hs
    obtain rfl : ⟨"nodes", "group"⟩ = group := Option.some.inj hgroup
    exact ⟨plan, c, hplan, hc, hrefers, hnamed.2 (by decide)⟩
  · obtain ⟨-, hmissing⟩ :=
      (openStackRun (infrastructure "group" "")).classes_refer_to_infrastructure rfl
    refine hmissing (passes_openStackRun rfl) (List.cons_ne_nil _ _) rfl ?_ ?_
    · intro q hq
      obtain rfl := List.mem_singleton.1 hq
      exact ⟨⟨identity, "linux-1"⟩, (Run.lookUp_eq_ok_iff (readable_openStackRun _)).2 rfl⟩
    · intro s hs hcomplete
      obtain rfl := eq_of_finds rfl hs
      exact hcomplete.keyName rfl

/-- A security group without a name is not missed: it is what the class refers to. -/
theorem class_refers_to_unnamed_group :
    ¬∀ (r : Run) (plan : Plan), r.provider = .openStack → r.outcome = .ok plan →
      ∀ c ∈ plan.classes, c.spec.RefersToNamed := by
  intro h
  obtain ⟨plan, hplan, c, hc⟩ := exists_class (s := infrastructure "" "key") rfl
    ⟨⟨_, List.mem_cons_self, rfl⟩, by decide, by decide⟩
  obtain ⟨s, group, hs, hgroup, hkey, hnetwork, hrefers⟩ := Run.refersTo_of_mem_classes rfl hplan hc
  obtain rfl := eq_of_finds rfl hs
  obtain rfl : ⟨"nodes", ""⟩ = group := Option.some.inj hgroup
  exact (hrefers.named_iff hkey hnetwork).1 (h _ plan rfl hplan c hc) rfl

end Sample
end PoolPlan
