import PoolPlan.Proofs.Plan.Classes
import PoolPlan.Proofs.Plan.Ledger
import PoolPlan.Proofs.Reconcile

namespace PoolPlan

/-- One run for a worker as it stands then, with all that the run is given. -/
structure Run where
  secrets : SecretStore
  config : ImageConfig
  provider : Provider
  cloudProfile : String
  worker : Worker
  cluster : ClusterInfo
  cancelled : Bool

def imagesIn : Option Json → List ResolvedImage
  | none => []
  | some document =>
    match StatusDecoder.json.worker document.bytes with
    | .ok status => status.machineImages
    | .error _ => []

def identitiesIn (document : Option Json) : List ImageIdentity :=
  (imagesIn document).map ResolvedImage.identity

def ledgerIn (document : Option Json) : ImageLedger := .ofList (imagesIn document)

/-- There is no document, or it is a status. -/
def Readable (document : Option Json) : Prop :=
  ∀ d ∈ document, ∃ status, StatusDecoder.json.worker d.bytes = .ok status

namespace Run

def reconciler (r : Run) : Reconciler := ⟨r.secrets, .json, r.config, r.provider, r.cloudProfile⟩

def outcome (r : Run) : Except Failure Plan :=
  (r.reconciler.plan r.worker r.cluster r.cancelled).result

def Succeeds (r : Run) : Prop := ∃ plan, r.outcome = .ok plan

/-- The status document before the run. -/
def found (r : Run) : Option Json := r.worker.status.bind WorkerObjectStatus.providerStatus

/-- The status document after the run. -/
def left (r : Run) : Option Json :=
  match r.outcome with
  | .ok plan => some plan.status.stored
  | .error _ => r.found

def pools (r : Run) : List Pool := r.worker.spec.pools

def imageIdentity (r : Run) (pool : Pool) : ImageIdentity :=
  ⟨pool.machineImage.name, pool.machineImage.version, r.cloudProfile⟩

/-- Some pool of the run asks for the identity. -/
def Uses (r : Run) (identity : ImageIdentity) : Prop :=
  ∃ pool ∈ r.pools, r.imageIdentity pool = identity

/-- What the run finds for an identity, whether a pool asks for it or not. -/
def lookUp (r : Run) (identity : ImageIdentity) : Except Failure ResolvedImage :=
  ImageResolver.ofStatus r.config r.worker.persistedStatus .json >>= fun resolver =>
    (resolver.resolve identity).result

def resolver (r : Run) : ImageResolver := ⟨r.config, ledgerIn r.found⟩

def setting (r : Run) : Except Failure PlanSetting :=
  r.reconciler.setting r.worker r.cluster r.cancelled

end Run

theorem readable_none : Readable none := by simp [Readable]

theorem ofStatus_of_readable {document : Option Json} (h : Readable document)
    (config : ImageConfig) :
    ImageResolver.ofStatus config (document.map Json.bytes) .json =
      .ok ⟨config, ledgerIn document⟩ := by
  cases document with
  | none => rfl
  | some d =>
    obtain ⟨status, hs⟩ := h d rfl
    simp only [Option.map_some, ImageResolver.ofStatus, hs, ledgerIn, imagesIn]

theorem imagesIn_stored (images : List ResolvedImage) :
    imagesIn (some (WorkerStatus.ofImages images).stored) = images := by
  simp only [imagesIn, StatusDecoder.worker_stored]
  rfl

namespace Run
variable {r : Run}

theorem lookUp_eq_ok_iff (h : Readable r.found) {identity : ImageIdentity} {image : ResolvedImage} :
    r.lookUp identity = .ok image ↔ r.resolver.find? identity = some image := by
  rw [lookUp, Worker.persistedStatus, ← found, ofStatus_of_readable h, ok_bind,
    ImageResolver.resolve_eq_ok_iff, resolver]

theorem outcome_eq_ok_iff (h : Readable r.found) {plan : Plan} :
    r.outcome = .ok plan ↔
      ∃ s, r.setting = .ok s ∧ ((s.planner r.resolver).plan r.pools).result = .ok plan := by
  have hs : ImageResolver.ofStatus r.reconciler.config r.worker.persistedStatus
      r.reconciler.decoder = .ok r.resolver := ofStatus_of_readable h r.config
  simp only [outcome, Reconciler.plan_eq_ok_iff, hs, Except.ok.injEq, exists_eq_left', setting,
    pools]

/-- A run can only succeed on a status that it can read. -/
theorem readable_of_outcome {plan : Plan} (h : r.outcome = .ok plan) : Readable r.found := by
  obtain ⟨-, -, resolver, hstatus, -⟩ := Reconciler.plan_eq_ok_iff.1 h
  intro document hd
  have hbytes : r.worker.persistedStatus = some document.bytes := by
    rw [Worker.persistedStatus, ← found, hd, Option.map_some]
  rw [hbytes, ImageResolver.ofStatus] at hstatus
  split at hstatus
  · rename_i status hs
    exact ⟨status, hs⟩
  · contradiction

theorem imageIdentity_eq {s : PlanSetting} (hs : r.setting = .ok s) (resolver : ImageResolver)
    (pool : Pool) : (s.planner resolver).imageIdentity pool = r.imageIdentity pool := by
  have hc : s.context.cloudProfile = r.cloudProfile := Reconciler.context_of_setting hs
  simp only [Planner.imageIdentity, PlanSetting.planner, hc, imageIdentity]

theorem left_of_ok {plan : Plan} (h : r.outcome = .ok plan) : r.left = some plan.status.stored := by
  simp only [left, h]

theorem left_of_not_succeeds (h : ¬r.Succeeds) : r.left = r.found := by
  unfold left
  split
  · rename_i plan hp
    exact absurd ⟨plan, hp⟩ h
  · rfl

/-- What a run leaves can be read if what it found could. -/
theorem readable_left (h : Readable r.found) : Readable r.left := by
  by_cases hr : r.Succeeds
  · obtain ⟨plan, hp⟩ := hr
    rw [left_of_ok hp]
    rintro d hd
    obtain rfl := Option.some.inj hd
    exact ⟨_, StatusDecoder.worker_stored plan.images.images⟩
  · rwa [left_of_not_succeeds hr]

theorem imagesIn_left {plan : Plan} (h : r.outcome = .ok plan) :
    imagesIn r.left = plan.images.images := by
  rw [left_of_ok h]
  exact imagesIn_stored plan.images.images

/-- The next run has the ledger of the plan, entry by entry. -/
theorem ledgerIn_left {plan : Plan} (h : r.outcome = .ok plan) : ledgerIn r.left = plan.images := by
  rw [ledgerIn, imagesIn_left h, ImageLedger.ofList_images]

/-- The identities of a plan's ledger: those before, and those new to it in order of first use. -/
theorem identities_of_outcome (hr : Readable r.found) {plan : Plan} (h : r.outcome = .ok plan) :
    plan.images.identities = (ledgerIn r.found).identities ++
      ((r.pools.map r.imageIdentity).removeAll (ledgerIn r.found).identities).eraseDups := by
  obtain ⟨s, hs, hp⟩ := (outcome_eq_ok_iff hr).1 h
  have hid : r.pools.map (s.planner r.resolver).imageIdentity = r.pools.map r.imageIdentity :=
    List.map_congr_left fun pool _ => imageIdentity_eq hs r.resolver pool
  rw [Planner.identities_of_plan hp, hid]
  rfl

/-- An identity that pools ask for has its image from the look-up in the ledger afterwards. -/
theorem find?_of_uses (hr : Readable r.found) {plan : Plan} (h : r.outcome = .ok plan)
    {identity : ImageIdentity} (hu : r.Uses identity) :
    ∃ image, r.resolver.find? identity = some image ∧ plan.images.find? identity = some image := by
  obtain ⟨s, hs, hp⟩ := (outcome_eq_ok_iff hr).1 h
  obtain ⟨pool, hpool, rfl⟩ := hu
  rw [← imageIdentity_eq hs r.resolver pool]
  exact Planner.find?_images_of_mem hp hpool

/-- An identity that no pool asks for keeps what it had. -/
theorem find?_of_not_uses (hr : Readable r.found) {plan : Plan} (h : r.outcome = .ok plan)
    {identity : ImageIdentity} (hu : ¬r.Uses identity) :
    plan.images.find? identity = (ledgerIn r.found).find? identity := by
  obtain ⟨s, hs, hp⟩ := (outcome_eq_ok_iff hr).1 h
  apply Planner.find?_images_of_not_mem hp
  intro hused
  obtain ⟨pool, hpool, he⟩ := List.mem_map.1 hused
  exact hu ⟨pool, hpool, (imageIdentity_eq hs r.resolver pool).symm.trans he⟩

end Run

namespace Sample

def data (kubeconfig ns : String) : SecretData :=
  [("kubeconfig", Utf8.encode kubeconfig), ("namespace", Utf8.encode ns)]

theorem ofSecretData_data (secret : String) {kubeconfig ns : String}
    (hk : (Utf8.encode kubeconfig).isEmpty = false) (hn : (Utf8.encode ns).isEmpty = false) :
    Credentials.ofSecretData secret (data kubeconfig ns) = .ok ⟨kubeconfig, ns⟩ := by
  simp [data, Credentials.ofSecretData, Credentials.required, Credentials.text,
    Credentials.kubeconfigKey, Credentials.namespaceKey, Dict.get?_cons, hk, hn, pure, Except.pure]

def secrets : StaticSecrets := ⟨[("default/access", data "config" "machines")]⟩

def run (config : ImageConfig) (document : Option Json) : Run where
  secrets := secrets.store
  config := config
  provider := .kubeVirt
  cloudProfile := "cloud"
  worker := ⟨{ name := some "worker", ns := some "shoot" },
    ⟨"region", ⟨some "access", none⟩, none, [pool]⟩, document.map fun d => ⟨some d⟩⟩
  cluster := ⟨"1.29.4", none⟩
  cancelled := false

theorem found_run (config : ImageConfig) (document : Option Json) :
    (run config document).found = document := by
  cases document <;> rfl

def setting : PlanSetting :=
  ⟨⟨"shoot", "region", "cloud", none, none⟩, ⟨1, 29⟩, .kubeVirt, ⟨"config", "machines"⟩⟩

theorem marker_run : ClusterInfo.marker ⟨"1.29.4", none⟩ = .ok ⟨1, 29⟩ := by
  rw [ClusterInfo.marker, show VersionMarker.ofVersion "1.29.4" = .ok ⟨1, 29⟩ from rfl]

theorem credentials_run (config : ImageConfig) (document : Option Json) :
    ((run config document).reconciler.credentials (run config document).worker false).result =
      .ok ⟨"config", "machines"⟩ := by
  have hsecret : secrets.get ⟨some "access", none⟩ = .ok (data "config" "machines") := rfl
  simp [Reconciler.credentials, run, Run.reconciler, StaticSecrets.store, hsecret,
    ofSecretData_data _ (show (Utf8.encode "config").isEmpty = false from rfl)
      (show (Utf8.encode "machines").isEmpty = false from rfl)]

theorem setting_run (config : ImageConfig) (document : Option Json) :
    (run config document).setting = .ok setting := by
  simp only [Run.setting, Reconciler.setting]
  rw [show (run config document).worker.planNamespace = .ok "shoot" from rfl,
    show (run config document).cluster = ⟨"1.29.4", none⟩ from rfl, marker_run,
    show (run config document).cancelled = false from rfl, credentials_run,
    show (run config document).reconciler.infrastructure (run config document).worker = .ok none
      from rfl]
  rfl

/-- The run succeeds if it finds the image of its pool. -/
theorem succeeds_run (config : ImageConfig) {document : Option Json} (hd : Readable document)
    {image : ResolvedImage}
    (hf : (ImageResolver.mk config (ledgerIn document)).find? identity = some image) :
    (run config document).Succeeds := by
  have hfound : Readable (run config document).found := by rwa [found_run]
  have hresolver : (run config document).resolver = ⟨config, ledgerIn document⟩ := by
    rw [Run.resolver, found_run]
    rfl
  obtain ⟨plan, hp⟩ := exists_plan ⟨"config", "machines"⟩ hf
  rw [← hresolver] at hp
  exact ⟨plan, (Run.outcome_eq_ok_iff hfound).2 ⟨setting, setting_run config document, hp⟩⟩

end Sample
end PoolPlan
