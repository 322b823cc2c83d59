import PoolPlan.Proofs.Run.Basic
import PoolPlan.Proofs.Secret.Credentials
import PoolPlan.Proofs.Status.Refusal

namespace PoolPlan

/-- The stages before the pools are planned, in their order. -/
inductive Stage where
  | workerNamespace
  | version
  | cancellation
  | secret
  | kubeconfig
  | machineNamespace
  | infrastructure
  | images
deriving DecidableEq, Repr

instance : LT Stage := ⟨fun a b => a.ctorIdx < b.ctorIdx⟩

instance (a b : Stage) : Decidable (a < b) := inferInstanceAs (Decidable (a.ctorIdx < b.ctorIdx))

namespace Run

def trace (r : Run) : Traced Failure Plan := r.reconciler.plan r.worker r.cluster r.cancelled

def withSecrets (r : Run) (store : SecretStore) : Run := { r with secrets := store }

def reference (r : Run) : SecretReference := r.worker.spec.secretRef

def answer (r : Run) : Traced Failure SecretData := r.secrets.get r.reference

/-- What is wrong at a stage, whatever is wrong at others. -/
inductive FailsAt (r : Run) : Stage → Failure → Prop where
  | workerNamespace (h : r.worker.metadata.ns = none ∨ r.worker.metadata.ns = some "") :
      FailsAt r .workerNamespace (.validation unknownPool none "worker has no namespace")
  | version {fault : VersionMarker.Fault}
      (h : VersionMarker.ofVersion r.cluster.version = .error fault) :
      FailsAt r .version (.invalidVersion r.cluster.version fault.message)
  | cancellation (h : r.cancelled = true) : FailsAt r .cancellation (.cancelled "credentials")
  | secret {failure : Failure} (h : r.answer.result = .error failure) : FailsAt r .secret failure
  | kubeconfig {data : SecretData} {fault : Credentials.KeyFault} (h : r.answer.result = .ok data)
      (hf : Credentials.Faulty data "kubeconfig" fault) :
      FailsAt r .kubeconfig (.credentials r.reference.key (fault.message "kubeconfig"))
  | machineNamespace {data : SecretData} {fault : Credentials.KeyFault}
      (h : r.answer.result = .ok data) (hf : Credentials.Faulty data "namespace" fault) :
      FailsAt r .machineNamespace (.credentials r.reference.key (fault.message "namespace"))
  | infrastructure {document : Json} {detail : String}
      (h : r.worker.spec.infrastructureProviderStatus = some document)
      (hd : StatusDecoder.json.infrastructure document.bytes =
        .error (.statusDecode "InfrastructureStatus" detail)) :
      FailsAt r .infrastructure (.statusDecode "InfrastructureStatus" detail)
  | images {document : Json} {detail : String} (h : r.found = some document)
      (hd : StatusDecoder.json.worker document.bytes =
        .error (.statusDecode "WorkerStatus" detail)) :
      FailsAt r .images (.statusDecode "WorkerStatus" detail)

def Passes (r : Run) (stage : Stage) : Prop := ∀ failure, ¬r.FailsAt stage failure

/-- What a run that fails at a stage has reported by then. -/
def reported (r : Run) : Stage → List Event
  | .workerNamespace | .version => []
  | .cancellation => [.credentialsRead r.reference.key]
  | _ => .credentialsRead r.reference.key :: r.answer.events

/-- The setting has what the run was given, nothing of which is in the way. -/
structure Gathered (r : Run) (s : PlanSetting) : Prop where
  ns : r.worker.metadata.ns = some s.context.ns
  ns_ne : s.context.ns ≠ ""
  region : s.context.region = r.worker.spec.region
  cloudProfile : s.context.cloudProfile = r.cloudProfile
  podNetworkCidr : s.context.podNetworkCidr = r.cluster.podNetworkCidr
  version : VersionMarker.ofVersion r.cluster.version = .ok s.version
  provider : s.provider = r.provider
  credentials : ∃ data, r.answer.result = .ok data ∧
    data.get? "kubeconfig" = some (Utf8.encode s.credentials.kubeconfig) ∧
    data.get? "namespace" = some (Utf8.encode s.credentials.ns)
  infrastructure : r.worker.spec.infrastructureProviderStatus.map
    (fun document => StatusDecoder.json.infrastructure document.bytes) =
      s.context.infrastructure.map .ok

section
variable {r : Run} {failure : Failure}

theorem planNamespace_eq_error_iff :
    r.worker.planNamespace = .error failure ↔ r.FailsAt .workerNamespace failure := by
  constructor
  · intro h
    unfold Worker.planNamespace at h
    split at h
    · rename_i hns
      cases h
      exact .workerNamespace (.inl hns)
    · rename_i ns hns
      split at h
      · rename_i hempty
        cases h
        exact .workerNamespace (.inr (hempty ▸ hns))
      · cases h
  · intro h
    cases h with
    | workerNamespace h =>
      unfold Worker.planNamespace
      cases h with
      | inl h => simp only [h, Failure.invalidInput]
      | inr h => simp only [h, if_true, Failure.invalidInput]

theorem marker_eq_error_iff :
    r.cluster.marker = .error failure ↔ r.FailsAt .version failure := by
  constructor
  · intro h
    unfold ClusterInfo.marker at h
    split at h
    · cases h
    · rename_i fault hfault
      cases h
      exact .version hfault
  · intro h
    cases h with
    | version h => simp only [ClusterInfo.marker, h, Failure.ofVersionFault]

theorem infrastructure_eq_error_iff :
    r.reconciler.infrastructure r.worker = .error failure ↔ r.FailsAt .infrastructure failure := by
  constructor
  · intro h
    unfold Reconciler.infrastructure at h
    split at h
    · cases h
    · rename_i document hdocument
      split at h
      · cases h
      · rename_i other hother
        cases h
        obtain ⟨fault, rfl⟩ := StatusDecoder.exists_fault_of_decode hother
        exact .infrastructure hdocument hother
  · intro h
    cases h with
    | infrastructure h hd => simp only [Reconciler.infrastructure, h, reconciler, hd]

theorem ofStatus_eq_error_iff :
    ImageResolver.ofStatus r.config r.worker.persistedStatus .json = .error failure ↔
      r.FailsAt .images failure := by
  rw [Worker.persistedStatus, ← found]
  constructor
  · intro h
    cases hfound : r.found with
    | none =>
      rw [hfound] at h
      cases h
    | some document =>
      rw [hfound, Option.map_some, ImageResolver.ofStatus] at h
      split at h
      · cases h
      · rename_i other hother
        cases h
        obtain ⟨fault, rfl⟩ := StatusDecoder.exists_fault_of_decode hother
        exact .images hfound hother
  · intro h
    cases h with
    | images h hd => simp only [h, Option.map_some, ImageResolver.ofStatus, hd]

theorem Passes.exists_ok {α : Type} {stage : Stage} {x : Except Failure α} (h : r.Passes stage)
    (hx : ∀ failure, x = .error failure ↔ r.FailsAt stage failure) : ∃ a, x = .ok a := by
  cases x with
  | error failure => exact absurd ((hx failure).1 rfl) (h failure)
  | ok a => exact ⟨a, rfl⟩

/-- A document that passes can be read as the ledger. -/
theorem readable_of_passes (h : r.Passes .images) : Readable r.found := by
  intro document hdocument
  cases hd : StatusDecoder.json.worker document.bytes with
  | ok status => exact ⟨status, rfl⟩
  | error failure =>
    obtain ⟨fault, rfl⟩ := StatusDecoder.exists_fault_of_decode hd
    exact absurd (.images hdocument hd) (h _)

theorem credentials_of_cancelled (h : r.cancelled = true) :
    r.reconciler.credentials r.worker r.cancelled =
      ⟨[.credentialsRead r.reference.key], .error (.cancelled "credentials")⟩ := by
  rw [h]
  exact Reconciler.credentials_of_cancelled _ _

theorem credentials_of_not_cancelled (h : r.cancelled = false) :
    r.reconciler.credentials r.worker r.cancelled =
      ⟨.credentialsRead r.reference.key :: r.answer.events,
        r.answer.result >>= Credentials.ofSecretData r.reference.key⟩ := by
  rw [h]
  exact Reconciler.credentials_of_not_cancelled _ _

theorem Passes.not_cancelled (h : r.Passes .cancellation) : r.cancelled = false := by
  cases hc : r.cancelled with
  | false => rfl
  | true => exact absurd (.cancellation hc) (h _)

theorem Passes.answer (h : r.Passes .secret) : ∃ data, r.answer.result = .ok data := by
  cases ha : r.answer.result with
  | error failure => exact absurd (.secret ha) (h failure)
  | ok data => exact ⟨data, rfl⟩

theorem Passes.text {stage : Stage} {data : SecretData} {key : String} (h : r.Passes stage)
    (hstage : ∀ fault, Credentials.Faulty data key fault → ∃ failure, r.FailsAt stage failure) :
    ∃ t, Credentials.text data key = .ok t := by
  cases ht : Credentials.text data key with
  | error fault =>
    obtain ⟨failure, hf⟩ := hstage fault (Credentials.text_eq_error_iff.1 ht)
    exact absurd hf (h failure)
  | ok t => exact ⟨t, rfl⟩

/-- The credentials that a run has if no stage up to them fails. -/
theorem exists_credentials (hcancel : r.Passes .cancellation) (hsecret : r.Passes .secret)
    (hkubeconfig : r.Passes .kubeconfig) (hnamespace : r.Passes .machineNamespace) :
    ∃ data kubeconfig ns, r.answer.result = .ok data ∧
      Credentials.text data "kubeconfig" = .ok kubeconfig ∧
      Credentials.text data "namespace" = .ok ns ∧
      r.reconciler.credentials r.worker r.cancelled =
        ⟨.credentialsRead r.reference.key :: r.answer.events, .ok ⟨kubeconfig, ns⟩⟩ := by
  obtain ⟨data, hdata⟩ := hsecret.answer
  obtain ⟨kubeconfig, hk⟩ := hkubeconfig.text fun _ hf => ⟨_, .kubeconfig hdata hf⟩
  obtain ⟨ns, hn⟩ := hnamespace.text fun _ hf => ⟨_, .machineNamespace hdata hf⟩
  refine ⟨data, kubeconfig, ns, hdata, hk, hn, ?_⟩
  rw [credentials_of_not_cancelled hcancel.not_cancelled, hdata, ok_bind,
    Credentials.ofSecretData_eq_ok_iff (c := ⟨kubeconfig, ns⟩).2 ⟨hk, hn⟩]

section
variable {ns : String} {version : VersionMarker} {events : List Event} {c : Credentials}

/-- A run ends with what ends its reading of the credentials. -/
theorem trace_of_credentials (hns : r.worker.planNamespace = .ok ns)
    (hversion : r.cluster.marker = .ok version)
    (h : r.reconciler.credentials r.worker r.cancelled = ⟨events, .error failure⟩) :
    r.trace = ⟨events, .error failure⟩ := by
  simp [trace, Reconciler.plan, hns, hversion, h, bind, Traced.bind, Traced.ofExcept]

theorem trace_of_infrastructure (hns : r.worker.planNamespace = .ok ns)
    (hversion : r.cluster.marker = .ok version)
    (hc : r.reconciler.credentials r.worker r.cancelled = ⟨events, .ok c⟩)
    (h : r.reconciler.infrastructure r.worker = .error failure) :
    r.trace = ⟨events, .error failure⟩ := by
  simp [trace, Reconciler.plan, hns, hversion, hc, h, bind, Traced.bind, Traced.ofExcept]

theorem trace_of_images {infrastructure : Option InfrastructureStatus}
    (hns : r.worker.planNamespace = .ok ns) (hversion : r.cluster.marker = .ok version)
    (hc : r.reconciler.credentials r.worker r.cancelled = ⟨events, .ok c⟩)
    (hi : r.reconciler.infrastructure r.worker = .ok infrastructure)
    (h : ImageResolver.ofStatus r.config r.worker.persistedStatus .json = .error failure) :
    r.trace = ⟨events, .error failure⟩ := by
  have hs : ImageResolver.ofStatus r.reconciler.config r.worker.persistedStatus
      r.reconciler.decoder = .error failure := h
  simp [trace, Reconciler.plan, hns, hversion, hc, hi, hs, bind, Traced.bind, Traced.ofExcept]

end

/-- A run fails with what is wrong at its first failing stage. -/
theorem trace_of_failsAt {stage : Stage} (h : r.FailsAt stage failure)
    (hfirst : ∀ earlier < stage, r.Passes earlier) :
    r.trace = ⟨r.reported stage, .error failure⟩ := by
  have hns (hlt : Stage.workerNamespace < stage) : ∃ ns, r.worker.planNamespace = .ok ns :=
    (hfirst _ hlt).exists_ok fun _ => planNamespace_eq_error_iff
  have hready (hlt : Stage.version < stage) :
      ∃ ns version, r.worker.planNamespace = .ok ns ∧ r.cluster.marker = .ok version := by
    obtain ⟨ns, hns⟩ := hns (Nat.lt_trans (Nat.zero_lt_succ 0) hlt)
    obtain ⟨version, hversion⟩ := (hfirst _ hlt).exists_ok fun _ => marker_eq_error_iff
    exact ⟨ns, version, hns, hversion⟩
  have hgoes (hlt : Stage.cancellation < stage) :=
    credentials_of_not_cancelled (hfirst _ hlt).not_cancelled
  have hcredentials (hlt : Stage.machineNamespace < stage) :
      ∃ c, r.reconciler.credentials r.worker r.cancelled =
        ⟨.credentialsRead r.reference.key :: r.answer.events, .ok c⟩ := by
    have hpasses {earlier : Stage} (hle : ¬Stage.machineNamespace < earlier) : r.Passes earlier :=
      hfirst _ (Nat.lt_of_le_of_lt (Nat.le_of_not_lt hle) hlt)
    obtain ⟨_, _, _, -, -, -, hc⟩ := exists_credentials (hpasses (by decide))
      (hpasses (by decide)) (hpasses (by decide)) (hpasses (by decide))
    exact ⟨_, hc⟩
  cases h with
  | workerNamespace h =>
    have h := planNamespace_eq_error_iff.2 (.workerNamespace h)
    simp [trace, Reconciler.plan, h, bind, Traced.bind, Traced.ofExcept, reported]
  | version h =>
    obtain ⟨ns, hns⟩ := hns (by decide)
    have h := marker_eq_error_iff.2 (.version h)
    simp [trace, Reconciler.plan, hns, h, bind, Traced.bind, Traced.ofExcept, reported]
  | cancellation h =>
    obtain ⟨ns, version, hns, hversion⟩ := hready (by decide)
    exact trace_of_credentials hns hversion (credentials_of_cancelled h)
  | secret h =>
    obtain ⟨ns, version, hns, hversion⟩ := hready (by decide)
    apply trace_of_credentials hns hversion
    rw [hgoes (by decide), h]
    rfl
  | kubeconfig h hf =>
    obtain ⟨ns, version, hns, hversion⟩ := hready (by decide)
    apply trace_of_credentials hns hversion
    rw [hgoes (by decide), h, ok_bind,
      Credentials.ofSecretData_eq_error_iff.2 (.inl ⟨_, hf, rfl⟩)]
    rfl
  | machineNamespace h hf =>
    obtain ⟨ns, version, hns, hversion⟩ := hready (by decide)
    obtain ⟨kubeconfig, hk⟩ := (hfirst .kubeconfig (by decide)).text
      fun _ hfault => ⟨_, .kubeconfig h hfault⟩
    apply trace_of_credentials hns hversion
    rw [hgoes (by decide), h, ok_bind,
      Credentials.ofSecretData_eq_error_iff.2 (.inr ⟨kubeconfig, hk, _, hf, rfl⟩)]
    rfl
  | infrastructure h hd =>
    obtain ⟨ns, version, hns, hversion⟩ := hready (by decide)
    obtain ⟨c, hc⟩ := hcredentials (by decide)
    exact trace_of_infrastructure hns hversion hc
      (infrastructure_eq_error_iff.2 (.infrastructure h hd))
  | images h hd =>
    obtain ⟨ns, version, hns, hversion⟩ := hready (by decide)
    obtain ⟨c, hc⟩ := hcredentials (by decide)
    obtain ⟨infrastructure, hi⟩ := (hfirst .infrastructure (by decide)).exists_ok
      fun _ => infrastructure_eq_error_iff
    exact trace_of_images hns hversion hc hi (ofStatus_eq_error_iff.2 (.images h hd))

theorem ns_of_planNamespace {w : Worker} {ns : String} (h : w.planNamespace = .ok ns) :
    w.metadata.ns = some ns ∧ ns ≠ "" := by
  unfold Worker.planNamespace at h
  split at h
  · cases h
  · rename_i other hother
    split at h
    · cases h
    · rename_i hne
      cases h
      exact ⟨hother, hne⟩

theorem decoded_of_infrastructure {status : Option InfrastructureStatus}
    (h : r.reconciler.infrastructure r.worker = .ok status) :
    r.worker.spec.infrastructureProviderStatus.map
      (fun document => StatusDecoder.json.infrastructure document.bytes) = status.map .ok := by
  unfold Reconciler.infrastructure at h
  split at h
  · rename_i hnone
    cases h
    rw [hnone]
    rfl
  · rename_i document hdocument
    split at h
    · rename_i decoded hd
      cases h
      rw [hdocument, Option.map_some, Option.map_some]
      exact congrArg some hd
    · cases h

/-- A run that fails at none of the stages plans its pools. -/
theorem outcome_of_passes (h : ∀ stage, r.Passes stage) :
    ∃ s, r.Gathered s ∧ r.outcome = ((s.planner r.resolver).plan r.pools).result := by
  obtain ⟨ns, hns⟩ := (h .workerNamespace).exists_ok fun _ => planNamespace_eq_error_iff
  obtain ⟨version, hversion⟩ := (h .version).exists_ok fun _ => marker_eq_error_iff
  obtain ⟨data, kubeconfig, machines, hdata, hk, hn, hc⟩ := exists_credentials (h .cancellation)
    (h .secret) (h .kubeconfig) (h .machineNamespace)
  obtain ⟨infrastructure, hi⟩ := (h .infrastructure).exists_ok fun _ => infrastructure_eq_error_iff
  have hs : ImageResolver.ofStatus r.reconciler.config r.worker.persistedStatus
      r.reconciler.decoder = .ok r.resolver :=
    ofStatus_of_readable (readable_of_passes (h .images)) r.config
  refine ⟨⟨⟨ns, r.worker.spec.region, r.cloudProfile, r.cluster.podNetworkCidr, infrastructure⟩,
    version, r.provider, ⟨kubeconfig, machines⟩⟩, ?_, ?_⟩
  · obtain ⟨hmetadata, hne⟩ := ns_of_planNamespace hns
    exact {
      ns := hmetadata
      ns_ne := hne
      region := rfl
      cloudProfile := rfl
      podNetworkCidr := rfl
      version := ClusterInfo.marker_eq_ok_iff.1 hversion
      provider := rfl
      credentials := ⟨data, hdata, Credentials.get?_of_text hk, Credentials.get?_of_text hn⟩
      infrastructure := decoded_of_infrastructure hi }
  · rw [outcome, Reconciler.result_plan, Reconciler.setting, hns, hversion, hc, hi, hs]
    rfl

theorem exists_data_of_credentials {c : Credentials}
    (h : (r.reconciler.credentials r.worker r.cancelled).result = .ok c) :
    r.cancelled = false ∧ ∃ data, r.answer.result = .ok data ∧
      Credentials.ofSecretData r.reference.key data = .ok c := by
  cases hc : r.cancelled with
  | true =>
    rw [credentials_of_cancelled hc] at h
    cases h
  | false =>
    rw [credentials_of_not_cancelled hc] at h
    exact ⟨rfl, bind_eq_ok_iff.1 h⟩

/-- Only the ledger can be in the way of a run that has a setting for its pools. -/
theorem passes_of_setting {s : PlanSetting} (h : r.setting = .ok s) {stage : Stage}
    (hlt : stage < Stage.images) : r.Passes stage := by
  simp only [setting, Reconciler.setting, bind_eq_ok_iff] at h
  obtain ⟨ns, hns, version, hversion, c, hc, infrastructure, hi, -⟩ := h
  obtain ⟨hcancelled, data, hdata, hc⟩ := exists_data_of_credentials hc
  obtain ⟨hk, hn⟩ := Credentials.ofSecretData_eq_ok_iff.1 hc
  intro failure hf
  cases hf with
  | workerNamespace h =>
    rw [planNamespace_eq_error_iff.2 (.workerNamespace h)] at hns
    cases hns
  | version h =>
    rw [marker_eq_error_iff.2 (.version h)] at hversion
    cases hversion
  | cancellation h =>
    rw [h] at hcancelled
    cases hcancelled
  | secret h =>
    rw [h] at hdata
    cases hdata
  | kubeconfig h hf =>
    rw [h, Except.ok.injEq] at hdata
    rw [← hdata, Credentials.text_eq_error_iff.2 hf] at hk
    cases hk
  | machineNamespace h hf =>
    rw [h, Except.ok.injEq] at hdata
    rw [← hdata, Credentials.text_eq_error_iff.2 hf] at hn
    cases hn
  | infrastructure h hd =>
    rw [infrastructure_eq_error_iff.2 (.infrastructure h hd)] at hi
    cases hi
  | images => exact absurd hlt (by decide)

/-- If a stage fails then some stage up to it is the first one that does. -/
theorem exists_first {stage : Stage} (h : ¬r.Passes stage) :
    ∃ first, ¬stage < first ∧ (∃ failure, r.FailsAt first failure) ∧
      ∀ earlier < first, r.Passes earlier := by
  by_cases hearlier : ∀ earlier < stage, r.Passes earlier
  · refine ⟨stage, Nat.lt_irrefl _, ?_, hearlier⟩
    simpa [Passes] using h
  · simp only [not_forall] at hearlier
    obtain ⟨earlier, hlt, hfails⟩ := hearlier
    obtain ⟨first, hle, hfirst⟩ := exists_first hfails
    refine ⟨first, ?_, hfirst⟩
    intro hgt
    exact hle (Nat.lt_trans hlt hgt)
termination_by stage.ctorIdx
decreasing_by exact hlt

/-- A run that does not pass all stages fails at one of them. -/
theorem exists_failsAt_of_not_passes (h : ¬∀ stage, r.Passes stage) :
    ∃ stage failure, r.FailsAt stage failure ∧ r.outcome = .error failure := by
  simp only [not_forall] at h
  obtain ⟨stage, hstage⟩ := h
  obtain ⟨first, -, ⟨failure, hfails⟩, hfirst⟩ := exists_first hstage
  exact ⟨first, failure, hfails, congrArg Traced.result (trace_of_failsAt hfails hfirst)⟩

theorem passes_of_outcome {plan : Plan} (h : r.outcome = .ok plan) (stage : Stage) :
    r.Passes stage := by
  by_contra hfails
  obtain ⟨-, failure, -, hfailure⟩ := exists_failsAt_of_not_passes fun hall => hfails (hall stage)
  rw [h] at hfailure
  cases hfailure

section
variable {store : SecretStore} {stage : Stage}

/-- What is wrong before the secret is read has nothing to do with the store. -/
theorem FailsAt.withSecrets (h : r.FailsAt stage failure) (hlt : stage < Stage.secret) :
    (r.withSecrets store).FailsAt stage failure := by
  cases h with
  | workerNamespace h => exact .workerNamespace h
  | version h => exact .version h
  | cancellation h => exact .cancellation h
  | _ => exact absurd hlt (by decide)

theorem Passes.withSecrets (h : r.Passes stage) (hlt : stage < Stage.secret) :
    (r.withSecrets store).Passes stage := by
  intro failure hf
  have hback : r.FailsAt stage failure := hf.withSecrets hlt
  exact h failure hback

theorem reported_withSecrets (hlt : stage < Stage.secret) :
    (r.withSecrets store).reported stage = r.reported stage := by
  cases stage with
  | workerNamespace => rfl
  | version => rfl
  | cancellation => rfl
  | _ => exact absurd hlt (by decide)

/-- A run that fails before the secret is read has no use for the store. -/
theorem trace_withSecrets (hlt : stage < Stage.secret) (h : ¬r.Passes stage) :
    (r.withSecrets store).trace = r.trace := by
  obtain ⟨first, hle, ⟨failure, hf⟩, hfirst⟩ := exists_first h
  have hsecret : first < Stage.secret := Nat.lt_of_le_of_lt (Nat.le_of_not_lt hle) hlt
  have hother : ∀ earlier < first, (r.withSecrets store).Passes earlier := by
    intro earlier hearlier
    exact (hfirst earlier hearlier).withSecrets (Nat.lt_trans hearlier hsecret)
  rw [trace_of_failsAt hf hfirst, trace_of_failsAt (hf.withSecrets hsecret) hother,
    reported_withSecrets hsecret]

/-- Of the store only the answer matters that it gives for the secret of the worker. -/
theorem outcome_withSecrets (h : (store.get r.reference).result = r.answer.result) :
    (r.withSecrets store).outcome = r.outcome := by
  have hcredentials : ((r.withSecrets store).reconciler.credentials r.worker r.cancelled).result =
      (r.reconciler.credentials r.worker r.cancelled).result := by
    cases hc : r.cancelled with
    | true => rfl
    | false =>
      rw [Reconciler.credentials_of_not_cancelled, Reconciler.credentials_of_not_cancelled]
      exact congrArg (· >>= Credentials.ofSecretData r.reference.key) h
  have hsetting : (r.withSecrets store).setting = r.setting := by
    simp only [setting, Reconciler.setting]
    rw [show (r.withSecrets store).worker = r.worker from rfl,
      show (r.withSecrets store).cancelled = r.cancelled from rfl, hcredentials]
    rfl
  rw [outcome, outcome, Reconciler.result_plan, Reconciler.result_plan]
  exact congrArg (· >>= _) hsetting

end

/-- Of all the stages at which something is wrong a run reports the first one, and reads the secret only
if it comes that far. -/
theorem first_failing_stage_reported (r : Run) :
    (∀ stage failure, r.FailsAt stage failure → (∀ earlier < stage, r.Passes earlier) →
        r.trace = ⟨r.reported stage, .error failure⟩) ∧
      ((∀ stage, r.Passes stage) →
        ∃ s, r.Gathered s ∧ r.outcome = ((s.planner r.resolver).plan r.pools).result) ∧
      (∀ store : SecretStore, (store.get r.reference).result = r.answer.result →
        (r.withSecrets store).outcome = r.outcome) ∧
      ∀ (store : SecretStore) (stage : Stage), stage < .secret → ¬r.Passes stage →
        (r.withSecrets store).trace = r.trace := by
  refine ⟨?_, outcome_of_passes, ?_, ?_⟩
  · intro stage failure h hfirst
    exact trace_of_failsAt h hfirst
  · intro store h
    exact outcome_withSecrets h
  · intro store stage hlt h
    exact trace_withSecrets hlt h

end

end Run

namespace Sample

def foreign : Json := .object [("kind", .string "Other")]

theorem worker_foreign : StatusDecoder.json.worker foreign.bytes =
    .error (.statusDecode "WorkerStatus" (StatusFault.unexpectedKind "Other").message) := by
  have hfits : foreign.Fits Json.depthLimit := ⟨⟨trivial, trivial⟩, by decide⟩
  have hdecoded : StatusDecoder.decodeBytes WorkerStatus.ofDocument? foreign.bytes =
      .ok ⟨"", "Other", []⟩ := StatusDecoder.decodeBytes_object ⟨_, rfl⟩ hfits rfl
  exact StatusDecoder.refused_of_kind hdecoded rfl (by decide) (by decide)

/-- A foreign status fails a run that has no need of it, unless the run is cancelled. -/
theorem foreign_status_reported :
    (run config (some foreign)).trace =
        ⟨[.credentialsRead "default/access"],
          .error (.statusDecode "WorkerStatus" (StatusFault.unexpectedKind "Other").message)⟩ ∧
      ∀ store : SecretStore,
        ({ run config (some foreign) with cancelled := true, secrets := store } : Run).trace =
          ⟨[.credentialsRead "default/access"], .error (.cancelled "credentials")⟩ := by
  have hpasses (stage : Stage) (hlt : stage < .images) :
      (run config (some foreign)).Passes stage := Run.passes_of_setting (setting_run config _) hlt
  constructor
  · obtain ⟨hfirst, -⟩ := Run.first_failing_stage_reported (run config (some foreign))
    exact hfirst _ _ (.images rfl worker_foreign) hpasses
  · intro store
    obtain ⟨hfirst, -⟩ := Run.first_failing_stage_reported
      { run config (some foreign) with cancelled := true, secrets := store }
    refine hfirst _ _ (.cancellation rfl) ?_
    intro earlier hlt failure hf
    cases hf with
    | workerNamespace h => exact hpasses .workerNamespace (by decide) _ (.workerNamespace h)
    | version h => exact hpasses .version (by decide) _ (.version h)
    | _ => exact absurd hlt (by decide)

end Sample
end PoolPlan
