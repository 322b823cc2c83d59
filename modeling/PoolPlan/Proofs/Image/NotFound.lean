import PoolPlan.Proofs.Plan.Problems
import PoolPlan.Proofs.Reconcile

namespace PoolPlan

def Failure.IsImageNotFound : Failure → Prop
  | .imageNotFound .. => True
  | _ => False

inductive SecretStore.Provided : SecretStore → Prop where
  | static (secrets : StaticSecrets) : Provided secrets.store
  | api (answer : String → ApiAnswer) : Provided (.ofApi answer)

section Stages
variable {failure : Failure}

/-- If a planner says that an image is missing, it is that of a pool, and no place has it. -/
theorem Planner.not_found_of_plan {p : Planner} {pools : List Pool}
    (h : (p.plan pools).result = .error failure) (hf : failure.IsImageNotFound) :
    ∃ pool ∈ pools, p.resolver.find? (p.imageIdentity pool) = none ∧
      failure = (p.imageIdentity pool).notFound := by
  rcases failure_of_plan h with ⟨_, _, _, rfl⟩ | hnotFound | ⟨_, _, rfl⟩
  · exact absurd hf id
  · exact hnotFound
  · exact absurd hf id

theorem StatusDecoder.not_isImageNotFound_of_decode {α : Type} {expected : String}
    {read : Document → Option α} {kind : α → String} {bytes : Bytes}
    (h : decode expected read kind bytes = .error failure) : ¬failure.IsImageNotFound := by
  unfold decode at h
  split at h
  · contradiction
  · exact Except.error.inj h ▸ id

theorem Credentials.not_isImageNotFound_of_required {secret key : String} {data : SecretData}
    (h : required secret data key = .error failure) : ¬failure.IsImageNotFound := by
  unfold required at h
  split at h
  · contradiction
  · exact Except.error.inj h ▸ id

theorem Credentials.not_isImageNotFound_of_ofSecretData {secret : String} {data : SecretData}
    (h : ofSecretData secret data = .error failure) : ¬failure.IsImageNotFound := by
  simp only [ofSecretData, bind_eq_error_iff, pure, Except.pure, reduceCtorEq, and_false,
    exists_false, or_false] at h
  rcases h with h | ⟨_, -, h⟩
  · exact not_isImageNotFound_of_required h
  · exact not_isImageNotFound_of_required h

theorem Worker.not_isImageNotFound_of_planNamespace {w : Worker}
    (h : w.planNamespace = .error failure) : ¬failure.IsImageNotFound := by
  unfold planNamespace at h
  split at h
  · exact Except.error.inj h ▸ id
  · split at h
    · exact Except.error.inj h ▸ id
    · contradiction

theorem ClusterInfo.not_isImageNotFound_of_marker {c : ClusterInfo}
    (h : c.marker = .error failure) : ¬failure.IsImageNotFound := by
  unfold marker at h
  split at h
  · contradiction
  · exact Except.error.inj h ▸ id

namespace Reconciler

/-- Reading the credentials reports a missing image only where the store does. -/
theorem store_of_credentials {r : Reconciler} {w : Worker} {cancelled : Bool}
    (h : (r.credentials w cancelled).result = .error failure) (hf : failure.IsImageNotFound) :
    (r.secrets.get w.spec.secretRef).result = .error failure := by
  cases cancelled with
  | true =>
    simp only [credentials, Traced.result_bind, Traced.result_emit, ok_bind, if_true,
      Traced.result_fail] at h
    exact absurd hf (Except.error.inj h ▸ id)
  | false =>
    simp only [credentials, Traced.result_bind, Traced.result_emit, ok_bind, Bool.false_eq_true,
      if_false, bind_eq_error_iff, Traced.result_ofExcept] at h
    rcases h with h | ⟨_, -, h⟩
    · exact h
    · exact absurd hf (Credentials.not_isImageNotFound_of_ofSecretData h)

theorem store_of_setting {r : Reconciler} {w : Worker} {cluster : ClusterInfo} {cancelled : Bool}
    (hr : r.decoder = .json) (h : r.setting w cluster cancelled = .error failure)
    (hf : failure.IsImageNotFound) : (r.secrets.get w.spec.secretRef).result = .error failure := by
  simp only [setting, bind_eq_error_iff, pure, Except.pure, reduceCtorEq, and_false, exists_false,
    or_false] at h
  rcases h with h | ⟨_, -, h | ⟨_, -, h | ⟨_, -, h⟩⟩⟩
  · exact absurd hf (Worker.not_isImageNotFound_of_planNamespace h)
  · exact absurd hf (ClusterInfo.not_isImageNotFound_of_marker h)
  · exact store_of_credentials h hf
  · unfold infrastructure at h
    split at h
    · contradiction
    · split at h
      · contradiction
      · rename_i hd
        rw [hr] at hd
        obtain rfl := Except.error.inj h
        exact absurd hf (StatusDecoder.not_isImageNotFound_of_decode hd)

end Reconciler

theorem SecretStore.Provided.not_isImageNotFound {s : SecretStore} (hs : s.Provided)
    {reference : SecretReference} (h : (s.get reference).result = .error failure) :
    ¬failure.IsImageNotFound := by
  cases hs with
  | static secrets =>
    simp only [StaticSecrets.store, Traced.result_ofExcept, StaticSecrets.get] at h
    split at h
    · contradiction
    · exact Except.error.inj h ▸ id
  | api answer =>
    simp only [ofApi] at h
    split at h
    · exact Except.error.inj h ▸ id
    · simp only [Traced.result_bind, Traced.result_emit, ok_bind] at h
      split at h
      · simp only [Traced.result_ofExcept, ApiAnswer.secretData] at h
        split at h
        · exact Except.error.inj h ▸ id
        · split at h
          · contradiction
          · exact Except.error.inj h ▸ id
      · exact Except.error.inj h ▸ id

end Stages
end PoolPlan
