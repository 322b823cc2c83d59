import PoolPlan.Proofs.Plan.Planner
import PoolPlan.Reconcile

namespace PoolPlan

structure PlanSetting where
  context : PlanContext
  version : VersionMarker
  provider : Provider
  credentials : Credentials

def PlanSetting.planner (s : PlanSetting) (resolver : ImageResolver) : Planner where
  context := s.context
  version := s.version
  resolver := resolver
  provider := s.provider
  credentials := s.credentials

theorem ClusterInfo.marker_eq_ok_iff {c : ClusterInfo} {m : VersionMarker} :
    c.marker = .ok m ↔ VersionMarker.ofVersion c.version = .ok m := by
  unfold marker
  cases VersionMarker.ofVersion c.version <;> simp

namespace Reconciler

theorem credentials_of_cancelled (r : Reconciler) (w : Worker) :
    r.credentials w true =
      ⟨[.credentialsRead w.spec.secretRef.key], .error (.cancelled "credentials")⟩ := rfl

/-- The credentials are those in the store's answer, and what the store reports is reported. -/
theorem credentials_of_not_cancelled (r : Reconciler) (w : Worker) :
    r.credentials w false =
      ⟨.credentialsRead w.spec.secretRef.key :: (r.secrets.get w.spec.secretRef).events,
        (r.secrets.get w.spec.secretRef).result >>=
          Credentials.ofSecretData w.spec.secretRef.key⟩ := by
  have hgoes : r.credentials w false =
      Traced.emit (.credentialsRead w.spec.secretRef.key) >>= fun _ =>
        r.secrets.get w.spec.secretRef >>= fun data =>
          Traced.ofExcept (Credentials.ofSecretData w.spec.secretRef.key data) := rfl
  rw [hgoes, Traced.bind_of_ok (Traced.result_emit _)]
  cases hanswer : (r.secrets.get w.spec.secretRef).result with
  | error failure =>
    rw [Traced.bind_of_error hanswer]
    rfl
  | ok data =>
    rw [Traced.bind_of_ok hanswer]
    simp

def setting (r : Reconciler) (w : Worker) (cluster : ClusterInfo) (cancelled : Bool) :
    Except Failure PlanSetting := do
  let ns ← w.planNamespace
  let version ← cluster.marker
  let credentials ← (r.credentials w cancelled).result
  let infrastructure ← r.infrastructure w
  return ⟨⟨ns, w.spec.region, r.cloudProfile, cluster.podNetworkCidr, infrastructure⟩, version,
    r.provider, credentials⟩

theorem result_plan (r : Reconciler) (w : Worker) (cluster : ClusterInfo) (cancelled : Bool) :
    (r.plan w cluster cancelled).result =
      r.setting w cluster cancelled >>= fun s =>
        ImageResolver.ofStatus r.config w.persistedStatus r.decoder >>= fun resolver =>
          ((s.planner resolver).plan w.spec.pools).result := by
  simp only [plan, setting, Traced.result_bind, Traced.result_ofExcept, Traced.result_emit,
    Traced.result_pure, ok_bind, bind_assoc, pure_bind]
  have last (x : Except Failure Plan) : (x >>= fun plan => Except.ok plan) = x := bind_pure x
  simp only [last]
  rfl

theorem plan_eq_ok_iff {r : Reconciler} {w : Worker} {cluster : ClusterInfo} {cancelled : Bool}
    {plan : Plan} :
    (r.plan w cluster cancelled).result = .ok plan ↔
      ∃ s, r.setting w cluster cancelled = .ok s ∧
        ∃ resolver, ImageResolver.ofStatus r.config w.persistedStatus r.decoder = .ok resolver ∧
          ((s.planner resolver).plan w.spec.pools).result = .ok plan := by
  simp only [result_plan, bind_eq_ok_iff]

theorem context_of_setting {r : Reconciler} {w : Worker} {cluster : ClusterInfo} {cancelled : Bool}
    {s : PlanSetting} (h : r.setting w cluster cancelled = .ok s) :
    s.context.cloudProfile = r.cloudProfile := by
  simp only [setting, bind_eq_ok_iff, pure, Except.pure, Except.ok.injEq] at h
  obtain ⟨_, -, _, -, _, -, _, -, rfl⟩ := h
  rfl

theorem credentials_of_setting {r : Reconciler} {w : Worker} {cluster : ClusterInfo}
    {cancelled : Bool} {s : PlanSetting} (h : r.setting w cluster cancelled = .ok s) :
    (r.credentials w cancelled).result = .ok s.credentials := by
  simp only [setting, bind_eq_ok_iff, pure, Except.pure, Except.ok.injEq] at h
  obtain ⟨_, -, _, -, _, hc, _, -, rfl⟩ := h
  exact hc

end Reconciler
end PoolPlan
