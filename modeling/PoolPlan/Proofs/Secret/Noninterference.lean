import PoolPlan.Proofs.Plan.Classes
import PoolPlan.Proofs.Run.Basic

namespace PoolPlan

namespace ClassSpec

def withoutCredentials (spec : ClassSpec) : ClassSpec :=
  match spec.get? secretField with
  | some (.object secret) =>
    spec.insert secretField
      (.object (Dict.erase Credentials.namespaceKey (Dict.erase Credentials.kubeconfigKey secret)))
  | _ => spec

/-- Without the credentials a class is what was hashed for its name. -/
theorem withoutCredentials_attachCredentials (content : ClassContent) (c : Credentials) :
    (content.spec.attachCredentials c).withoutCredentials = content.spec := by
  have hrest : Dict.erase Credentials.namespaceKey (Dict.erase Credentials.kubeconfigKey
      [(cloudConfigKey, Json.string content.userData),
        (Credentials.kubeconfigKey, .string c.kubeconfig),
        (Credentials.namespaceKey, .string c.ns)]) =
          [(cloudConfigKey, .string content.userData)] := by
    simp [Dict.erase, cloudConfigKey, Credentials.kubeconfigKey, Credentials.namespaceKey]
  rw [withoutCredentials, get?_attachCredentials]
  simp only [secretOf, hrest, attachCredentials_spec, insert_insert]
  apply ext
  intro key
  by_cases hk : key = secretField
  · rw [get?_insert, if_pos hk, hk, content.heldBy_spec.secret]
    simp [userDataSecret, Json.sortKeys, Json.sortFields, Dict.ofList, Dict.insert]
  · rw [get?_insert, if_neg hk]

end ClassSpec

namespace Traced
variable {ε α β γ δ : Type}

/-- The same is reported, and the results are alike. -/
structure Agree (R : α → β → Prop) (t : Traced ε α) (u : Traced ε β) : Prop where
  events : t.events = u.events
  result : Alike R t.result u.result

theorem Agree.pure {R : α → β → Prop} {a : α} {b : β} (h : R a b) :
    Agree R (Pure.pure a : Traced ε α) (Pure.pure b) := ⟨rfl, .ok h⟩

theorem Agree.bind {R : α → β → Prop} {S : γ → δ → Prop} {t : Traced ε α} {u : Traced ε β}
    {f : α → Traced ε γ} {g : β → Traced ε δ} (h : Agree R t u)
    (hf : ∀ a b, R a b → Agree S (f a) (g b)) : Agree S (t >>= f) (u >>= g) := by
  obtain ⟨events, result⟩ := t
  obtain ⟨events', result'⟩ := u
  obtain ⟨rfl, hr⟩ := h
  cases hr with
  | error failure => exact ⟨rfl, .error failure⟩
  | @ok a b hab =>
    obtain ⟨hevents, hresult⟩ := hf a b hab
    rw [bind_of_ok rfl, bind_of_ok rfl]
    exact ⟨congrArg (events ++ ·) hevents, hresult⟩

/-- A part that is the same on both sides. -/
theorem Agree.bind_refl {S : γ → δ → Prop} {t : Traced ε α} {f : α → Traced ε γ}
    {g : α → Traced ε δ} (hf : ∀ a, t.result = .ok a → Agree S (f a) (g a)) :
    Agree S (t >>= f) (t >>= g) := by
  have hself : Agree (fun a b => a = b ∧ t.result = .ok a) t t := by
    refine ⟨rfl, ?_⟩
    cases t.result with
    | error failure => exact .error failure
    | ok a => exact .ok ⟨rfl, rfl⟩
  refine hself.bind ?_
  rintro a _ ⟨rfl, ha⟩
  exact hf a ha

end Traced

/-- Zones that differ in nothing but the credentials. -/
structure SameMachines (y z : PlannedZone) : Prop where
  deployment : y.deployment = z.deployment
  name : y.machineClass.name = z.machineClass.name
  kind : y.machineClass.kind = z.machineClass.kind
  spec : y.machineClass.spec.withoutCredentials = z.machineClass.spec.withoutCredentials

structure SamePart (a b : PlannedPool) : Prop where
  image : a.image = b.image
  zones : List.Forall₂ SameMachines a.zones b.zones

structure SamePlan (p q : Plan) : Prop where
  zones : List.Forall₂ SameMachines p.zones q.zones
  images : p.images = q.images

namespace Planner
open Traced

def withCredentials (p : Planner) (c : Credentials) : Planner := { p with credentials := c }

variable (p : Planner) (c : Credentials)

theorem planZone_agree (pool : Pool) (image : ResolvedImage) (index : Nat) (zone : String) :
    Agree SameMachines (p.planZone pool image index zone)
      ((p.withCredentials c).planZone pool image index zone) := by
  refine .bind_refl fun spec hspec => ?_
  obtain ⟨content, -, rfl⟩ := Provider.build_eq_ok_iff.1 hspec
  have hsame : SameMachines (p.zoneOf pool index zone content.spec)
      ((p.withCredentials c).zoneOf pool index zone content.spec) := by
    refine ⟨rfl, rfl, rfl, ?_⟩
    simp only [zoneOf, ClassSpec.withoutCredentials_attachCredentials]
  exact .bind_refl fun _ _ => .pure hsame

theorem planZones_agree (pool : Pool) (image : ResolvedImage) (index : Nat) (zones : List String) :
    Agree (List.Forall₂ SameMachines) (p.planZones pool image index zones)
      ((p.withCredentials c).planZones pool image index zones) := by
  induction zones generalizing index with
  | nil => exact .pure .nil
  | cons zone rest ih =>
    refine (planZone_agree p c pool image index zone).bind fun y z hyz => ?_
    exact (ih (index + 1)).bind fun ys zs hrest => .pure (.cons hyz hrest)

theorem planPool_agree (pool : Pool) :
    Agree SamePart (p.planPool pool) ((p.withCredentials c).planPool pool) := by
  refine .bind_refl fun image _ => ?_
  exact (planZones_agree p c pool image 0 pool.zones).bind fun _ _ h => .pure ⟨rfl, h⟩

theorem planPools_agree (pools : List Pool) :
    Agree (List.Forall₂ SamePart) (p.planPools pools)
      ((p.withCredentials c).planPools pools) := by
  induction pools with
  | nil => exact .pure .nil
  | cons pool rest ih =>
    refine (planPool_agree p c pool).bind fun a b hab => ?_
    exact ih.bind fun as bs hrest => .pure (.cons hab hrest)

theorem assemble_samePlan {parts others : List PlannedPool}
    (h : List.Forall₂ SamePart parts others) :
    SamePlan (p.assemble parts) ((p.withCredentials c).assemble others) := by
  have himages : parts.map PlannedPool.image = others.map PlannedPool.image :=
    h.map_eq_map fun _ _ hab => hab.image
  constructor
  · exact List.rel_flatMap h fun _ _ hab => hab.zones
  · rw [assemble, himages]
    rfl

theorem plan_agree (pools : List Pool) :
    Agree SamePlan (p.plan pools) ((p.withCredentials c).plan pools) := by
  refine .bind_refl fun _ _ => ?_
  refine (planPools_agree p c pools).bind fun parts others h => ?_
  have hsame := assemble_samePlan p c h
  have hevent : Event.poolsPlanned p.context.ns pools.length (p.assemble parts).zones.length
      (p.assemble parts).images.size p.version =
        .poolsPlanned p.context.ns pools.length ((p.withCredentials c).assemble others).zones.length
      ((p.withCredentials c).assemble others).images.size p.version := by
    rw [hsame.zones.length_eq, hsame.images]
  refine ⟨?_, .ok hsame⟩
  exact congrArg (fun e => [e] ++ []) hevent

end Planner

/-- Every class hands out the user data of its pool and the credentials. -/
def Plan.HandsOut (plan : Plan) (pools : List Pool) (c : Credentials) : Prop :=
  ∀ z ∈ plan.zones, ∃ pool ∈ pools, z.deployment.pool = pool.name ∧
    ∃ userData, pool.userData = Utf8.encode userData ∧
      z.machineClass.spec.get? ClassSpec.secretField = some (ClassSpec.secretOf userData c)

namespace Reconciler
open Traced

def withSecrets (r : Reconciler) (s : SecretStore) : Reconciler := { r with secrets := s }

theorem credentials_of_store {r : Reconciler} {w : Worker} {events : List Event} {d : SecretData}
    {c : Credentials} (hs : r.secrets.get w.spec.secretRef = ⟨events, .ok d⟩)
    (hd : Credentials.ofSecretData w.spec.secretRef.key d = .ok c) :
    r.credentials w false = ⟨.credentialsRead w.spec.secretRef.key :: events, .ok c⟩ := by
  rw [credentials_of_not_cancelled, hs, ok_bind, hd]

theorem plan_agree (r : Reconciler) {s t : SecretStore} {w : Worker} (cluster : ClusterInfo)
    {events : List Event} {d e : SecretData} {c b : Credentials}
    (hs : s.get w.spec.secretRef = ⟨events, .ok d⟩) (ht : t.get w.spec.secretRef = ⟨events, .ok e⟩)
    (hd : Credentials.ofSecretData w.spec.secretRef.key d = .ok c)
    (he : Credentials.ofSecretData w.spec.secretRef.key e = .ok b) :
    Agree SamePlan ((r.withSecrets s).plan w cluster false)
      ((r.withSecrets t).plan w cluster false) := by
  have hcredentials : Agree (fun x y => x = c ∧ y = b)
      ((r.withSecrets s).credentials w false) ((r.withSecrets t).credentials w false) := by
    rw [credentials_of_store (r := r.withSecrets s) hs hd,
      credentials_of_store (r := r.withSecrets t) ht he]
    exact ⟨rfl, .ok ⟨rfl, rfl⟩⟩
  refine .bind_refl fun ns _ => .bind_refl fun version _ => ?_
  refine hcredentials.bind ?_
  rintro _ _ ⟨rfl, rfl⟩
  refine .bind_refl fun infrastructure _ => .bind_refl fun resolver _ => ?_
  refine (Planner.plan_agree _ _ w.spec.pools).bind fun p q h => ?_
  refine ⟨?_, .ok h⟩
  exact congrArg (fun n => [Event.workerPlanned ns r.provider.name n] ++ []) h.zones.length_eq

theorem handsOut_of_plan {r : Reconciler} {w : Worker} {cluster : ClusterInfo} {plan : Plan}
    {events : List Event} {d : SecretData} {c : Credentials}
    (hs : r.secrets.get w.spec.secretRef = ⟨events, .ok d⟩)
    (hd : Credentials.ofSecretData w.spec.secretRef.key d = .ok c)
    (h : (r.plan w cluster false).result = .ok plan) : plan.HandsOut w.spec.pools c := by
  obtain ⟨s, hset, resolver, -, hplan⟩ := plan_eq_ok_iff.1 h
  have hc := credentials_of_setting hset
  rw [credentials_of_store hs hd] at hc
  obtain rfl := Except.ok.inj hc
  intro z hz
  obtain ⟨pool, hp, image, -, zone, -, hplanned⟩ := Planner.exists_of_mem_zones hplan hz
  obtain ⟨userData, hu, hsecret⟩ := Planner.secret_of_zonePlanned hplanned
  refine ⟨pool, hp, ?_, userData, Pool.userData_of_text hu, hsecret⟩
  obtain ⟨spec, -, rfl⟩ := hplanned
  rfl

/-- What the credentials are cannot be told from a run, the secrets of the classes apart. -/
theorem credentials_do_not_interfere (r : Reconciler) {s t : SecretStore} {w : Worker}
    (cluster : ClusterInfo) {events : List Event} {d e : SecretData} {c b : Credentials}
    (hs : s.get w.spec.secretRef = ⟨events, .ok d⟩) (ht : t.get w.spec.secretRef = ⟨events, .ok e⟩)
    (hd : Credentials.ofSecretData w.spec.secretRef.key d = .ok c)
    (he : Credentials.ofSecretData w.spec.secretRef.key e = .ok b) :
    ((r.withSecrets s).plan w cluster false).events =
        ((r.withSecrets t).plan w cluster false).events ∧
      ((∃ failure, ((r.withSecrets s).plan w cluster false).result = .error failure ∧
          ((r.withSecrets t).plan w cluster false).result = .error failure) ∨
        ∃ p q, ((r.withSecrets s).plan w cluster false).result = .ok p ∧
          ((r.withSecrets t).plan w cluster false).result = .ok q ∧
          p.deployments = q.deployments ∧ p.images = q.images ∧
          p.classes.map (fun k => (k.name, k.kind, k.spec.withoutCredentials)) =
            q.classes.map (fun k => (k.name, k.kind, k.spec.withoutCredentials)) ∧
          p.HandsOut w.spec.pools c ∧ q.HandsOut w.spec.pools b) := by
  obtain ⟨hevents, hresult⟩ := plan_agree r cluster hs ht hd he
  refine ⟨hevents, ?_⟩
  generalize hx : ((r.withSecrets s).plan w cluster false).result = x at hresult
  generalize hy : ((r.withSecrets t).plan w cluster false).result = y at hresult
  cases hresult with
  | error failure => exact .inl ⟨failure, rfl, rfl⟩
  | @ok p q hsame =>
    have hdeployments : p.deployments = q.deployments :=
      hsame.zones.map_eq_map fun _ _ h => h.deployment
    have hclasses : p.classes.map (fun k => (k.name, k.kind, k.spec.withoutCredentials)) =
        q.classes.map (fun k => (k.name, k.kind, k.spec.withoutCredentials)) := by
      rw [Plan.classes, Plan.classes, List.map_map, List.map_map]
      refine hsame.zones.map_eq_map fun y z h => ?_
      simp only [Function.comp_apply, h.name, h.kind, h.spec]
    exact .inr ⟨p, q, rfl, rfl, hdeployments, hsame.images, hclasses,
      handsOut_of_plan (r := r.withSecrets s) hs hd hx,
      handsOut_of_plan (r := r.withSecrets t) ht he hy⟩

/-- Two secrets with which the one pool gets the same class name. -/
theorem class_kept_with_other_secret :
    ∃ p q : Plan,
      (Sample.run Sample.config none).outcome = .ok p ∧
      (((Sample.run Sample.config none).reconciler.withSecrets
        (StaticSecrets.store ⟨[("default/access", Sample.data "other" "place")]⟩)).plan
          (Sample.run Sample.config none).worker (Sample.run Sample.config none).cluster
          false).result = .ok q ∧
      p.classes.map MachineClass.name = q.classes.map MachineClass.name := by
  obtain ⟨plan, hplan⟩ := Sample.succeeds_run Sample.config readable_none rfl
  have hs : Sample.secrets.store.get ⟨some "access", none⟩ =
      ⟨[], .ok (Sample.data "config" "machines")⟩ := rfl
  have ht : (StaticSecrets.store ⟨[("default/access", Sample.data "other" "place")]⟩).get
      ⟨some "access", none⟩ = ⟨[], .ok (Sample.data "other" "place")⟩ := rfl
  have hd : Credentials.ofSecretData "default/access" (Sample.data "config" "machines") =
      .ok ⟨"config", "machines"⟩ := Sample.ofSecretData_data _ rfl rfl
  have he : Credentials.ofSecretData "default/access" (Sample.data "other" "place") =
      .ok ⟨"other", "place"⟩ := Sample.ofSecretData_data _ rfl rfl
  obtain ⟨-, ⟨failure, hfail, -⟩ | ⟨p, q, hp, hq, -, -, hclasses, -⟩⟩ :=
    credentials_do_not_interfere (w := (Sample.run Sample.config none).worker)
      (Sample.run Sample.config none).reconciler (Sample.run Sample.config none).cluster hs ht hd he
  · have hsame := hplan.symm.trans hfail
    contradiction
  · refine ⟨p, q, hp, hq, ?_⟩
    have hnames := congrArg (List.map Prod.fst) hclasses
    simpa [Function.comp_def] using hnames

end Reconciler
end PoolPlan
