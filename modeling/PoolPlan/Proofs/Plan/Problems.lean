import PoolPlan.Proofs.Class.Provider
import PoolPlan.Proofs.Image.Ledger
import PoolPlan.Proofs.Plan.Planner

namespace PoolPlan

/-- Everything that classes refer to of the infrastructure is there. -/
structure InfrastructureStatus.Complete (s : InfrastructureStatus) : Prop where
  securityGroup : ∃ group ∈ s.securityGroups, group.purpose = nodesPurpose
  keyName : s.keyName ≠ ""
  networkId : s.networkId ≠ ""

namespace InfrastructureStatus

/-- What is missing of the infrastructure. Without a status nothing else is looked for. -/
def missing : Option InfrastructureStatus → List Failure
  | none => [.missingResource "infrastructure status" "worker has no infrastructure provider status"]
  | some s =>
    (if ∃ group ∈ s.securityGroups, group.purpose = nodesPurpose then []
      else [.missingResource "security group"
        ("no security group with purpose " ++ Text.quote nodesPurpose)]) ++
    (if s.keyName = "" then
      [.missingResource "key pair" "infrastructure status has no node key name"] else []) ++
    if s.networkId = "" then
      [.missingResource "network" "infrastructure status has no network id"] else []

theorem securityGroup?_eq_none_iff {s : InfrastructureStatus} {purpose : String} :
    s.securityGroup? purpose = none ↔ ¬∃ group ∈ s.securityGroups, group.purpose = purpose := by
  simp [securityGroup?]

theorem stopsAt_missing (status : Option InfrastructureStatus) :
    StopsAt (missing status) (openStackResources status) := by
  cases status with
  | none => rfl
  | some s =>
    simp only [missing, openStackResources]
    cases hg : s.securityGroup? nodesPurpose with
    | none =>
      rw [if_neg (securityGroup?_eq_none_iff.1 hg)]
      rfl
    | some group =>
      have hgroup : ∃ group ∈ s.securityGroups, group.purpose = nodesPurpose := by
        by_contra hnone
        rw [securityGroup?_eq_none_iff.2 hnone] at hg
        contradiction
      rw [if_pos hgroup, List.nil_append]
      by_cases hk : s.keyName = ""
      · simp only [if_pos hk]
        rfl
      · by_cases hn : s.networkId = ""
        · simp only [if_neg hk, if_pos hn]
          rfl
        · simp only [if_neg hk, if_neg hn]
          rfl

theorem missingResource_of_mem_missing {status : Option InfrastructureStatus} {failure : Failure}
    (h : failure ∈ missing status) :
    ∃ resource detail, failure = .missingResource resource detail := by
  cases status with
  | none => exact ⟨_, _, List.mem_singleton.1 h⟩
  | some s =>
    simp only [missing, List.mem_append, List.mem_ite_nil_left, List.mem_ite_nil_right,
      List.mem_singleton] at h
    rcases h with (⟨-, h⟩ | ⟨-, h⟩) | ⟨-, h⟩ <;> exact ⟨_, _, h⟩

theorem missing_eq_nil_iff {status : Option InfrastructureStatus} :
    missing status = [] ↔ ∃ s, status = some s ∧ s.Complete := by
  cases status with
  | none => simp [missing]
  | some s =>
    simp only [missing, List.append_eq_nil_iff, ite_eq_left_iff, ite_eq_right_iff,
      List.cons_ne_nil, imp_false, not_not, Option.some.injEq, exists_eq_left']
    constructor
    · rintro ⟨⟨hg, hk⟩, hn⟩
      exact ⟨hg, hk, hn⟩
    · rintro ⟨hg, hk, hn⟩
      exact ⟨⟨hg, hk⟩, hn⟩

end InfrastructureStatus

namespace Pool

def userDataProblems (pool : Pool) : List Failure :=
  match Utf8.decode pool.userData with
  | .ok _ => []
  | .error fault =>
    [.validation pool.name (some "userData") s!"not valid UTF-8: {fault.message}"]

theorem stopsAt_userDataProblems (pool : Pool) :
    StopsAt pool.userDataProblems pool.userDataText := by
  unfold userDataProblems userDataText
  cases Utf8.decode pool.userData <;> rfl

theorem validation_of_mem_userDataProblems {pool : Pool} {failure : Failure}
    (h : failure ∈ pool.userDataProblems) :
    ∃ detail, failure = .validation pool.name (some "userData") detail := by
  unfold userDataProblems at h
  split at h
  · contradiction
  · exact ⟨_, List.mem_singleton.1 h⟩

theorem userDataProblems_eq_nil_iff {pool : Pool} :
    pool.userDataProblems = [] ↔ ∃ text, pool.userData = Utf8.encode text := by
  simp only [← pool.stopsAt_userDataProblems.ok_iff]
  constructor
  · rintro ⟨text, h⟩
    exact ⟨text, userData_of_text h⟩
  · rintro ⟨text, h⟩
    exact ⟨text, by rw [userDataText, h, Utf8.decode_encode]⟩

end Pool

namespace Planner
variable {p : Planner} {pool : Pool} {pools : List Pool}

/-- The configuration or the ledger has the image of a pool. -/
def Knows (p : Planner) (pool : Pool) : Prop :=
  p.imageIdentity pool ∈ p.resolver.config.images.map ResolvedImage.identity ∨
    p.imageIdentity pool ∈ p.resolver.persisted.identities

instance (p : Planner) (pool : Pool) : Decidable (p.Knows pool) :=
  inferInstanceAs (Decidable (_ ∨ _))

def classProblems (p : Planner) (pool : Pool) : List Failure :=
  (match p.provider with
    | .kubeVirt => []
    | .openStack => InfrastructureStatus.missing p.context.infrastructure) ++
    pool.userDataProblems

/-- All that keeps a pool from being planned. -/
def problems (p : Planner) (pool : Pool) : List Failure :=
  (if p.Knows pool then [] else [(p.imageIdentity pool).notFound]) ++ p.classProblems pool

theorem knows_iff : p.Knows pool ↔ (p.resolver.find? (p.imageIdentity pool)).isSome := by
  have hconfig : p.imageIdentity pool ∈ p.resolver.config.images.map ResolvedImage.identity ↔
      (p.resolver.config.find? (p.imageIdentity pool)).isSome := by
    simp [ImageConfig.find?, List.find?_isSome]
  have hledger : p.imageIdentity pool ∈ p.resolver.persisted.identities ↔
      (p.resolver.persisted.find? (p.imageIdentity pool)).isSome := by
    rw [← not_iff_not, ← ImageLedger.find?_eq_none_iff]
    simp
  rw [Knows, hconfig, hledger, ImageResolver.find?]
  cases p.resolver.config.find? (p.imageIdentity pool) <;> simp

theorem resolve_stopsAt (p : Planner) (pool : Pool) :
    StopsAt (if p.Knows pool then [] else [(p.imageIdentity pool).notFound])
      (p.resolver.resolve (p.imageIdentity pool)).result := by
  cases hr : (p.resolver.resolve (p.imageIdentity pool)).result with
  | error failure =>
    obtain ⟨hf, rfl⟩ := ImageResolver.resolve_eq_error_iff.1 hr
    rw [if_neg (by simp [knows_iff, hf])]
    rfl
  | ok image =>
    have hf := ImageResolver.resolve_eq_ok_iff.1 hr
    exact if_pos (by simp [knows_iff, hf])

theorem build_stopsAt (p : Planner) (pool : Pool) (image : ResolvedImage) (zone : String) :
    StopsAt (p.classProblems pool) (p.provider.build (p.classInput pool image zone)) := by
  have hdata := pool.stopsAt_userDataProblems
  unfold classProblems
  cases p.provider with
  | kubeVirt => exact hdata.bind_ok fun _ => .pure _
  | openStack =>
    exact (InfrastructureStatus.stopsAt_missing p.context.infrastructure).bind fun _ _ =>
      hdata.bind_ok fun _ => .pure _

theorem planZone_stopsAt (p : Planner) (pool : Pool) (image : ResolvedImage) (index : Nat)
    (zone : String) :
    StopsAt (p.classProblems pool) (p.planZone pool image index zone).result := by
  simp only [planZone, Traced.result_bind, Traced.result_ofExcept, Traced.result_emit,
    Traced.result_pure, ok_bind]
  exact (p.build_stopsAt pool image zone).bind_ok fun _ => .pure _

/-- All zones of a pool have the same problems, so the first one decides. -/
theorem planZones_stopsAt (p : Planner) (pool : Pool) (image : ResolvedImage) (index : Nat)
    (zones : List String) :
    StopsAt (if zones = [] then [] else p.classProblems pool)
      (p.planZones pool image index zones).result := by
  induction zones generalizing index with
  | nil => rfl
  | cons zone rest ih =>
    have hzone := p.planZone_stopsAt pool image index zone
    simp only [planZones, Traced.result_bind, Traced.result_pure, if_neg (List.cons_ne_nil zone rest)]
    rw [← List.append_nil (p.classProblems pool)]
    refine hzone.bind fun planned hplanned => ?_
    -- With the first zone planned there is nothing left that could stop another one.
    have hnone : p.classProblems pool = [] := hzone.ok_iff.1 ⟨planned, hplanned⟩
    have hrest := ih (index + 1)
    rw [hnone, ite_self] at hrest
    exact hrest.bind_ok fun _ => .pure _

theorem planPool_stopsAt (p : Planner) (hz : pool.zones ≠ []) :
    StopsAt (p.problems pool) (p.planPool pool).result := by
  simp only [planPool, Traced.result_bind, Traced.result_pure]
  refine (p.resolve_stopsAt pool).bind fun image _ => ?_
  have hzones := p.planZones_stopsAt pool image 0 pool.zones
  rw [if_neg hz] at hzones
  exact hzones.bind_ok fun _ => .pure _

theorem planPools_stopsAt (p : Planner) (hz : ∀ pool ∈ pools, pool.zones ≠ []) :
    StopsAt (pools.flatMap p.problems) (p.planPools pools).result := by
  induction pools with
  | nil => rfl
  | cons pool rest ih =>
    simp only [planPools, Traced.result_bind, Traced.result_pure, List.flatMap_cons]
    refine (p.planPool_stopsAt (hz pool List.mem_cons_self)).bind fun _ _ => ?_
    have hrest := ih fun q hq => hz q (List.mem_cons_of_mem _ hq)
    exact hrest.bind_ok fun _ => .pure _

theorem plan_stopsAt (p : Planner) (hv : Pool.validateAll pools = .ok ()) :
    StopsAt (pools.flatMap p.problems) (p.plan pools).result := by
  simp only [plan, Traced.result_bind, Traced.result_ofExcept, hv, ok_bind, Traced.result_emit,
    Traced.result_pure]
  exact (p.planPools_stopsAt (Pool.zones_ne_nil_of_validateAll hv)).bind_ok fun _ => .pure _

theorem plan_of_invalid (p : Planner) {failure : Failure}
    (hv : Pool.validateAll pools = .error failure) : (p.plan pools).result = .error failure := by
  simp only [plan, Traced.result_bind, Traced.result_ofExcept, hv]
  rfl

theorem exists_plan_iff :
    (∃ plan, (p.plan pools).result = .ok plan) ↔
      Pool.validateAll pools = .ok () ∧ ∀ pool ∈ pools, p.problems pool = [] := by
  cases hv : Pool.validateAll pools with
  | error failure => simp [plan_of_invalid p hv]
  | ok u =>
    rw [(p.plan_stopsAt hv).ok_iff, List.flatMap_eq_nil_iff]
    simp

theorem plan_eq_error_iff {failure : Failure} :
    (p.plan pools).result = .error failure ↔
      Pool.validateAll pools = .error failure ∨ Pool.validateAll pools = .ok () ∧
        ∃ before pool after, pools = before ++ pool :: after ∧
          (∀ q ∈ before, p.problems q = []) ∧ (p.problems pool).head? = some failure := by
  cases hv : Pool.validateAll pools with
  | error other => simp [plan_of_invalid p hv]
  | ok u =>
    rw [(p.plan_stopsAt hv).error_iff, List.head?_flatMap, List.findSome?_eq_some_iff]
    simp only [reduceCtorEq, true_and, false_or, List.head?_eq_none_iff]
    constructor
    · rintro ⟨before, pool, after, rfl, hp, hb⟩
      exact ⟨before, pool, after, rfl, hb, hp⟩
    · rintro ⟨before, pool, after, rfl, hb, hp⟩
      exact ⟨before, pool, after, rfl, hp, hb⟩

/-- What a planner can fail with: something is wrong with a pool, no place has its image, or something
is missing of the infrastructure. -/
theorem failure_of_plan {failure : Failure} (h : (p.plan pools).result = .error failure) :
    (∃ pool field detail, failure = .validation pool field detail) ∨
      (∃ pool ∈ pools, p.resolver.find? (p.imageIdentity pool) = none ∧
        failure = (p.imageIdentity pool).notFound) ∨
      ∃ resource detail, failure = .missingResource resource detail := by
  rcases plan_eq_error_iff.1 h with h | ⟨-, before, pool, after, rfl, -, hfirst⟩
  · obtain ⟨q, -, fault, rfl⟩ := Pool.validateAll_eq_error h
    exact .inl ⟨_, _, _, rfl⟩
  · have hpool : pool ∈ before ++ pool :: after := List.mem_append_right before List.mem_cons_self
    simp only [problems, classProblems] at hfirst
    rcases List.mem_append.1 (List.mem_of_head? hfirst) with h | h
    · rw [List.mem_ite_nil_left, List.mem_singleton] at h
      refine .inr (.inl ⟨pool, hpool, ?_, h.2⟩)
      simpa [knows_iff] using h.1
    · rcases List.mem_append.1 h with h | h
      · split at h
        · contradiction
        · exact .inr (.inr (InfrastructureStatus.missingResource_of_mem_missing h))
      · obtain ⟨detail, rfl⟩ := Pool.validation_of_mem_userDataProblems h
        exact .inl ⟨_, _, _, rfl⟩

theorem problems_eq_nil_iff :
    p.problems pool = [] ↔
      p.Knows pool ∧ (∃ text, pool.userData = Utf8.encode text) ∧
        (p.provider = .openStack → ∃ s, p.context.infrastructure = some s ∧ s.Complete) := by
  simp only [problems, classProblems, List.append_eq_nil_iff, ite_eq_left_iff, List.cons_ne_nil,
    imp_false, not_not, Pool.userDataProblems_eq_nil_iff]
  cases p.provider with
  | kubeVirt => simp
  | openStack => simp [InfrastructureStatus.missing_eq_nil_iff, and_comm]

/-- What comes after a pool with a problem makes no difference. -/
theorem plan_eq_of_problem {before after others : List Pool} (hproblem : p.problems pool ≠ [])
    (hv : Pool.validateAll (before ++ pool :: after) = .ok ())
    (ho : Pool.validateAll (before ++ pool :: others) = .ok ()) :
    (p.plan (before ++ pool :: others)).result = (p.plan (before ++ pool :: after)).result := by
  have hne : before.flatMap p.problems ++ p.problems pool ≠ [] := by simp [hproblem]
  have hfirst (rest : List Pool) : ((before ++ pool :: rest).flatMap p.problems).head? =
      some ((before.flatMap p.problems ++ p.problems pool).head hne) := by
    rw [List.flatMap_append, List.flatMap_cons, ← List.append_assoc,
      List.head?_append_of_ne_nil _ hne, List.head?_eq_some_head]
  rw [((p.plan_stopsAt hv).error_iff _).2 (hfirst after),
    ((p.plan_stopsAt ho).error_iff _).2 (hfirst others)]

/-- All pools are planned or none is: then the failure is that of the checks, or else the first
problem of the first pool that has one, whatever the pools after it are. -/
theorem plan_all_or_nothing (p : Planner) (pools : List Pool) :
    ((∃ plan, (p.plan pools).result = .ok plan) ↔
        Pool.validateAll pools = .ok () ∧ (∀ pool ∈ pools, p.Knows pool) ∧
          (∀ pool ∈ pools, ∃ text, pool.userData = Utf8.encode text) ∧
          (p.provider = .openStack → pools ≠ [] →
            ∃ s, p.context.infrastructure = some s ∧ s.Complete)) ∧
      (∀ failure, (p.plan pools).result = .error failure ↔
        Pool.validateAll pools = .error failure ∨ Pool.validateAll pools = .ok () ∧
          ∃ before pool after, pools = before ++ pool :: after ∧
            (∀ q ∈ before, p.problems q = []) ∧ (p.problems pool).head? = some failure) ∧
      ∀ before pool after others, pools = before ++ pool :: after → p.problems pool ≠ [] →
        Pool.validateAll pools = .ok () → Pool.validateAll (before ++ pool :: others) = .ok () →
          (p.plan (before ++ pool :: others)).result = (p.plan pools).result := by
  refine ⟨?_, fun failure => plan_eq_error_iff, ?_⟩
  · rw [exists_plan_iff]
    refine and_congr_right fun _ => ?_
    simp only [problems_eq_nil_iff]
    constructor
    · intro h
      refine ⟨fun pool hp => (h pool hp).1, fun pool hp => (h pool hp).2.1, fun ho hne => ?_⟩
      obtain ⟨pool, hp⟩ := List.exists_mem_of_ne_nil pools hne
      exact (h pool hp).2.2 ho
    · rintro ⟨hknown, htext, hcomplete⟩ pool hp
      exact ⟨hknown pool hp, htext pool hp, fun ho => hcomplete ho (List.ne_nil_of_mem hp)⟩
  · rintro before pool after others rfl hproblem hv ho
    exact plan_eq_of_problem hproblem hv ho

end Planner

namespace Sample

def pool : Pool where
  name := "workers"
  machineType := "small"
  machineImage := ⟨"linux", "1"⟩
  minimum := 1
  maximum := 2
  maxSurge := .count 1
  maxUnavailable := .count 0
  userData := Utf8.encode "boot"
  zones := ["a"]
  labels := []
  annotations := []
  taints := []

def identity : ImageIdentity := ⟨"linux", "1", "cloud"⟩

def config : ImageConfig := ⟨none, none, [⟨"linux", "1", [⟨"cloud", "linux-1"⟩]⟩]⟩

def planner (credentials : Credentials) (resolver : ImageResolver) : Planner where
  context := ⟨"shoot", "region", "cloud", none, none⟩
  version := ⟨1, 29⟩
  resolver := resolver
  provider := .kubeVirt
  credentials := credentials

def unready : Planner where
  context := ⟨"shoot", "region", "cloud", none, some ⟨"", "", [⟨"nodes", "group"⟩], "", ""⟩⟩
  version := ⟨1, 29⟩
  resolver := ⟨config, .empty⟩
  provider := .openStack
  credentials := ⟨"config", "machines"⟩

def garbled : Pool := { pool with userData := [0xFF] }

def unknown : Pool := { pool with name := "others", machineImage := ⟨"linux", "2"⟩ }

/-- The key pair is missed before the network and before the user data is looked at, and the image
of a second pool is not missed any more. -/
theorem key_pair_missed_first :
    (unready.plan [garbled]).result =
        .error (.missingResource "key pair" "infrastructure status has no node key name") ∧
      (unready.plan [garbled, unknown]).result = (unready.plan [garbled]).result := by
  have hfirst : (unready.problems garbled).head? =
      some (.missingResource "key pair" "infrastructure status has no node key name") := rfl
  have hproblem : unready.problems garbled ≠ [] := by
    intro h
    rw [h] at hfirst
    contradiction
  obtain ⟨-, hfailure, hothers⟩ := unready.plan_all_or_nothing [garbled]
  constructor
  · exact (hfailure _).2 (.inr ⟨rfl, [], garbled, [], rfl, nofun, hfirst⟩)
  · exact hothers [] garbled [] [unknown] rfl hproblem rfl rfl

/-- The pool can be planned if its image is found. -/
theorem exists_plan (credentials : Credentials) {resolver : ImageResolver} {image : ResolvedImage}
    (hf : resolver.find? identity = some image) :
    ∃ plan, ((planner credentials resolver).plan [pool]).result = .ok plan := by
  have hknown : (planner credentials resolver).Knows pool :=
    Planner.knows_iff.2 (Option.isSome_of_eq_some hf)
  refine Planner.exists_plan_iff.2 ⟨rfl, fun p hp => ?_⟩
  obtain rfl := List.mem_singleton.1 hp
  exact Planner.problems_eq_nil_iff.2 ⟨hknown, ⟨"boot", rfl⟩, nofun⟩

end Sample
end PoolPlan
