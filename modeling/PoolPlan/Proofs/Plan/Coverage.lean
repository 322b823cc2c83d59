import PoolPlan.Proofs.Plan.Problems
import PoolPlan.Proofs.Zone

namespace PoolPlan

/-- A deployment stands for a zone, given with its index, of a pool. -/
structure Deployment.StandsFor (d : Deployment) (ns : String) (owner : Pool)
    (zone : String × Nat) : Prop where
  name : d.name = ns ++ "-" ++ owner.name ++ "-z" ++ toString (zone.2 + 1)
  pool : d.pool = owner.name
  zone : d.zone = zone.1
  labels : d.labels = owner.labels
  annotations : d.annotations = owner.annotations
  taints : d.taints = owner.taints
  relativeSurge : ∀ text, owner.maxSurge = .relative text → d.maxSurge = .relative text
  relativeUnavailable :
    ∀ text, owner.maxUnavailable = .relative text → d.maxUnavailable = .relative text

/-- The tolerances are counts that add up to `total`. -/
def Tolerance.AddUpTo (tolerances : List Tolerance) (total : Int) : Prop :=
  ∃ counts : List Int, tolerances = counts.map .count ∧ counts.sum = total

/-- Deployments have all machines of a pool between them. -/
structure Pool.SplitInto (pool : Pool) (deployments : List Deployment) : Prop where
  minimum : (deployments.map Deployment.minimum).sum = pool.minimum
  maximum : (deployments.map Deployment.maximum).sum = pool.maximum
  surge : ∀ n, pool.maxSurge = .count n →
    Tolerance.AddUpTo (deployments.map Deployment.maxSurge) n
  unavailable : ∀ n, pool.maxUnavailable = .count n →
    Tolerance.AddUpTo (deployments.map Deployment.maxUnavailable) n

theorem Tolerance.share_addUpTo {count : Nat} (hpos : 0 < count) (hlimit : count < Zone.countLimit)
    (total : Int) :
    AddUpTo ((List.range count).map (fun index => share index (.count total) count)) total := by
  refine ⟨(List.range count).map (fun index => Zone.share index total count), ?_,
    Zone.sum_share hpos hlimit total⟩
  rw [List.map_map]
  rfl

namespace Planner
variable {p : Planner} {pools : List Pool} {pool : Pool} {plan : Plan}

theorem standsFor_of_zonePlanned {image : ResolvedImage} {zone : String × Nat} {z : PlannedZone}
    (h : p.ZonePlanned pool image zone z) : z.deployment.StandsFor p.context.ns pool zone := by
  obtain ⟨spec, -, rfl⟩ := h
  refine ⟨rfl, rfl, rfl, rfl, rfl, rfl, ?_, ?_⟩
  all_goals
    intro text ht
    simp only [zoneOf, deployment, ht, Tolerance.share]

theorem PoolPlanned.unique {part other : PlannedPool} (h : p.PoolPlanned pool part)
    (ho : p.PoolPlanned pool other) : part = other := by
  rw [← planPool_eq_ok_iff] at h ho
  exact Except.ok.inj (h.symm.trans ho)

/-- The deployments of a pool are those of its part of the plan. -/
theorem exists_part (h : (p.plan pools).result = .ok plan) (hp : pool ∈ pools) :
    ∃ part, p.PoolPlanned pool part ∧
      plan.deploymentsOf pool.name = part.zones.map PlannedZone.deployment := by
  obtain ⟨hv, parts, hparts, rfl⟩ := plan_eq_ok_iff.1 h
  obtain ⟨part, hpart, hfilter⟩ := zones_of_pool (Pool.nodup_of_validateAll hv) hparts hp
  refine ⟨part, hpart, ?_⟩
  rw [← hfilter, Plan.deploymentsOf, Plan.deployments, List.filter_map]
  rfl

theorem deployments_eq_flatMap (h : (p.plan pools).result = .ok plan) :
    plan.deployments = pools.flatMap (fun pool => plan.deploymentsOf pool.name) := by
  -- A pool has one part only: the one that is found under its name.
  have hpart {pool : Pool} {part : PlannedPool} (hp : pool ∈ pools)
      (hplanned : p.PoolPlanned pool part) :
      plan.deploymentsOf pool.name = part.zones.map PlannedZone.deployment := by
    obtain ⟨own, hown, he⟩ := exists_part h hp
    rwa [hown.unique hplanned] at he
  obtain ⟨-, parts, hparts, rfl⟩ := plan_eq_ok_iff.1 h
  have hmem := (List.forall₂_and_left pools parts).2 ⟨fun _ hp => hp, hparts⟩
  have hsame : pools.map (fun pool => (p.assemble parts).deploymentsOf pool.name) =
      parts.map (fun part => part.zones.map PlannedZone.deployment) :=
    hmem.map_eq_map fun _ _ hp => hpart hp.1 hp.2
  rw [List.flatMap_def, hsame, ← List.flatMap_def, Plan.deployments, assemble, List.map_flatMap]

/-- The deployments of a pool stand for its zones. -/
theorem forall₂_deploymentsOf (h : (p.plan pools).result = .ok plan) (hp : pool ∈ pools) :
    List.Forall₂ (fun zone d => d.StandsFor p.context.ns pool zone) pool.zones.zipIdx
      (plan.deploymentsOf pool.name) := by
  obtain ⟨part, hpart, he⟩ := exists_part h hp
  rw [he, List.forall₂_map_right_iff]
  exact hpart.zones.imp fun _ _ => standsFor_of_zonePlanned

/-- What depends on nothing but the index of a zone, for the deployments of a pool. -/
theorem map_deploymentsOf {α : Type} {f : Deployment → α} {g : Nat → α}
    (hfg : ∀ index zone className, f (p.deployment pool index zone className) = g index)
    (h : (p.plan pools).result = .ok plan) (hp : pool ∈ pools) :
    (plan.deploymentsOf pool.name).map f = (List.range pool.zones.length).map g := by
  obtain ⟨part, hpart, he⟩ := exists_part h hp
  have hindices : List.range pool.zones.length = pool.zones.zipIdx.map Prod.snd := by
    rw [List.zipIdx_map_snd, List.range_eq_range']
  rw [he, hindices, List.map_map, List.map_map]
  refine (hpart.zones.map_eq_map fun zone z hz => ?_).symm
  obtain ⟨spec, -, rfl⟩ := hz
  exact (hfg zone.2 zone.1 _).symm

theorem splitInto_deploymentsOf (h : (p.plan pools).result = .ok plan) (hp : pool ∈ pools)
    (hlimit : pool.zones.length < Zone.countLimit) :
    pool.SplitInto (plan.deploymentsOf pool.name) := by
  have hpos : 0 < pool.zones.length :=
    List.length_pos_of_ne_nil (Pool.zones_ne_nil_of_validateAll (plan_eq_ok_iff.1 h).1 pool hp)
  constructor
  · rw [map_deploymentsOf (fun _ _ _ => rfl) h hp]
    exact Zone.sum_share hpos hlimit pool.minimum
  · rw [map_deploymentsOf (fun _ _ _ => rfl) h hp]
    exact Zone.sum_share hpos hlimit pool.maximum
  · intro n hn
    rw [map_deploymentsOf (fun _ _ _ => rfl) h hp, hn]
    exact Tolerance.share_addUpTo hpos hlimit n
  · intro n hn
    rw [map_deploymentsOf (fun _ _ _ => rfl) h hp, hn]
    exact Tolerance.share_addUpTo hpos hlimit n

theorem className_of_mem_zones (h : (p.plan pools).result = .ok plan) {z : PlannedZone}
    (hz : z ∈ plan.zones) :
    z.machineClass.name = z.deployment.className ∧
      z.deployment.secretName = z.deployment.className := by
  obtain ⟨pool, -, image, -, zone, -, spec, -, rfl⟩ := exists_of_mem_zones h hz
  exact ⟨rfl, rfl⟩

/-- A plan has one deployment for each zone of each pool, in their order, each with a class and a
secret of one name, and the deployments of a pool have its machines between them. -/
theorem every_zone_planned_once (h : (p.plan pools).result = .ok plan) :
    plan.deployments = pools.flatMap (fun pool => plan.deploymentsOf pool.name) ∧
      (∀ pool ∈ pools,
        List.Forall₂ (fun zone d => d.StandsFor p.context.ns pool zone) pool.zones.zipIdx
            (plan.deploymentsOf pool.name) ∧
          (plan.deploymentsOf pool.name).length = pool.zones.length ∧
          (pool.zones.length < Zone.countLimit →
            pool.SplitInto (plan.deploymentsOf pool.name))) ∧
      plan.classes.length = plan.deployments.length ∧
      plan.classes.map MachineClass.name = plan.deployments.map Deployment.className ∧
      plan.deployments.map Deployment.secretName = plan.deployments.map Deployment.className := by
  refine ⟨deployments_eq_flatMap h, fun pool hp => ?_, ?_, ?_, ?_⟩
  · have hzones := forall₂_deploymentsOf h hp
    have hlength := hzones.length_eq
    rw [List.length_zipIdx] at hlength
    exact ⟨hzones, hlength.symm, splitInto_deploymentsOf h hp⟩
  · simp only [Plan.classes, Plan.deployments, List.length_map]
  · simp only [Plan.classes, Plan.deployments, List.map_map]
    exact List.map_congr_left fun z hz => (className_of_mem_zones h hz).1
  · simp only [Plan.deployments, List.map_map]
    exact List.map_congr_left fun z hz => (className_of_mem_zones h hz).2

end Planner

namespace Sample

/-- Two pools that share a zone. The first has it twice and more zones than machines, and with a
zone's number at the end its name is that of the second. -/
def crowded : List Pool := [
  { pool with
    name := "a"
    maxUnavailable := .relative "50%"
    zones := ["north", "north", "south"] },
  { pool with
    name := "a-z1"
    zones := ["north"] }]

theorem exists_crowded_plan :
    ∃ plan, ((planner ⟨"config", "machines"⟩ ⟨config, .empty⟩).plan crowded).result = .ok plan := by
  refine Planner.exists_plan_iff.2 ⟨rfl, fun pool hp => ?_⟩
  rw [Planner.problems_eq_nil_iff]
  simp only [crowded, List.mem_cons, List.not_mem_nil, or_false] at hp
  rcases hp with rfl | rfl <;> exact ⟨by decide, ⟨"boot", rfl⟩, nofun⟩

/-- Three zones have the one machine between them that their pool starts with. -/
theorem one_machine_for_three_zones :
    ∃ plan, ((planner ⟨"config", "machines"⟩ ⟨config, .empty⟩).plan crowded).result = .ok plan ∧
      (plan.deploymentsOf "a").length = 3 ∧
      ((plan.deploymentsOf "a").map Deployment.minimum).sum = 1 ∧
      (plan.deploymentsOf "a-z1").length = 1 := by
  obtain ⟨plan, h⟩ := exists_crowded_plan
  obtain ⟨-, hpools, -⟩ := Planner.every_zone_planned_once h
  obtain ⟨-, hlength, hsplit⟩ := hpools _ List.mem_cons_self
  obtain ⟨-, hother, -⟩ := hpools _ (List.mem_cons_of_mem _ List.mem_cons_self)
  exact ⟨plan, h, hlength, (hsplit (by decide)).minimum, hother⟩

end Sample
end PoolPlan
