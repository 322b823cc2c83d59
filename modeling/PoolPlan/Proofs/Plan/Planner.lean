import PoolPlan.Plan.Planner
import PoolPlan.Proofs.Lists
import PoolPlan.Proofs.Traced
import PoolPlan.Proofs.Worker.Validation

namespace PoolPlan

def ImageIdentity.notFound (identity : ImageIdentity) : Failure :=
  .imageNotFound identity.name identity.version identity.cloudProfile

theorem ImageIdentity.notFound_injective {a b : ImageIdentity} (h : a.notFound = b.notFound) :
    a = b := by
  cases a
  cases b
  simpa [notFound] using h

namespace ImageResolver

/-- The image of an identity, wherever it comes from. -/
def find? (r : ImageResolver) (identity : ImageIdentity) : Option ResolvedImage :=
  match r.config.find? identity with
  | some image => some ⟨identity, image⟩
  | none => r.persisted.find? identity

theorem find?_of_configured {r : ImageResolver} {identity : ImageIdentity} {image : String}
    (h : r.config.find? identity = some image) : r.find? identity = some ⟨identity, image⟩ := by
  simp only [find?, h]

theorem find?_of_not_configured {r : ImageResolver} {identity : ImageIdentity}
    (h : r.config.find? identity = none) : r.find? identity = r.persisted.find? identity := by
  simp only [find?, h]

/-- What the ledger has is found. -/
theorem isSome_find? {r : ImageResolver} {identity : ImageIdentity}
    (h : (r.persisted.find? identity).isSome) : (r.find? identity).isSome := by
  unfold find?
  split
  · rfl
  · exact h

theorem resolve_eq_ok_iff {r : ImageResolver} {identity : ImageIdentity} {image : ResolvedImage} :
    (r.resolve identity).result = .ok image ↔ r.find? identity = some image := by
  unfold resolve find?
  cases r.config.find? identity with
  | some i => simp
  | none => cases r.persisted.find? identity <;> simp

theorem resolve_eq_error_iff {r : ImageResolver} {identity : ImageIdentity} {failure : Failure} :
    (r.resolve identity).result = .error failure ↔
      r.find? identity = none ∧ failure = identity.notFound := by
  unfold resolve find? ImageIdentity.notFound
  cases r.config.find? identity with
  | some i => simp
  | none => cases r.persisted.find? identity <;> simp [eq_comm]

theorem identity_of_find? {r : ImageResolver} {identity : ImageIdentity} {image : ResolvedImage}
    (h : r.find? identity = some image) : image.identity = identity := by
  unfold find? at h
  split at h
  · obtain rfl := Option.some.inj h
    rfl
  · simpa using List.find?_some h

end ImageResolver

def Plan.zoneAt? (plan : Plan) (pool : String) (index : Nat) : Option PlannedZone :=
  (plan.zones.filter (fun z => z.deployment.pool == pool))[index]?

namespace Planner

/-- What the zone at an index of a pool has in a plan. -/
def ZonePlanned (p : Planner) (pool : Pool) (image : ResolvedImage) (zone : String × Nat)
    (z : PlannedZone) : Prop :=
  ∃ spec, p.provider.build (p.classInput pool image zone.1) = .ok spec ∧
    z = p.zoneOf pool zone.2 zone.1 spec

structure PoolPlanned (p : Planner) (pool : Pool) (part : PlannedPool) : Prop where
  found : p.resolver.find? (p.imageIdentity pool) = some part.image
  zones : List.Forall₂ (p.ZonePlanned pool part.image) pool.zones.zipIdx part.zones

variable {p : Planner}

theorem deploymentName_zoneOf (pool : Pool) (index : Nat) (zone : String) (spec : ClassSpec) :
    (p.zoneOf pool index zone spec).deployment.name =
      Deployment.nameFor p.context.ns pool.name index := rfl

theorem planZone_eq_ok_iff {pool : Pool} {image : ResolvedImage} {index : Nat} {zone : String}
    {z : PlannedZone} :
    (p.planZone pool image index zone).result = .ok z ↔
      p.ZonePlanned pool image (zone, index) z := by
  simp [planZone, ZonePlanned, bind_eq_ok_iff, eq_comm (a := z)]

theorem planZones_eq_ok_iff {pool : Pool} {image : ResolvedImage} {index : Nat}
    {zones : List String} {planned : List PlannedZone} :
    (p.planZones pool image index zones).result = .ok planned ↔
      List.Forall₂ (p.ZonePlanned pool image) (zones.zipIdx index) planned := by
  induction zones generalizing index planned with
  | nil => simp [planZones, eq_comm]
  | cons zone rest ih =>
    simp only [planZones, Traced.result_bind, bind_eq_ok_iff, planZone_eq_ok_iff, ih,
      Traced.result_pure, Except.ok.injEq, List.zipIdx_cons, List.forall₂_cons_left_iff]
    constructor
    · rintro ⟨z, hz, zs, hzs, rfl⟩
      exact ⟨z, zs, hz, hzs, rfl⟩
    · rintro ⟨z, zs, hz, hzs, rfl⟩
      exact ⟨z, hz, zs, hzs, rfl⟩

theorem planPool_eq_ok_iff {pool : Pool} {part : PlannedPool} :
    (p.planPool pool).result = .ok part ↔ p.PoolPlanned pool part := by
  simp only [planPool, Traced.result_bind, bind_eq_ok_iff, ImageResolver.resolve_eq_ok_iff,
    planZones_eq_ok_iff, Traced.result_pure, Except.ok.injEq]
  constructor
  · rintro ⟨image, hf, zones, hz, rfl⟩
    exact ⟨hf, hz⟩
  · intro h
    exact ⟨part.image, h.found, part.zones, h.zones, rfl⟩

theorem planPools_eq_ok_iff {pools : List Pool} {parts : List PlannedPool} :
    (p.planPools pools).result = .ok parts ↔ List.Forall₂ p.PoolPlanned pools parts := by
  induction pools generalizing parts with
  | nil => simp [planPools, eq_comm]
  | cons pool rest ih =>
    simp only [planPools, Traced.result_bind, bind_eq_ok_iff, planPool_eq_ok_iff, ih,
      Traced.result_pure, Except.ok.injEq, List.forall₂_cons_left_iff]
    constructor
    · rintro ⟨part, hp, others, ho, rfl⟩
      exact ⟨part, others, hp, ho, rfl⟩
    · rintro ⟨part, others, hp, ho, rfl⟩
      exact ⟨part, hp, others, ho, rfl⟩

/-- A plan is assembled from the parts of its pools. -/
theorem plan_eq_ok_iff {pools : List Pool} {plan : Plan} :
    (p.plan pools).result = .ok plan ↔ Pool.validateAll pools = .ok () ∧
      ∃ parts, List.Forall₂ p.PoolPlanned pools parts ∧ plan = p.assemble parts := by
  simp only [Planner.plan, Traced.result_bind, bind_eq_ok_iff, Traced.result_ofExcept,
    planPools_eq_ok_iff, Traced.result_emit, Traced.result_pure, Except.ok.injEq]
  constructor
  · rintro ⟨_, hv, parts, hp, _, _, rfl⟩
    exact ⟨hv, parts, hp, rfl⟩
  · rintro ⟨hv, parts, hp, rfl⟩
    exact ⟨(), hv, parts, hp, (), trivial, rfl⟩

theorem pool_of_mem_zones {pool : Pool} {part : PlannedPool} (h : p.PoolPlanned pool part)
    {z : PlannedZone} (hz : z ∈ part.zones) : z.deployment.pool = pool.name := by
  obtain ⟨zone, -, spec, -, rfl⟩ := h.zones.exists_of_mem hz
  rfl

/-- The zones under a pool's name are those of that pool alone. -/
theorem zones_of_pool {pools : List Pool} {parts : List PlannedPool}
    (hn : (pools.map Pool.name).Nodup) (h : List.Forall₂ p.PoolPlanned pools parts) {pool : Pool}
    (hp : pool ∈ pools) :
    ∃ part, p.PoolPlanned pool part ∧
      (parts.flatMap PlannedPool.zones).filter (fun z => z.deployment.pool == pool.name) =
        part.zones := by
  have own {q : Pool} {part : PlannedPool} (hq : p.PoolPlanned q part) (he : q.name = pool.name) :
      part.zones.filter (fun z => z.deployment.pool == pool.name) = part.zones := by
    rw [List.filter_eq_self]
    intro z hz
    simp [pool_of_mem_zones hq hz, he]
  have other {q : Pool} {part : PlannedPool} (hq : p.PoolPlanned q part) (he : q.name ≠ pool.name) :
      part.zones.filter (fun z => z.deployment.pool == pool.name) = [] := by
    rw [List.filter_eq_nil_iff]
    intro z hz
    simp [pool_of_mem_zones hq hz, he]
  induction h with
  | nil => contradiction
  | @cons q part rest others hq hrest ih =>
    obtain ⟨hnew, hn⟩ := List.nodup_cons.1 hn
    rw [List.flatMap_cons, List.filter_append]
    rcases List.mem_cons.1 hp with rfl | hp
    · refine ⟨part, hq, ?_⟩
      have hnone : (others.flatMap PlannedPool.zones).filter
          (fun z => z.deployment.pool == pool.name) = [] := by
        rw [List.filter_eq_nil_iff]
        intro z hz
        obtain ⟨o, ho, hzo⟩ := List.mem_flatMap.1 hz
        obtain ⟨r, hr, hro⟩ := hrest.exists_of_mem ho
        have hne : r.name ≠ pool.name := fun he => hnew (he ▸ List.mem_map_of_mem hr)
        simp [pool_of_mem_zones hro hzo, hne]
      rw [own hq rfl, hnone, List.append_nil]
    · obtain ⟨o, hpo, hz⟩ := ih hn hp
      have hne : q.name ≠ pool.name := fun he => hnew (he ▸ List.mem_map_of_mem hp)
      exact ⟨o, hpo, by rw [other hq hne, hz, List.nil_append]⟩

/-- Every zone of a plan is one of a pool. -/
theorem exists_of_mem_zones {pools : List Pool} {plan : Plan} (h : (p.plan pools).result = .ok plan)
    {z : PlannedZone} (hz : z ∈ plan.zones) :
    ∃ pool ∈ pools, ∃ image, p.resolver.find? (p.imageIdentity pool) = some image ∧
      ∃ zone ∈ pool.zones.zipIdx, p.ZonePlanned pool image zone z := by
  obtain ⟨-, parts, hparts, rfl⟩ := plan_eq_ok_iff.1 h
  obtain ⟨part, hpart, hz⟩ := List.mem_flatMap.1 hz
  obtain ⟨pool, hpool, hplanned⟩ := hparts.exists_of_mem hpart
  obtain ⟨zone, hzone, hz⟩ := hplanned.zones.exists_of_mem hz
  exact ⟨pool, hpool, part.image, hplanned.found, zone, hzone, hz⟩

/-- Every zone of a pool stands in the plan, at its index. -/
theorem exists_zoneAt? {pools : List Pool} {plan : Plan} (h : (p.plan pools).result = .ok plan)
    {pool : Pool} (hp : pool ∈ pools) {index : Nat} {zone : String}
    (hz : pool.zones[index]? = some zone) :
    ∃ image z, p.resolver.find? (p.imageIdentity pool) = some image ∧
      plan.zoneAt? pool.name index = some z ∧ p.ZonePlanned pool image (zone, index) z := by
  obtain ⟨hv, parts, hparts, rfl⟩ := plan_eq_ok_iff.1 h
  obtain ⟨part, hpart, he⟩ := zones_of_pool (Pool.nodup_of_validateAll hv) hparts hp
  have hi : pool.zones.zipIdx[index]? = some (zone, index) := by
    rw [List.getElem?_zipIdx, hz, Option.map_some, Nat.zero_add]
  obtain ⟨z, hz, hplanned⟩ := hpart.zones.exists_getElem? hi
  exact ⟨part.image, z, hpart.found, by rw [Plan.zoneAt?, assemble, he, hz], hplanned⟩

end Planner
end PoolPlan
