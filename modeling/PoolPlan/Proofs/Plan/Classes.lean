import Mathlib.Data.List.Nodup
import PoolPlan.Proofs.Plan.Problems

namespace PoolPlan

namespace Planner
variable {p : Planner} {pool : Pool} {image : ResolvedImage} {zone : String × Nat} {z : PlannedZone}

theorem zonePlanned_iff :
    p.ZonePlanned pool image zone z ↔
      ∃ content, p.provider.content (p.classInput pool image zone.1) = .ok content ∧
        z = p.zoneOf pool zone.2 zone.1 content.spec := by
  simp only [ZonePlanned, Provider.build_eq_ok_iff]
  constructor
  · rintro ⟨_, ⟨content, hc, rfl⟩, rfl⟩
    exact ⟨content, hc, rfl⟩
  · rintro ⟨content, hc, rfl⟩
    exact ⟨content.spec, ⟨content, hc, rfl⟩, rfl⟩

theorem imageName_of_zonePlanned (h : p.ZonePlanned pool image zone z) :
    z.machineClass.spec.get? "imageName" = some (.string image.image) := by
  obtain ⟨content, hc, rfl⟩ := zonePlanned_iff.1 h
  obtain ⟨_, _, -, -, rfl⟩ := Provider.content_eq_ok_iff.1 hc
  simp only [zoneOf, ClassSpec.attachCredentials_spec, ClassSpec.get?_insert, ClassSpec.secretField,
    String.reduceEq, if_false]
  exact (ClassContent.heldBy_spec _).image

/-- The secret of a class holds the user data of its pool and the credentials of the plan. -/
theorem secret_of_zonePlanned (h : p.ZonePlanned pool image zone z) :
    ∃ userData, pool.userDataText = .ok userData ∧
      z.machineClass.spec.get? ClassSpec.secretField =
        some (ClassSpec.secretOf userData p.credentials) := by
  obtain ⟨content, hc, rfl⟩ := zonePlanned_iff.1 h
  obtain ⟨_, userData, -, hu, rfl⟩ := Provider.content_eq_ok_iff.1 hc
  exact ⟨userData, hu, ClassSpec.get?_attachCredentials _ p.credentials⟩

/-- A zone that has the name of a pool is one of that pool. -/
theorem planned_of_name {pools : List Pool} {plan : Plan} (h : (p.plan pools).result = .ok plan)
    (hz : z ∈ plan.zones) (hp : pool ∈ pools) (hn : z.deployment.pool = pool.name) :
    ∃ image, p.resolver.find? (p.imageIdentity pool) = some image ∧
      ∃ zone ∈ pool.zones.zipIdx, p.ZonePlanned pool image zone z := by
  obtain ⟨other, ho, image, hf, zone, hzone, hplanned⟩ := exists_of_mem_zones h hz
  have hname : z.deployment.pool = other.name := by
    obtain ⟨spec, -, rfl⟩ := hplanned
    rfl
  obtain rfl : other = pool :=
    List.inj_on_of_nodup_map (Pool.nodup_of_validateAll (plan_eq_ok_iff.1 h).1) ho hp (hname ▸ hn)
  exact ⟨image, hf, zone, hzone, hplanned⟩

end Planner

end PoolPlan
