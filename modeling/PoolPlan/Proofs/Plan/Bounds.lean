import PoolPlan.Proofs.Plan.Coverage

namespace PoolPlan

/-- A deployment that can be rolled out: bounds in order and no negative tolerance. -/
structure Deployment.WellFormed (d : Deployment) : Prop where
  minimum : 0 ≤ d.minimum
  maximum : d.minimum ≤ d.maximum
  surge : d.maxSurge.NotNegative
  unavailable : d.maxUnavailable.NotNegative

theorem Tolerance.NotNegative.share {t : Tolerance} (h : t.NotNegative) (index zones : Nat) :
    (t.share index zones).NotNegative := by
  cases t with
  | count n => exact Zone.share_nonneg h index zones
  | relative text => exact h

namespace Planner
variable {p : Planner} {pools : List Pool} {plan : Plan}

theorem wellFormed_deployment {pool : Pool} (h : pool.fault? = none) (index : Nat)
    (zone className : String) : (p.deployment pool index zone className).WellFormed := by
  obtain ⟨-, -, hminimum, hmaximum, hsurge, hunavailable⟩ := Pool.fault?_eq_none_iff.1 h
  exact ⟨Zone.share_nonneg hminimum index _, Zone.share_mono hmaximum index _, hsurge.share index _,
    hunavailable.share index _⟩

/-- Every deployment of a plan is well formed, however many zones share however few machines. -/
theorem zone_bounds_in_order (h : (p.plan pools).result = .ok plan) :
    (∀ d ∈ plan.deployments, d.WellFormed) ∧
      ∀ (index count : Nat) (s t : Int), s ≤ t →
        Zone.share index s count ≤ Zone.share index t count := by
  refine ⟨?_, fun index count s t hst => Zone.share_mono hst index count⟩
  intro d hd
  obtain ⟨z, hz, rfl⟩ := List.mem_map.1 hd
  obtain ⟨pool, hp, image, -, zone, -, spec, -, rfl⟩ := exists_of_mem_zones h hz
  have hvalid := (plan_eq_ok_iff.1 h).1
  exact wellFormed_deployment ((Pool.validateAll_eq_ok_iff.1 hvalid).1 pool hp) zone.2 zone.1 _

end Planner

namespace Sample

/-- In a pool with more zones than machines some zones may have none, and their bounds are in order. -/
theorem bounds_of_crowded :
    ∃ plan, ((planner ⟨"config", "machines"⟩ ⟨config, .empty⟩).plan crowded).result = .ok plan ∧
      (∀ d ∈ plan.deployments, d.WellFormed) ∧ Zone.share 2 1 3 ≤ Zone.share 2 2 3 := by
  obtain ⟨plan, h⟩ := exists_crowded_plan
  obtain ⟨hwell, hmono⟩ := Planner.zone_bounds_in_order h
  exact ⟨plan, h, hwell, hmono 2 3 1 2 (by decide)⟩

end Sample
end PoolPlan
