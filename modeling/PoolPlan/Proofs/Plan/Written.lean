import PoolPlan.Proofs.Class.Written
import PoolPlan.Proofs.Plan.Classes
import PoolPlan.Proofs.Status.Written
import PoolPlan.Proofs.Worker.Pool
import PoolPlan.Proofs.Zone.Words

namespace PoolPlan

namespace Deployment

structure WrittenAs (d : Deployment) (fields : Dict Json) : Prop where
  keys : fields.keys.Sublist ["name", "className", "secretName", "pool", "zone", "minimum", "maximum",
    "maxSurge", "maxUnavailable", "labels", "annotations", "taints"]
  name : fields.get? "name" = some (.string d.name)
  className : fields.get? "className" = some (.string d.className)
  secretName : fields.get? "secretName" = some (.string d.secretName)
  pool : fields.get? "pool" = some (.string d.pool)
  zone : fields.get? "zone" = some (.string d.zone)
  minimum : fields.get? "minimum" = some (.integer d.minimum)
  maximum : fields.get? "maximum" = some (.integer d.maximum)
  maxSurge : fields.get? "maxSurge" = some d.maxSurge.toJson
  maxUnavailable : fields.get? "maxUnavailable" = some d.maxUnavailable.toJson
  labels : fields.get? "labels" = if !d.labels.isEmpty then some (.ofTexts d.labels) else none
  annotations :
    fields.get? "annotations" = if !d.annotations.isEmpty then some (.ofTexts d.annotations) else none
  taints :
    fields.get? "taints" = if !d.taints.isEmpty then some (.array (d.taints.map Taint.toJson)) else none

theorem exists_writtenAs (d : Deployment) :
    ∃ fields : Dict Json, d.toJson = .object fields ∧ d.WrittenAs fields := by
  refine ⟨_, rfl, ?_, ?_, ?_, ?_, ?_, ?_, ?_, ?_, ?_, ?_, ?_, ?_, ?_⟩
  · simp only [Dict.keys_append]
    exact (((List.Sublist.refl ["name", "className", "secretName", "pool", "zone", "minimum", "maximum",
      "maxSurge", "maxUnavailable"]).append (keys_fieldIf_sublist ..)).append
      (keys_fieldIf_sublist ..)).append (keys_fieldIf_sublist ..)
  all_goals
    simp [Dict.get?_append, Dict.get?_cons, get?_fieldIf]

structure Bounded (d : Deployment) : Prop where
  minimum : int32Of? d.minimum = some d.minimum
  maximum : int32Of? d.maximum = some d.maximum
  maxSurge : d.maxSurge.Storable
  maxUnavailable : d.maxUnavailable.Storable

theorem fits_toJson (room : Nat) {d : Deployment} (h : d.Bounded) : d.toJson.Fits (room + 3) := by
  have htaints : (Json.array (d.taints.map Taint.toJson)).Fits (room + 2) :=
    Json.fits_array_map fun t _ => t.fits_toJson room
  apply Json.fits_object
  simp only [List.forall_mem_append, List.forall_mem_cons]
  exact ⟨⟨⟨⟨Json.fits_string _ _, Json.fits_string _ _, Json.fits_string _ _, Json.fits_string _ _,
    Json.fits_string _ _, Json.fits_integer _ h.minimum, Json.fits_integer _ h.maximum,
    Tolerance.fits_toJson _ h.maxSurge, Tolerance.fits_toJson _ h.maxUnavailable,
    List.forall_mem_nil _⟩, Json.fits_fieldIf _ _ (Json.fits_ofTexts _ _)⟩,
    Json.fits_fieldIf _ _ (Json.fits_ofTexts _ _)⟩, Json.fits_fieldIf _ _ htaints⟩

end Deployment

theorem Tolerance.Storable.share {t : Tolerance} (h : t.Storable) (index zones : Nat) :
    (t.share index zones).Storable := by
  cases t with
  | count n => exact Zone.int32Of?_share h index zones
  | relative text => trivial

namespace Planner
variable {p : Planner} {pools : List Pool} {plan : Plan}

theorem bounded_deployment {pool : Pool} (h : pool.Bounded) (index : Nat) (zone className : String) :
    (p.deployment pool index zone className).Bounded where
  minimum := Zone.int32Of?_share h.minimum index _
  maximum := Zone.int32Of?_share h.maximum index _
  maxSurge := h.maxSurge.share index _
  maxUnavailable := h.maxUnavailable.share index _

/-- Pools with numbers of 32 bits have deployments with numbers of 32 bits. -/
theorem bounded_of_mem_deployments (hpools : ∀ pool ∈ pools, pool.Bounded)
    (h : (p.plan pools).result = .ok plan) : ∀ d ∈ plan.deployments, d.Bounded := by
  intro d hd
  obtain ⟨z, hz, rfl⟩ := List.mem_map.1 hd
  obtain ⟨pool, hpool, image, -, zone, -, spec, -, rfl⟩ := exists_of_mem_zones h hz
  exact bounded_deployment (hpools pool hpool) _ _ _

theorem fits_of_mem_classes (h : (p.plan pools).result = .ok plan) :
    ∀ c ∈ plan.classes, c.toJson.Fits 2 := by
  intro c hc
  obtain ⟨z, hz, rfl⟩ := List.mem_map.1 hc
  obtain ⟨pool, -, image, -, zone, -, hplanned⟩ := exists_of_mem_zones h hz
  obtain ⟨content, -, rfl⟩ := zonePlanned_iff.1 hplanned
  exact content.fits_named p.credentials _

end Planner
end PoolPlan
