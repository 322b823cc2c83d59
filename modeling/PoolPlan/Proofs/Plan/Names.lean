import Mathlib.Data.List.Nodup
import PoolPlan.Proofs.Class.Fingerprint
import PoolPlan.Proofs.Plan.Coverage

namespace PoolPlan

namespace Hex

theorem not_mem_encode {c : Char} (hc : ∀ n : Fin 16, digit n ≠ c) (bytes : Bytes) :
    c ∉ encode bytes := by
  intro hm
  obtain ⟨b, -, hb⟩ := List.mem_flatMap.1 hm
  have hlt := b.toNat_lt
  simp only [List.mem_cons, List.not_mem_nil, or_false] at hb
  rcases hb with he | he
  · exact hc ⟨b.toNat / 16, by omega⟩ he.symm
  · exact hc ⟨b.toNat % 16, by omega⟩ he.symm

end Hex

theorem ClassSpec.not_mem_fingerprint {c : Char} (hc : ∀ n : Fin 16, Hex.digit n ≠ c)
    (spec : ClassSpec) (version : VersionMarker) : c ∉ (spec.fingerprint version).toList := by
  rw [fingerprint, String.toList_ofList]
  exact Hex.not_mem_encode hc _

namespace Deployment

/-- The name from its end: the zone's number, a mark that is no digit, and the rest. -/
theorem reverse_nameFor (ns pool : String) (index : Nat) :
    (nameFor ns pool index).toList.reverse =
      (Nat.toDigits 10 (index + 1)).reverse ++ 'z' :: '-' :: (ns ++ "-" ++ pool).toList.reverse := by
  simp [nameFor, toString, Nat.toList_repr]

theorem nameFor_injective {ns a b : String} {i j : Nat} (h : nameFor ns a i = nameFor ns b j) :
    a = b ∧ i = j := by
  have hl := congrArg (fun s => s.toList.reverse) h
  simp only [reverse_nameFor] at hl
  have hz (n : Nat) : 'z' ∉ (Nat.toDigits 10 n).reverse := by
    rw [List.mem_reverse]
    exact VersionMarker.not_mem_toDigits (by decide) n
  obtain ⟨hdigits, hrest⟩ := List.append_cons_inj_of_not_mem (hz (i + 1)) (hz (j + 1)) hl
  have hnumber : i + 1 = j + 1 := VersionMarker.toDigits_injective (List.reverse_inj.1 hdigits)
  have hpool : (ns ++ "-" ++ a).toList = (ns ++ "-" ++ b).toList :=
    List.reverse_inj.1 (List.cons.inj hrest).2
  constructor
  · exact String.toList_injective (by simpa using hpool)
  · omega

end Deployment

def ClassSpec.nameAfter (spec : ClassSpec) (deployment : String) (version : VersionMarker) :
    String := deployment ++ "-" ++ spec.fingerprint version

namespace ClassSpec
variable {a b : ClassSpec} {version : VersionMarker}

theorem nameAfter_injective {d e : String}
    (h : a.nameAfter d version = b.nameAfter e version) : d = e := by
  have hl := congrArg String.toList h
  simp only [nameAfter, String.toList_append] at hl
  have hlength : (a.fingerprint version).toList.length = (b.fingerprint version).toList.length := by
    rw [String.length_toList, String.length_toList, fingerprint_eq_suffix, fingerprint_eq_suffix,
      length_suffix, length_suffix]
  have hfront := (List.append_inj' hl hlength).1
  exact String.toList_injective (List.append_inj' hfront rfl).1

/-- After the last dash there is a `z` in a deployment's name and none in a class name. -/
theorem nameAfter_ne_nameFor (d ns pool : String) (index : Nat) :
    a.nameAfter d version ≠ Deployment.nameFor ns pool index := by
  intro h
  have hl := congrArg (fun s => s.toList.reverse) h
  have hclass : (a.nameAfter d version).toList.reverse =
      (a.fingerprint version).toList.reverse ++ '-' :: d.toList.reverse := by
    simp [nameAfter]
  have hdeployment : (Deployment.nameFor ns pool index).toList.reverse =
      ((Nat.toDigits 10 (index + 1)).reverse ++ ['z']) ++ '-' :: (ns ++ "-" ++ pool).toList.reverse := by
    rw [Deployment.reverse_nameFor, List.append_assoc]
    rfl
  simp only [hclass, hdeployment] at hl
  have hmark : '-' ∉ (a.fingerprint version).toList.reverse := by
    rw [List.mem_reverse]
    exact not_mem_fingerprint (by decide) a version
  have hnumber : '-' ∉ (Nat.toDigits 10 (index + 1)).reverse ++ ['z'] := by
    rw [List.mem_append, List.mem_reverse, not_or]
    exact ⟨VersionMarker.not_mem_toDigits (by decide) _, by decide⟩
  have hsame := (List.append_cons_inj_of_not_mem hmark hnumber hl).1
  have hz : 'z' ∈ (a.fingerprint version).toList.reverse := by simp [hsame]
  exact not_mem_fingerprint (by decide) a version (List.mem_reverse.1 hz)

end ClassSpec

namespace Planner
variable {p : Planner} {pools : List Pool} {plan : Plan}

theorem deployment_names (h : (p.plan pools).result = .ok plan) :
    plan.deployments.map Deployment.name = pools.flatMap (fun pool =>
      (List.range pool.zones.length).map (Deployment.nameFor p.context.ns pool.name)) := by
  rw [deployments_eq_flatMap h, List.map_flatMap]
  exact List.flatMap_congr fun pool hp => map_deploymentsOf (fun _ _ _ => rfl) h hp

theorem nodup_deployment_names (h : (p.plan pools).result = .ok plan) :
    (plan.deployments.map Deployment.name).Nodup := by
  have hpools := Pool.nodup_of_validateAll (plan_eq_ok_iff.1 h).1
  rw [deployment_names h, List.nodup_flatMap]
  -- Inside a pool the numbers of the zones differ, between pools the names of the pools do.
  constructor
  · intro pool _
    refine List.Nodup.map ?_ List.nodup_range
    intro i j hij
    exact (Deployment.nameFor_injective hij).2
  · refine (List.pairwise_map.1 hpools).imp ?_
    intro a b hab name ha hb
    obtain ⟨i, -, hi⟩ := List.mem_map.1 ha
    obtain ⟨j, -, hj⟩ := List.mem_map.1 hb
    exact hab (Deployment.nameFor_injective (hi.trans hj.symm)).1

theorem name_of_mem_zones (h : (p.plan pools).result = .ok plan) {z : PlannedZone}
    (hz : z ∈ plan.zones) :
    ∃ (pool : Pool) (index : Nat) (spec : ClassSpec),
      z.deployment.name = Deployment.nameFor p.context.ns pool.name index ∧
        z.machineClass.name = spec.nameAfter z.deployment.name p.version := by
  obtain ⟨pool, -, image, -, zone, -, spec, -, rfl⟩ := exists_of_mem_zones h hz
  exact ⟨pool, zone.2, spec, rfl, rfl⟩

theorem nodup_class_names (h : (p.plan pools).result = .ok plan) :
    (plan.classes.map MachineClass.name).Nodup := by
  have hdeployments := nodup_deployment_names h
  rw [Plan.deployments, List.map_map, List.Nodup, List.pairwise_map] at hdeployments
  rw [Plan.classes, List.map_map, List.Nodup, List.pairwise_map]
  refine hdeployments.imp_of_mem ?_
  intro y z hy hz hne hsame
  obtain ⟨-, -, a, -, ha⟩ := name_of_mem_zones h hy
  obtain ⟨-, -, b, -, hb⟩ := name_of_mem_zones h hz
  exact hne (ClassSpec.nameAfter_injective (ha.symm.trans (hsame.trans hb)))

/-- No two deployments, no two classes and no two secrets of a plan have one name, and no class has
the name of a deployment. -/
theorem names_never_collide (h : (p.plan pools).result = .ok plan) :
    (plan.deployments.map Deployment.name).Nodup ∧
      (plan.classes.map MachineClass.name).Nodup ∧
      (plan.deployments.map Deployment.secretName).Nodup ∧
      ∀ c ∈ plan.classes, ∀ d ∈ plan.deployments, c.name ≠ d.name := by
  have hclasses := nodup_class_names h
  have hsecrets : plan.deployments.map Deployment.secretName =
      plan.classes.map MachineClass.name := by
    simp only [Plan.classes, Plan.deployments, List.map_map]
    refine List.map_congr_left fun z hz => ?_
    obtain ⟨hname, hsecret⟩ := className_of_mem_zones h hz
    exact hsecret.trans hname.symm
  refine ⟨nodup_deployment_names h, hclasses, hsecrets ▸ hclasses, ?_⟩
  intro c hc d hd
  obtain ⟨y, hy, rfl⟩ := List.mem_map.1 hc
  obtain ⟨z, hz, rfl⟩ := List.mem_map.1 hd
  obtain ⟨-, -, a, -, ha⟩ := name_of_mem_zones h hy
  obtain ⟨pool, index, -, hname, -⟩ := name_of_mem_zones h hz
  rw [ha, hname]
  exact ClassSpec.nameAfter_ne_nameFor _ _ _ _

end Planner

namespace Sample

/-- Neither a zone that stands twice in its pool nor a pool named like another pool's deployment
makes two names the same. -/
theorem names_of_crowded :
    ∃ plan, ((planner ⟨"config", "machines"⟩ ⟨config, .empty⟩).plan crowded).result = .ok plan ∧
      plan.deployments.map Deployment.name =
        ["shoot-a-z1", "shoot-a-z2", "shoot-a-z3", "shoot-a-z1-z1"] ∧
      (plan.deployments.map Deployment.name).Nodup ∧
      (plan.classes.map MachineClass.name).Nodup := by
  obtain ⟨plan, h⟩ := exists_crowded_plan
  obtain ⟨hdeployments, hclasses, -⟩ := Planner.names_never_collide h
  exact ⟨plan, h, Planner.deployment_names h, hdeployments, hclasses⟩

end Sample
end PoolPlan
