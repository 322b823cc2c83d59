import PoolPlan.Proofs.Plan.Coverage

namespace PoolPlan

def Plan.zonesOf (plan : Plan) (pool : String) : List PlannedZone :=
  plan.zones.filter (fun z => z.deployment.pool == pool)

theorem ImageLedger.refreshAll_append (l : ImageLedger) (images others : List ResolvedImage) :
    l.refreshAll (images ++ others) = (l.refreshAll images).refreshAll others :=
  List.foldl_append

namespace Planner
variable {p : Planner} {ps qs : List Pool}

/-- The parts of two lists of pools are planned one after the other. -/
theorem result_planPools_append (p : Planner) (ps qs : List Pool) :
    (p.planPools (ps ++ qs)).result =
      (p.planPools ps).result >>= fun as => (p.planPools qs).result >>= fun bs => .ok (as ++ bs) := by
  induction ps with
  | nil =>
    have hsame (x : Except Failure (List PlannedPool)) : (x >>= fun bs => Except.ok bs) = x :=
      bind_pure x
    simp only [List.nil_append, planPools, Traced.result_pure, ok_bind, hsame]
  | cons pool ps ih =>
    simp only [List.cons_append, planPools, Traced.result_bind, ih, Traced.result_pure, bind_assoc,
      ok_bind]

/-- Once the pools passed the checks nothing but the planning of one of them can fail. -/
theorem result_plan_of_valid {pools : List Pool} (hv : Pool.validateAll pools = .ok ()) :
    (p.plan pools).result = (p.planPools pools).result.map p.assemble := by
  simp only [plan, Traced.result_bind, Traced.result_ofExcept, hv, ok_bind, Traced.result_emit,
    Traced.result_pure]
  cases (p.planPools pools).result with
  | error failure => rfl
  | ok parts => rfl

/-- The plan of two lists of pools is assembled from the parts of both. -/
theorem plan_append_of_ok {plan a b : Plan} (h : (p.plan (ps ++ qs)).result = .ok plan)
    (ha : (p.plan ps).result = .ok a) (hb : (p.plan qs).result = .ok b) :
    ∃ as bs, List.Forall₂ p.PoolPlanned qs bs ∧ a = p.assemble as ∧ b = p.assemble bs ∧
      plan = p.assemble (as ++ bs) := by
  obtain ⟨-, parts, hparts, rfl⟩ := plan_eq_ok_iff.1 h
  obtain ⟨-, as, has, rfl⟩ := plan_eq_ok_iff.1 ha
  obtain ⟨-, bs, hbs, rfl⟩ := plan_eq_ok_iff.1 hb
  refine ⟨as, bs, hbs, rfl, rfl, ?_⟩
  have htogether := p.result_planPools_append ps qs
  rw [planPools_eq_ok_iff.2 hparts, planPools_eq_ok_iff.2 has, planPools_eq_ok_iff.2 hbs] at htogether
  rw [Except.ok.inj htogether]

theorem plan_append_eq_error_iff (hv : Pool.validateAll (ps ++ qs) = .ok ()) {failure : Failure} :
    (p.plan (ps ++ qs)).result = .error failure ↔
      (p.plan ps).result = .error failure ∨
        (∃ a, (p.plan ps).result = .ok a) ∧ (p.plan qs).result = .error failure := by
  obtain ⟨hps, hqs⟩ := Pool.validateAll_of_append hv
  rw [result_plan_of_valid hv, result_plan_of_valid hps, result_plan_of_valid hqs,
    result_planPools_append]
  cases (p.planPools ps).result with
  | error other => simp [Except.map, bind, Except.bind]
  | ok as =>
    cases (p.planPools qs).result with
    | error other => simp [Except.map, bind, Except.bind]
    | ok bs => simp [Except.map]

/-- What a plan has for a pool is what that pool is planned as by itself. -/
theorem zonesOf_eq {pools : List Pool} {plan : Plan} (h : (p.plan pools).result = .ok plan)
    {pool : Pool} (hp : pool ∈ pools) {part : PlannedPool} (hpart : p.PoolPlanned pool part) :
    plan.zonesOf pool.name = part.zones := by
  obtain ⟨hv, parts, hparts, rfl⟩ := plan_eq_ok_iff.1 h
  obtain ⟨own, hown, hzones⟩ := zones_of_pool (Pool.nodup_of_validateAll hv) hparts hp
  rw [hpart.unique hown]
  exact hzones

/-- Any pools of a plan can be planned without the others, in any order, and each of them is planned
as it was. -/
theorem exists_plan_of_subset {pools others : List Pool} {plan : Plan}
    (h : (p.plan pools).result = .ok plan) (hsub : others ⊆ pools)
    (hn : (others.map Pool.name).Nodup) :
    ∃ other, (p.plan others).result = .ok other ∧
      ∀ pool ∈ others, other.zonesOf pool.name = plan.zonesOf pool.name := by
  have hv := (plan_eq_ok_iff.1 h).1
  have hproblems := (exists_plan_iff.1 ⟨plan, h⟩).2
  obtain ⟨other, ho⟩ := exists_plan_iff.2
    ⟨Pool.validateAll_of_subset hv hsub hn, fun pool hp => hproblems pool (hsub hp)⟩
  refine ⟨other, ho, ?_⟩
  intro pool hp
  obtain ⟨part, hpart, -⟩ := exists_part h (hsub hp)
  rw [zonesOf_eq ho hp hpart, zonesOf_eq h (hsub hp) hpart]

/-- Two lists of pools are planned together exactly if each is planned alone, and what comes out is
the one plan followed by the other, with the images of the second list refreshed after those of the
first. Neither other pools nor their order change what is planned for a pool. -/
theorem pools_planned_independently (p : Planner) (hv : Pool.validateAll (ps ++ qs) = .ok ()) :
    ((∃ plan, (p.plan (ps ++ qs)).result = .ok plan) ↔
        (∃ a, (p.plan ps).result = .ok a) ∧ ∃ b, (p.plan qs).result = .ok b) ∧
      (∀ plan a b, (p.plan (ps ++ qs)).result = .ok plan → (p.plan ps).result = .ok a →
        (p.plan qs).result = .ok b →
          plan.deployments = a.deployments ++ b.deployments ∧
          plan.classes = a.classes ++ b.classes ∧
          ∃ images,
            List.Forall₂ (fun pool image =>
              (p.resolver.resolve (p.imageIdentity pool)).result = .ok image) qs images ∧
            plan.images = a.images.refreshAll images) ∧
      (∀ failure, (p.plan (ps ++ qs)).result = .error failure ↔
        (p.plan ps).result = .error failure ∨
          (∃ a, (p.plan ps).result = .ok a) ∧ (p.plan qs).result = .error failure) ∧
      ∀ plan others, (p.plan (ps ++ qs)).result = .ok plan → others ⊆ ps ++ qs →
        (others.map Pool.name).Nodup →
          ∃ other, (p.plan others).result = .ok other ∧
            ∀ pool ∈ others, other.zonesOf pool.name = plan.zonesOf pool.name := by
  refine ⟨?_, ?_, fun failure => plan_append_eq_error_iff hv, ?_⟩
  · obtain ⟨hps, hqs⟩ := Pool.validateAll_of_append hv
    simp only [exists_plan_iff, hv, hps, hqs, true_and, List.forall_mem_append]
  · intro plan a b h ha hb
    obtain ⟨as, bs, hbs, rfl, rfl, rfl⟩ := plan_append_of_ok h ha hb
    refine ⟨?_, ?_, bs.map PlannedPool.image, ?_, ?_⟩
    · simp only [Plan.deployments, assemble, List.flatMap_append, List.map_append]
    · simp only [Plan.classes, assemble, List.flatMap_append, List.map_append]
    · rw [List.forall₂_map_right_iff]
      exact hbs.imp fun _ _ hpart => ImageResolver.resolve_eq_ok_iff.2 hpart.found
    · simp only [assemble, List.map_append, ImageLedger.refreshAll_append]
  · intro plan others h hsub hn
    exact exists_plan_of_subset h hsub hn

end Planner

namespace Sample

/-- Planned the other way round, and without the first of them, the two pools with entangled names get
the classes they got before. -/
theorem crowded_in_any_order :
    ∃ plan swapped alone, Pool.validateAll (crowded.take 1 ++ crowded.drop 1) = .ok () ∧
      ((planner ⟨"config", "machines"⟩ ⟨config, .empty⟩).plan crowded).result = .ok plan ∧
      ((planner ⟨"config", "machines"⟩ ⟨config, .empty⟩).plan crowded.reverse).result = .ok swapped ∧
      ((planner ⟨"config", "machines"⟩ ⟨config, .empty⟩).plan (crowded.drop 1)).result = .ok alone ∧
      swapped.zonesOf "a" = plan.zonesOf "a" ∧ swapped.zonesOf "a-z1" = plan.zonesOf "a-z1" ∧
      alone.zonesOf "a-z1" = plan.zonesOf "a-z1" := by
  obtain ⟨plan, h⟩ := exists_crowded_plan
  have hv : Pool.validateAll (crowded.take 1 ++ crowded.drop 1) = .ok () := rfl
  obtain ⟨-, -, -, hothers⟩ := Planner.pools_planned_independently
    (planner ⟨"config", "machines"⟩ ⟨config, .empty⟩) hv
  have hreverse : crowded.reverse ⊆ crowded.take 1 ++ crowded.drop 1 := by
    rw [List.take_append_drop]
    exact List.reverse_subset.2 (List.Subset.refl crowded)
  obtain ⟨swapped, hs, hswapped⟩ := hothers plan crowded.reverse h hreverse (by decide)
  obtain ⟨alone, ha, halone⟩ :=
    hothers plan (crowded.drop 1) h (List.subset_append_right _ _) (by decide)
  have hfirst : crowded[0] ∈ crowded.reverse := List.mem_reverse.2 List.mem_cons_self
  have hsecond : crowded[1] ∈ crowded.drop 1 := List.mem_cons_self
  have hboth : crowded[1] ∈ crowded.reverse := List.mem_cons_self
  exact ⟨plan, swapped, alone, hv, h, hs, ha, hswapped _ hfirst, hswapped _ hboth,
    halone _ hsecond⟩

end Sample
end PoolPlan
