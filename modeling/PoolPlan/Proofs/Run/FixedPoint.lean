import PoolPlan.Proofs.Run.Basic

namespace PoolPlan.Run

/-- The same run with another configuration, on the status of a plan. -/
def again (r : Run) (config : ImageConfig) (plan : Plan) : Run :=
  { r with config := config, worker := r.worker.withStatus (some plan.status.stored) }

/-- Where the configuration has the image of a pool, it is the one that the run finds. -/
def Agrees (r : Run) (config : ImageConfig) : Prop :=
  ∀ pool ∈ r.pools, ∀ image, config.find? (r.imageIdentity pool) = some image →
    r.lookUp (r.imageIdentity pool) = .ok ⟨r.imageIdentity pool, image⟩

variable {r : Run} {plan : Plan}

theorem agrees_config (r : Run) (hr : Readable r.found) : r.Agrees r.config := by
  intro pool _ image hi
  exact (lookUp_eq_ok_iff hr).2 (ImageResolver.find?_of_configured hi)

theorem agrees_empty (r : Run) : r.Agrees .empty := by
  intro pool _ image hi
  contradiction

/-- All images of a plan are found again in its own ledger. -/
theorem find?_again {config : ImageConfig} (h : r.outcome = .ok plan) (hc : r.Agrees config)
    {pool : Pool} (hp : pool ∈ r.pools) {image : ResolvedImage}
    (hi : r.resolver.find? (r.imageIdentity pool) = some image) :
    plan.images.find? (r.imageIdentity pool) = some image ∧
      (ImageResolver.mk config plan.images).find? (r.imageIdentity pool) = some image := by
  have hr := readable_of_outcome h
  obtain ⟨given, hg, hl⟩ := find?_of_uses hr h ⟨pool, hp, rfl⟩
  obtain rfl : given = image := Option.some.inj (hg.symm.trans hi)
  refine ⟨hl, ?_⟩
  cases hconfig : config.find? (r.imageIdentity pool) with
  | none => rwa [ImageResolver.find?_of_not_configured hconfig]
  | some name =>
    have hsame := (lookUp_eq_ok_iff hr).1 (hc pool hp name hconfig)
    rw [ImageResolver.find?_of_configured hconfig, ← hsame, hi]

theorem outcome_again {config : ImageConfig} (h : r.outcome = .ok plan) (hc : r.Agrees config) :
    (r.again config plan).outcome = .ok plan := by
  have hr := readable_of_outcome h
  have hfound : (r.again config plan).found = r.left := (left_of_ok h).symm
  have hread : Readable (r.again config plan).found := hfound ▸ readable_left hr
  have hresolver : (r.again config plan).resolver = ⟨config, plan.images⟩ := by
    rw [resolver, hfound, ledgerIn_left h]
    rfl
  obtain ⟨s, hs, hplan⟩ := (outcome_eq_ok_iff hr).1 h
  obtain ⟨hv, parts, hparts, he⟩ := Planner.plan_eq_ok_iff.1 hplan
  have hagain {pool : Pool} {part : PlannedPool} (hp : pool ∈ r.pools)
      (hpart : (s.planner r.resolver).PoolPlanned pool part) :=
    find?_again h hc hp (imageIdentity_eq hs r.resolver pool ▸ hpart.found)
  -- The ledger has every image of the plan already, so it comes out as it went in.
  have hkept : ∀ e ∈ parts.map PlannedPool.image, plan.images.find? e.identity = some e := by
    intro e he
    obtain ⟨part, hpart, rfl⟩ := List.mem_map.1 he
    obtain ⟨pool, hpool, hplanned⟩ := hparts.exists_of_mem hpart
    rw [ImageResolver.identity_of_find? hplanned.found, imageIdentity_eq hs]
    exact (hagain hpool hplanned).1
  have hsame : List.Forall₂ (s.planner ⟨config, plan.images⟩).PoolPlanned r.pools parts := by
    have hall := (List.forall₂_and_left r.pools parts).2 ⟨fun _ hp => hp, hparts⟩
    refine hall.imp ?_
    rintro pool part ⟨hp, hpart⟩
    refine ⟨?_, hpart.zones⟩
    rw [imageIdentity_eq hs]
    exact (hagain hp hpart).2
  refine (outcome_eq_ok_iff hread).2 ⟨s, hs, ?_⟩
  rw [hresolver]
  refine Planner.plan_eq_ok_iff.2 ⟨hv, parts, hsame, ?_⟩
  have himages : plan.images.refreshAll (parts.map PlannedPool.image) = plan.images :=
    ImageLedger.refreshAll_eq_self hkept
  have hzones : plan.zones = parts.flatMap PlannedPool.zones := by
    rw [he]
    rfl
  change plan =
    ⟨parts.flatMap PlannedPool.zones, plan.images.refreshAll (parts.map PlannedPool.image)⟩
  rw [himages, ← hzones]

/-- Planning again on the status of a plan gives that plan, for the configuration of the first run
and without any as well. -/
theorem plan_is_fixed_point (h : r.outcome = .ok plan) :
    (∀ config, r.Agrees config → (r.again config plan).outcome = .ok plan) ∧
      (r.again r.config plan).outcome = .ok plan ∧ (r.again .empty plan).outcome = .ok plan :=
  ⟨fun _ hc => outcome_again h hc, outcome_again h (agrees_config r (readable_of_outcome h)),
    outcome_again h (agrees_empty r)⟩

theorem plan_is_fixed_point_without_configuration :
    ∃ plan, (Sample.run Sample.config none).outcome = .ok plan ∧
      ((Sample.run Sample.config none).again .empty plan).outcome = .ok plan := by
  obtain ⟨plan, hp⟩ := Sample.succeeds_run Sample.config readable_none rfl
  exact ⟨plan, hp, (plan_is_fixed_point hp).2.2⟩

end PoolPlan.Run
