import PoolPlan.Proofs.Plan.Independence

namespace PoolPlan

structure Plan.SameButImages (a b : Plan) : Prop where
  deployments : a.deployments = b.deployments
  classes : a.classes = b.classes

theorem ImageResolver.result_resolve_congr {r s : ImageResolver} {identity : ImageIdentity}
    (h : r.find? identity = s.find? identity) :
    (r.resolve identity).result = (s.resolve identity).result := by
  cases hs : (s.resolve identity).result with
  | error failure =>
    rw [resolve_eq_error_iff] at hs ⊢
    rwa [h]
  | ok image =>
    rw [resolve_eq_ok_iff] at hs ⊢
    rwa [h]

namespace Planner

def withLedger (p : Planner) (l : ImageLedger) : Planner :=
  { p with resolver := ⟨p.resolver.config, l⟩ }

/-- A pool uses the identity, and the configuration does not map it. -/
def FallsBack (p : Planner) (pools : List Pool) (identity : ImageIdentity) : Prop :=
  identity ∈ pools.map p.imageIdentity ∧ p.resolver.config.find? identity = none

/-- An image that planning has no use for in a ledger: it is configured, no pool uses it, or it is of
another cloud profile. -/
def Unneeded (p : Planner) (pools : List Pool) (r : ResolvedImage) : Prop :=
  (∃ image, p.resolver.config.find? r.identity = some image) ∨
    r.identity ∉ pools.map p.imageIdentity ∨ r.cloudProfile ≠ p.context.cloudProfile

variable {p : Planner} {pool : Pool} {pools : List Pool} {l m : ImageLedger}

theorem FallsBack.not_unneeded {r : ResolvedImage} (h : p.FallsBack pools r.identity) :
    ¬p.Unneeded pools r := by
  obtain ⟨hused, hconfig⟩ := h
  rintro (⟨image, hmapped⟩ | hunused | hprofile)
  · rw [hconfig] at hmapped
    contradiction
  · exact hunused hused
  · obtain ⟨pool, -, he⟩ := List.mem_map.1 hused
    exact hprofile (congrArg ImageIdentity.cloudProfile he).symm

theorem find?_withLedger
    (h : ∀ identity, p.FallsBack pools identity → l.find? identity = m.find? identity)
    (hp : pool ∈ pools) :
    (p.withLedger l).resolver.find? (p.imageIdentity pool) =
      (p.withLedger m).resolver.find? (p.imageIdentity pool) := by
  simp only [withLedger, ImageResolver.find?]
  cases hconfig : p.resolver.config.find? (p.imageIdentity pool) with
  | some image => rfl
  | none => exact h _ ⟨List.mem_map_of_mem hp, hconfig⟩

/-- The classes of a pool are made without the ledger. -/
theorem planZones_withLedger (p : Planner) (l : ImageLedger) (image : ResolvedImage) (index : Nat)
    (zones : List String) :
    (p.withLedger l).planZones pool image index zones = p.planZones pool image index zones := by
  induction zones generalizing index with
  | nil => rfl
  | cons zone rest ih =>
    simp only [planZones, ih]
    rfl

theorem result_planPool_withLedger
    (h : (p.withLedger l).resolver.find? (p.imageIdentity pool) =
      (p.withLedger m).resolver.find? (p.imageIdentity pool)) :
    ((p.withLedger l).planPool pool).result = ((p.withLedger m).planPool pool).result := by
  have hresolve := ImageResolver.result_resolve_congr h
  simp only [planPool, Traced.result_bind, planZones_withLedger, Traced.result_pure]
  exact congrArg (· >>= _) hresolve

/-- No pool sees what the ledger is refreshed with for the pools before it. -/
theorem result_planPools_withLedger
    (h : ∀ pool ∈ pools, (p.withLedger l).resolver.find? (p.imageIdentity pool) =
      (p.withLedger m).resolver.find? (p.imageIdentity pool)) :
    ((p.withLedger l).planPools pools).result = ((p.withLedger m).planPools pools).result := by
  induction pools with
  | nil => rfl
  | cons pool rest ih =>
    obtain ⟨hpool, hrest⟩ := List.forall_mem_cons.1 h
    simp only [planPools, Traced.result_bind, Traced.result_pure,
      result_planPool_withLedger hpool, ih hrest]

theorem plan_withLedger
    (h : ∀ identity, p.FallsBack pools identity → l.find? identity = m.find? identity) :
    Alike Plan.SameButImages ((p.withLedger l).plan pools).result
      ((p.withLedger m).plan pools).result := by
  cases hv : Pool.validateAll pools with
  | error failure =>
    rw [plan_of_invalid _ hv, plan_of_invalid _ hv]
    exact .error failure
  | ok u =>
    have hparts := result_planPools_withLedger fun pool hp => find?_withLedger h hp
    rw [result_plan_of_valid hv, result_plan_of_valid hv, hparts]
    exact .map (fun parts => ⟨rfl, rfl⟩) _

/-- Ledgers in which the same is found where the configuration has nothing lead to the same failure or
to the same deployments and classes. So do ledgers that differ only in images without use. -/
theorem ledger_read_only_as_fallback (p : Planner) (pools : List Pool) (l m : ImageLedger) :
    ((∀ pool ∈ pools, p.resolver.config.find? (p.imageIdentity pool) = none →
        l.find? (p.imageIdentity pool) = m.find? (p.imageIdentity pool)) →
      Alike Plan.SameButImages ((p.withLedger l).plan pools).result
        ((p.withLedger m).plan pools).result) ∧
    ((∀ r, ¬p.Unneeded pools r → (r ∈ l.images ↔ r ∈ m.images)) →
      Alike Plan.SameButImages ((p.withLedger l).plan pools).result
        ((p.withLedger m).plan pools).result) := by
  constructor
  · intro h
    apply plan_withLedger
    rintro identity ⟨hused, hconfig⟩
    obtain ⟨pool, hp, rfl⟩ := List.mem_map.1 hused
    exact h pool hp hconfig
  · intro h
    apply plan_withLedger
    intro identity hfalls
    apply ImageLedger.find?_congr
    rintro r rfl
    exact h r hfalls.not_unneeded

end Planner

namespace Sample

/-- A ledger with an image for the second pool only, and one that also has an outdated image for the
configured identity. -/
def fallback : ImageLedger := .ofList [⟨⟨"linux", "2", "cloud"⟩, "linux-2"⟩]

def outdated : ImageLedger :=
  .ofList [⟨identity, "linux-0"⟩, ⟨⟨"linux", "2", "cloud"⟩, "linux-2"⟩, ⟨⟨"linux", "2", "moon"⟩, "m"⟩]

/-- An outdated image of what is configured, and one of another cloud profile, make no difference to
two pools of which the second is planned from the ledger. -/
theorem outdated_image_ignored :
    ∃ a b, ((planner ⟨"config", "machines"⟩ ⟨config, fallback⟩).plan [pool, unknown]).result = .ok a ∧
      ((planner ⟨"config", "machines"⟩ ⟨config, outdated⟩).plan [pool, unknown]).result = .ok b ∧
      a.deployments = b.deployments ∧ a.classes = b.classes := by
  have hplan : ∃ a,
      ((planner ⟨"config", "machines"⟩ ⟨config, fallback⟩).plan [pool, unknown]).result = .ok a := by
    refine Planner.exists_plan_iff.2 ⟨rfl, fun p hp => ?_⟩
    rw [Planner.problems_eq_nil_iff]
    simp only [List.mem_cons, List.not_mem_nil, or_false] at hp
    rcases hp with rfl | rfl <;> exact ⟨by decide, ⟨"boot", rfl⟩, nofun⟩
  have hagree : ∀ p ∈ [pool, unknown],
      config.find? ((planner ⟨"config", "machines"⟩ ⟨config, .empty⟩).imageIdentity p) = none →
        fallback.find? ((planner ⟨"config", "machines"⟩ ⟨config, .empty⟩).imageIdentity p) =
          outdated.find? ((planner ⟨"config", "machines"⟩ ⟨config, .empty⟩).imageIdentity p) := by
    intro p hp hconfig
    simp only [List.mem_cons, List.not_mem_nil, or_false] at hp
    rcases hp with rfl | rfl
    · exact absurd hconfig (by decide)
    · decide
  have halike := (Planner.ledger_read_only_as_fallback
    (planner ⟨"config", "machines"⟩ ⟨config, .empty⟩) [pool, unknown] fallback outdated).1 hagree
  obtain ⟨a, ha⟩ := hplan
  obtain ⟨b, hb, hsame⟩ := halike.exists_ok ha
  exact ⟨a, b, ha, hb, hsame.deployments, hsame.classes⟩

end Sample
end PoolPlan
