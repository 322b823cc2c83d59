import PoolPlan.Proofs.Image.Ledger
import PoolPlan.Proofs.Plan.Problems
import PoolPlan.Proofs.Status.RoundTrip

namespace PoolPlan

theorem ImageResolver.ofStatus_of_worker {decoder : StatusDecoder} {bytes : Bytes}
    {status : WorkerStatus} (h : decoder.worker bytes = .ok status) (config : ImageConfig) :
    ofStatus config (some bytes) decoder = .ok ⟨config, .ofList status.machineImages⟩ := by
  simp only [ofStatus, h]

/-- The image that the first entry for an identity gives it. -/
def firstImage? (document : List ResolvedImage) (identity : ImageIdentity) : Option String :=
  (document.find? (fun r => r.identity == identity)).map ResolvedImage.image

namespace Planner

/-- What is remembered after pools were planned on a status document with the given images. -/
structure Remembers (p : Planner) (document : List ResolvedImage) (pools : List Pool)
    (l : ImageLedger) : Prop where
  /-- The identities of the document and those that are new, each where it comes first. -/
  identities : l.identities = (document.map ResolvedImage.identity).eraseDups ++
    ((pools.map p.imageIdentity).filter
      (fun identity => identity ∉ document.map ResolvedImage.identity)).eraseDups
  distinct : l.identities.Nodup
  used : ∀ r ∈ l.images, r.identity ∈ pools.map p.imageIdentity →
    some r.image = (p.resolver.config.find? r.identity).or (firstImage? document r.identity)
  kept : ∀ r ∈ l.images, r.identity ∉ pools.map p.imageIdentity →
    some r.image = firstImage? document r.identity

variable {p : Planner} {pools : List Pool} {plan : Plan}

/-- The ledger of a plan is the one before, refreshed with the image of each pool in turn. -/
theorem images_of_plan (h : (p.plan pools).result = .ok plan) :
    ∃ images, plan.images = p.resolver.persisted.refreshAll images ∧
      List.Forall₂ (fun pool image => p.resolver.find? (p.imageIdentity pool) = some image) pools
        images := by
  obtain ⟨-, parts, hparts, rfl⟩ := plan_eq_ok_iff.1 h
  refine ⟨parts.map PlannedPool.image, rfl, ?_⟩
  rw [List.forall₂_map_right_iff]
  exact hparts.imp fun pool part hpart => hpart.found

/-- The identity of a pool's image has the image that was found for it. -/
theorem find?_images_of_mem (h : (p.plan pools).result = .ok plan) {pool : Pool}
    (hp : pool ∈ pools) :
    ∃ image, p.resolver.find? (p.imageIdentity pool) = some image ∧
      plan.images.find? (p.imageIdentity pool) = some image := by
  obtain ⟨images, hi, hall⟩ := images_of_plan h
  obtain ⟨index, hindex⟩ := List.mem_iff_getElem?.1 hp
  obtain ⟨image, himage, hf⟩ := hall.exists_getElem? hindex
  have hid : image.identity = p.imageIdentity pool := ImageResolver.identity_of_find? hf
  refine ⟨image, hf, ?_⟩
  rw [hi, ← hid]
  apply ImageLedger.find?_refreshAll_of_mem (List.mem_of_getElem? himage)
  intro e he heq
  obtain ⟨other, -, ho⟩ := hall.exists_of_mem he
  rw [← ImageResolver.identity_of_find? ho, heq, hid, hf] at ho
  exact (Option.some.inj ho).symm

/-- An identity that no pool uses keeps what it had. -/
theorem find?_images_of_not_mem (h : (p.plan pools).result = .ok plan) {identity : ImageIdentity}
    (hunused : identity ∉ pools.map p.imageIdentity) :
    plan.images.find? identity = p.resolver.persisted.find? identity := by
  obtain ⟨images, hi, hall⟩ := images_of_plan h
  rw [hi]
  apply ImageLedger.find?_refreshAll_of_not_mem
  intro e he heq
  obtain ⟨pool, hp, hf⟩ := hall.exists_of_mem he
  apply hunused
  rw [← heq, ImageResolver.identity_of_find? hf]
  exact List.mem_map_of_mem hp

theorem identities_of_plan (h : (p.plan pools).result = .ok plan) :
    plan.images.identities = p.resolver.persisted.identities ++
      ((pools.map p.imageIdentity).removeAll p.resolver.persisted.identities).eraseDups := by
  obtain ⟨images, hi, hall⟩ := images_of_plan h
  have hused : images.map ResolvedImage.identity = pools.map p.imageIdentity :=
    (hall.map_eq_map fun pool image hf => (ImageResolver.identity_of_find? hf).symm).symm
  rw [hi, ImageLedger.identities_refreshAll_append, hused]

theorem remembers_of_plan {document : List ResolvedImage}
    (hpersisted : p.resolver.persisted = .ofList document)
    (h : (p.plan pools).result = .ok plan) : p.Remembers document pools plan.images := by
  constructor
  · rw [identities_of_plan h, hpersisted, ImageLedger.identities_ofList, List.removeAll]
    congr 2
    apply List.filter_congr
    intro identity _
    simp only [List.elem_eq_mem, List.mem_eraseDups, decide_not]
  · exact plan.images.nodup_identities
  · intro r hr hused
    obtain ⟨pool, hp, he⟩ := List.mem_map.1 hused
    obtain ⟨image, hfound, hentry⟩ := find?_images_of_mem h hp
    rw [he] at hfound hentry
    obtain rfl : r = image :=
      Option.some.inj ((ImageLedger.find?_identity hr).symm.trans hentry)
    cases hconfig : p.resolver.config.find? r.identity with
    | some image =>
      rw [ImageResolver.find?_of_configured hconfig] at hfound
      rw [Option.some_or, ← Option.some.inj hfound]
    | none =>
      rw [ImageResolver.find?_of_not_configured hconfig, hpersisted,
        ImageLedger.find?_ofList] at hfound
      rw [Option.none_or, firstImage?, hfound, Option.map_some]
  · intro r hr hunused
    have hentry := find?_images_of_not_mem h hunused
    rw [ImageLedger.find?_identity hr, hpersisted, ImageLedger.find?_ofList] at hentry
    rw [firstImage?, ← hentry, Option.map_some]

/-- A plan that starts from a status document remembers the identities of the document and those that
are new to it. What pools use has the configured image or else that of the document, all else has that
of the document. -/
theorem ledger_continues_document {decoder : StatusDecoder} {bytes : Bytes} {status : WorkerStatus}
    (hstatus : decoder.worker bytes = .ok status)
    (hresolver : ImageResolver.ofStatus p.resolver.config (some bytes) decoder = .ok p.resolver)
    (hplan : (p.plan pools).result = .ok plan) :
    p.Remembers status.machineImages pools plan.images := by
  rw [ImageResolver.ofStatus_of_worker hstatus, Except.ok.injEq] at hresolver
  apply remembers_of_plan _ hplan
  rw [← hresolver]

end Planner

namespace Sample

def repeated : List ResolvedImage := [
  ⟨⟨"linux", "2", "cloud"⟩, "linux-2"⟩,
  ⟨identity, "linux-0"⟩,
  ⟨⟨"linux", "2", "cloud"⟩, "linux-9"⟩,
  ⟨⟨"linux", "1", "moon"⟩, "moon-1"⟩]

def partialConfig : ImageConfig :=
  ⟨none, none, [⟨"linux", "1", [⟨"cloud", "linux-1"⟩]⟩, ⟨"linux", "3", [⟨"cloud", "linux-3"⟩]⟩]⟩

def newer : Pool := { pool with name := "newer", machineImage := ⟨"linux", "3"⟩ }

/-- The new identity comes last though its pool is the first, the outdated image is replaced in its
place, and the image that is not configured is the first one of the document. -/
theorem repeated_identity_remembered_once :
    ∃ plan, ((planner ⟨"config", "machines"⟩ ⟨partialConfig, .ofList repeated⟩).plan
        [newer, pool, unknown]).result = .ok plan ∧
      plan.images.identities = [⟨"linux", "2", "cloud"⟩, identity, ⟨"linux", "1", "moon"⟩,
        ⟨"linux", "3", "cloud"⟩] ∧
      (∀ r ∈ plan.images.images, r.identity = identity → r.image = "linux-1") ∧
      (∀ r ∈ plan.images.images, r.identity = ⟨"linux", "2", "cloud"⟩ → r.image = "linux-2") ∧
      ∀ r ∈ plan.images.images, r.identity = ⟨"linux", "1", "moon"⟩ → r.image = "moon-1" := by
  have hplan : ∃ plan, ((planner ⟨"config", "machines"⟩ ⟨partialConfig, .ofList repeated⟩).plan
      [newer, pool, unknown]).result = .ok plan := by
    refine Planner.exists_plan_iff.2 ⟨rfl, fun p hp => ?_⟩
    rw [Planner.problems_eq_nil_iff]
    simp only [List.mem_cons, List.not_mem_nil, or_false] at hp
    rcases hp with rfl | rfl | rfl <;> exact ⟨by decide, ⟨"boot", rfl⟩, nofun⟩
  obtain ⟨plan, hplan⟩ := hplan
  have hstatus := StatusDecoder.worker_stored repeated
  have hresolver := ImageResolver.ofStatus_of_worker hstatus partialConfig
  have h := Planner.ledger_continues_document
    (p := planner ⟨"config", "machines"⟩ ⟨partialConfig, .ofList repeated⟩) hstatus hresolver hplan
  have hused (id : ImageIdentity) (image : String) (hid : id ∈ [newer, pool, unknown].map
      (planner ⟨"config", "machines"⟩ ⟨partialConfig, .ofList repeated⟩).imageIdentity)
      (hfirst : (partialConfig.find? id).or (firstImage? repeated id) = some image) :
      ∀ r ∈ plan.images.images, r.identity = id → r.image = image := by
    rintro r hr rfl
    exact Option.some.inj ((h.used r hr hid).trans hfirst)
  refine ⟨plan, hplan, h.identities, hused _ _ (by decide) rfl, hused _ _ (by decide) rfl, ?_⟩
  intro r hr he
  have hkept := h.kept r hr (by rw [he]; decide)
  rw [he] at hkept
  exact Option.some.inj hkept

end Sample
end PoolPlan
