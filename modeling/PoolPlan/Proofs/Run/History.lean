import PoolPlan.Proofs.Image.NotFound
import PoolPlan.Proofs.Plan.Classes
import PoolPlan.Proofs.Run.Basic

namespace PoolPlan

/-- Runs one after the other, the first of which finds the document. -/
inductive History : Option Json → List Run → Prop where
  | nil (document : Option Json) : History document []
  | cons {document : Option Json} {runs : List Run} {r : Run} (found : r.found = document)
    (rest : History r.left runs) : History document (r :: runs)

/-- Repetitions apart, the list afterwards is the one before, followed by identities that are new.
-/
def Extends (before after : List ImageIdentity) : Prop :=
  ∃ new, after.eraseDups = before.eraseDups ++ new ∧ ∀ identity ∈ new, identity ∉ before

namespace Run
variable {r : Run} {identity : ImageIdentity}

/-- The run has the image for the identity: it finds it, and with success its ledger and the
classes of all pools that ask for the identity have it. -/
structure Gives (r : Run) (identity : ImageIdentity) (image : String) : Prop where
  lookUp : r.lookUp identity = .ok ⟨identity, image⟩
  entry : r.Uses identity → ∀ plan, r.outcome = .ok plan →
    plan.images.find? identity = some ⟨identity, image⟩
  classes : ∀ pool ∈ r.pools, r.imageIdentity pool = identity → ∀ plan, r.outcome = .ok plan →
    ∀ z ∈ plan.zones, z.deployment.pool = pool.name →
      z.machineClass.spec.get? "imageName" = some (.string image)

theorem gives_of_find? {image : ResolvedImage} (hr : Readable r.found)
    (h : r.resolver.find? identity = some image) : r.Gives identity image.image := by
  obtain rfl := ImageResolver.identity_of_find? h
  refine ⟨(lookUp_eq_ok_iff hr).2 h, ?_, ?_⟩
  · intro hu plan hp
    obtain ⟨given, hg, he⟩ := find?_of_uses hr hp hu
    rw [h] at hg
    rw [he, ← Option.some.inj hg]
  · intro pool hpool hid plan hp z hz hn
    obtain ⟨s, hs, hplan⟩ := (outcome_eq_ok_iff hr).1 hp
    obtain ⟨given, hg, zone, -, hplanned⟩ := Planner.planned_of_name hplan hz hpool hn
    rw [imageIdentity_eq hs, hid] at hg
    obtain rfl : given = image := Option.some.inj (hg.symm.trans h)
    exact Planner.imageName_of_zonePlanned hplanned

/-- After a run that succeeds, an identity that it uses has the image that the run gave it. -/
theorem find?_left_of_uses (hr : Readable r.found) (hs : r.Succeeds) (hu : r.Uses identity) :
    ∃ image, r.resolver.find? identity = some image ∧
      (ledgerIn r.left).find? identity = some image := by
  obtain ⟨plan, hp⟩ := hs
  rw [ledgerIn_left hp]
  exact find?_of_uses hr hp hu

/-- A run that fails, or does not use an identity, leaves its image. -/
theorem find?_left_of_not_uses (hr : Readable r.found) (h : r.Succeeds → ¬r.Uses identity) :
    (ledgerIn r.left).find? identity = (ledgerIn r.found).find? identity := by
  by_cases hs : r.Succeeds
  · have hu := h hs
    obtain ⟨plan, hp⟩ := hs
    rw [ledgerIn_left hp]
    exact find?_of_not_uses hr hp hu
  · rw [left_of_not_succeeds hs]

theorem isSome_find?_left (hr : Readable r.found) (h : ((ledgerIn r.found).find? identity).isSome) :
    ((ledgerIn r.left).find? identity).isSome := by
  by_cases hu : r.Succeeds ∧ r.Uses identity
  · obtain ⟨image, -, hl⟩ := find?_left_of_uses hr hu.1 hu.2
    simp [hl]
  · rwa [find?_left_of_not_uses hr fun hs hid => hu ⟨hs, hid⟩]

/-- One run lets the identities of the document grow. -/
theorem extends_left (hr : Readable r.found) :
    Extends (identitiesIn r.found) (identitiesIn r.left) := by
  by_cases hs : r.Succeeds
  · obtain ⟨plan, hp⟩ := hs
    have hbefore : (identitiesIn r.found).eraseDups = (ledgerIn r.found).identities :=
      (ImageLedger.identities_ofList _).symm
    have hafter : identitiesIn r.left = plan.images.identities := by
      rw [identitiesIn, imagesIn_left hp]
      rfl
    refine ⟨((r.pools.map r.imageIdentity).removeAll (ledgerIn r.found).identities).eraseDups, ?_, ?_⟩
    · rw [hbefore, hafter, List.eraseDups_of_nodup plan.images.nodup_identities,
        identities_of_outcome hr hp]
    · intro identity hm hold
      rw [List.mem_eraseDups, List.removeAll, List.mem_filter] at hm
      rw [← List.mem_eraseDups, hbefore] at hold
      simp [hold] at hm
  · exact ⟨[], by rw [left_of_not_succeeds hs, List.append_nil], by simp⟩

theorem nodup_left (hs : r.Succeeds) : (identitiesIn r.left).Nodup := by
  obtain ⟨plan, hp⟩ := hs
  rw [identitiesIn, imagesIn_left hp]
  exact plan.images.distinct

/-- A run can only miss an image that no place has, if the store of secrets is not to blame. -/
theorem not_found_of_outcome {failure : Failure} (hr : Readable r.found)
    (h : r.outcome = .error failure) (hf : failure.IsImageNotFound) :
    (r.secrets.get r.worker.spec.secretRef).result = .error failure ∨
      ∃ pool ∈ r.pools, r.resolver.find? (r.imageIdentity pool) = none ∧
        failure = (r.imageIdentity pool).notFound := by
  have hstatus : ImageResolver.ofStatus r.reconciler.config r.worker.persistedStatus
      r.reconciler.decoder = .ok r.resolver := ofStatus_of_readable hr r.config
  rw [outcome, Reconciler.result_plan, hstatus, bind_eq_error_iff] at h
  rcases h with h | ⟨s, hs, h⟩
  · exact .inl (Reconciler.store_of_setting rfl h hf)
  · obtain ⟨pool, hp, hnone, he⟩ := Planner.not_found_of_plan h hf
    rw [imageIdentity_eq hs] at hnone he
    exact .inr ⟨pool, hp, hnone, he⟩

end Run

namespace History
variable {document : Option Json} {before between after runs : List Run} {r t : Run}
  {identity : ImageIdentity}

/-- What holds of the first document, and of what a run leaves if it holds of what the run finds, holds
of what a later run finds. -/
theorem invariant {P : Option Json → Prop} (h : History document (before ++ t :: after))
    (hstep : ∀ s ∈ before, P s.found → P s.left) (hd : P document) :
    P t.found ∧ History t.left after := by
  induction before generalizing document with
  | nil =>
    obtain ⟨-⟩ | ⟨rfl, hrest⟩ := h
    exact ⟨hd, hrest⟩
  | cons s before ih =>
    obtain ⟨-⟩ | ⟨rfl, hrest⟩ := h
    exact ih hrest (fun u hu => hstep u (List.mem_cons_of_mem _ hu)) (hstep s List.mem_cons_self hd)

theorem readable (h : History document (before ++ t :: after)) (hd : Readable document) :
    Readable t.found ∧ History t.left after :=
  h.invariant (fun _ _ hs => Run.readable_left hs) hd

theorem isSome_find? (h : History document (between ++ t :: after)) (hd : Readable document)
    (hsome : ((ledgerIn document).find? identity).isSome) :
    ((ledgerIn t.found).find? identity).isSome := by
  obtain ⟨⟨-, hkept⟩, -⟩ := h.invariant
    (P := fun d => Readable d ∧ ((ledgerIn d).find? identity).isSome)
    (fun s _ hs => ⟨Run.readable_left hs.1, Run.isSome_find?_left hs.1 hs.2⟩) ⟨hd, hsome⟩
  exact hkept

theorem find?_found (h : History document (between ++ t :: after)) (hd : Readable document)
    (hn : ∀ s ∈ between, s.Succeeds → ¬s.Uses identity) :
    (ledgerIn t.found).find? identity = (ledgerIn document).find? identity := by
  obtain ⟨⟨-, hkept⟩, -⟩ := h.invariant
    (P := fun d => Readable d ∧ (ledgerIn d).find? identity = (ledgerIn document).find? identity)
    (fun s hs hr => ⟨Run.readable_left hr.1, (Run.find?_left_of_not_uses hr.1 (hn s hs)).trans hr.2⟩)
    ⟨hd, rfl⟩
  exact hkept

/-- Once resolved, never lost. -/
theorem images_never_lost (hd : Readable document) (h : History document runs) :
    (∀ before r between t after, runs = before ++ r :: (between ++ t :: after) →
      r.Succeeds → ∀ identity, r.Uses identity →
        (t.outcome = .error identity.notFound →
          ¬t.secrets.Provided ∧
            (t.secrets.get t.worker.spec.secretRef).result = .error identity.notFound) ∧
        (t.config.find? identity = none → (∀ s ∈ between, s.Succeeds → ¬s.Uses identity) →
          ∃ image, r.Gives identity image ∧ t.Gives identity image)) ∧
    ∀ r ∈ runs, Extends (identitiesIn r.found) (identitiesIn r.left) ∧
      (r.Succeeds → (identitiesIn r.left).Nodup) := by
  constructor
  · rintro before r between t after rfl hs identity hu
    obtain ⟨hr, hrest⟩ := h.readable hd
    have hleft := Run.readable_left hr
    obtain ⟨ht, -⟩ := hrest.readable hleft
    obtain ⟨image, hfound, hentry⟩ := Run.find?_left_of_uses hr hs hu
    constructor
    · intro hfail
      rcases Run.not_found_of_outcome ht hfail trivial with hstore | ⟨pool, -, hnone, he⟩
      · exact ⟨fun hp => hp.not_isImageNotFound hstore trivial, hstore⟩
      · -- Runs between may move the image of the identity, but none takes it away.
        have hkept := hrest.isSome_find? hleft (Option.isSome_iff_exists.2 ⟨image, hentry⟩)
        have hsome := ImageResolver.isSome_find? (r := t.resolver) hkept
        rw [ImageIdentity.notFound_injective he, hnone] at hsome
        contradiction
    · intro hconfig hn
      refine ⟨image.image, Run.gives_of_find? hr hfound, Run.gives_of_find? ht ?_⟩
      rw [ImageResolver.find?_of_not_configured hconfig, ← hentry]
      exact hrest.find?_found hleft hn
  · intro r hm
    obtain ⟨before, after, rfl⟩ := List.append_of_mem hm
    obtain ⟨hr, -⟩ := h.readable hd
    exact ⟨Run.extends_left hr, Run.nodup_left⟩

/-- An image is still there after the configuration that had it is gone. -/
theorem image_kept_without_configuration :
    ∃ image, (Sample.run Sample.config none).Gives Sample.identity image ∧
      (Sample.run .empty (Sample.run Sample.config none).left).Gives Sample.identity image := by
  have hs : (Sample.run Sample.config none).Succeeds :=
    Sample.succeeds_run Sample.config readable_none rfl
  have h : History none [Sample.run Sample.config none,
      Sample.run .empty (Sample.run Sample.config none).left] :=
    .cons (Sample.found_run ..) (.cons (Sample.found_run ..) (.nil _))
  have hu : (Sample.run Sample.config none).Uses Sample.identity :=
    ⟨Sample.pool, List.mem_cons_self, rfl⟩
  exact ((images_never_lost readable_none h).1 [] _ [] _ [] rfl hs _ hu).2 rfl (by simp)

end History
end PoolPlan
