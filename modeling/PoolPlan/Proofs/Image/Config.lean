import PoolPlan.Image.Config
import PoolPlan.Proofs.Lists

namespace PoolPlan

def ProfileImage.Complete (p : ProfileImage) : Prop := p.name ≠ "" ∧ p.image ≠ ""

namespace ImageMapping

structure Complete (m : ImageMapping) : Prop where
  name : m.name ≠ ""
  version : m.version ≠ ""
  profiles : ∀ p ∈ m.cloudProfiles, p.Complete

def identity (m : ImageMapping) (p : ProfileImage) : ImageIdentity := ⟨m.name, m.version, p.name⟩

def identities (m : ImageMapping) : List ImageIdentity := m.cloudProfiles.map m.identity

def withProfiles (m : ImageMapping) (profiles : List ProfileImage) : ImageMapping :=
  { m with cloudProfiles := profiles }

theorem identities_images (m : ImageMapping) :
    m.images.map ResolvedImage.identity = m.identities := by
  simp only [images, identities, List.map_map]
  rfl

theorem mem_images {m : ImageMapping} {id : ImageIdentity} {image : String} :
    ⟨id, image⟩ ∈ m.images ↔
      m.name = id.name ∧ m.version = id.version ∧ ⟨id.cloudProfile, image⟩ ∈ m.cloudProfiles := by
  constructor
  · intro h
    obtain ⟨p, hp, heq⟩ := List.mem_map.1 h
    obtain ⟨rfl, rfl⟩ := ResolvedImage.mk.inj heq
    exact ⟨rfl, rfl, hp⟩
  · rintro ⟨hname, hversion, hp⟩
    refine List.mem_map.2 ⟨_, hp, ?_⟩
    rw [hname, hversion]

theorem identity_beq (m : ImageMapping) (p : ProfileImage) (id : ImageIdentity) :
    (m.identity p == id) =
      ((m.name == id.name && m.version == id.version) && p.name == id.cloudProfile) := by
  obtain ⟨name, version, cloudProfile⟩ := id
  rw [Bool.eq_iff_iff]
  simp [identity, and_assoc]

theorem map_find?_images (m : ImageMapping) (id : ImageIdentity) :
    (m.images.find? fun r => r.identity == id).map ResolvedImage.image =
      if m.name == id.name && m.version == id.version then
        (m.cloudProfiles.find? fun p => p.name == id.cloudProfile).map ProfileImage.image
      else none := by
  have hkeys : (m.images.find? fun r => r.identity == id).map ResolvedImage.image =
      (m.cloudProfiles.find? fun p => m.identity p == id).map ProfileImage.image := by
    simp only [images, List.find?_map, Option.map_map]
    rfl
  simp only [hkeys, identity_beq]
  cases m.name == id.name && m.version == id.version <;> simp

theorem Complete.withProfiles {m : ImageMapping} {profiles : List ProfileImage} (h : m.Complete)
    (hsub : profiles ⊆ m.cloudProfiles) : (m.withProfiles profiles).Complete :=
  ⟨h.name, h.version, fun p hp => h.profiles p (hsub hp)⟩

theorem perm_images_withProfiles {m : ImageMapping} {profiles : List ProfileImage}
    (h : profiles.Perm m.cloudProfiles) : (m.withProfiles profiles).images.Perm m.images :=
  h.map _

/-- A mapping gives the same images as the mappings that its profiles are spread over. -/
theorem images_parts (m : ImageMapping) (parts : List (List ProfileImage)) :
    (parts.map m.withProfiles).flatMap images = (m.withProfiles parts.flatten).images := by
  induction parts with
  | nil => rfl
  | cons part parts ih =>
    rw [List.map_cons, List.flatMap_cons, ih]
    simp only [images, withProfiles, List.flatten_cons, List.map_append]

end ImageMapping

namespace ImageConfig

def identities (c : ImageConfig) : List ImageIdentity :=
  c.machineImages.flatMap ImageMapping.identities

/-- Nothing is missing, and no identity is mapped twice, be it in one mapping or in two. -/
structure Valid (c : ImageConfig) : Prop where
  complete : ∀ m ∈ c.machineImages, m.Complete
  distinct : c.identities.Nodup

/-- After the identities `seen`, the profiles pass that are complete and have new identities, each
another one. Those are seen from then on. -/
theorem checkProfiles_eq_ok_iff {i j : Nat} {m : ImageMapping} {seen seen' : List ImageIdentity}
    {ps : List ProfileImage} (h : seen.Nodup) :
    checkProfiles i m seen j ps = .ok seen' ↔
      (∀ p ∈ ps, p.Complete) ∧ (seen ++ ps.map m.identity).Nodup ∧
        (ps.map m.identity).reverse ++ seen = seen' := by
  induction ps generalizing seen j with
  | nil => simp [checkProfiles, h]
  | cons p ps ih =>
    by_cases hp : p.name = "" ∨ p.image = ""
    · have hnot : ¬ p.Complete := fun hc => hp.elim hc.1 hc.2
      simp [checkProfiles, hp, hnot]
    · have hc : p.Complete := not_or.1 hp
      rw [checkProfiles, if_neg hp, List.forall_mem_cons, List.map_cons, List.nodup_middle]
      split
      · rename_i hseen
        have hdup : ¬ (m.identity p :: (seen ++ ps.map m.identity)).Nodup := fun hd =>
          (List.nodup_cons.1 hd).1 (List.mem_append_left _ hseen)
        simp [hdup]
      · rename_i hnew
        rw [ih (List.nodup_cons.2 ⟨hnew, h⟩)]
        simp [hc, ImageMapping.identity]

theorem checkMappings_eq_ok_iff {seen : List ImageIdentity} {i : Nat} {ms : List ImageMapping}
    (h : seen.Nodup) :
    checkMappings seen i ms = .ok () ↔
      (∀ m ∈ ms, m.Complete) ∧ (seen ++ ms.flatMap ImageMapping.identities).Nodup := by
  induction ms generalizing seen i with
  | nil => simp [checkMappings, h]
  | cons m ms ih =>
    rw [checkMappings, List.forall_mem_cons, List.flatMap_cons, ← List.append_assoc]
    by_cases hname : m.name = ""
    · have hnot : ¬ m.Complete := fun hc => hc.name hname
      simp [hname, hnot]
    by_cases hversion : m.version = ""
    · have hnot : ¬ m.Complete := fun hc => hc.version hversion
      simp [hname, hversion, hnot]
    rw [if_neg hname, if_neg hversion]
    cases hprofiles : checkProfiles i m seen 0 m.cloudProfiles with
    | error fault =>
      refine iff_of_false nofun ?_
      rintro ⟨⟨hc, -⟩, hd⟩
      have hpass := (checkProfiles_eq_ok_iff (i := i) (j := 0) h).2
        ⟨hc.profiles, hd.of_append_left, rfl⟩
      rw [hprofiles] at hpass
      contradiction
    | ok seen' =>
      obtain ⟨hp, hd, rfl⟩ := (checkProfiles_eq_ok_iff h).1 hprofiles
      have hc : m.Complete := ⟨hname, hversion, hp⟩
      have hperm : ((m.cloudProfiles.map m.identity).reverse ++ seen).Perm
          (seen ++ m.cloudProfiles.map m.identity) :=
        ((List.reverse_perm _).append_right seen).trans List.perm_append_comm
      rw [ih (hperm.nodup_iff.2 hd), (hperm.append_right _).nodup_iff]
      simp [hc, ImageMapping.identities]

theorem check_eq_ok_iff (c : ImageConfig) : c.check = .ok () ↔ c.Valid := by
  rw [check, checkMappings_eq_ok_iff List.nodup_nil]
  constructor
  · rintro ⟨hcomplete, hdistinct⟩
    exact ⟨hcomplete, hdistinct⟩
  · rintro ⟨hcomplete, hdistinct⟩
    exact ⟨hcomplete, hdistinct⟩

theorem validate_eq_ok_iff (c : ImageConfig) (path : String) :
    c.validate path = .ok () ↔ c.Valid := by
  rw [← check_eq_ok_iff, validate]
  cases c.check <;> simp

theorem identities_images (c : ImageConfig) :
    c.images.map ResolvedImage.identity = c.identities := by
  simp only [images, identities, List.map_flatMap, ImageMapping.identities_images]

/-- In a valid configuration it makes no difference which mapping is looked at first. -/
theorem find?_eq_some_iff {c : ImageConfig} (hv : c.Valid) {id : ImageIdentity} {image : String} :
    c.find? id = some image ↔
      ∃ m ∈ c.machineImages, m.name = id.name ∧ m.version = id.version ∧
        ⟨id.cloudProfile, image⟩ ∈ m.cloudProfiles := by
  have hd : (c.images.map ResolvedImage.identity).Nodup := c.identities_images ▸ hv.distinct
  simp only [find?, Option.map_eq_some_iff, List.find?_key_eq_some_iff hd, ← ImageMapping.mem_images]
  constructor
  · rintro ⟨⟨_, _⟩, ⟨hr, rfl⟩, rfl⟩
    exact List.mem_flatMap.1 hr
  · intro hm
    exact ⟨⟨id, image⟩, ⟨List.mem_flatMap.2 hm, rfl⟩, rfl⟩

/-- A lookup can pass over the mappings of other names and versions. -/
theorem find?_eq_filter (c : ImageConfig) (id : ImageIdentity) :
    c.find? id =
      (((c.machineImages.filter fun m => m.name == id.name && m.version == id.version).flatMap
        ImageMapping.cloudProfiles).find? fun p => p.name == id.cloudProfile).map
          ProfileImage.image := by
  obtain ⟨apiVersion, kind, mappings⟩ := c
  simp only [find?, images]
  induction mappings with
  | nil => rfl
  | cons m ms ih =>
    rw [List.flatMap_cons, List.find?_append, Option.map_or, ih, ImageMapping.map_find?_images,
      List.filter_cons]
    split
    · rw [List.flatMap_cons, List.find?_append, Option.map_or]
    · rw [Option.none_or]

/-- The same entries listed in another way: the mappings in another order, the profiles of a mapping
in another order, or the profiles of a mapping spread over several of its name and version. -/
inductive Rearranged : List ImageMapping → List ImageMapping → Prop where
  | mappings {ms ns : List ImageMapping} (h : ms.Perm ns) : Rearranged ms ns
  | profiles (before after : List ImageMapping) (m : ImageMapping) {ps : List ProfileImage}
      (h : ps.Perm m.cloudProfiles) :
      Rearranged (before ++ m :: after) (before ++ m.withProfiles ps :: after)
  | split (before after : List ImageMapping) (m : ImageMapping) (parts : List (List ProfileImage))
      (h : parts.flatten.Perm m.cloudProfiles) :
      Rearranged (before ++ m :: after) (before ++ parts.map m.withProfiles ++ after)
  | trans {ls ms ns : List ImageMapping} (first : Rearranged ls ms) (second : Rearranged ms ns) :
      Rearranged ls ns

theorem Rearranged.complete {ms ns : List ImageMapping} (h : Rearranged ms ns)
    (hc : ∀ m ∈ ms, m.Complete) : ∀ m ∈ ns, m.Complete := by
  induction h with
  | mappings h =>
    intro m hm
    exact hc m (h.mem_iff.2 hm)
  | profiles before after m h =>
    rw [List.forall_mem_append, List.forall_mem_cons] at hc ⊢
    exact ⟨hc.1, hc.2.1.withProfiles h.subset, hc.2.2⟩
  | split before after m parts h =>
    rw [List.forall_mem_append, List.forall_mem_cons] at hc
    rw [List.forall_mem_append, List.forall_mem_append]
    refine ⟨⟨hc.1, ?_⟩, hc.2.2⟩
    intro n hn
    obtain ⟨part, hpart, rfl⟩ := List.mem_map.1 hn
    apply hc.2.1.withProfiles
    intro p hp
    exact h.subset (List.mem_flatten_of_mem hpart hp)
  | trans _ _ ihfirst ihsecond => exact ihsecond (ihfirst hc)

theorem Rearranged.perm_images {ms ns : List ImageMapping} (h : Rearranged ms ns) :
    (ms.flatMap ImageMapping.images).Perm (ns.flatMap ImageMapping.images) := by
  induction h with
  | mappings h => exact h.flatMap_right _
  | profiles before after m h =>
    rw [List.flatMap_append, List.flatMap_append, List.flatMap_cons, List.flatMap_cons]
    exact ((ImageMapping.perm_images_withProfiles h).symm.append_right _).append_left _
  | split before after m parts h =>
    rw [List.append_assoc, List.flatMap_append, List.flatMap_append, List.flatMap_cons,
      List.flatMap_append, ImageMapping.images_parts]
    exact ((ImageMapping.perm_images_withProfiles h).symm.append_right _).append_left _
  | trans _ _ ihfirst ihsecond => exact ihfirst.trans ihsecond

variable {c : ImageConfig} {mappings : List ImageMapping}

theorem Valid.rearranged (hv : c.Valid) (h : Rearranged c.machineImages mappings) :
    { c with machineImages := mappings }.Valid := by
  refine ⟨h.complete hv.complete, ?_⟩
  rw [← identities_images]
  exact (h.perm_images.map _).nodup_iff.1 (c.identities_images ▸ hv.distinct)

theorem find?_rearranged (hv : c.Valid) (h : Rearranged c.machineImages mappings)
    (id : ImageIdentity) : { c with machineImages := mappings }.find? id = c.find? id := by
  have hbefore := hv.distinct
  have hafter := (hv.rearranged h).distinct
  rw [← identities_images] at hbefore hafter
  exact congrArg (Option.map _)
    (List.find?_key_congr hafter hbefore fun r _ => h.perm_images.symm.mem_iff)

/-- A configuration passes just if it is complete and gives no identity twice. A lookup in one that
passes then finds what any of its mappings gives, and goes on doing so however its entries are
listed. -/
theorem valid_lookup_unambiguous (c : ImageConfig) (path : String) :
    (c.validate path = .ok () ↔ c.Valid) ∧
    (c.validate path = .ok () →
      (∀ id image, c.find? id = some image ↔
        ∃ m ∈ c.machineImages, m.name = id.name ∧ m.version = id.version ∧
          ⟨id.cloudProfile, image⟩ ∈ m.cloudProfiles) ∧
      ∀ mappings, Rearranged c.machineImages mappings →
        { c with machineImages := mappings }.validate path = .ok () ∧
        ∀ id, { c with machineImages := mappings }.find? id = c.find? id) := by
  refine ⟨c.validate_eq_ok_iff path, fun hok => ?_⟩
  have hv := (c.validate_eq_ok_iff path).1 hok
  refine ⟨fun id image => find?_eq_some_iff hv, fun mappings h => ⟨?_, find?_rearranged hv h⟩⟩
  exact (validate_eq_ok_iff _ path).2 (hv.rearranged h)

end ImageConfig

namespace Sample

def kubevirtImage : ProfileImage := ⟨"kubevirt", "img-123"⟩
def openstackImage : ProfileImage := ⟨"openstack", "os-img-1"⟩
def ubuntuImages : ImageMapping := ⟨"ubuntu", "1", [kubevirtImage, openstackImage]⟩
def flatcarImages : ImageMapping := ⟨"flatcar", "3510.2.0", [⟨"kubevirt", "flatcar-img"⟩]⟩
def mapped : ImageConfig := ⟨none, none, [ubuntuImages, flatcarImages]⟩

/-- The profiles of `ubuntuImages` in two mappings, the last one first, with another in between. -/
def spread : List ImageMapping :=
  [ubuntuImages.withProfiles [openstackImage], flatcarImages,
    ubuntuImages.withProfiles [kubevirtImage]]

theorem rearranged_spread : ImageConfig.Rearranged mapped.machineImages spread := by
  have hsplit := ImageConfig.Rearranged.split [] [flatcarImages] ubuntuImages
    [[openstackImage], [kubevirtImage]] (.swap ..)
  exact hsplit.trans (.mappings (.cons _ (.swap ..)))

theorem lookup_in_spread :
    mapped.validate ImageConfig.inlinePath = .ok () ∧
    { mapped with machineImages := spread }.validate ImageConfig.inlinePath = .ok () ∧
    { mapped with machineImages := spread }.find? ⟨"ubuntu", "1", "kubevirt"⟩ = some "img-123" := by
  have hok : mapped.validate ImageConfig.inlinePath = .ok () := by decide
  obtain ⟨-, hvalid⟩ := ImageConfig.valid_lookup_unambiguous mapped ImageConfig.inlinePath
  obtain ⟨hfind, hrearranged⟩ := hvalid hok
  obtain ⟨hspread, hsame⟩ := hrearranged spread rearranged_spread
  refine ⟨hok, hspread, ?_⟩
  rw [hsame, hfind]
  exact ⟨ubuntuImages, .head _, rfl, rfl, .head _⟩

end Sample
end PoolPlan
