import PoolPlan.Image.Ledger
import PoolPlan.Proofs.Lists

namespace PoolPlan.ImageLedger

theorem ext {l m : ImageLedger} (h : l.images = m.images) : l = m := by
  cases l
  cases m
  simpa using h

theorem mem_identities {l : ImageLedger} {id : ImageIdentity} :
    id ∈ l.identities ↔ ∃ r ∈ l.images, r.identity = id := List.mem_map

theorem find?_eq_none_iff {l : ImageLedger} {id : ImageIdentity} :
    l.find? id = none ↔ id ∉ l.identities := by
  simp [find?, mem_identities]

theorem identity_of_find? {l : ImageLedger} {id : ImageIdentity} {r : ResolvedImage}
    (h : l.find? id = some r) : r.identity = id := by
  simpa using List.find?_some h

theorem find?_eq_some_iff {l : ImageLedger} {id : ImageIdentity} {r : ResolvedImage} :
    l.find? id = some r ↔ r ∈ l.images ∧ r.identity = id :=
  List.find?_key_eq_some_iff l.distinct

/-- An entry is found under its identity, since no other entry has that. -/
theorem find?_identity {l : ImageLedger} {r : ResolvedImage} (h : r ∈ l.images) :
    l.find? r.identity = some r := find?_eq_some_iff.2 ⟨h, rfl⟩

/-- What is found under an identity depends on its entry alone. -/
theorem find?_congr {l m : ImageLedger} {id : ImageIdentity}
    (h : ∀ r, r.identity = id → (r ∈ l.images ↔ r ∈ m.images)) : l.find? id = m.find? id :=
  List.find?_key_congr l.distinct m.distinct h

theorem identity_replaced (r e : ResolvedImage) :
    (if e.identity = r.identity then r else e).identity = e.identity := by
  split
  · rename_i h
    exact h.symm
  · rfl

theorem find?_replace (l : ImageLedger) (r : ResolvedImage) (id : ImageIdentity) :
    (l.replace r).find? id =
      (l.find? id).map (fun e => if e.identity = r.identity then r else e) := by
  simp only [find?, replace, replaceIn, List.find?_map, Function.comp_def, identity_replaced]

/-- The identity that is refreshed has the new image, the others have what they had. -/
theorem find?_refresh (l : ImageLedger) (r : ResolvedImage) (id : ImageIdentity) :
    (l.refresh r).1.find? id = if r.identity = id then some r else l.find? id := by
  unfold refresh
  split
  · rename_i hmem
    rw [find?_replace]
    cases hf : l.find? id with
    | none =>
      have hne : r.identity ≠ id := by
        rintro rfl
        exact find?_eq_none_iff.1 hf hmem
      simp [hne]
    | some e =>
      obtain rfl := identity_of_find? hf
      by_cases h : e.identity = r.identity
      · simp [h]
      · simp [h, Ne.symm h]
  · rename_i hnew
    have hold : l.find? r.identity = none := find?_eq_none_iff.2 hnew
    by_cases h : r.identity = id
    · subst h
      simp only [find?] at hold
      simp [find?, push, List.find?_append, hold]
    · simp [find?, push, List.find?_append, h]

/-- After a series of refreshes an identity has the image of the last one that was for it. -/
theorem find?_refreshAll (l : ImageLedger) (images : List ResolvedImage) (id : ImageIdentity) :
    (l.refreshAll images).find? id =
      (images.reverse.find? (fun r => r.identity == id)).or (l.find? id) := by
  induction images generalizing l with
  | nil => rfl
  | cons r images ih =>
    have hstep : l.refreshAll (r :: images) = (l.refresh r).1.refreshAll images := rfl
    rw [hstep, ih, find?_refresh, List.reverse_cons, List.find?_append]
    cases images.reverse.find? (fun r => r.identity == id) with
    | some e => rfl
    | none => by_cases h : r.identity = id <;> simp [h]

/-- If a series agrees on the image of an identity, that is the image. -/
theorem find?_refreshAll_of_mem {l : ImageLedger} {images : List ResolvedImage} {r : ResolvedImage}
    (hm : r ∈ images) (h : ∀ e ∈ images, e.identity = r.identity → e = r) :
    (l.refreshAll images).find? r.identity = some r := by
  rw [find?_refreshAll]
  cases hf : images.reverse.find? (fun e => e.identity == r.identity) with
  | none =>
    have := List.find?_eq_none.1 hf r (List.mem_reverse.2 hm)
    simp at this
  | some e =>
    have he : e.identity = r.identity := by simpa using List.find?_some hf
    rw [h e (List.mem_reverse.1 (List.mem_of_find?_eq_some hf)) he]
    rfl

theorem find?_refreshAll_of_not_mem {l : ImageLedger} {images : List ResolvedImage}
    {id : ImageIdentity} (h : ∀ e ∈ images, e.identity ≠ id) :
    (l.refreshAll images).find? id = l.find? id := by
  have hf : images.reverse.find? (fun e => e.identity == id) = none := by
    rw [List.find?_eq_none]
    intro e he
    simpa using h e (List.mem_reverse.1 he)
  rw [find?_refreshAll, hf, Option.none_or]

/-- Recording gives an identity an image only if it has none. -/
theorem find?_record (l : ImageLedger) (r : ResolvedImage) (id : ImageIdentity) :
    (l.record r).1.find? id = (l.find? id).or (if r.identity = id then some r else none) := by
  by_cases hmem : r.identity ∈ l.identities
  · have hsame : (l.record r).1 = l := by simp only [record, dif_pos hmem]
    rw [hsame]
    by_cases h : r.identity = id
    · have hsome : l.find? id ≠ none := fun hnone => find?_eq_none_iff.1 hnone (h ▸ hmem)
      obtain ⟨e, he⟩ := Option.ne_none_iff_exists'.1 hsome
      rw [he, Option.some_or]
    · rw [if_neg h, Option.or_none]
  · have hpush : (l.record r).1 = l.push r hmem := by simp only [record, dif_neg hmem]
    rw [hpush, find?, push, List.find?_append]
    by_cases h : r.identity = id <;> simp [find?, h]

/-- Of the images that a ledger is made from, the first one counts. -/
theorem find?_foldl_record (l : ImageLedger) (images : List ResolvedImage) (id : ImageIdentity) :
    (images.foldl (fun l r => (l.record r).1) l).find? id =
      (l.find? id).or (images.find? (fun r => r.identity == id)) := by
  induction images generalizing l with
  | nil => rw [List.foldl_nil, List.find?_nil, Option.or_none]
  | cons r images ih =>
    rw [List.foldl_cons, ih, find?_record, Option.or_assoc, List.find?_cons]
    by_cases h : r.identity = id
    · simp [h]
    · have hne : (r.identity == id) = false := beq_eq_false_iff_ne.2 h
      simp [h, hne]

theorem find?_ofList (images : List ResolvedImage) (id : ImageIdentity) :
    (ofList images).find? id = images.find? (fun r => r.identity == id) :=
  find?_foldl_record empty images id

/-- Refreshing with what is there already changes nothing. -/
theorem refresh_eq_self {l : ImageLedger} {r : ResolvedImage} (h : l.find? r.identity = some r) :
    (l.refresh r).1 = l := by
  have hmem : r.identity ∈ l.identities := mem_identities.2 ⟨r, List.mem_of_find?_eq_some h, rfl⟩
  simp only [refresh, dif_pos hmem]
  apply ext
  simp only [replace, replaceIn]
  conv => rhs; rw [← List.map_id l.images]
  apply List.map_congr_left
  intro e he
  split
  · rename_i heq
    have hf := find?_identity he
    rw [heq, h] at hf
    exact Option.some.inj hf
  · rfl

theorem refreshAll_eq_self {l : ImageLedger} {images : List ResolvedImage}
    (h : ∀ r ∈ images, l.find? r.identity = some r) : l.refreshAll images = l := by
  induction images with
  | nil => rfl
  | cons r images ih =>
    have hstep : l.refreshAll (r :: images) = (l.refresh r).1.refreshAll images := rfl
    rw [hstep, refresh_eq_self (h r List.mem_cons_self)]
    exact ih (fun e he => h e (List.mem_cons_of_mem _ he))

def grown (l : ImageLedger) (id : ImageIdentity) : List ImageIdentity :=
  if id ∈ l.identities then l.identities else l.identities ++ [id]

theorem identities_push (l : ImageLedger) (r : ResolvedImage) (h : r.identity ∉ l.identities) :
    (l.push r h).identities = l.identities ++ [r.identity] := by
  simp [identities, push]

theorem identities_record (l : ImageLedger) (r : ResolvedImage) :
    (l.record r).1.identities = l.grown r.identity := by
  by_cases h : r.identity ∈ l.identities
  · simp only [record, grown, dif_pos h, if_pos h]
  · simp only [record, grown, dif_neg h, if_neg h, identities_push]

theorem identities_refresh (l : ImageLedger) (r : ResolvedImage) :
    (l.refresh r).1.identities = l.grown r.identity := by
  by_cases h : r.identity ∈ l.identities
  · simp only [refresh, grown, dif_pos h, if_pos h]
    exact identities_replaceIn r l.images
  · simp only [refresh, grown, dif_neg h, if_neg h, identities_push]

theorem eraseDups_grown (l : ImageLedger) (id : ImageIdentity) (rest : List ImageIdentity) :
    (l.grown id ++ rest).eraseDups = (l.identities ++ id :: rest).eraseDups := by
  unfold grown
  split
  · rename_i h
    have : (id :: rest).removeAll l.identities = rest.removeAll l.identities := by
      simp [List.removeAll, h]
    rw [List.eraseDups_append, List.eraseDups_append, this]
  · simp

/-- Operations that let the identities grow by one leave, one after the other, the identities before
and then the new ones in order of first use. -/
theorem identities_foldl {f : ImageLedger → ResolvedImage → ImageLedger}
    (hf : ∀ l r, (f l r).identities = l.grown r.identity) (l : ImageLedger)
    (images : List ResolvedImage) :
    (images.foldl f l).identities =
      (l.identities ++ images.map ResolvedImage.identity).eraseDups := by
  induction images generalizing l with
  | nil =>
    rw [List.map_nil, List.append_nil]
    exact (List.eraseDups_of_nodup l.distinct).symm
  | cons r images ih => rw [List.foldl_cons, ih, hf, eraseDups_grown, List.map_cons]

theorem identities_refreshAll (l : ImageLedger) (images : List ResolvedImage) :
    (l.refreshAll images).identities =
      (l.identities ++ images.map ResolvedImage.identity).eraseDups :=
  identities_foldl identities_refresh l images

theorem nodup_identities (l : ImageLedger) : l.identities.Nodup := l.distinct

/-- The identities from before stay where they are, and the new ones come after them. -/
theorem identities_refreshAll_append (l : ImageLedger) (images : List ResolvedImage) :
    (l.refreshAll images).identities =
      l.identities ++ ((images.map ResolvedImage.identity).removeAll l.identities).eraseDups := by
  rw [identities_refreshAll, List.eraseDups_append, List.eraseDups_of_nodup l.nodup_identities]

/-- A ledger made from a list has its identities, each where it comes first. -/
theorem identities_ofList (images : List ResolvedImage) :
    (ofList images).identities = (images.map ResolvedImage.identity).eraseDups :=
  identities_foldl identities_record empty images

theorem images_foldl_record {images : List ResolvedImage} {l : ImageLedger}
    (h : (l.identities ++ images.map ResolvedImage.identity).Nodup) :
    (images.foldl (fun l r => (l.record r).1) l).images = l.images ++ images := by
  induction images generalizing l with
  | nil => simp
  | cons r images ih =>
    have hnew : r.identity ∉ l.identities := fun hm =>
      (List.nodup_append.1 h).2.2 _ hm _ List.mem_cons_self rfl
    have hpush : (l.record r).1 = l.push r hnew := by simp only [record, dif_neg hnew]
    rw [List.foldl_cons, hpush, ih]
    · simp [push]
    · simpa [identities_push] using h

/-- Made again from its own images a ledger is the same. -/
theorem ofList_images (l : ImageLedger) : ofList l.images = l :=
  ext (images_foldl_record (l := empty) (by simpa [empty, identities] using l.distinct))

end PoolPlan.ImageLedger
