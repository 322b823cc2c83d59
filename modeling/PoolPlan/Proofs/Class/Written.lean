import PoolPlan.Proofs.Class.Provider
import PoolPlan.Proofs.Document.Written

namespace PoolPlan

namespace Json

theorem depth_le_depthFields {fs : List (String × Json)} {f : String × Json} (h : f ∈ fs) :
    f.2.depth ≤ depthFields fs := by
  induction fs with
  | nil => contradiction
  | cons g gs ih =>
    obtain ⟨k, x⟩ := g
    rcases List.mem_cons.1 h with rfl | h
    · exact Nat.le_max_left ..
    · exact Nat.le_trans (ih h) (Nat.le_max_right ..)

mutual
theorem depth_sortKeys_le : (j : Json) → j.sortKeys.depth ≤ j.depth
  | .null | .bool _ | .number _ | .string _ => Nat.zero_le _
  | .array items => Nat.succ_le_succ (depthItems_sortItems_le items)
  | .object fields => by
    refine Nat.succ_le_succ (Nat.le_trans ?_ (depthFields_sortFields_le fields))
    exact depthFields_le fun f hf => depth_le_depthFields (mem_ofList hf)
theorem depthItems_sortItems_le : (items : List Json) → depthItems (sortItems items) ≤ depthItems items
  | [] => Nat.le_refl 0
  | x :: xs => by
    have hx := depth_sortKeys_le x
    have hxs := depthItems_sortItems_le xs
    simp only [sortItems, depthItems]
    omega
theorem depthFields_sortFields_le : (fields : List (String × Json)) →
    depthFields (sortFields fields) ≤ depthFields fields
  | [] => Nat.le_refl 0
  | (_, x) :: fs => by
    have hx := depth_sortKeys_le x
    have hfs := depthFields_sortFields_le fs
    simp only [sortFields, depthFields]
    omega
end

theorem Fits.sortKeys {room : Nat} {j : Json} (h : j.Fits room) : j.sortKeys.Fits room :=
  ⟨exact_sortKeys h.exact, Nat.le_trans (depth_sortKeys_le j) h.depth⟩

theorem Fits.of_mem {room : Nat} {fields : List (String × Json)} (h : (object fields).Fits (room + 1))
    {f : String × Json} (hf : f ∈ fields) : f.2.Fits room :=
  ⟨exactFields_iff.1 h.exact f hf,
    Nat.le_trans (depth_le_depthFields hf) (Nat.le_of_succ_le_succ h.depth)⟩

end Json

namespace ClassSpec
variable {room : Nat}

theorem fits_ofFields {fields : List (String × Json)} (h : ∀ f ∈ fields, f.2.Fits room) :
    (ofFields fields).toJson.Fits (room + 1) :=
  (Json.fits_object h).sortKeys

theorem fits_insert {spec : ClassSpec} (h : spec.toJson.Fits (room + 1)) (key : String) {value : Json}
    (hvalue : value.Fits room) : (spec.insert key value).toJson.Fits (room + 1) := by
  apply Json.fits_object
  intro f hf
  rcases Json.mem_insert hf with rfl | hf
  · exact hvalue.sortKeys
  · exact h.of_mem hf

theorem fits_secretOf (room : Nat) (userData : String) (c : Credentials) :
    (secretOf userData c).Fits (room + 1) := by
  apply Json.fits_object
  simp only [List.forall_mem_cons]
  exact ⟨Json.fits_string room _, Json.fits_string room _, Json.fits_string room _,
    List.forall_mem_nil _⟩

end ClassSpec

namespace ClassContent

theorem fits_spec (c : ClassContent) : c.spec.toJson.Fits 2 := by
  apply ClassSpec.fits_ofFields
  have htags : (ClassSpec.nodeTags c.ns).Fits 1 := by
    apply Json.fits_object
    simp only [List.forall_mem_cons]
    exact ⟨Json.fits_string 0 _, Json.fits_string 0 _, List.forall_mem_nil _⟩
  have hsecret : (ClassSpec.userDataSecret c.userData).Fits 1 := by
    apply Json.fits_object
    simp only [List.forall_mem_cons]
    exact ⟨Json.fits_string 0 _, List.forall_mem_nil _⟩
  have hresources : ∀ f ∈ (c.resources.map ClassSpec.openStackFields).getD [], f.2.Fits 1 := by
    cases c.resources with
    | none => exact List.forall_mem_nil _
    | some resources =>
      simp only [Option.map_some, Option.getD_some, ClassSpec.openStackFields, List.forall_mem_cons]
      exact ⟨Json.fits_string 1 _, Json.fits_string 1 _, Json.fits_strings 0 _, List.forall_mem_nil _⟩
  simp only [fields, List.forall_mem_append, List.forall_mem_cons]
  exact ⟨⟨⟨Json.fits_string 1 _, Json.fits_string 1 _, Json.fits_string 1 _, Json.fits_string 1 _,
    htags, hsecret, List.forall_mem_nil _⟩,
    Json.fits_optionalField _ fun _ _ => Json.fits_string 1 _⟩, hresources⟩

theorem fits_named (c : ClassContent) (credentials : Credentials) (name : String) :
    ((c.spec.attachCredentials credentials).named name).toJson.Fits 2 := by
  rw [ClassSpec.attachCredentials_spec]
  apply ClassSpec.fits_insert
  · exact ClassSpec.fits_insert c.fits_spec _ (ClassSpec.fits_secretOf 0 _ _)
  · exact Json.fits_string 1 name

end ClassContent
end PoolPlan
