import PoolPlan.Class.Spec
import PoolPlan.Proofs.Dict
import PoolPlan.Proofs.Json.Canonical
import PoolPlan.Proofs.Json.ReadBack
import PoolPlan.Proofs.Lists

namespace PoolPlan

namespace Json

theorem sortItems_eq_map (items : List Json) : sortItems items = items.map sortKeys := by
  induction items with
  | nil => rfl
  | cons x xs ih => rw [sortItems, ih, List.map_cons]

theorem sortFields_eq_map (fields : List (String × Json)) :
    sortFields fields = fields.map (fun f => (f.1, f.2.sortKeys)) := by
  induction fields with
  | nil => rfl
  | cons f fs ih =>
    obtain ⟨k, x⟩ := f
    rw [sortFields, ih, List.map_cons]

theorem exactFields_iff {fs : List (String × Json)} : ExactFields fs ↔ ∀ f ∈ fs, f.2.Exact := by
  induction fs with
  | nil => simp [ExactFields]
  | cons f fs ih =>
    obtain ⟨k, x⟩ := f
    simp [ExactFields, ih]

theorem exactItems_iff {xs : List Json} : ExactItems xs ↔ ∀ x ∈ xs, x.Exact := by
  induction xs with
  | nil => simp [ExactItems]
  | cons x xs ih => simp [ExactItems, ih]

theorem exactFields_ofList {fs : List (String × Json)} (h : ExactFields fs) :
    ExactFields (Dict.ofList fs) :=
  exactFields_iff.2 fun e he => exactFields_iff.1 h e (mem_ofList he)

mutual
theorem exact_sortKeys : {j : Json} → j.Exact → j.sortKeys.Exact
  | .null, _ | .bool _, _ | .string _, _ => by simp [sortKeys, Exact]
  | .number n, h => by simpa [sortKeys] using h
  | .array items, h => by
    simp only [Exact, sortKeys] at h ⊢
    exact exact_sortItems h
  | .object fields, h => by
    simp only [Exact, sortKeys] at h ⊢
    exact exactFields_ofList (exact_sortFields h)
theorem exact_sortItems : {items : List Json} → ExactItems items → ExactItems (sortItems items)
  | [], _ => trivial
  | _ :: _, h => ⟨exact_sortKeys h.1, exact_sortItems h.2⟩
theorem exact_sortFields : {fields : List (String × Json)} → ExactFields fields →
    ExactFields (sortFields fields)
  | [], _ => trivial
  | (_, _) :: _, h => ⟨exact_sortKeys h.1, exact_sortFields h.2⟩
end

mutual
/-- A value that is sorted already stays as it is. -/
theorem sortKeys_of_sorted : {j : Json} → j.Sorted → j.sortKeys = j
  | .null, _ | .bool _, _ | .number _, _ | .string _, _ => by simp [sortKeys]
  | .array items, h => by
    simp only [Sorted] at h
    rw [sortKeys, sortItems_of_sorted h]
  | .object fields, h => by
    simp only [Sorted] at h
    rw [sortKeys, sortFields_of_sorted h.2, Dict.ofList_of_ascending h.1]
theorem sortItems_of_sorted : {items : List Json} → SortedItems items → sortItems items = items
  | [], _ => rfl
  | _ :: _, h => by rw [sortItems, sortKeys_of_sorted h.1, sortItems_of_sorted h.2]
theorem sortFields_of_sorted : {fields : List (String × Json)} → SortedFields fields →
    sortFields fields = fields
  | [], _ => rfl
  | (_, _) :: _, h => by rw [sortFields, sortKeys_of_sorted h.1, sortFields_of_sorted h.2]
end

end Json

namespace ClassSpec

theorem ext {a b : ClassSpec} (h : ∀ key, a.get? key = b.get? key) : a = b := by
  obtain ⟨fields, sorted⟩ := a
  obtain ⟨others, sorted'⟩ := b
  obtain rfl : fields = others := Dict.ext sorted.1 sorted'.1 h
  rfl

/-- Fields that agree beside one key and at it are the same. -/
theorem eq_of_get?_eq {a b : ClassSpec} {key : String}
    (hothers : ∀ k, k ≠ key → a.get? k = b.get? k) (h : a.get? key = b.get? key) : a = b := by
  apply ext
  intro k
  by_cases hk : k = key
  · rw [hk, h]
  · exact hothers k hk

@[simp] theorem get?_insert (spec : ClassSpec) (key k : String) (value : Json) :
    (spec.insert key value).get? k = if k = key then some value.sortKeys else spec.get? k :=
  Dict.get?_insert key k value.sortKeys spec.fields

/-- A value that is sorted already is put in as it is. -/
theorem get?_insert_of_sorted {spec : ClassSpec} {key : String} {value : Json} (h : value.Sorted) :
    (spec.insert key value).get? key = some value := by
  rw [get?_insert, if_pos rfl, Json.sortKeys_of_sorted h]

theorem sorted_of_get? {spec : ClassSpec} {key : String} {value : Json}
    (h : spec.get? key = some value) : value.Sorted :=
  Json.sortedFields_iff.1 spec.sorted.2 _ (List.mem_of_lookup_eq_some h)

@[simp] theorem get?_erase (spec : ClassSpec) (key k : String) :
    (spec.erase key).get? k = if k = key then none else spec.get? k :=
  Dict.get?_erase key k spec.fields

theorem get?_ofFields (fields : List (String × Json)) (key : String) :
    (ofFields fields).get? key = (fields.reverse.lookup key).map Json.sortKeys := by
  simp only [get?, ofFields, Dict.get?_ofList, Json.sortFields_eq_map, ← List.map_reverse,
    List.lookup_map_snd]

/-- The fields of a class make that class again. -/
theorem ofFields_fields (spec : ClassSpec) : ofFields spec.fields = spec := by
  obtain ⟨fields, sorted⟩ := spec
  have hsame : Dict.ofList (Json.sortFields fields) = fields := by
    rw [Json.sortFields_of_sorted sorted.2, Dict.ofList_of_ascending sorted.1]
  simp only [ofFields, hsame]

/-- Of two values put under one key the first leaves no trace. -/
theorem insert_insert (spec : ClassSpec) (key : String) (v w : Json) :
    (spec.insert key v).insert key w = spec.insert key w := by
  apply ext
  intro k
  by_cases h : k = key <;> simp [h]

def Exact (spec : ClassSpec) : Prop := spec.toJson.Exact

theorem exact_ofFields {fields : List (String × Json)} (h : Json.ExactFields fields) :
    (ofFields fields).Exact :=
  Json.exact_sortKeys (j := .object fields) h

theorem exact_erase {spec : ClassSpec} (h : spec.Exact) (key : String) :
    (spec.erase key).Exact := by
  simp only [Exact, toJson, Json.Exact, Json.exactFields_iff] at h ⊢
  exact fun f hf => h f (List.mem_filter.1 hf).1

theorem toJson_injective {a b : ClassSpec} (h : a.toJson = b.toJson) : a = b := by
  obtain ⟨fields, sorted⟩ := a
  obtain ⟨others, sorted'⟩ := b
  obtain rfl : fields = others := by simpa [toJson] using h
  rfl

/-- Fields that are sorted at every depth are written canonically as they stand. -/
theorem canonicalText_eq_text (spec : ClassSpec) : spec.canonicalText = spec.toJson.text :=
  Json.canonicalText_of_sorted spec.sorted

theorem eq_of_canonicalText {a b : ClassSpec} (ha : a.Exact) (hb : b.Exact)
    (h : a.canonicalText = b.canonicalText) : a = b := by
  rw [canonicalText_eq_text, canonicalText_eq_text] at h
  exact toJson_injective (Json.text_injective ha hb h)

end ClassSpec
end PoolPlan
