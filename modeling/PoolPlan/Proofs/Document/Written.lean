import PoolPlan.Proofs.Document.Record
import PoolPlan.Worker.Pool

namespace PoolPlan

theorem Dict.get?_nil {α : Type} (key : String) : get? ([] : Dict α) key = none := rfl

theorem Dict.get?_append {α : Type} (d e : Dict α) (key : String) :
    get? (d ++ e) key = (d.get? key).or (e.get? key) := List.lookup_append

theorem Dict.keys_append {α : Type} (d e : Dict α) : keys (d ++ e) = d.keys ++ e.keys :=
  List.map_append

theorem get?_fieldIf (written : Bool) (name : String) (value : Json) (key : String) :
    Dict.get? (fieldIf written name value) key =
      if key = name then (if written then some value else none) else none := by
  cases written with
  | true => exact Dict.get?_cons ..
  | false => exact (ite_self none).symm

theorem keys_fieldIf_sublist (written : Bool) (name : String) (value : Json) :
    (Dict.keys (fieldIf written name value)).Sublist [name] := by
  cases written with
  | true => exact List.Sublist.refl [name]
  | false => exact List.nil_sublist [name]

theorem mem_fieldIf {written : Bool} {name : String} {value : Json} {f : String × Json}
    (h : f ∈ fieldIf written name value) : f = (name, value) := by
  cases written with
  | true => exact List.mem_singleton.1 h
  | false => contradiction

namespace Json

/-- A value that can be read back, with no more than `room` containers around each other. -/
structure Fits (room : Nat) (j : Json) : Prop where
  exact : j.Exact
  depth : j.depth ≤ room

theorem fits_string (room : Nat) (s : String) : (Json.string s).Fits room := ⟨trivial, Nat.zero_le _⟩

theorem fits_integer (room : Nat) {n m : Int} (h : int32Of? n = some m) : (integer n).Fits room := by
  obtain ⟨hrange, -⟩ := Option.ite_none_right_eq_some.1 h
  exact ⟨⟨n, if_pos (by omega)⟩, Nat.zero_le _⟩

theorem fits_array {room : Nat} {items : List Json} (h : ∀ x ∈ items, x.Fits room) :
    (Json.array items).Fits (room + 1) :=
  ⟨exactItems_iff.2 fun x hx => (h x hx).exact,
    Nat.succ_le_succ (depthItems_le fun x hx => (h x hx).depth)⟩

theorem fits_object {room : Nat} {fields : List (String × Json)} (h : ∀ f ∈ fields, f.2.Fits room) :
    (Json.object fields).Fits (room + 1) :=
  ⟨exactFields_iff.2 fun f hf => (h f hf).exact,
    Nat.succ_le_succ (depthFields_le fun f hf => (h f hf).depth)⟩

theorem Fits.mono {room more : Nat} {j : Json} (h : j.Fits room) (hmore : room ≤ more) :
    j.Fits more := ⟨h.exact, Nat.le_trans h.depth hmore⟩

theorem fits_array_map {α : Type} {room : Nat} {as : List α} {write : α → Json}
    (h : ∀ a ∈ as, (write a).Fits room) : (Json.array (as.map write)).Fits (room + 1) := by
  apply fits_array
  intro x hx
  obtain ⟨a, ha, rfl⟩ := List.mem_map.1 hx
  exact h a ha

theorem fits_strings (room : Nat) (items : List String) : (Json.strings items).Fits (room + 1) :=
  fits_array_map fun s _ => fits_string room s

theorem fits_ofTexts (room : Nat) (d : Dict String) : (Json.ofTexts d).Fits (room + 1) := by
  apply fits_object
  intro f hf
  obtain ⟨e, -, rfl⟩ := List.mem_map.1 hf
  exact fits_string room e.2

theorem fits_fieldIf {room : Nat} (written : Bool) (name : String) {value : Json}
    (h : value.Fits room) : ∀ f ∈ fieldIf written name value, f.2.Fits room := by
  intro f hf
  obtain rfl := mem_fieldIf hf
  exact h

theorem fits_optionalField {α : Type} {room : Nat} (name : String) {a : Option α} {write : α → Json}
    (h : ∀ v, a = some v → (write v).Fits room) :
    ∀ f ∈ optionalField name a write, f.2.Fits room := by
  intro f hf
  cases a with
  | none => contradiction
  | some v =>
    obtain rfl := List.mem_singleton.1 hf
    exact h v rfl

theorem get?_optionalField {α : Type} (name : String) (a : Option α) (write : α → Json)
    (key : String) :
    Dict.get? (optionalField name a write) key = if key = name then a.map write else none := by
  cases a with
  | none => exact (ite_self none).symm
  | some a => exact Dict.get?_cons ..

theorem keys_optionalField_sublist {α : Type} (name : String) (a : Option α) (write : α → Json) :
    (Dict.keys (optionalField name a write)).Sublist [name] := by
  cases a with
  | none => exact List.nil_sublist [name]
  | some a => exact List.Sublist.refl [name]

end Json

/-- A dictionary of texts is read back as itself. -/
theorem Document.dict?_ofTexts {d : Dict String} (h : d.Ascending) :
    (ofJson (.ofTexts d)).dict? text? = some d := by
  have hpairs := List.mapM_map_eq_some (fun e : String × String => (e.1, ofJson (.string e.2)))
    (fun e => e.2.text?.map (e.1, ·)) id d (fun _ _ => rfl)
  simp only [dict?, Json.ofTexts, entries?_ofJson, List.map_map, Function.comp_def, bind,
    Option.bind_some]
  rw [hpairs, Option.bind_some, List.map_id, Dict.ofList_of_ascending h]
  rfl

end PoolPlan
