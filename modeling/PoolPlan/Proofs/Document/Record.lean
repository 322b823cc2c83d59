import PoolPlan.Document.Record
import PoolPlan.Proofs.Document.Value
import PoolPlan.Proofs.Lists

namespace PoolPlan

namespace Document

@[simp] theorem text?_ofJson (s : String) : (ofJson (.string s)).text? = some s := rfl

theorem ofItems_eq_map (items : List Json) : ofItems items = items.map ofJson := by
  induction items with
  | nil => rfl
  | cons x xs ih => rw [ofItems, ih, List.map_cons]

theorem ofFields_eq_map (fields : List (String × Json)) :
    ofFields fields = fields.map (fun f => (.scalar (.string f.1), .ofJson f.2)) := by
  induction fields with
  | nil => rfl
  | cons f fs ih =>
    obtain ⟨k, x⟩ := f
    rw [ofFields, ih, List.map_cons]

/-- If every item is read back, the list is. -/
theorem list?_ofJson {α : Type} {write : α → Json} {read : Document → Option α} {as : List α}
    (h : ∀ a ∈ as, read (ofJson (write a)) = some a) :
    (ofJson (.array (as.map write))).list? read = some as := by
  have hm := List.mapM_map_eq_some (fun a => ofJson (write a)) read id as h
  simpa [list?, items?, ofJson, untagged, ofItems_eq_map, Function.comp_def] using hm

theorem entries?_ofJson (fields : List (String × Json)) :
    (ofJson (.object fields)).entries? = some (fields.map (fun f => (f.1, ofJson f.2))) := by
  have hm := List.mapM_map_eq_some
    (fun f : String × Json => (Document.scalar (.string f.1), ofJson f.2))
    (fun e => e.1.text?.map (·, e.2)) (fun f => (f.1, ofJson f.2)) fields (fun _ _ => rfl)
  simpa [entries?, ofJson, untagged, ofFields_eq_map] using hm

/-- An object that has no name twice is the record of those of its fields that are declared. -/
theorem record?_ofJson {fields : Dict Json} (h : fields.keys.Nodup) (names : List String) :
    (ofJson (.object fields)).record? names =
      some ((fields.map (fun f => (f.1, ofJson f.2))).filter (fun e => names.contains e.1)) := by
  have hk : ((fields.map (fun f => (f.1, ofJson f.2))).map Prod.fst).Nodup := by
    simpa [Dict.keys, Function.comp_def] using h
  have hn : (((fields.map (fun f => (f.1, ofJson f.2))).filter
      (fun e => names.contains e.1)).map Prod.fst).Nodup :=
    List.Pairwise.sublist (List.Sublist.map _ List.filter_sublist) hk
  have he := entries?_ofJson fields
  simp only [ofJson] at he ⊢
  simp only [record?, untagged, he, Option.bind_eq_bind, Option.bind_some, if_pos hn]
  rfl

/-- What a record that is read from an object has under the names that it declares. -/
theorem exists_record_ofJson {fields : Dict Json} (h : fields.keys.Nodup) (names : List String) :
    ∃ found, (ofJson (.object fields)).record? names = some found ∧
      ∀ name ∈ names, found.lookup name = (fields.get? name).map ofJson := by
  refine ⟨_, record?_ofJson h names, fun name hname => ?_⟩
  rw [List.lookup_filter_contains hname]
  exact List.lookup_map_snd ofJson fields name

/-- Records that declare their first fields alike agree on those, whether they are given by name or by
position. -/
theorem lookup_record?_congr (names : List String) {rest others : List String} {d : Document}
    {f g : Fields} {name : String} (hf : d.record? (names ++ rest) = some f)
    (hg : d.record? (names ++ others) = some g) (hname : name ∈ names) :
    f.lookup name = g.lookup name := by
  unfold record? at hf hg
  split at hf
  · rename_i items hitems
    rw [hitems] at hg
    obtain ⟨-, hf⟩ := Option.ite_none_right_eq_some.1 hf
    obtain ⟨-, hg⟩ := Option.ite_none_right_eq_some.1 hg
    rw [← Option.some.inj hf, ← Option.some.inj hg, List.lookup_zip_append hname,
      List.lookup_zip_append hname]
  · rename_i hbyName
    split at hg
    · rename_i items hitems
      exact absurd hitems (hbyName items)
    · simp only [bind, Option.bind_eq_some_iff, Option.ite_none_right_eq_some, pure,
        Option.some.injEq] at hf hg
      obtain ⟨entries, hentries, -, rfl⟩ := hf
      obtain ⟨same, hsame, -, rfl⟩ := hg
      obtain rfl : entries = same := Option.some.inj (hentries.symm.trans hsame)
      rw [List.lookup_filter_contains (List.mem_append_left rest hname),
        List.lookup_filter_contains (List.mem_append_left others hname)]

theorem ascending_of_dict? {α : Type} {read : Document → Option α} {doc : Document} {d : Dict α}
    (h : doc.dict? read = some d) : d.Ascending := by
  simp only [dict?, bind, Option.bind_eq_some_iff, pure, Option.some.injEq] at h
  obtain ⟨_, -, pairs, -, rfl⟩ := h
  exact Dict.ascending_ofList pairs

theorem exists_of_mem_list? {α : Type} {read : Document → Option α} {doc : Document} {as : List α}
    {a : α} (h : doc.list? read = some as) (ha : a ∈ as) : ∃ d, read d = some a := by
  obtain ⟨items, -, hitems⟩ := Option.bind_eq_some_iff.1 h
  obtain ⟨d, -, hd⟩ := (List.mapM_eq_some_iff.1 hitems).exists_of_mem ha
  exact ⟨d, hd⟩

theorem limited_of_entries? {room : Nat} {d : Document} {entries : List (String × Document)}
    (hd : d.Limited room) (h : d.entries? = some entries) :
    ∀ e ∈ entries, e.2.Limited (room - 1) := by
  cases d with
  | scalar s => cases s <;> first | exact absurd hd id | cases h
  | sequence positional items => cases h
  | mapping given =>
    intro e he
    obtain ⟨g, hg, hge⟩ := (List.mapM_eq_some_iff.1 h).exists_of_mem he
    obtain ⟨k, -, rfl⟩ := Option.map_eq_some_iff.1 hge
    exact (limitedEntries_iff.1 hd.2 g hg).2
  | tagged name node => exact absurd hd id

/-- The fields of a record are one level deeper than the record. -/
theorem limited_of_record? {room : Nat} {d : Document} {names : List String} {fields : Fields}
    (hd : d.Limited room) (h : d.record? names = some fields) :
    ∀ f ∈ fields, f.2.Limited (room - 1) := by
  unfold record? at h
  split at h
  · rename_i items hitems
    obtain rfl : d = .sequence true items := by
      cases d with
      | tagged name node => exact absurd hd id
      | _ => exact hitems
    obtain ⟨-, h⟩ := Option.ite_none_right_eq_some.1 h
    cases h
    intro f hf
    exact limitedItems_iff.1 hd.2 _ (List.of_mem_zip hf).2
  · simp only [bind, Option.bind_eq_some_iff, Option.ite_none_right_eq_some, pure,
      Option.some.injEq] at h
    obtain ⟨entries, he, -, rfl⟩ := h
    have hd' : d.untagged.Limited room := by
      cases d with
      | tagged name node => exact absurd hd id
      | _ => exact hd
    intro f hf
    exact limited_of_entries? hd' he f (List.mem_filter.1 hf).1

end Document

namespace Fields
variable {α : Type} {read : Document → Option α}

def ofJson (fields : Dict Json) : Fields := fields.map (fun f => (f.1, Document.ofJson f.2))

theorem lookup_ofJson (fields : Dict Json) (name : String) :
    (ofJson fields).lookup name = (fields.get? name).map Document.ofJson :=
  List.lookup_map_snd Document.ofJson fields name

/-- All fields of an object are those of a record, if they are declared in their order. -/
theorem record?_of_sublist {fields : Dict Json} {names : List String} (hnames : names.Nodup)
    (h : fields.keys.Sublist names) :
    (Document.ofJson (.object fields)).record? names = some (ofJson fields) := by
  rw [Document.record?_ofJson (h.nodup hnames)]
  refine congrArg some (List.filter_eq_self.2 fun e he => ?_)
  obtain ⟨f, hf, rfl⟩ := List.mem_map.1 he
  exact List.elem_eq_true_of_mem (h.subset (List.mem_map_of_mem hf))

theorem looseRecord?_ofJson (fields : Dict Json) :
    (Document.ofJson (.object fields)).looseRecord? = some (ofJson fields) :=
  Document.entries?_ofJson fields

theorem required?_ofJson {fields : Dict Json} {name : String} {value : Json} {a : α}
    (h : fields.get? name = some value) (hread : read (.ofJson value) = some a) :
    (ofJson fields).required? name read = some a := by
  rw [required?, lookup_ofJson, h, Option.map_some, Option.bind_some, hread]

/-- The default of a field that is written does not matter. -/
theorem withDefault?_of_written {fields : Dict Json} {name : String} {value : Json} {a fallback : α}
    (h : fields.get? name = some value) (hread : read (.ofJson value) = some a) :
    (ofJson fields).withDefault? name fallback read = some a := by
  simp only [withDefault?, lookup_ofJson, h, Option.map_some, hread]

/-- A field with a default is read back if only its default is ever left out. -/
theorem withDefault?_ofJson {fields : Dict Json} {name : String} {value : Json} {a fallback : α}
    {written : Bool} (h : fields.get? name = if written then some value else none)
    (hread : read (.ofJson value) = some a) (hfallback : written = false → fallback = a) :
    (ofJson fields).withDefault? name fallback read = some a := by
  cases written with
  | true => exact withDefault?_of_written h hread
  | false =>
    simp only [withDefault?, lookup_ofJson, h, Bool.false_eq_true, if_false, Option.map_none,
      hfallback rfl]

theorem withDefault?_congr {f g : Fields} {name : String} (h : f.lookup name = g.lookup name)
    (fallback : α) (read : Document → Option α) :
    f.withDefault? name fallback read = g.withDefault? name fallback read := by
  rw [withDefault?, withDefault?, h]

theorem optional?_ofJson_of_ne_null {j : Json} (h : j ≠ .null) :
    (Document.ofJson j).optional? read = (read (.ofJson j)).map some := by
  cases j <;> first | exact absurd rfl h | rfl

theorem optional?_ofJson {fields : Dict Json} {name : String} {a : Option α} {write : α → Json}
    (h : fields.get? name = a.map write)
    (hread : ∀ v, a = some v → write v ≠ .null ∧ read (.ofJson (write v)) = some v) :
    (ofJson fields).optional? name read = some a := by
  cases a with
  | none => simp only [optional?, lookup_ofJson, h, Option.map_none]
  | some v =>
    obtain ⟨hnull, hv⟩ := hread v rfl
    simp only [optional?, lookup_ofJson, h, Option.map_some, optional?_ofJson_of_ne_null hnull, hv]

/-- A name that does not come twice has one field at most. -/
theorem filter_ofJson {fields : Dict Json} (hn : fields.keys.Nodup) (name : String) :
    (ofJson fields).filter (fun f => f.1 == name) =
      ((fields.get? name).map (fun j => (name, Document.ofJson j))).toList := by
  induction fields with
  | nil => rfl
  | cons f fs ih =>
    obtain ⟨k, j⟩ := f
    obtain ⟨hk, hfs⟩ := List.nodup_cons.1 hn
    rw [Dict.get?_cons, ofJson, List.map_cons, List.filter_cons, ← ofJson, ih hfs]
    by_cases hname : name = k
    · subst hname
      have hnone : Dict.get? fs name = none := Dict.get?_of_not_mem_keys hk
      simp [hnone]
    · simp [hname, Ne.symm hname]

/-- A field of a loose record. -/
theorem last?_ofJson {fields : Dict Json} (hn : fields.keys.Nodup) {name : String} {a : Option α}
    {write : α → Json} (h : fields.get? name = a.map write)
    (hread : ∀ v, a = some v → write v ≠ .null ∧ read (.ofJson (write v)) = some v) :
    (ofJson fields).last? name read = some a := by
  rw [last?, filter_ofJson hn, h]
  cases a with
  | none => rfl
  | some v =>
    obtain ⟨hnull, hv⟩ := hread v rfl
    simp [optional?_ofJson_of_ne_null hnull, hv]

/-- A field that may hold any value, or none. -/
theorem within_of_optional? {room : Nat} {fields : Fields} {name : String} {j : Json}
    (hfields : ∀ f ∈ fields, f.2.Limited room)
    (h : fields.optional? name Document.value? = some (some j)) : j ≠ .null ∧ j.Within room := by
  unfold optional? at h
  split at h
  · cases h
  · rename_i d hd
    exact Document.within_of_optional? (hfields _ (List.mem_of_lookup_eq_some hd)) h

/-- What a field with a default is read as has a property that the default has. -/
theorem of_withDefault? {P : α → Prop} {fields : Fields} {name : String} {a fallback : α}
    (h : fields.withDefault? name fallback read = some a) (hfallback : P fallback)
    (hread : ∀ d, read d = some a → P a) : P a := by
  unfold withDefault? at h
  split at h
  · exact Option.some.inj h ▸ hfallback
  · exact hread _ h

end Fields
end PoolPlan
