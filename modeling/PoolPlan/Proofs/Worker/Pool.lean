import PoolPlan.Proofs.Document.Written

namespace PoolPlan

theorem int32Of?_eq_some {n m : Int} (h : int32Of? n = some m) : int32Of? m = some m := by
  have hsame : n = m := by
    obtain ⟨-, hsame⟩ := Option.ite_none_right_eq_some.1 h
    exact Option.some.inj hsame
  rwa [hsame] at h

theorem Document.int32Of?_of_int32? {d : Document} {n : Int} (h : d.int32? = some n) :
    int32Of? n = some n := by
  obtain ⟨m, -, hm⟩ := Option.bind_eq_some_iff.1 h
  exact int32Of?_eq_some hm

theorem Document.int32?_ofJson {n : Int} (h : int32Of? n = some n) :
    (ofJson (.integer n)).int32? = some n := h

namespace Tolerance

def Storable : Tolerance → Prop
  | .count n => int32Of? n = some n
  | .relative _ => True

theorem storable_of_ofDocument? {d : Document} {t : Tolerance} (h : ofDocument? d = some t) :
    t.Storable := by
  unfold ofDocument? at h
  split at h
  · obtain ⟨n, hn, rfl⟩ := Option.map_eq_some_iff.1 h
    exact int32Of?_eq_some hn
  · cases h
    trivial
  · cases h

theorem ofDocument?_toJson {t : Tolerance} (h : t.Storable) :
    ofDocument? (.ofJson t.toJson) = some t := by
  cases t with
  | count n => exact congrArg (Option.map count) h
  | relative text => rfl

theorem fits_toJson (room : Nat) {t : Tolerance} (h : t.Storable) : t.toJson.Fits room := by
  cases t with
  | count n => exact Json.fits_integer room h
  | relative text => exact Json.fits_string room text

end Tolerance

namespace PoolImage

theorem ofDocument?_toJson (i : PoolImage) : ofDocument? (.ofJson i.toJson) = some i := by
  rw [ofDocument?, toJson, Fields.record?_of_sublist]
  · rfl
  · decide
  · exact List.Sublist.refl _

theorem fits_toJson (room : Nat) (i : PoolImage) : i.toJson.Fits (room + 1) := by
  apply Json.fits_object
  simp only [List.forall_mem_cons]
  exact ⟨Json.fits_string room _, Json.fits_string room _, List.forall_mem_nil _⟩

end PoolImage

namespace Taint

structure WrittenAs (t : Taint) (fields : Dict Json) : Prop where
  keys : fields.keys.Sublist ["effect", "key", "timeAdded", "value"]
  effect : fields.get? "effect" = (some t.effect).map .string
  key : fields.get? "key" = (some t.key).map .string
  timeAdded : fields.get? "timeAdded" = t.timeAdded.map Instant.toJson
  value : fields.get? "value" = t.value.map .string

theorem exists_writtenAs (t : Taint) :
    ∃ fields : Dict Json, t.toJson = .object fields ∧ t.WrittenAs fields := by
  refine ⟨_, rfl, ?_, ?_, ?_, ?_, ?_⟩
  · simp only [Dict.keys_append]
    exact ((List.Sublist.refl ["effect", "key"]).append (Json.keys_optionalField_sublist ..)).append
      (Json.keys_optionalField_sublist ..)
  all_goals
    simp [Dict.get?_append, Dict.get?_cons, Json.get?_optionalField]

/-- A taint without a time is read back. -/
theorem ofDocument?_toJson {t : Taint} (h : t.timeAdded = none) :
    ofDocument? (.ofJson t.toJson) = some t := by
  obtain ⟨fields, hjson, hw⟩ := t.exists_writtenAs
  have hn : fields.keys.Nodup := hw.keys.nodup (by decide)
  have hstring (s : String) : Json.string s ≠ .null ∧ (Document.ofJson (.string s)).text? = some s :=
    ⟨nofun, rfl⟩
  have htime : (Fields.ofJson fields).last? "timeAdded" Instant.ofDocument? = some t.timeAdded :=
    Fields.last?_ofJson hn hw.timeAdded fun v hv => by
      rw [h] at hv
      contradiction
  rw [hjson, ofDocument?, Fields.looseRecord?_ofJson]
  simp only [Fields.last?_ofJson hn hw.effect fun v _ => hstring v,
    Fields.last?_ofJson hn hw.key fun v _ => hstring v, htime,
    Fields.last?_ofJson hn hw.value fun v _ => hstring v, bind, Option.bind_some, pure,
    Option.getD_some]

theorem fits_toJson (room : Nat) (t : Taint) : t.toJson.Fits (room + 1) := by
  apply Json.fits_object
  simp only [List.forall_mem_append, List.forall_mem_cons]
  exact ⟨⟨⟨Json.fits_string room _, Json.fits_string room _, List.forall_mem_nil _⟩,
    Json.fits_optionalField _ fun _ _ => Json.fits_string room _⟩,
    Json.fits_optionalField _ fun _ _ => Json.fits_string room _⟩

end Taint

namespace Pool

/-- What holds of every pool that was read. -/
structure Bounded (p : Pool) : Prop where
  minimum : int32Of? p.minimum = some p.minimum
  maximum : int32Of? p.maximum = some p.maximum
  maxSurge : p.maxSurge.Storable
  maxUnavailable : p.maxUnavailable.Storable
  labels : p.labels.Ascending
  annotations : p.annotations.Ascending

/-- A pool that is read back from what is written of it. The time of a taint is not: it is written in
another form than it may be read in. -/
structure Storable (p : Pool) : Prop extends p.Bounded where
  taints : ∀ t ∈ p.taints, t.timeAdded = none

theorem bounded_of_ofDocument? {d : Document} {p : Pool} (h : ofDocument? d = some p) :
    p.Bounded := by
  obtain ⟨fields, -, h⟩ := Option.bind_eq_some_iff.1 h
  obtain ⟨name, -, h⟩ := Option.bind_eq_some_iff.1 h
  obtain ⟨machineType, -, h⟩ := Option.bind_eq_some_iff.1 h
  obtain ⟨machineImage, -, h⟩ := Option.bind_eq_some_iff.1 h
  obtain ⟨minimum, hminimum, h⟩ := Option.bind_eq_some_iff.1 h
  obtain ⟨maximum, hmaximum, h⟩ := Option.bind_eq_some_iff.1 h
  obtain ⟨maxSurge, hsurge, h⟩ := Option.bind_eq_some_iff.1 h
  obtain ⟨maxUnavailable, hunavailable, h⟩ := Option.bind_eq_some_iff.1 h
  obtain ⟨userData, -, h⟩ := Option.bind_eq_some_iff.1 h
  obtain ⟨zones, -, h⟩ := Option.bind_eq_some_iff.1 h
  obtain ⟨labels, hlabels, h⟩ := Option.bind_eq_some_iff.1 h
  obtain ⟨annotations, hannotations, h⟩ := Option.bind_eq_some_iff.1 h
  obtain ⟨taints, -, h⟩ := Option.bind_eq_some_iff.1 h
  obtain rfl := Option.some.inj h
  obtain ⟨_, -, hminimum⟩ := Option.bind_eq_some_iff.1 hminimum
  obtain ⟨_, -, hmaximum⟩ := Option.bind_eq_some_iff.1 hmaximum
  obtain ⟨_, -, hsurge⟩ := Option.bind_eq_some_iff.1 hsurge
  obtain ⟨_, -, hunavailable⟩ := Option.bind_eq_some_iff.1 hunavailable
  exact {
    minimum := Document.int32Of?_of_int32? hminimum
    maximum := Document.int32Of?_of_int32? hmaximum
    maxSurge := Tolerance.storable_of_ofDocument? hsurge
    maxUnavailable := Tolerance.storable_of_ofDocument? hunavailable
    labels := Fields.of_withDefault? hlabels Dict.ascending_nil fun _ => Document.ascending_of_dict?
    annotations :=
      Fields.of_withDefault? hannotations Dict.ascending_nil fun _ => Document.ascending_of_dict? }

structure WrittenAs (p : Pool) (fields : Dict Json) : Prop where
  keys : fields.keys.Sublist fieldNames
  name : fields.get? "name" = some (.string p.name)
  machineType : fields.get? "machineType" = some (.string p.machineType)
  machineImage : fields.get? "machineImage" = some p.machineImage.toJson
  minimum : fields.get? "minimum" = some (.integer p.minimum)
  maximum : fields.get? "maximum" = some (.integer p.maximum)
  maxSurge : fields.get? "maxSurge" = some p.maxSurge.toJson
  maxUnavailable : fields.get? "maxUnavailable" = some p.maxUnavailable.toJson
  userData : fields.get? "userData" = some (.string (Base64.toString p.userData))
  zones : fields.get? "zones" = some (.strings p.zones)
  labels : fields.get? "labels" = if !p.labels.isEmpty then some (.ofTexts p.labels) else none
  annotations :
    fields.get? "annotations" = if !p.annotations.isEmpty then some (.ofTexts p.annotations) else none
  taints :
    fields.get? "taints" = if !p.taints.isEmpty then some (.array (p.taints.map Taint.toJson)) else none

theorem exists_writtenAs (p : Pool) :
    ∃ fields : Dict Json, p.toJson = .object fields ∧ p.WrittenAs fields := by
  refine ⟨_, rfl, ?_, ?_, ?_, ?_, ?_, ?_, ?_, ?_, ?_, ?_, ?_, ?_, ?_⟩
  · simp only [Dict.keys_append]
    exact (((List.Sublist.refl ["name", "machineType", "machineImage", "minimum", "maximum",
      "maxSurge", "maxUnavailable", "userData", "zones"]).append (keys_fieldIf_sublist ..)).append
      (keys_fieldIf_sublist ..)).append (keys_fieldIf_sublist ..)
  all_goals
    simp [Dict.get?_append, Dict.get?_cons, get?_fieldIf]

theorem bytes?_ofJson (bytes : Bytes) :
    bytes? (.ofJson (.string (Base64.toString bytes))) = some bytes := by
  simp [bytes?, Document.ofJson, Document.optional?, Document.text?, Document.untagged,
    Base64.ofString?, Base64.toString, Base64.decode?_encode]

theorem eq_nil_of_isEmpty {α : Type} {as : List α} (h : (!as.isEmpty) = false) : [] = as := by
  cases as with
  | nil => rfl
  | cons a as => contradiction

/-- A pool is read back from what is written of it. -/
theorem ofDocument?_toJson {p : Pool} (h : p.Storable) : ofDocument? (.ofJson p.toJson) = some p := by
  obtain ⟨fields, hjson, hw⟩ := p.exists_writtenAs
  have hzones : (Document.ofJson (.strings p.zones)).list? Document.text? = some p.zones :=
    Document.list?_ofJson fun _ _ => rfl
  have htaints := Document.list?_ofJson fun t ht => Taint.ofDocument?_toJson (h.taints t ht)
  rw [hjson, ofDocument?, Fields.record?_of_sublist (by decide) hw.keys]
  simp only [Fields.required?_ofJson hw.name (Document.text?_ofJson _),
    Fields.required?_ofJson hw.machineType (Document.text?_ofJson _),
    Fields.required?_ofJson hw.machineImage (PoolImage.ofDocument?_toJson _),
    Fields.required?_ofJson hw.minimum (Document.int32?_ofJson h.minimum),
    Fields.required?_ofJson hw.maximum (Document.int32?_ofJson h.maximum),
    Fields.required?_ofJson hw.maxSurge (Tolerance.ofDocument?_toJson h.maxSurge),
    Fields.required?_ofJson hw.maxUnavailable (Tolerance.ofDocument?_toJson h.maxUnavailable),
    Fields.withDefault?_of_written hw.userData (bytes?_ofJson _),
    Fields.required?_ofJson hw.zones hzones,
    Fields.withDefault?_ofJson hw.labels (Document.dict?_ofTexts h.labels) eq_nil_of_isEmpty,
    Fields.withDefault?_ofJson hw.annotations (Document.dict?_ofTexts h.annotations)
      eq_nil_of_isEmpty,
    Fields.withDefault?_ofJson hw.taints htaints eq_nil_of_isEmpty, bind, Option.bind_some, pure]

theorem fits_toJson (room : Nat) {p : Pool} (h : p.Storable) : p.toJson.Fits (room + 3) := by
  have htaints : (Json.array (p.taints.map Taint.toJson)).Fits (room + 2) :=
    Json.fits_array_map fun t _ => t.fits_toJson room
  apply Json.fits_object
  simp only [List.forall_mem_append, List.forall_mem_cons]
  exact ⟨⟨⟨⟨Json.fits_string _ _, Json.fits_string _ _, p.machineImage.fits_toJson _,
    Json.fits_integer _ h.minimum, Json.fits_integer _ h.maximum,
    Tolerance.fits_toJson _ h.maxSurge, Tolerance.fits_toJson _ h.maxUnavailable,
    Json.fits_string _ _, Json.fits_strings _ _, List.forall_mem_nil _⟩,
    Json.fits_fieldIf _ _ (Json.fits_ofTexts _ _)⟩, Json.fits_fieldIf _ _ (Json.fits_ofTexts _ _)⟩,
    Json.fits_fieldIf _ _ htaints⟩

end Pool
end PoolPlan
