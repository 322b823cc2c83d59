import PoolPlan.Proofs.Worker.Pool
import PoolPlan.Worker.Basic

namespace PoolPlan

namespace SecretReference

structure WrittenAs (r : SecretReference) (fields : Dict Json) : Prop where
  keys : fields.keys.Sublist ["name", "namespace"]
  name : fields.get? "name" = r.name.map .string
  ns : fields.get? "namespace" = r.ns.map .string

theorem exists_writtenAs (r : SecretReference) :
    ∃ fields : Dict Json, r.toJson = .object fields ∧ r.WrittenAs fields := by
  refine ⟨_, rfl, ?_, ?_, ?_⟩
  · rw [Dict.keys_append]
    exact (Json.keys_optionalField_sublist ..).append (Json.keys_optionalField_sublist ..)
  all_goals
    simp [Dict.get?_append, Json.get?_optionalField]

/-- A reference is read back from what is written of it. -/
theorem ofDocument?_toJson (r : SecretReference) : ofDocument? (.ofJson r.toJson) = some r := by
  obtain ⟨fields, hjson, hw⟩ := r.exists_writtenAs
  have hn : fields.keys.Nodup := hw.keys.nodup (by decide)
  rw [hjson, ofDocument?, Fields.looseRecord?_ofJson]
  simp only [Fields.last?_ofJson hn hw.name fun v _ => ⟨nofun, Document.text?_ofJson v⟩,
    Fields.last?_ofJson hn hw.ns fun v _ => ⟨nofun, Document.text?_ofJson v⟩, bind,
    Option.bind_some, pure]

theorem fits_toJson (room : Nat) (r : SecretReference) : r.toJson.Fits (room + 1) := by
  apply Json.fits_object
  rw [List.forall_mem_append]
  exact ⟨Json.fits_optionalField _ fun _ _ => Json.fits_string room _,
    Json.fits_optionalField _ fun _ _ => Json.fits_string room _⟩

end SecretReference

namespace WorkerSpec

structure Storable (s : WorkerSpec) : Prop where
  pools : ∀ p ∈ s.pools, p.Storable
  infrastructureProviderStatus : ∀ j ∈ s.infrastructureProviderStatus,
    j ≠ .null ∧ j.Sorted ∧ j.Fits (Json.depthLimit - 1)

theorem exists_of_mem_pools {d : Document} {s : WorkerSpec} (h : ofDocument? d = some s) :
    ∀ p ∈ s.pools, ∃ e, Pool.ofDocument? e = some p := by
  simp only [ofDocument?, bind, Option.bind_eq_some_iff, pure, Option.some.injEq] at h
  obtain ⟨fields, -, region, -, secretRef, -, raw, -, pools, hpools, rfl⟩ := h
  exact Fields.of_withDefault? (P := fun ps => ∀ p ∈ ps, ∃ e, Pool.ofDocument? e = some p) hpools
    (List.forall_mem_nil _) fun _ he _ => Document.exists_of_mem_list? he

theorem storable_of_ofDocument? {d : Document} {s : WorkerSpec} (hd : d.Limited Json.depthLimit)
    (h : ofDocument? d = some s) (hfloat : ∀ j ∈ s.infrastructureProviderStatus, j.FloatFree)
    (htaints : ∀ p ∈ s.pools, ∀ t ∈ p.taints, t.timeAdded = none) : s.Storable := by
  refine ⟨?_, ?_⟩
  · intro p hp
    obtain ⟨e, he⟩ := exists_of_mem_pools h p hp
    exact ⟨Pool.bounded_of_ofDocument? he, htaints p hp⟩
  · intro j hj
    simp only [ofDocument?, bind, Option.bind_eq_some_iff, pure, Option.some.injEq] at h
    obtain ⟨fields, hfields, region, -, secretRef, -, raw, hraw, pools, -, rfl⟩ := h
    obtain rfl : raw = some j := hj
    have hlimited := Document.limited_of_record? hd hfields
    obtain ⟨hnull, hwithin⟩ := Fields.within_of_optional? hlimited hraw
    exact ⟨hnull, hwithin.sorted,
      Json.exact_of_floatFree hwithin.numbers (hfloat j rfl), hwithin.depth⟩

structure WrittenAs (s : WorkerSpec) (fields : Dict Json) : Prop where
  keys : fields.keys.Sublist ["region", "secretRef", "infrastructureProviderStatus", "pools"]
  region : fields.get? "region" = some (.string s.region)
  secretRef : fields.get? "secretRef" = some s.secretRef.toJson
  infrastructureProviderStatus :
    fields.get? "infrastructureProviderStatus" = s.infrastructureProviderStatus.map id
  pools : fields.get? "pools" = some (.array (s.pools.map Pool.toJson))

theorem exists_writtenAs (s : WorkerSpec) :
    ∃ fields : Dict Json, s.toJson = .object fields ∧ s.WrittenAs fields := by
  refine ⟨_, rfl, ?_, ?_, ?_, ?_, ?_⟩
  · simp only [Dict.keys_append]
    exact ((List.Sublist.refl ["region", "secretRef"]).append
      (Json.keys_optionalField_sublist ..)).append (List.Sublist.refl ["pools"])
  all_goals
    simp [Dict.get?_append, Dict.get?_cons, Dict.get?_nil, Json.get?_optionalField]

/-- A spec is read back from what is written of it. -/
theorem ofDocument?_toJson {s : WorkerSpec} (h : s.Storable) :
    ofDocument? (.ofJson s.toJson) = some s := by
  obtain ⟨fields, hjson, hw⟩ := s.exists_writtenAs
  have hraw : (Fields.ofJson fields).optional? "infrastructureProviderStatus" Document.value? =
      some s.infrastructureProviderStatus :=
    Fields.optional?_ofJson hw.infrastructureProviderStatus fun j hj =>
      have ⟨hnull, hsorted, _⟩ := h.infrastructureProviderStatus j hj
      ⟨hnull, Document.value?_ofJson hsorted⟩
  have hpools := Document.list?_ofJson fun p hp => Pool.ofDocument?_toJson (h.pools p hp)
  rw [hjson, ofDocument?, Fields.record?_of_sublist (by decide) hw.keys]
  simp only [Fields.required?_ofJson hw.region (Document.text?_ofJson _),
    Fields.required?_ofJson hw.secretRef (SecretReference.ofDocument?_toJson _), hraw,
    Fields.withDefault?_of_written hw.pools hpools, bind, Option.bind_some, pure]

theorem fits_toJson {s : WorkerSpec} (h : s.Storable) : s.toJson.Fits Json.depthLimit := by
  have hpools : (Json.array (s.pools.map Pool.toJson)).Fits 4 :=
    Json.fits_array_map fun p hp => Pool.fits_toJson 0 (h.pools p hp)
  apply Json.fits_object
  simp only [List.forall_mem_append, List.forall_mem_cons]
  exact ⟨⟨⟨Json.fits_string _ _, s.secretRef.fits_toJson _, List.forall_mem_nil _⟩,
    Json.fits_optionalField _ fun j hj => (h.infrastructureProviderStatus j hj).2.2⟩,
    hpools.mono (by decide), List.forall_mem_nil _⟩

end WorkerSpec

theorem Worker.exists_of_ofDocument? {d : Document} {w : Worker} (h : ofDocument? d = some w) :
    ∃ e, WorkerSpec.ofDocument? e = some w.spec := by
  simp only [ofDocument?, bind, Option.bind_eq_some_iff] at h
  obtain ⟨fields, -, metadata, -, spec, hspec, status, -, h⟩ := h
  obtain ⟨-, h⟩ := Option.ite_none_right_eq_some.1 h
  obtain rfl := Option.some.inj h
  obtain ⟨e, -, he⟩ := Option.bind_eq_some_iff.1 hspec
  exact ⟨e, he⟩

end PoolPlan
