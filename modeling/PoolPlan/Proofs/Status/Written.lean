import PoolPlan.Proofs.Document.Written
import PoolPlan.Status.Basic

namespace PoolPlan

namespace ResolvedImage

theorem ofDocument?_toJson (r : ResolvedImage) : ofDocument? (.ofJson r.toJson) = some r := by
  rw [ofDocument?, toJson, Fields.record?_of_sublist]
  · rfl
  · decide
  · exact List.Sublist.refl _

theorem fits_toJson (room : Nat) (r : ResolvedImage) : r.toJson.Fits (room + 1) := by
  apply Json.fits_object
  simp only [List.forall_mem_cons]
  exact ⟨Json.fits_string room _, Json.fits_string room _, Json.fits_string room _,
    Json.fits_string room _, List.forall_mem_nil _⟩

end ResolvedImage

namespace SecurityGroup

theorem ofDocument?_toJson (g : SecurityGroup) : ofDocument? (.ofJson g.toJson) = some g := by
  rw [ofDocument?, toJson, Fields.record?_of_sublist]
  · rfl
  · decide
  · exact List.Sublist.refl _

theorem fits_toJson (room : Nat) (g : SecurityGroup) : g.toJson.Fits (room + 1) := by
  apply Json.fits_object
  simp only [List.forall_mem_cons]
  exact ⟨Json.fits_string room _, Json.fits_string room _, List.forall_mem_nil _⟩

end SecurityGroup

/-- A text that is left out where it is empty. -/
theorem eq_of_left_out {s : String} (h : (s != "") = false) : "" = s := by
  simpa using (bne_eq_false_iff_eq.1 h).symm

namespace WorkerStatus

structure WrittenAs (s : WorkerStatus) (fields : Dict Json) : Prop where
  keys : fields.keys.Sublist ["apiVersion", "kind", "machineImages"]
  apiVersion : fields.get? "apiVersion" =
    if s.apiVersion != "" then some (.string s.apiVersion) else none
  kind : fields.get? "kind" = if s.kind != "" then some (.string s.kind) else none
  machineImages :
    fields.get? "machineImages" = some (.array (s.machineImages.map ResolvedImage.toJson))

theorem exists_writtenAs (s : WorkerStatus) :
    ∃ fields : Dict Json, s.toJson = .object fields ∧ s.WrittenAs fields := by
  refine ⟨_, rfl, ?_, ?_, ?_, ?_⟩
  · simp only [Dict.keys_append]
    exact ((keys_fieldIf_sublist ..).append (keys_fieldIf_sublist ..)).append
      (List.Sublist.refl ["machineImages"])
  all_goals
    simp [Dict.get?_append, Dict.get?_cons, Dict.get?_nil, get?_fieldIf]

/-- A status is read back from what is written of it. -/
theorem ofDocument?_toJson (s : WorkerStatus) : ofDocument? (.ofJson s.toJson) = some s := by
  obtain ⟨fields, hjson, hw⟩ := s.exists_writtenAs
  have himages := Document.list?_ofJson fun r (_ : r ∈ s.machineImages) => r.ofDocument?_toJson
  rw [hjson, ofDocument?, Fields.record?_of_sublist (by decide) hw.keys]
  simp only [Fields.withDefault?_ofJson hw.apiVersion (Document.text?_ofJson _) eq_of_left_out,
    Fields.withDefault?_ofJson hw.kind (Document.text?_ofJson _) eq_of_left_out,
    Fields.withDefault?_of_written hw.machineImages himages, bind, Option.bind_some, pure]

theorem fits_toJson (room : Nat) (s : WorkerStatus) : s.toJson.Fits (room + 3) := by
  have himages : (Json.array (s.machineImages.map ResolvedImage.toJson)).Fits (room + 2) :=
    Json.fits_array_map fun r _ => r.fits_toJson room
  apply Json.fits_object
  simp only [List.forall_mem_append, List.forall_mem_cons]
  exact ⟨⟨Json.fits_fieldIf _ _ (Json.fits_string _ _), Json.fits_fieldIf _ _ (Json.fits_string _ _)⟩,
    himages, List.forall_mem_nil _⟩

end WorkerStatus

namespace InfrastructureStatus

structure WrittenAs (s : InfrastructureStatus) (fields : Dict Json) : Prop where
  keys : fields.keys.Sublist ["apiVersion", "kind", "securityGroups", "node", "networks"]
  apiVersion : fields.get? "apiVersion" =
    if s.apiVersion != "" then some (.string s.apiVersion) else none
  kind : fields.get? "kind" = if s.kind != "" then some (.string s.kind) else none
  securityGroups :
    fields.get? "securityGroups" = some (.array (s.securityGroups.map SecurityGroup.toJson))
  node : fields.get? "node" = some (.object [("keyName", .string s.keyName)])
  networks : fields.get? "networks" = some (.object [("id", .string s.networkId)])

theorem exists_writtenAs (s : InfrastructureStatus) :
    ∃ fields : Dict Json, s.toJson = .object fields ∧ s.WrittenAs fields := by
  refine ⟨_, rfl, ?_, ?_, ?_, ?_, ?_, ?_⟩
  · simp only [Dict.keys_append]
    exact ((keys_fieldIf_sublist ..).append (keys_fieldIf_sublist ..)).append
      (List.Sublist.refl ["securityGroups", "node", "networks"])
  all_goals
    simp [Dict.get?_append, Dict.get?_cons, Dict.get?_nil, get?_fieldIf]

theorem only?_ofJson (name text : String) :
    only? name (.ofJson (.object [(name, .string text)])) = some text := by
  have hget : Dict.get? [(name, Json.string text)] name = some (.string text) := by
    rw [Dict.get?_cons, if_pos rfl]
  rw [only?, Fields.record?_of_sublist (List.pairwise_singleton _ name) (List.Sublist.refl _)]
  exact Fields.withDefault?_of_written hget rfl

/-- A status is read back from what is written of it. -/
theorem ofDocument?_toJson (s : InfrastructureStatus) :
    ofDocument? (.ofJson s.toJson) = some s := by
  obtain ⟨fields, hjson, hw⟩ := s.exists_writtenAs
  have hgroups := Document.list?_ofJson fun g (_ : g ∈ s.securityGroups) => g.ofDocument?_toJson
  rw [hjson, ofDocument?, Fields.record?_of_sublist (by decide) hw.keys]
  simp only [Fields.withDefault?_ofJson hw.apiVersion (Document.text?_ofJson _) eq_of_left_out,
    Fields.withDefault?_ofJson hw.kind (Document.text?_ofJson _) eq_of_left_out,
    Fields.withDefault?_of_written hw.securityGroups hgroups,
    Fields.withDefault?_of_written hw.node (only?_ofJson _ _),
    Fields.withDefault?_of_written hw.networks (only?_ofJson _ _), bind, Option.bind_some, pure]

theorem fits_toJson (room : Nat) (s : InfrastructureStatus) : s.toJson.Fits (room + 3) := by
  have hgroups : (Json.array (s.securityGroups.map SecurityGroup.toJson)).Fits (room + 2) :=
    Json.fits_array_map fun g _ => g.fits_toJson room
  have hsingle (name text : String) : (Json.object [(name, .string text)]).Fits (room + 2) := by
    apply Json.fits_object
    rw [List.forall_mem_singleton]
    exact Json.fits_string _ _
  apply Json.fits_object
  simp only [List.forall_mem_append, List.forall_mem_cons]
  exact ⟨⟨Json.fits_fieldIf _ _ (Json.fits_string _ _), Json.fits_fieldIf _ _ (Json.fits_string _ _)⟩,
    hgroups, hsingle _ _, hsingle _ _, List.forall_mem_nil _⟩

end InfrastructureStatus
end PoolPlan
