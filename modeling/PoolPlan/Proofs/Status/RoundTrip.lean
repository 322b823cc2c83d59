import PoolPlan.Proofs.Class.Spec
import PoolPlan.Proofs.Status.Written
import PoolPlan.Status.Decoder

namespace PoolPlan

namespace ResolvedImage

theorem sortKeys_toJson (r : ResolvedImage) :
    r.toJson.sortKeys = .object [
      ("cloudProfile", .string r.cloudProfile),
      ("image", .string r.image),
      ("name", .string r.name),
      ("version", .string r.version)] := by
  simp only [toJson, Json.sortKeys, Json.sortFields, Dict.ofList, List.foldl_cons, List.foldl_nil,
    Dict.insert, String.reduceLT, String.reduceEq, if_true, if_false]

theorem ofDocument?_stored (r : ResolvedImage) :
    ofDocument? (.ofJson r.toJson.sortKeys) = some r := by
  rw [sortKeys_toJson, ofDocument?, Document.record?_ofJson (by simp [Dict.keys])]
  simp [Fields.required?, List.lookup_cons]

end ResolvedImage

namespace WorkerStatus

def stored (s : WorkerStatus) : Json := s.toJson.sortKeys

theorem stored_ofImages (images : List ResolvedImage) :
    (ofImages images).stored = .object [
      ("apiVersion", .string "worker.tessera.dev/v1alpha1"),
      ("kind", .string kindName),
      ("machineImages", .array (images.map fun r => r.toJson.sortKeys))] := by
  simp only [stored, toJson, ofImages, fieldIf, kindName, String.reduceBNe, if_true,
    List.cons_append, List.nil_append, Json.sortKeys, Json.sortFields, Json.sortItems_eq_map,
    List.map_map, Dict.ofList, List.foldl_cons, List.foldl_nil, Dict.insert, String.reduceLT,
    String.reduceEq, if_false]
  rfl

theorem ofDocument?_stored (images : List ResolvedImage) :
    ofDocument? (.ofJson (ofImages images).stored) = some (ofImages images) := by
  have hl := Document.list?_ofJson (fun r (_ : r ∈ images) => ResolvedImage.ofDocument?_stored r)
  rw [stored_ofImages, ofDocument?, Document.record?_ofJson (by simp [Dict.keys])]
  simp [Fields.withDefault?, List.lookup_cons, hl, ofImages]

theorem exact_stored (images : List ResolvedImage) : (ofImages images).stored.Exact := by
  have hi : Json.ExactItems (images.map fun r => r.toJson.sortKeys) := by
    rw [Json.exactItems_iff]
    intro x hx
    obtain ⟨r, -, rfl⟩ := List.mem_map.1 hx
    simp [ResolvedImage.sortKeys_toJson, Json.Exact, Json.ExactFields]
  simpa [stored_ofImages, Json.Exact, Json.ExactFields] using hi

theorem depth_stored (images : List ResolvedImage) :
    (ofImages images).stored.depth ≤ Json.depthLimit := by
  have hi : Json.depthItems (images.map fun r => r.toJson.sortKeys) ≤ 1 := by
    apply Json.depthItems_le
    intro x hx
    obtain ⟨r, -, rfl⟩ := List.mem_map.1 hx
    simp [ResolvedImage.sortKeys_toJson, Json.depth, Json.depthFields]
  simp only [stored_ofImages, Json.depth, Json.depthFields, Json.depthLimit]
  omega

end WorkerStatus

namespace StatusDecoder

/-- The text of an object begins and ends with a brace, so there is no white space around it. -/
theorem trim_chars (fields : List (String × Json)) :
    Text.trim (Json.object fields).chars = (Json.object fields).chars := by
  have hends : ∃ cs, (Json.object fields).chars = '\x7b' :: cs ++ ['\x7d'] := by
    rcases fields with _ | ⟨⟨k, x⟩, fs⟩
    · exact ⟨[], rfl⟩
    · obtain ⟨cs, hcs⟩ := Json.moreFields_ends fs
      exact ⟨Json.quotedChars k.toList ++ ':' :: x.chars ++ cs, by simp [Json.chars, hcs]⟩
  obtain ⟨cs, hcs⟩ := hends
  rw [hcs]
  apply Text.trim_eq_self
  · intro c hc
    obtain rfl := Option.some.inj hc
    decide
  · intro c hc
    rw [List.getLast?_concat] at hc
    obtain rfl := Option.some.inj hc
    decide

theorem decodeBytes_object {α : Type} {read : Document → Option α} {j : Json} {a : α}
    (hobject : ∃ fields, j = .object fields) (hfits : j.Fits Json.depthLimit)
    (hr : read (.ofJson j) = some a) : decodeBytes read j.bytes = .ok a := by
  obtain ⟨fields, rfl⟩ := hobject
  have hbody : ¬((Json.object fields).chars = [] ∨ (Json.object fields).chars = "null".toList) := by
    rcases fields with _ | ⟨⟨k, x⟩, fs⟩ <;> simp [Json.chars]
  simp only [decodeBytes, Json.bytes, Utf8.decode_encode, Json.text, String.toList_ofList,
    decodeText, trim_chars, if_neg hbody, Json.read?_chars hfits.exact hfits.depth, Option.bind_some,
    hr]

section
variable {α : Type} {expected : String} {read : Document → Option α} {kind : α → String} {bytes : Bytes}
  {status : α}

/-- A status is taken if it has no kind or the expected one. -/
theorem decode_of_kind (h : decodeBytes read bytes = .ok status)
    (hkind : kind status = "" ∨ kind status = expected) :
    decode expected read kind bytes = .ok status := by
  simp only [decode, h, Except.bind, checkKind, if_pos hkind]

/-- A document that is a status of another kind is refused for its kind. -/
theorem refused_of_kind {other : String} (h : decodeBytes read bytes = .ok status)
    (hkind : kind status = other) (hempty : other ≠ "") (hother : other ≠ expected) :
    decode expected read kind bytes =
      .error (.statusDecode expected (StatusFault.unexpectedKind other).message) := by
  subst hkind
  have hcheck : checkKind expected kind status = .error (.unexpectedKind (kind status)) :=
    if_neg (not_or.2 ⟨hempty, hother⟩)
  simp only [decode, h, Except.bind, hcheck]

theorem worker_of_decodeBytes {status : WorkerStatus}
    (h : decodeBytes WorkerStatus.ofDocument? bytes = .ok status)
    (hkind : status.kind = "" ∨ status.kind = "WorkerStatus") : json.worker bytes = .ok status :=
  decode_of_kind h hkind

theorem infrastructure_of_decodeBytes {status : InfrastructureStatus}
    (h : decodeBytes InfrastructureStatus.ofDocument? bytes = .ok status)
    (hkind : status.kind = "" ∨ status.kind = "InfrastructureStatus") :
    json.infrastructure bytes = .ok status :=
  decode_of_kind h hkind

end

/-- A status is read back as it was written. -/
theorem worker_stored (images : List ResolvedImage) :
    json.worker (WorkerStatus.ofImages images).stored.bytes = .ok (.ofImages images) := by
  have hfits : (WorkerStatus.ofImages images).stored.Fits Json.depthLimit :=
    ⟨WorkerStatus.exact_stored images, WorkerStatus.depth_stored images⟩
  have hdecoded := decodeBytes_object ⟨_, WorkerStatus.stored_ofImages images⟩ hfits
    (WorkerStatus.ofDocument?_stored images)
  exact worker_of_decodeBytes hdecoded (.inr rfl)

/-- The same holds if the fields are left in the order in which they are declared. -/
theorem worker_toJson (images : List ResolvedImage) :
    json.worker (WorkerStatus.ofImages images).toJson.bytes = .ok (.ofImages images) := by
  have hfits := ((WorkerStatus.ofImages images).fits_toJson 0).mono (by decide : 0 + 3 ≤ Json.depthLimit)
  have hdecoded := decodeBytes_object ⟨_, rfl⟩ hfits (WorkerStatus.ofImages images).ofDocument?_toJson
  exact worker_of_decodeBytes hdecoded (.inr rfl)

theorem infrastructure_toJson {s : InfrastructureStatus}
    (hkind : s.kind = "" ∨ s.kind = "InfrastructureStatus") :
    json.infrastructure s.toJson.bytes = .ok s := by
  have hfits := (s.fits_toJson 0).mono (by decide : 0 + 3 ≤ Json.depthLimit)
  exact infrastructure_of_decodeBytes (decodeBytes_object ⟨_, rfl⟩ hfits s.ofDocument?_toJson) hkind

end StatusDecoder
end PoolPlan
