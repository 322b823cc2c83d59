import PoolPlan.Proofs.Class.Fingerprint
import PoolPlan.Proofs.Status.Refusal
import PoolPlan.Proofs.Text.Blank

namespace PoolPlan

namespace Fields
variable {fields : Dict Json} {found : Fields} {name : String}

/-- A text that is written unless it is empty. -/
theorem withDefault?_text {text : String}
    (hfound : found.lookup name = (fields.get? name).map Document.ofJson)
    (hwritten : fields.get? name = if text != "" then some (.string text) else none) :
    found.withDefault? name "" Document.text? = some text := by
  rw [withDefault?_congr (hfound.trans (lookup_ofJson fields name).symm)]
  exact withDefault?_ofJson hwritten (Document.text?_ofJson text) eq_of_left_out

theorem withDefault?_of_absent {α : Type}
    (hfound : found.lookup name = (fields.get? name).map Document.ofJson)
    (habsent : name ∉ fields.keys) (fallback : α) (read : Document → Option α) :
    found.withDefault? name fallback read = some fallback := by
  rw [Dict.get?_of_not_mem_keys habsent, Option.map_none] at hfound
  rw [withDefault?, hfound]

end Fields

/-- What is written of an infrastructure, read as a ledger, is an empty one. -/
theorem WorkerStatus.ofDocument?_infrastructure (s : InfrastructureStatus) :
    ofDocument? (.ofJson s.toJson) = some ⟨s.apiVersion, s.kind, []⟩ := by
  obtain ⟨fields, hjson, hw⟩ := s.exists_writtenAs
  obtain ⟨found, hrecord, hfound⟩ := Document.exists_record_ofJson
    (hw.keys.nodup (by decide)) ["apiVersion", "kind", "machineImages"]
  simp only [List.forall_mem_cons] at hfound
  obtain ⟨hversion, hkind, himages, -⟩ := hfound
  have habsent : "machineImages" ∉ fields.keys := fun h => absurd (hw.keys.subset h) (by decide)
  simp only [hjson, ofDocument?, hrecord, Fields.withDefault?_text hversion hw.apiVersion,
    Fields.withDefault?_text hkind hw.kind, Fields.withDefault?_of_absent himages habsent, bind,
    Option.bind_some, pure]

/-- What is written of a ledger, in whatever order its images have their fields, has nothing of an
infrastructure in it. -/
theorem InfrastructureStatus.ofDocument?_worker {fields : Dict Json} {apiVersion kind : String}
    (hkeys : fields.keys.Sublist ["apiVersion", "kind", "machineImages"])
    (hversion : fields.get? "apiVersion" =
      if apiVersion != "" then some (.string apiVersion) else none)
    (hkind : fields.get? "kind" = if kind != "" then some (.string kind) else none) :
    ofDocument? (.ofJson (.object fields)) = some ⟨apiVersion, kind, [], "", ""⟩ := by
  obtain ⟨found, hrecord, hfound⟩ := Document.exists_record_ofJson
    (hkeys.nodup (by decide)) ["apiVersion", "kind", "securityGroups", "node", "networks"]
  simp only [List.forall_mem_cons] at hfound
  obtain ⟨hv, hk, hgroups, hnode, hnetworks, -⟩ := hfound
  have hno (name : String) (hname : name ∉ ["apiVersion", "kind", "machineImages"]) :
      name ∉ fields.keys := fun h => hname (hkeys.subset h)
  simp only [ofDocument?, hrecord, Fields.withDefault?_text hv hversion,
    Fields.withDefault?_text hk hkind, Fields.withDefault?_of_absent hgroups (hno _ (by decide)),
    Fields.withDefault?_of_absent hnode (hno _ (by decide)),
    Fields.withDefault?_of_absent hnetworks (hno _ (by decide)), bind, Option.bind_some, pure]

namespace StatusDecoder

section
variable {α : Type} {expected : String} {read : Document → Option α} {kind : α → String}
  {bytes : Bytes} {status : α}

/-- A decoded status has no kind or the expected one. -/
theorem kind_of_decode (h : decode expected read kind bytes = .ok status) :
    kind status = "" ∨ kind status = expected := by
  unfold decode at h
  split at h
  · rename_i decoded hdecoded
    cases h
    obtain ⟨other, -, hkind⟩ := bind_eq_ok_iff.1 hdecoded
    unfold checkKind at hkind
    split at hkind
    · rename_i hk
      exact Except.ok.inj hkind ▸ hk
    · cases hkind
  · cases h

/-- Text is decoded by what it is without the white space around it. -/
theorem decode_surrounded {before after : String} (hbefore : ∀ c ∈ before.toList, Text.isBlank c = true)
    (hafter : ∀ c ∈ after.toList, Text.isBlank c = true) (text : String) :
    decode expected read kind (Utf8.encode before ++ Utf8.encode text ++ Utf8.encode after) =
      decode expected read kind (Utf8.encode text) := by
  have htrim : Text.trim (before ++ text ++ after).toList = Text.trim text.toList := by
    rw [String.toList_append, String.toList_append]
    exact Text.trim_surrounded hbefore hafter
  have hbytes : decodeBytes read (Utf8.encode (before ++ text ++ after)) =
      decodeBytes read (Utf8.encode text) := by
    simp only [decodeBytes, Utf8.decode_encode, decodeText, htrim]
  rw [← Utf8.encode_append, ← Utf8.encode_append, decode, hbytes, decode]

end

/-- The two decoders find the same kind in a document. -/
theorem kind_agrees {d : Document} {w : WorkerStatus} {i : InfrastructureStatus}
    (hw : WorkerStatus.ofDocument? d = some w) (hi : InfrastructureStatus.ofDocument? d = some i) :
    w.kind = i.kind := by
  simp only [WorkerStatus.ofDocument?, InfrastructureStatus.ofDocument?, bind,
    Option.bind_eq_some_iff, pure, Option.some.injEq] at hw hi
  obtain ⟨f, hf, _, -, kind, hkind, _, -, rfl⟩ := hw
  obtain ⟨g, hg, _, -, other, hother, _, -, _, -, _, -, rfl⟩ := hi
  have hlookup : f.lookup "kind" = g.lookup "kind" :=
    Document.lookup_record?_congr ["apiVersion", "kind"] hf hg (by decide)
  rw [Fields.withDefault?_congr hlookup, hother] at hkind
  exact (Option.some.inj hkind).symm

theorem kinds_of_decoded {bytes : Bytes} {w : WorkerStatus} {i : InfrastructureStatus}
    (hw : json.worker bytes = .ok w) (hi : json.infrastructure bytes = .ok i) :
    w.kind = "" ∧ i.kind = "" := by
  obtain ⟨text, htext, d, hd, hworker⟩ := exists_text_of_decodeBytes (decodeBytes_of_decode hw)
  obtain ⟨same, hsame, e, he, hinfra⟩ := exists_text_of_decodeBytes (decodeBytes_of_decode hi)
  obtain rfl : text = same := Utf8.encode_injective (htext.symm.trans hsame)
  obtain rfl : d = e := Option.some.inj (hd.symm.trans he)
  have hagrees := kind_agrees hworker hinfra
  have hempty : w.kind = "" := by
    rcases kind_of_decode hw with hkind | hkind
    · exact hkind
    -- The name of the one kind is not that of the other.
    · rcases kind_of_decode hi with hother | hother
      · exact hagrees.trans hother
      · exact absurd (hkind.symm.trans (hagrees.trans hother)) (by decide)
  exact ⟨hempty, hagrees ▸ hempty⟩

/-- A written ledger is refused as an infrastructure, in whatever order its images have their fields. -/
theorem infrastructure_of_ledger {fields : Dict Json} (apiVersion : String)
    (hfits : (Json.object fields).Fits Json.depthLimit)
    (hkeys : fields.keys.Sublist ["apiVersion", "kind", "machineImages"])
    (hversion : fields.get? "apiVersion" =
      if apiVersion != "" then some (.string apiVersion) else none)
    (hkind : fields.get? "kind" = some (.string "WorkerStatus")) :
    json.infrastructure (Json.object fields).bytes = .error
      (.statusDecode "InfrastructureStatus" (StatusFault.unexpectedKind "WorkerStatus").message) := by
  have hread : InfrastructureStatus.ofDocument? (.ofJson (.object fields)) =
      some ⟨apiVersion, "WorkerStatus", [], "", ""⟩ :=
    InfrastructureStatus.ofDocument?_worker hkeys hversion hkind
  have hdecoded := decodeBytes_object ⟨fields, rfl⟩ hfits hread
  exact refused_of_kind hdecoded rfl (by decide) (by decide)

/-- A written infrastructure that says what it is is refused as a ledger. -/
theorem worker_of_infrastructure {s : InfrastructureStatus} (hkind : s.kind = "InfrastructureStatus") :
    json.worker s.toJson.bytes = .error
      (.statusDecode "WorkerStatus" (StatusFault.unexpectedKind "InfrastructureStatus").message) := by
  have hfits := (s.fits_toJson 0).mono (by decide : 0 + 3 ≤ Json.depthLimit)
  have hdecoded := decodeBytes_object ⟨_, rfl⟩ hfits (WorkerStatus.ofDocument?_infrastructure s)
  exact refused_of_kind hdecoded hkind (by decide) (by decide)

/-- No document is taken for both statuses unless it leaves open which one it is; a ledger is never taken
for an infrastructure, nor an infrastructure that says so for a ledger. White space around a document
makes no difference to any of it. -/
theorem documents_kept_apart :
    (∀ bytes w i, json.worker bytes = .ok w → json.infrastructure bytes = .ok i →
        w.kind = "" ∧ i.kind = "") ∧
      (∀ ledger : ImageLedger, ∀ document ∈ [ledger.toStatus.toJson, ledger.toStatus.stored],
        json.infrastructure document.bytes = .error (.statusDecode "InfrastructureStatus"
          (StatusFault.unexpectedKind "WorkerStatus").message)) ∧
      (∀ s : InfrastructureStatus, s.kind = "InfrastructureStatus" →
        json.worker s.toJson.bytes = .error (.statusDecode "WorkerStatus"
          (StatusFault.unexpectedKind "InfrastructureStatus").message)) ∧
      ∀ before after text : String, (∀ c ∈ before.toList, Text.isBlank c = true) →
        (∀ c ∈ after.toList, Text.isBlank c = true) →
          json.worker (Utf8.encode before ++ Utf8.encode text ++ Utf8.encode after) =
              json.worker (Utf8.encode text) ∧
            json.infrastructure (Utf8.encode before ++ Utf8.encode text ++ Utf8.encode after) =
              json.infrastructure (Utf8.encode text) := by
  refine ⟨fun bytes w i => kinds_of_decoded, ?_, fun s => worker_of_infrastructure, ?_⟩
  · intro ledger
    simp only [List.forall_mem_cons]
    refine ⟨?_, ?_, List.forall_mem_nil _⟩
    · obtain ⟨fields, hjson, hw⟩ := ledger.toStatus.exists_writtenAs
      have hfits := (ledger.toStatus.fits_toJson 0).mono (by decide : 0 + 3 ≤ Json.depthLimit)
      rw [hjson] at hfits ⊢
      exact infrastructure_of_ledger _ hfits hw.keys hw.apiVersion hw.kind
    · have hfits : ledger.toStatus.stored.Fits Json.depthLimit :=
        ⟨WorkerStatus.exact_stored ledger.images, WorkerStatus.depth_stored ledger.images⟩
      rw [ImageLedger.toStatus, WorkerStatus.stored_ofImages] at hfits ⊢
      exact infrastructure_of_ledger "worker.tessera.dev/v1alpha1" hfits (List.Sublist.refl _) rfl rfl
  · intro before after text hbefore hafter
    exact ⟨decode_surrounded hbefore hafter text, decode_surrounded hbefore hafter text⟩

end StatusDecoder

namespace Sample

def unnamed : Json :=
  .object [("machineImages", .array []), ("networks", .object [("id", .string "network")])]

def network : InfrastructureStatus := ⟨"", "InfrastructureStatus", [], "", "network"⟩

/-- A document without a kind is taken for both statuses, also with a no-break space before it and an
ideographic one after it; with its kind, as an infrastructure or as an empty ledger, it would have been
refused by the other decoder. -/
theorem unnamed_taken_for_both :
    StatusDecoder.json.worker unnamed.bytes = .ok ⟨"", "", []⟩ ∧
      StatusDecoder.json.infrastructure unnamed.bytes = .ok ⟨"", "", [], "", "network"⟩ ∧
      (⟨"", "", []⟩ : WorkerStatus).kind = "" ∧
      StatusDecoder.json.worker (Utf8.encode "\u00a0" ++ Utf8.encode unnamed.text ++
        Utf8.encode "\u3000\n") = .ok ⟨"", "", []⟩ ∧
      StatusDecoder.json.worker network.toJson.bytes = .error (.statusDecode "WorkerStatus"
        (StatusFault.unexpectedKind "InfrastructureStatus").message) ∧
      StatusDecoder.json.infrastructure ImageLedger.empty.toStatus.toJson.bytes =
        .error (.statusDecode "InfrastructureStatus"
          (StatusFault.unexpectedKind "WorkerStatus").message) := by
  have hfits : unnamed.Fits Json.depthLimit := ⟨⟨trivial, ⟨trivial, trivial⟩, trivial⟩, by decide⟩
  have hworker : StatusDecoder.json.worker unnamed.bytes = .ok ⟨"", "", []⟩ :=
    StatusDecoder.worker_of_decodeBytes (StatusDecoder.decodeBytes_object ⟨_, rfl⟩ hfits rfl) (.inl rfl)
  have hinfrastructure : StatusDecoder.json.infrastructure unnamed.bytes =
      .ok ⟨"", "", [], "", "network"⟩ :=
    StatusDecoder.infrastructure_of_decodeBytes (StatusDecoder.decodeBytes_object ⟨_, rfl⟩ hfits rfl)
      (.inl rfl)
  obtain ⟨hkinds, hledger, hnamed, hspace⟩ := StatusDecoder.documents_kept_apart
  obtain ⟨hkind, -⟩ := hkinds _ _ _ hworker hinfrastructure
  obtain ⟨hsame, -⟩ := hspace "\u00a0" "\u3000\n" unnamed.text (List.all_eq_true.1 rfl)
    (List.all_eq_true.1 rfl)
  exact ⟨hworker, hinfrastructure, hkind, hsame.trans hworker, hnamed network rfl,
    hledger .empty _ List.mem_cons_self⟩

end Sample
end PoolPlan
