import PoolPlan.Proofs.Json.Grammar
import PoolPlan.Proofs.Run.Basic

namespace PoolPlan

theorem Json.isSpace_of_not_isBlank {c : Char} (h : Text.isBlank c = false) : isSpace c = false := by
  rw [← Bool.not_eq_true] at h ⊢
  intro hspace
  apply h
  simp only [isSpace, Bool.or_eq_true, beq_iff_eq] at hspace
  rcases hspace with ((rfl | rfl) | rfl) | rfl
  all_goals decide

namespace StatusDecoder

/-- The bytes are text which, white space around it apart, can be read as a record of `n` fields. -/
def HoldsRecord (n : Nat) (bytes : Bytes) : Prop :=
  ∃ text, bytes = Utf8.encode text ∧ Json.Grammar.IsRecord n (Text.trim text.toList)

theorem text_of_bytes {j : Json} {text : String} (h : j.bytes = Utf8.encode text) :
    text.toList = j.chars := by
  have htext : Utf8.decode j.bytes = .ok text := Utf8.decode_eq_ok_iff.2 h
  rw [Json.bytes, Utf8.decode_encode, Except.ok.injEq] at htext
  rw [← htext, Json.text, String.toList_ofList]

theorem holdsRecord_bytes {n : Nat} {j : Json} (h : HoldsRecord n j.bytes) :
    (∃ fields, j = .object fields) ∨ ∃ items, j = .array items := by
  obtain ⟨text, hbytes, hrecord⟩ := h
  rw [text_of_bytes hbytes] at hrecord
  by_contra hneither
  simp only [not_or, not_exists] at hneither
  obtain ⟨c, cs, hchars, hblank, hbrace, hbracket⟩ :=
    Json.chars_cons_of_scalar hneither.1 hneither.2
  obtain ⟨ds, htrim⟩ := Text.trim_cons cs hblank
  rw [hchars, htrim] at hrecord
  exact Json.Grammar.not_isRecord_cons (Json.isSpace_of_not_isBlank hblank) hbrace hbracket hrecord

section
variable {α : Type} {expected : String} {names : List String} {read : Document → Option α}
  {kind : α → String} {bytes : Bytes} {failure : Failure} {status : α}

/-- A failure to decode a status says which status it was. -/
theorem exists_fault_of_decode (h : decode expected read kind bytes = .error failure) :
    ∃ fault : StatusFault, failure = .statusDecode expected fault.message := by
  unfold decode at h
  split at h
  · cases h
  · rename_i fault hfault
    cases h
    exact ⟨fault, rfl⟩

theorem exists_text_of_decodeBytes (h : decodeBytes read bytes = .ok status) :
    ∃ text, bytes = Utf8.encode text ∧
      ∃ d, Json.read? (Text.trim text.toList) = some d ∧ read d = some status := by
  unfold decodeBytes at h
  split at h
  · cases h
  · rename_i text htext
    refine ⟨text, Utf8.decode_eq_ok_iff.1 htext, ?_⟩
    simp only [decodeText] at h
    split at h
    · cases h
    · split at h
      · rename_i found hfound
        cases h
        exact Option.bind_eq_some_iff.1 hfound
      · cases h

theorem eq_of_checkKind {other : α} (h : checkKind expected kind other = .ok status) :
    other = status := by
  unfold checkKind at h
  split at h
  · exact Except.ok.inj h
  · cases h

theorem decodeBytes_of_decode (h : decode expected read kind bytes = .ok status) :
    decodeBytes read bytes = .ok status := by
  unfold decode at h
  split at h
  · rename_i decoded hdecoded
    cases h
    obtain ⟨other, hbytes, hkind⟩ := bind_eq_ok_iff.1 hdecoded
    exact eq_of_checkKind hkind ▸ hbytes
  · cases h

/-- A status is read as a record. -/
theorem holdsRecord_of_decode
    (hread : ∀ d status, read d = some status → ∃ fields, d.record? names = some fields)
    (h : decode expected read kind bytes = .ok status) : HoldsRecord names.length bytes := by
  obtain ⟨text, hbytes, d, hd, hstatus⟩ := exists_text_of_decodeBytes (decodeBytes_of_decode h)
  obtain ⟨fields, hfields⟩ := hread d status hstatus
  exact ⟨text, hbytes, Json.Grammar.isRecord_of_record? hd hfields⟩

theorem refused_of_not_holdsRecord
    (hread : ∀ d status, read d = some status → ∃ fields, d.record? names = some fields)
    (h : ¬HoldsRecord names.length bytes) :
    ∃ detail, decode expected read kind bytes = .error (.statusDecode expected detail) := by
  cases hd : decode expected read kind bytes with
  | ok status => exact absurd (holdsRecord_of_decode hread hd) h
  | error failure =>
    obtain ⟨fault, rfl⟩ := exists_fault_of_decode hd
    exact ⟨fault.message, rfl⟩

end

theorem record_of_worker (d : Document) (status : WorkerStatus)
    (h : WorkerStatus.ofDocument? d = some status) :
    ∃ fields, d.record? ["apiVersion", "kind", "machineImages"] = some fields := by
  obtain ⟨fields, hfields, -⟩ := Option.bind_eq_some_iff.1 h
  exact ⟨fields, hfields⟩

theorem record_of_infrastructure (d : Document) (status : InfrastructureStatus)
    (h : InfrastructureStatus.ofDocument? d = some status) :
    ∃ fields, d.record? ["apiVersion", "kind", "securityGroups", "node", "networks"] =
      some fields := by
  obtain ⟨fields, hfields, -⟩ := Option.bind_eq_some_iff.1 h
  exact ⟨fields, hfields⟩

/-- Bytes that cannot be read as a record are no status, and a worker that carries such a document is
not planned. -/
theorem refused_without_record (bytes : Bytes) (r : Run) :
    (¬HoldsRecord 3 bytes →
        ∃ detail, json.worker bytes = .error (.statusDecode "WorkerStatus" detail)) ∧
      (¬HoldsRecord 5 bytes → ∃ detail,
        json.infrastructure bytes = .error (.statusDecode "InfrastructureStatus" detail)) ∧
      (∀ document, r.found = some document → ¬HoldsRecord 3 document.bytes → ¬r.Succeeds) ∧
      ∀ document, r.found = some document → (∀ fields, document ≠ .object fields) →
        (∀ items, document ≠ .array items) → ¬r.Succeeds := by
  have hrun : ∀ document, r.found = some document → ¬HoldsRecord 3 document.bytes →
      ¬r.Succeeds := by
    intro document hfound hrecord hsucceeds
    obtain ⟨plan, hplan⟩ := hsucceeds
    obtain ⟨status, hstatus⟩ := Run.readable_of_outcome hplan document hfound
    exact hrecord (holdsRecord_of_decode record_of_worker hstatus)
  refine ⟨refused_of_not_holdsRecord record_of_worker,
    refused_of_not_holdsRecord record_of_infrastructure, hrun, ?_⟩
  intro document hfound hobject harray
  apply hrun document hfound
  intro h
  cases holdsRecord_bytes h with
  | inl h =>
    obtain ⟨fields, rfl⟩ := h
    exact hobject fields rfl
  | inr h =>
    obtain ⟨items, rfl⟩ := h
    exact harray items rfl

end StatusDecoder

namespace Sample

theorem decodeBytes_empty_array {α : Type} {read : Document → Option α} {a : α}
    (hr : read (.sequence true []) = some a) :
    StatusDecoder.decodeBytes read (Json.array []).bytes = .ok a := by
  have hread : Json.read? ['[', ']'] = some (.sequence true []) :=
    Json.read?_chars (j := .array []) trivial (by decide)
  have htrim : Text.trim ['[', ']'] = ['[', ']'] := by decide
  simp [StatusDecoder.decodeBytes, Json.bytes, Json.text, StatusDecoder.decodeText, Json.chars,
    htrim, hread, hr]

theorem worker_of_empty_array :
    StatusDecoder.json.worker (Json.array []).bytes = .ok ⟨"", "", []⟩ := by
  exact StatusDecoder.worker_of_decodeBytes (decodeBytes_empty_array rfl) (.inl rfl)

theorem infrastructure_of_empty_array :
    StatusDecoder.json.infrastructure (Json.array []).bytes = .ok ⟨"", "", [], "", ""⟩ := by
  exact StatusDecoder.infrastructure_of_decodeBytes (decodeBytes_empty_array rfl) (.inl rfl)

/-- An empty array is not an object and is taken for an empty status all the same, so that a worker
whose ledger was lost to one is planned as if there had never been any images. -/
theorem empty_array_taken_for_status :
    ¬(∀ bytes, (¬∃ text, bytes = Utf8.encode text ∧
        Json.Grammar.IsObject (Text.trim text.toList)) →
      (∃ detail, StatusDecoder.json.worker bytes = .error (.statusDecode "WorkerStatus" detail)) ∧
      ∃ detail, StatusDecoder.json.infrastructure bytes =
        .error (.statusDecode "InfrastructureStatus" detail)) ∧
    StatusDecoder.json.worker (Json.array []).bytes = .ok ⟨"", "", []⟩ ∧
    StatusDecoder.json.infrastructure (Json.array []).bytes = .ok ⟨"", "", [], "", ""⟩ ∧
    (run config (some (.array []))).Succeeds := by
  refine ⟨?_, worker_of_empty_array, infrastructure_of_empty_array, ?_⟩
  · intro h
    have hobject : ¬∃ text, (Json.array []).bytes = Utf8.encode text ∧
        Json.Grammar.IsObject (Text.trim text.toList) := by
      intro hobject
      obtain ⟨text, hbytes, cs, _, hs, -⟩ := hobject
      rw [StatusDecoder.text_of_bytes hbytes] at hs
      cases Json.Grammar.eq_of_space hs (by decide)
    obtain ⟨⟨detail, hd⟩, -⟩ := h _ hobject
    rw [worker_of_empty_array] at hd
    cases hd
  · have hreadable : Readable (some (Json.array [])) := by
      intro document hdocument
      cases hdocument
      exact ⟨_, worker_of_empty_array⟩
    exact succeeds_run config hreadable rfl

end Sample
end PoolPlan
