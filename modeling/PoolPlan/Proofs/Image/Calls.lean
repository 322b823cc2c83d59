import PoolPlan.Proofs.Image.Ledger
import PoolPlan.Proofs.Status.RoundTrip

namespace PoolPlan.ImageLedger

inductive Call where
  | record (r : ResolvedImage)
  | refresh (r : ResolvedImage)

namespace Call

def image : Call → ResolvedImage
  | .record r => r
  | .refresh r => r

def run (l : ImageLedger) : Call → ImageLedger × Bool
  | .record r => l.record r
  | .refresh r => l.refresh r

/-- An entry is added exactly if its identity is new, behind all others. Otherwise every identity stays
where it is. -/
theorem run_cases (call : Call) (l : ImageLedger) :
    (call.image.identity ∉ l.identities ∧ (call.run l).2 = true ∧
      (call.run l).1.images = l.images ++ [call.image]) ∨
    (call.image.identity ∈ l.identities ∧ (call.run l).2 = false ∧
      (call.run l).1.identities = l.identities) := by
  by_cases h : call.image.identity ∈ l.identities
  · refine .inr ⟨h, ?_⟩
    cases call with
    | record r =>
      have hrun : l.record r = (l, false) := dif_pos h
      rw [run, hrun]
      exact ⟨rfl, rfl⟩
    | refresh r =>
      have hrun : l.refresh r = (l.replace r, false) := dif_pos h
      rw [run, hrun]
      exact ⟨rfl, identities_replaceIn r l.images⟩
  · refine .inl ⟨h, ?_⟩
    cases call with
    | record r =>
      have hrun : l.record r = (l.push r h, true) := dif_neg h
      rw [run, hrun]
      exact ⟨rfl, rfl⟩
    | refresh r =>
      have hrun : l.refresh r = (l.push r h, true) := dif_neg h
      rw [run, hrun]
      exact ⟨rfl, rfl⟩

theorem mem_identities_run {call : Call} {l : ImageLedger} {id : ImageIdentity} :
    id ∈ (call.run l).1.identities ↔ id ∈ l.identities ∨ call.image.identity = id := by
  rcases call.run_cases l with ⟨-, -, himages⟩ | ⟨hold, -, hsame⟩
  · rw [identities, himages, List.map_append, List.mem_append, List.map_singleton,
      List.mem_singleton, eq_comm (a := id)]
    rfl
  · rw [hsame]
    refine ⟨.inl, ?_⟩
    rintro (h | rfl)
    · exact h
    · exact hold

end Call

def after (l : ImageLedger) (calls : List Call) : ImageLedger :=
  calls.foldl (fun l call => (call.run l).1) l

theorem mem_identities_after {l : ImageLedger} {calls : List Call} {id : ImageIdentity} :
    id ∈ (l.after calls).identities ↔
      id ∈ l.identities ∨ ∃ call ∈ calls, call.image.identity = id := by
  induction calls generalizing l with
  | nil => simp [after]
  | cons call calls ih =>
    have hstep : l.after (call :: calls) = (call.run l).1.after calls := rfl
    rw [hstep, ih, Call.mem_identities_run, or_assoc, List.exists_mem_cons_iff]

def recorded : List Call → List ResolvedImage
  | [] => []
  | .record r :: calls => r :: recorded calls
  | .refresh _ :: calls => recorded calls

def refreshed : List Call → List ResolvedImage
  | [] => []
  | .record _ :: calls => refreshed calls
  | .refresh r :: calls => r :: refreshed calls

/-- The image of an identity is the one it was refreshed with last. Without a refresh it is the one that
the ledger had before, and only then one that was recorded. -/
theorem find?_after (l : ImageLedger) (calls : List Call) (id : ImageIdentity) :
    (l.after calls).find? id =
      ((refreshed calls).reverse.find? (fun r => r.identity == id)).or
        ((l.find? id).or ((recorded calls).find? (fun r => r.identity == id))) := by
  induction calls generalizing l with
  | nil => exact (Option.or_none ..).symm
  | cons call calls ih =>
    have hstep : l.after (call :: calls) = (call.run l).1.after calls := rfl
    rw [hstep, ih]
    cases call with
    | record r =>
      rw [Call.run, find?_record, Option.or_assoc, recorded, refreshed, List.find?_cons]
      by_cases h : r.identity = id
      · simp [h]
      · simp [h, beq_eq_false_iff_ne.2 h]
    | refresh r =>
      rw [Call.run, find?_refresh, recorded, refreshed, List.reverse_cons, List.find?_append,
        Option.or_assoc]
      by_cases h : r.identity = id
      · simp [h]
      · simp [h, beq_eq_false_iff_ne.2 h]

/-- What a ledger has to say of the images it was collected from and of the calls since then. -/
structure AccountsFor (l : ImageLedger) (images : List ResolvedImage) (calls : List Call) : Prop where
  distinct : l.identities.Nodup
  /-- The next call adds an entry behind the others, and says so, exactly if its identity is new.
  Otherwise every identity stays where it is. -/
  next : ∀ call : Call,
    (call.image.identity ∉ l.identities ∧ (call.run l).2 = true ∧
      (call.run l).1.images = l.images ++ [call.image]) ∨
    (call.image.identity ∈ l.identities ∧ (call.run l).2 = false ∧
      (call.run l).1.identities = l.identities)
  found : ∀ id, (l.find? id).isSome = true ↔
    (∃ r ∈ images, r.identity = id) ∨ ∃ call ∈ calls, call.image.identity = id
  /-- The last refresh counts, or else what was collected or recorded first. -/
  image : ∀ id, l.find? id =
    ((refreshed calls).reverse.find? (fun r => r.identity == id)).or
      ((images ++ recorded calls).find? (fun r => r.identity == id))
  /-- The status decodes to the same ledger, with its fields as declared or in order of their names. -/
  reloads : ∀ document ∈ [l.toStatus.toJson, l.toStatus.stored], ∃ status,
    StatusDecoder.json.worker document.bytes = .ok status ∧ ofList status.machineImages = l

theorem isSome_find?_iff {l : ImageLedger} {id : ImageIdentity} :
    (l.find? id).isSome = true ↔ id ∈ l.identities := by
  rw [Option.isSome_iff_ne_none, ne_eq, find?_eq_none_iff, not_not]

theorem exists_status (l : ImageLedger) : ∀ document ∈ [l.toStatus.toJson, l.toStatus.stored],
    ∃ status, StatusDecoder.json.worker document.bytes = .ok status ∧
      ofList status.machineImages = l := by
  rw [List.forall_mem_cons, List.forall_mem_singleton]
  exact ⟨⟨_, StatusDecoder.worker_toJson l.images, l.ofList_images⟩,
    ⟨_, StatusDecoder.worker_stored l.images, l.ofList_images⟩⟩

/-- Collected from any images, a ledger accounts for them and for all calls up to any point. -/
theorem accounts_for_calls (images : List ResolvedImage) (calls : List Call) :
    ((ofList images).after calls).AccountsFor images calls where
  distinct := nodup_identities _
  next call := call.run_cases _
  found id := by
    rw [isSome_find?_iff, mem_identities_after, identities_ofList, List.mem_eraseDups, List.mem_map]
  image id := by rw [find?_after, find?_ofList, List.find?_append]
  reloads := exists_status _

end PoolPlan.ImageLedger
