import PoolPlan.Proofs.Run.Basic

namespace PoolPlan

structure InsertedSecret where
  ns : String
  name : String
  data : SecretData

namespace InsertedSecret

def key (i : InsertedSecret) : String := i.ns ++ "/" ++ i.name

/-- The reference means the pair that the secret was put under. -/
def IsFor (i : InsertedSecret) (r : SecretReference) : Prop :=
  i.ns = r.ns.getD "default" ∧ i.name = r.name.getD ""

instance (i : InsertedSecret) (r : SecretReference) : Decidable (i.IsFor r) :=
  inferInstanceAs (Decidable (_ ∧ _))

/-- Secrets that are spelled alike are put under one pair, or a slash within the namespace of the one
stands where the other has the slash in between. -/
theorem key_eq_iff {i : InsertedSecret} {r : SecretReference} :
    i.key = r.key ↔ i.IsFor r ∨
      (∃ middle, i.ns = r.nsOrDefault ++ "/" ++ middle ∧ r.nameOrEmpty = middle ++ "/" ++ i.name) ∨
        ∃ middle, r.nsOrDefault = i.ns ++ "/" ++ middle ∧ i.name = middle ++ "/" ++ r.nameOrEmpty := by
  have hjoined (ns name : String) : (ns ++ "/" ++ name).toList = ns.toList ++ '/' :: name.toList := by
    rw [String.toList_append, String.toList_append, List.append_assoc]
    rfl
  have hmiddle {P : List Char → Prop} : (∃ cs, P cs) ↔ ∃ middle : String, P middle.toList := by
    constructor
    · rintro ⟨cs, h⟩
      exact ⟨String.ofList cs, by rwa [String.toList_ofList]⟩
    · rintro ⟨middle, h⟩
      exact ⟨middle.toList, h⟩
  simp only [key, SecretReference.key, ← String.toList_inj, hjoined,
    List.append_cons_eq_append_cons_iff, hmiddle, IsFor]
  rfl

/-- Without slashes in the namespaces, or without slashes in the names, all secrets that are spelled like
a reference are put under the pair that it means. -/
theorem isFor_of_key {i : InsertedSecret} {r : SecretReference} (h : i.key = r.key)
    (hslash : ('/' ∉ i.ns.toList ∧ '/' ∉ r.nsOrDefault.toList) ∨
      ('/' ∉ i.name.toList ∧ '/' ∉ r.nameOrEmpty.toList)) : i.IsFor r := by
  have hmem (before after : String) : '/' ∈ (before ++ "/" ++ after).toList := by
    simp [String.toList_append]
  rcases key_eq_iff.1 h with hfor | ⟨middle, hns, hname⟩ | ⟨middle, hns, hname⟩
  · exact hfor
  · rcases hslash with ⟨hi, -⟩ | ⟨-, hr⟩
    · exact absurd (hns ▸ hmem _ _) hi
    · exact absurd (hname ▸ hmem _ _) hr
  · rcases hslash with ⟨-, hr⟩ | ⟨hi, -⟩
    · exact absurd (hns ▸ hmem _ _) hr
    · exact absurd (hname ▸ hmem _ _) hi

end InsertedSecret

namespace StaticSecrets

def after (s : StaticSecrets) (inserted : List InsertedSecret) : StaticSecrets :=
  inserted.foldl (fun s i => s.insert i.ns i.name i.data) s

/-- The data of the last of the secrets that is meant, if there is any. -/
def answer (r : SecretReference) (meant : InsertedSecret → Prop) [DecidablePred meant]
    (inserted : List InsertedSecret) : Except Failure SecretData :=
  match inserted.reverse.find? (fun i => meant i) with
  | some last => .ok last.data
  | none => .error (.credentials r.key "secret not found")

theorem get_insert (s : StaticSecrets) (i : InsertedSecret) (r : SecretReference) :
    (s.insert i.ns i.name i.data).get r = if i.key = r.key then .ok i.data else s.get r := by
  have hget : (s.insert i.ns i.name i.data).secrets.get? r.key =
      if r.key = i.key then some i.data else s.secrets.get? r.key := Dict.get?_insert ..
  rw [get, hget, get]
  by_cases h : i.key = r.key
  · rw [if_pos h, if_pos h.symm]
  · rw [if_neg h, if_neg (Ne.symm h)]

/-- The last insert that is spelled like the reference counts, or else what was there before. -/
theorem get_after (s : StaticSecrets) (inserted : List InsertedSecret) (r : SecretReference) :
    (s.after inserted).get r =
      match inserted.reverse.find? (fun i => i.key = r.key) with
      | some last => .ok last.data
      | none => s.get r := by
  induction inserted generalizing s with
  | nil => rfl
  | cons i rest ih =>
    have hstep : s.after (i :: rest) = (s.insert i.ns i.name i.data).after rest := rfl
    rw [hstep, ih, List.reverse_cons, List.find?_append, get_insert]
    cases rest.reverse.find? (fun i => i.key = r.key) with
    | some last => rfl
    | none =>
      by_cases h : i.key = r.key
      · simp [h]
      · simp [h]

/-- The store answers a reference like a dictionary that has pairs of texts for its keys. -/
structure AnswersByPair (inserted : List InsertedSecret) (r : SecretReference) : Prop where
  last : (empty.after inserted).get r = answer r (fun i => i.IsFor r) inserted
  /-- Secrets under other pairs make no difference. -/
  others : (empty.after (inserted.filter (fun i => i.IsFor r))).get r = (empty.after inserted).get r

theorem get_after_empty (inserted : List InsertedSecret) (r : SecretReference) :
    (empty.after inserted).get r = answer r (fun i => i.key = r.key) inserted := get_after ..

/-- A mix-up needs a last insert that is spelled like the reference under another pair. -/
theorem answersByPair_of_last {inserted : List InsertedSecret} {r : SecretReference}
    (h : ∀ last, inserted.reverse.find? (fun i => i.key = r.key) = some last → last.IsFor r) :
    AnswersByPair inserted r := by
  have hkey (i : InsertedSecret) (hi : i.IsFor r) : i.key = r.key :=
    InsertedSecret.key_eq_iff.2 (.inl hi)
  have hsame : inserted.reverse.find? (fun i => i.IsFor r) =
      inserted.reverse.find? (fun i => i.key = r.key) := by
    apply List.find?_eq_find?_of_imp
    · simpa using hkey
    · simpa using h
  have hkept : (inserted.filter (fun i => i.IsFor r)).reverse.find? (fun i => i.key = r.key) =
      inserted.reverse.find? (fun i => i.IsFor r) := by
    have hboth (i : InsertedSecret) : (i.IsFor r ∧ i.key = r.key) ↔ i.IsFor r :=
      and_iff_left_of_imp (hkey i)
    simp only [← List.filter_reverse, List.find?_filter, decide_eq_true_eq, hboth]
  constructor
  · rw [get_after_empty, answer, answer, hsame]
  · rw [get_after_empty, get_after_empty, answer, answer, hkept, hsame]

/-- The last secret that is spelled like a reference is the answer to it, and only what is spelled with a
slash inside of a namespace and of a name can be spelled like something else. Everything else is answered
by its pair. -/
theorem answered_by_spelling (inserted : List InsertedSecret) (r : SecretReference) :
    (empty.after inserted).get r = answer r (fun i => i.key = r.key) inserted ∧
      (∀ i : InsertedSecret, i.key = r.key ↔ i.IsFor r ∨
        (∃ middle, i.ns = r.nsOrDefault ++ "/" ++ middle ∧
          r.nameOrEmpty = middle ++ "/" ++ i.name) ∨
        ∃ middle, r.nsOrDefault = i.ns ++ "/" ++ middle ∧
          i.name = middle ++ "/" ++ r.nameOrEmpty) ∧
      ((∀ last, inserted.reverse.find? (fun i => i.key = r.key) = some last → last.IsFor r) →
        AnswersByPair inserted r) ∧
      (((∀ i ∈ inserted, '/' ∉ i.ns.toList) ∧ '/' ∉ r.nsOrDefault.toList) ∨
          ((∀ i ∈ inserted, '/' ∉ i.name.toList) ∧ '/' ∉ r.nameOrEmpty.toList) →
        AnswersByPair inserted r) := by
  refine ⟨get_after_empty inserted r, fun i => InsertedSecret.key_eq_iff, answersByPair_of_last, ?_⟩
  intro hslash
  apply answersByPair_of_last
  intro last hlast
  have hmem : last ∈ inserted := List.mem_reverse.1 (List.mem_of_find?_eq_some hlast)
  have hkey : last.key = r.key := by simpa using List.find?_some hlast
  apply InsertedSecret.isFor_of_key hkey
  rcases hslash with ⟨hns, hr⟩ | ⟨hname, hr⟩
  · exact .inl ⟨hns last hmem, hr⟩
  · exact .inr ⟨hname last hmem, hr⟩

end StaticSecrets

namespace Sample

def spelledAlike : List InsertedSecret :=
  [⟨"team", "a/b", data "config" "machines"⟩, ⟨"team/a", "b", data "other" "machines"⟩]

/-- The secret that was inserted last is answered by its pair, slashes and all, and one without slashes
whatever was inserted after it. -/
theorem last_of_spelledAlike_answered :
    (StaticSecrets.empty.after spelledAlike).get ⟨some "b", some "team/a"⟩ =
        .ok (data "other" "machines") ∧
      (StaticSecrets.empty.after [⟨"default", "b", data "config" "machines"⟩,
        ⟨"", "b", []⟩]).get ⟨some "b", none⟩ = .ok (data "config" "machines") := by
  constructor
  · obtain ⟨-, -, hlast, -⟩ :=
      StaticSecrets.answered_by_spelling spelledAlike ⟨some "b", some "team/a"⟩
    refine (hlast fun last h => ?_).last
    obtain rfl : ⟨"team/a", "b", data "other" "machines"⟩ = last := Option.some.inj h
    decide
  · obtain ⟨-, -, -, hslash⟩ := StaticSecrets.answered_by_spelling
      [⟨"default", "b", data "config" "machines"⟩, ⟨"", "b", []⟩] ⟨some "b", none⟩
    exact (hslash (.inl (by decide))).last

/-- The first of the two is not there any more once the other one is, so a reference to it is answered
with the secret of another pair. -/
theorem first_of_spelledAlike_lost :
    ¬∀ inserted r, StaticSecrets.AnswersByPair inserted r := by
  intro h
  have hlast := (h spelledAlike ⟨some "a/b", some "team"⟩).last
  have hserved : (StaticSecrets.empty.after spelledAlike).get ⟨some "a/b", some "team"⟩ =
      .ok (data "other" "machines") := rfl
  have hmeant : StaticSecrets.answer ⟨some "a/b", some "team"⟩
      (fun i => i.IsFor ⟨some "a/b", some "team"⟩) spelledAlike =
        .ok (data "config" "machines") := rfl
  rw [hserved, hmeant] at hlast
  revert hlast
  decide

end Sample
end PoolPlan
