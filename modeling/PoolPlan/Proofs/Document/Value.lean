import PoolPlan.Proofs.Json.Limits

namespace PoolPlan

namespace Json

mutual
def Numbers (P : Number → Prop) : Json → Prop
  | .number n => P n
  | .array items => NumbersItems P items
  | .object fields => NumbersFields P fields
  | _ => True
def NumbersItems (P : Number → Prop) : List Json → Prop
  | [] => True
  | x :: xs => x.Numbers P ∧ NumbersItems P xs
def NumbersFields (P : Number → Prop) : List (String × Json) → Prop
  | [] => True
  | (_, x) :: fs => x.Numbers P ∧ NumbersFields P fs
end

def Number.IsInteger : Number → Prop
  | .integer _ => True
  | _ => False

def FloatFree (j : Json) : Prop := j.Numbers Number.IsInteger

/-- What is known of a value that was read, with no more than `room` containers around each other. -/
structure Within (room : Nat) (j : Json) : Prop where
  sorted : j.Sorted
  depth : j.depth ≤ room
  numbers : j.Numbers Number.Limited

instance : DecidablePred Number.IsInteger
  | .integer _ => .isTrue trivial
  | .float _ => .isFalse id

mutual
def decidableNumbers (P : Number → Prop) [DecidablePred P] : (j : Json) → Decidable (j.Numbers P)
  | .number n => inferInstanceAs (Decidable (P n))
  | .array items => decidableItems P items
  | .object fields => decidableFields P fields
  | .null | .bool _ | .string _ => .isTrue trivial
def decidableItems (P : Number → Prop) [DecidablePred P] :
    (xs : List Json) → Decidable (NumbersItems P xs)
  | [] => .isTrue trivial
  | x :: xs => @instDecidableAnd _ _ (decidableNumbers P x) (decidableItems P xs)
def decidableFields (P : Number → Prop) [DecidablePred P] :
    (fs : List (String × Json)) → Decidable (NumbersFields P fs)
  | [] => .isTrue trivial
  | (_, x) :: fs => @instDecidableAnd _ _ (decidableNumbers P x) (decidableFields P fs)
end

instance : DecidablePred FloatFree := decidableNumbers Number.IsInteger

theorem numbersItems_iff {P : Number → Prop} {xs : List Json} :
    NumbersItems P xs ↔ ∀ x ∈ xs, x.Numbers P := by
  induction xs with
  | nil => simp [NumbersItems]
  | cons x xs ih => simp [NumbersItems, ih]

theorem numbersFields_iff {P : Number → Prop} {fs : List (String × Json)} :
    NumbersFields P fs ↔ ∀ f ∈ fs, f.2.Numbers P := by
  induction fs with
  | nil => simp [NumbersFields]
  | cons f fs ih =>
    obtain ⟨k, x⟩ := f
    simp [NumbersFields, ih]

theorem sortedItems_iff {xs : List Json} : SortedItems xs ↔ ∀ x ∈ xs, x.Sorted := by
  induction xs with
  | nil => simp [SortedItems]
  | cons x xs ih => simp [SortedItems, ih]

mutual
theorem exact_of_floatFree : {j : Json} → j.Numbers Number.Limited → j.FloatFree → j.Exact
  | .null, _, _ | .bool _, _, _ | .string _, _, _ => trivial
  | .number (.integer i), hl, _ => ⟨i, hl i rfl⟩
  | .number (.float _), _, hf => absurd hf id
  | .array _, hl, hf => exactItems_of_floatFree hl hf
  | .object _, hl, hf => exactFields_of_floatFree hl hf
theorem exactItems_of_floatFree : {xs : List Json} → NumbersItems Number.Limited xs →
    NumbersItems Number.IsInteger xs → ExactItems xs
  | [], _, _ => trivial
  | _ :: _, hl, hf => ⟨exact_of_floatFree hl.1 hf.1, exactItems_of_floatFree hl.2 hf.2⟩
theorem exactFields_of_floatFree : {fs : List (String × Json)} →
    NumbersFields Number.Limited fs → NumbersFields Number.IsInteger fs →
    ExactFields fs
  | [], _, _ => trivial
  | (_, _) :: _, hl, hf => ⟨exact_of_floatFree hl.1 hf.1, exactFields_of_floatFree hl.2 hf.2⟩
end

theorem within_array {room : Nat} {xs : List Json} (hroom : 0 < room)
    (h : ∀ x ∈ xs, x.Within (room - 1)) : (Json.array xs).Within room := by
  have hdepth : depthItems xs ≤ room - 1 := depthItems_le fun x hx => (h x hx).depth
  refine ⟨sortedItems_iff.2 fun x hx => (h x hx).sorted, ?_,
    numbersItems_iff.2 fun x hx => (h x hx).numbers⟩
  simp only [depth]
  omega

/-- Of fields with one name the last is kept, so less is kept than was read. -/
theorem within_object {room : Nat} {fs : List (String × Json)} (hroom : 0 < room)
    (h : ∀ f ∈ fs, f.2.Within (room - 1)) : (Json.object (Dict.ofList fs)).Within room := by
  have hkept : ∀ f ∈ Dict.ofList fs, f.2.Within (room - 1) := fun f hf => h f (mem_ofList hf)
  have hdepth : depthFields (Dict.ofList fs) ≤ room - 1 := depthFields_le fun f hf => (hkept f hf).depth
  refine ⟨⟨Dict.ascending_ofList fs, sortedFields_iff.2 fun f hf => (hkept f hf).sorted⟩, ?_,
    numbersFields_iff.2 fun f hf => (hkept f hf).numbers⟩
  simp only [depth]
  omega

end Json

namespace Document
open Json

mutual
theorem within_of_value? {room : Nat} : {d : Document} → {j : Json} → d.Limited room →
    d.value? = some j → j.Within room
  | .scalar s, j, hd, h => by
    cases s with
    | written text plain tag => exact absurd hd id
    | unreadable => cases h
    | number n =>
      cases h
      exact ⟨trivial, Nat.zero_le _, hd⟩
    | _ =>
      cases h
      exact ⟨trivial, Nat.zero_le _, trivial⟩
  | .sequence _ items, j, hd, h => by
    simp only [value?, Option.map_eq_some_iff] at h
    obtain ⟨xs, hxs, rfl⟩ := h
    exact within_array hd.1 (within_of_itemValues? hd.2 hxs)
  | .mapping entries, j, hd, h => by
    simp only [value?, Option.map_eq_some_iff] at h
    obtain ⟨fs, hfs, rfl⟩ := h
    exact within_object hd.1 (within_of_entryValues? hd.2 hfs)
  | .tagged _ _, _, hd, _ => absurd hd id
theorem within_of_itemValues? {room : Nat} : {ds : List Document} → {xs : List Json} →
    LimitedItems room ds → itemValues? ds = some xs → ∀ x ∈ xs, x.Within room
  | [], xs, _, h => by
    cases h
    exact nofun
  | d :: ds, xs, hd, h => by
    simp only [itemValues?, bind, Option.bind_eq_some_iff, pure, Option.some.injEq] at h
    obtain ⟨x, hx, ys, hys, rfl⟩ := h
    exact List.forall_mem_cons.2 ⟨within_of_value? hd.1 hx, within_of_itemValues? hd.2 hys⟩
theorem within_of_entryValues? {room : Nat} : {es : List (Document × Document)} →
    {fs : List (String × Json)} → LimitedEntries room es → entryValues? es = some fs →
    ∀ f ∈ fs, f.2.Within room
  | [], fs, _, h => by
    cases h
    exact nofun
  | (k, d) :: es, fs, hd, h => by
    simp only [entryValues?, bind, Option.bind_eq_some_iff, pure, Option.some.injEq] at h
    obtain ⟨key, -, x, hx, gs, hgs, rfl⟩ := h
    exact List.forall_mem_cons.2 ⟨within_of_value? hd.1.2 hx, within_of_entryValues? hd.2 hgs⟩
end

theorem optional?_of_ne_null {α : Type} {read : Document → Option α} {room : Nat} {d : Document}
    (hd : d.Limited room) (h : d ≠ .scalar .null) : d.optional? read = (read d).map some := by
  cases d with
  | scalar s =>
    cases s with
    | null => exact absurd rfl h
    | written text plain tag => exact absurd hd id
    | _ => rfl
  | _ => rfl

theorem eq_null_of_value? {room : Nat} {d : Document} (hd : d.Limited room)
    (h : d.value? = some .null) : d = .scalar .null := by
  cases d with
  | scalar s =>
    cases s with
    | null => rfl
    | written text plain tag => exact absurd hd id
    | _ => cases h
  | sequence positional items =>
    obtain ⟨xs, -, hxs⟩ := Option.map_eq_some_iff.1 h
    cases hxs
  | mapping entries =>
    obtain ⟨fs, -, hfs⟩ := Option.map_eq_some_iff.1 h
    cases hfs
  | tagged name node => exact absurd hd id

/-- A value that may be absent is not null where it is present. -/
theorem within_of_optional? {room : Nat} {d : Document} {j : Json} (hd : d.Limited room)
    (h : d.optional? value? = some (some j)) : j ≠ .null ∧ j.Within room := by
  have hnull : d ≠ .scalar .null := by
    rintro rfl
    cases h
  rw [optional?_of_ne_null hd hnull] at h
  obtain ⟨k, hk, hkj⟩ := Option.map_eq_some_iff.1 h
  cases hkj
  refine ⟨?_, within_of_value? hd hk⟩
  rintro rfl
  exact hnull (eq_null_of_value? hd hk)

mutual
/-- A value whose fields are in order is what its document says. -/
theorem value?_ofJson : {j : Json} → j.Sorted → (ofJson j).value? = some j
  | .null, _ | .bool _, _ | .number _, _ | .string _, _ => rfl
  | .array xs, h => by simp only [ofJson, value?, itemValues?_ofItems h, Option.map_some]
  | .object fs, h => by
    simp only [ofJson, value?, entryValues?_ofFields h.2, Option.map_some,
      Dict.ofList_of_ascending h.1]
theorem itemValues?_ofItems : {xs : List Json} → SortedItems xs →
    itemValues? (ofItems xs) = some xs
  | [], _ => rfl
  | x :: xs, h => by
    simp only [ofItems, itemValues?, value?_ofJson h.1, itemValues?_ofItems h.2, bind,
      Option.bind_some, pure]
theorem entryValues?_ofFields : {fs : List (String × Json)} → SortedFields fs →
    entryValues? (ofFields fs) = some fs
  | [], _ => rfl
  | (k, x) :: fs, h => by
    simp only [ofFields, entryValues?, value?_ofJson h.1, entryValues?_ofFields h.2, text?,
      untagged, bind, Option.bind_some, pure]
end

end Document
end PoolPlan
