namespace PoolPlan

/-- Entries in ascending order of their keys (by code point), so that equal dictionaries are equal lists. -/
abbrev Dict (α : Type) := List (String × α)

namespace Dict
variable {α : Type}

def insert (key : String) (value : α) : Dict α → Dict α
  | [] => [(key, value)]
  | (k, v) :: rest =>
    if key < k then (key, value) :: (k, v) :: rest
    else if key = k then (key, value) :: rest
    else (k, v) :: insert key value rest

/-- The entries inserted one after the other, so that the last value of a key stays. -/
def ofList (entries : List (String × α)) : Dict α :=
  entries.foldl (fun d e => d.insert e.1 e.2) []

def erase (key : String) (d : Dict α) : Dict α := d.filter (fun e => e.1 != key)

def get? (d : Dict α) (key : String) : Option α := d.lookup key

def keys (d : Dict α) : List String := d.map Prod.fst

def Ascending (d : Dict α) : Prop := d.keys.Pairwise (· < ·)

theorem get?_cons (key k : String) (value : α) (d : Dict α) :
    get? ((key, value) :: d) k = if k = key then some value else d.get? k := by
  by_cases h : k = key
  · simp [get?, h]
  · simp [get?, List.lookup_cons, beq_false_of_ne h, h]

theorem get?_insert (key k : String) (value : α) (d : Dict α) :
    (d.insert key value).get? k = if k = key then some value else d.get? k := by
  induction d with
  | nil => exact get?_cons ..
  | cons e d ih =>
    obtain ⟨l, v⟩ := e
    simp only [insert]
    split
    · exact get?_cons ..
    · split
      · rename_i h
        subst h
        simp only [get?_cons]
        split <;> rfl
      · rename_i h
        rw [get?_cons, get?_cons, ih]
        by_cases hl : k = l
        · simp [hl, Ne.symm h]
        · simp [hl]

theorem get?_erase (key k : String) (d : Dict α) :
    (d.erase key).get? k = if k = key then none else d.get? k := by
  induction d with
  | nil => simp [erase, get?]
  | cons e d ih =>
    obtain ⟨l, v⟩ := e
    rw [get?_cons]
    by_cases hl : l = key
    · rw [show erase key ((l, v) :: d) = erase key d by simp [erase, hl], ih, hl]
      by_cases hk : k = key <;> simp [hk]
    · rw [show erase key ((l, v) :: d) = (l, v) :: erase key d by simp [erase, hl], get?_cons, ih]
      by_cases hk : k = l
      · simp [hk, hl]
      · simp [hk]

theorem mem_keys_insert {key k : String} {value : α} {d : Dict α}
    (h : k ∈ (d.insert key value).keys) : k = key ∨ k ∈ d.keys := by
  induction d with
  | nil => simpa [insert, keys] using h
  | cons e d ih =>
    obtain ⟨l, v⟩ := e
    simp only [insert] at h
    split at h
    · simpa [keys] using h
    · split at h
      · rename_i heq
        simp only [keys, List.map_cons, List.mem_cons] at h ⊢
        rcases h with h | h
        · exact .inl h
        · exact .inr (.inr h)
      · simp only [keys, List.map_cons, List.mem_cons] at h ih ⊢
        rcases h with h | h
        · exact .inr (.inl h)
        · rcases ih h with h | h
          · exact .inl h
          · exact .inr (.inr h)

theorem ascending_nil : Ascending ([] : Dict α) := List.Pairwise.nil

theorem ascending_cons {k : String} {v : α} {d : Dict α} :
    Ascending ((k, v) :: d) ↔ (∀ l ∈ d.keys, k < l) ∧ Ascending d := List.pairwise_cons

theorem ascending_insert {key : String} {value : α} {d : Dict α} (h : d.Ascending) :
    (d.insert key value).Ascending := by
  induction d with
  | nil => simp [insert, Ascending, keys]
  | cons e d ih =>
    obtain ⟨k, v⟩ := e
    obtain ⟨hk, hd⟩ := ascending_cons.1 h
    simp only [insert]
    split
    · rename_i hlt
      refine ascending_cons.2 ⟨fun l hl => ?_, h⟩
      rcases List.mem_cons.1 hl with rfl | hl
      · exact hlt
      · exact String.lt_trans hlt (hk l hl)
    · rename_i hnot
      split
      · rename_i heq
        exact ascending_cons.2 ⟨fun l hl => heq ▸ hk l hl, hd⟩
      · rename_i hne
        refine ascending_cons.2 ⟨fun l hl => ?_, ih hd⟩
        rcases mem_keys_insert hl with rfl | hl
        · exact Std.lt_of_le_of_ne (String.not_lt.1 hnot) (Ne.symm hne)
        · exact hk l hl

theorem ascending_ofList (entries : List (String × α)) : (ofList entries).Ascending := by
  suffices ∀ (d : Dict α), d.Ascending →
      (entries.foldl (fun d e => d.insert e.1 e.2) d).Ascending from this [] ascending_nil
  induction entries with
  | nil => exact fun _ h => h
  | cons e es ih => exact fun d h => ih _ (ascending_insert h)

theorem ascending_erase {key : String} {d : Dict α} (h : d.Ascending) : (d.erase key).Ascending :=
  List.Pairwise.sublist (List.Sublist.map Prod.fst List.filter_sublist) h

end Dict
end PoolPlan
