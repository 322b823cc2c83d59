import PoolPlan.Dict

namespace PoolPlan.Dict
variable {α : Type}

/-- A key beyond all others goes to the end. -/
theorem insert_of_keys_lt {key : String} {value : α} {d : Dict α} (h : ∀ k ∈ d.keys, k < key) :
    d.insert key value = d ++ [(key, value)] := by
  induction d with
  | nil => rfl
  | cons e d ih =>
    obtain ⟨k, v⟩ := e
    have hk : k < key := h k List.mem_cons_self
    have hd : ∀ l ∈ keys d, l < key := fun l hl => h l (List.mem_cons_of_mem _ hl)
    simp only [insert, if_neg (String.lt_asymm hk), List.cons_append, ih hd]
    rw [if_neg]
    rintro rfl
    exact String.lt_irrefl _ hk

theorem get?_of_lt {d : Dict α} {key : String} (h : ∀ k ∈ d.keys, key < k) : d.get? key = none := by
  induction d with
  | nil => rfl
  | cons e d ih =>
    obtain ⟨k, v⟩ := e
    have hk : key < k := h k List.mem_cons_self
    rw [get?_cons, if_neg, ih (fun l hl => h l (List.mem_cons_of_mem _ hl))]
    rintro rfl
    exact String.lt_irrefl _ hk

theorem get?_of_not_mem_keys {d : Dict α} {key : String} (h : key ∉ d.keys) : d.get? key = none := by
  rw [get?, List.lookup_eq_none_iff]
  intro e he
  rw [bne_iff_ne]
  rintro rfl
  exact h (List.mem_map_of_mem he)

/-- Nothing is found under a key below the first one. -/
theorem not_lt_of_get? {k l : String} {v : α} {d : Dict α} (hd : Ascending ((k, v) :: d))
    (h : get? ((k, v) :: d) l ≠ none) : ¬l < k := by
  intro hlt
  apply h
  apply get?_of_lt
  intro m hm
  rcases List.mem_cons.1 hm with rfl | hm
  · exact hlt
  · exact String.lt_trans hlt ((ascending_cons.1 hd).1 m hm)

/-- Dictionaries with the same look-ups are the same. -/
theorem ext {d e : Dict α} (hd : d.Ascending) (he : e.Ascending) (h : ∀ k, d.get? k = e.get? k) :
    d = e := by
  induction d generalizing e with
  | nil =>
    cases e with
    | nil => rfl
    | cons g e =>
      have := h g.1
      rw [get?_cons, if_pos rfl] at this
      contradiction
  | cons f d ih =>
    cases e with
    | nil =>
      have := h f.1
      rw [get?_cons, if_pos rfl] at this
      contradiction
    | cons g e =>
      obtain ⟨k, v⟩ := f
      obtain ⟨l, w⟩ := g
      have hfirst : get? ((k, v) :: d) k = some v := by simp [get?_cons]
      have hother : get? ((l, w) :: e) l = some w := by simp [get?_cons]
      -- The first key of one side is found on the other side only as its first key.
      have hkl : k = l := by
        rcases Std.lt_trichotomy k l with hlt | heq | hlt
        · exact absurd hlt (not_lt_of_get? he (by simp [← h, hfirst]))
        · exact heq
        · exact absurd hlt (not_lt_of_get? hd (by simp [h, hother]))
      subst hkl
      have hv : v = w := Option.some.inj (by rw [← hfirst, h, hother])
      subst hv
      obtain ⟨hk, hd⟩ := ascending_cons.1 hd
      obtain ⟨hl, he⟩ := ascending_cons.1 he
      refine congrArg _ (ih hd he fun m => ?_)
      have hm := h m
      simp only [get?_cons] at hm
      by_cases heq : m = k
      · rw [heq, get?_of_lt hk, get?_of_lt hl]
      · simpa [heq] using hm

theorem get?_foldl_insert (entries : List (String × α)) (d : Dict α) (key : String) :
    get? (entries.foldl (fun d e => d.insert e.1 e.2) d) key =
      (entries.reverse.lookup key).or (d.get? key) := by
  induction entries generalizing d with
  | nil => rfl
  | cons e es ih =>
    obtain ⟨k, v⟩ := e
    rw [List.foldl_cons, ih, get?_insert, List.reverse_cons, List.lookup_append, Option.or_assoc]
    by_cases h : key = k
    · simp [h]
    · simp [h, List.lookup_cons, beq_false_of_ne h]

/-- Of entries with one key the last counts. -/
theorem get?_ofList (entries : List (String × α)) (key : String) :
    (ofList entries).get? key = entries.reverse.lookup key := by
  rw [ofList, get?_foldl_insert]
  simp [get?]

theorem foldl_insert_of_ascending {d e : Dict α} (h : Ascending (d ++ e)) :
    e.foldl (fun d e => d.insert e.1 e.2) d = d ++ e := by
  induction e generalizing d with
  | nil => rw [List.foldl_nil, List.append_nil]
  | cons f e ih =>
    obtain ⟨k, v⟩ := f
    have hlast : ∀ l ∈ keys d, l < k := by
      rw [Ascending, keys, List.map_append, List.pairwise_append] at h
      intro l hl
      exact h.2.2 l hl k List.mem_cons_self
    have hsame : d ++ (k, v) :: e = d ++ [(k, v)] ++ e := List.append_cons d (k, v) e
    rw [List.foldl_cons, insert_of_keys_lt hlast, hsame]
    exact ih (hsame ▸ h)

/-- Entries in ascending order are a dictionary as they stand. -/
theorem ofList_of_ascending {d : Dict α} (h : d.Ascending) : ofList d = d :=
  foldl_insert_of_ascending (d := []) h

end PoolPlan.Dict
