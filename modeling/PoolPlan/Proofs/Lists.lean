import Mathlib.Data.List.Forall2
import Mathlib.Data.List.Nodup

namespace List
variable {α β γ : Type}

theorem Forall₂.exists_getElem? {R : α → β → Prop} {as : List α} {bs : List β} {i : Nat} {a : α}
    (h : Forall₂ R as bs) (ha : as[i]? = some a) : ∃ b, bs[i]? = some b ∧ R a b := by
  induction h generalizing i with
  | nil => simp at ha
  | @cons _ b _ _ hab _ ih =>
    cases i with
    | zero =>
      obtain rfl : _ = a := by simpa using ha
      exact ⟨b, rfl, hab⟩
    | succ i => exact ih (by simpa using ha)

theorem Forall₂.exists_of_mem {R : α → β → Prop} {as : List α} {bs : List β} {b : β}
    (h : Forall₂ R as bs) (hb : b ∈ bs) : ∃ a ∈ as, R a b := by
  obtain ⟨i, hi⟩ := mem_iff_getElem?.1 hb
  obtain ⟨a, ha, hab⟩ := Forall₂.exists_getElem? (Forall₂.flip h) hi
  exact ⟨a, mem_of_getElem? ha, hab⟩

theorem Forall₂.map_eq_map {R : α → β → Prop} {as : List α} {bs : List β} {f : α → γ} {g : β → γ}
    (h : Forall₂ R as bs) (hfg : ∀ a b, R a b → f a = g b) : as.map f = bs.map g := by
  have hmap : Forall₂ (· = ·) (as.map f) (bs.map g) := rel_map (fun a b => hfg a b) h
  rwa [forall₂_eq_eq_eq] at hmap

/-- A list that is split at a mark in two ways either has the same parts or the mark twice. -/
theorem append_cons_eq_append_cons_iff {mark : α} {as bs xs ys : List α} :
    as ++ mark :: xs = bs ++ mark :: ys ↔
      (as = bs ∧ xs = ys) ∨ (∃ middle, as = bs ++ mark :: middle ∧ ys = middle ++ mark :: xs) ∨
        ∃ middle, bs = as ++ mark :: middle ∧ xs = middle ++ mark :: ys := by
  rw [append_eq_append_iff]
  constructor
  · rintro (⟨between, rfl, h⟩ | ⟨between, rfl, h⟩)
    · cases between with
      | nil => exact .inl ⟨(append_nil as).symm, (cons.inj h).2⟩
      | cons c middle =>
        obtain ⟨rfl, rfl⟩ := cons.inj h
        exact .inr (.inr ⟨middle, rfl, rfl⟩)
    · cases between with
      | nil => exact .inl ⟨append_nil bs, (cons.inj h).2.symm⟩
      | cons c middle =>
        obtain ⟨rfl, rfl⟩ := cons.inj h
        exact .inr (.inl ⟨middle, rfl, rfl⟩)
  · rintro (⟨rfl, rfl⟩ | ⟨middle, rfl, rfl⟩ | ⟨middle, rfl, rfl⟩)
    · exact .inl ⟨[], (append_nil as).symm, rfl⟩
    · exact .inr ⟨mark :: middle, rfl, rfl⟩
    · exact .inl ⟨mark :: middle, rfl, rfl⟩

/-- A mark that stands nowhere before splits a list in one way only. -/
theorem append_cons_inj_of_not_mem {mark : α} {as bs xs ys : List α} (ha : mark ∉ as)
    (hb : mark ∉ bs) (h : as ++ mark :: xs = bs ++ mark :: ys) : as = bs ∧ xs = ys := by
  rcases append_cons_eq_append_cons_iff.1 h with hsame | ⟨middle, rfl, -⟩ | ⟨middle, rfl, -⟩
  · exact hsame
  · exact absurd (mem_append_right bs mem_cons_self) ha
  · exact absurd (mem_append_right as mem_cons_self) hb

theorem eraseDups_of_nodup [BEq α] [LawfulBEq α] {as : List α} (h : as.Nodup) :
    as.eraseDups = as := by
  induction as with
  | nil => rfl
  | cons a as ih =>
    obtain ⟨ha, hd⟩ := nodup_cons.1 h
    have hf : (as.filter fun b => !b == a) = as := by
      rw [filter_eq_self]
      intro b hb
      have : b ≠ a := fun he => ha (he ▸ hb)
      simpa using this
    rw [eraseDups_cons, hf, ih hd]

theorem mapM_eq_some_iff {f : α → Option β} {as : List α} {bs : List β} :
    as.mapM f = some bs ↔ Forall₂ (fun a b => f a = some b) as bs := by
  induction as generalizing bs with
  | nil => simp [eq_comm]
  | cons a as ih =>
    simp only [mapM_cons, bind, Option.bind_eq_some_iff, pure, Option.some.injEq, ih,
      forall₂_cons_left_iff]
    constructor
    · rintro ⟨b, hb, cs, hcs, rfl⟩
      exact ⟨b, cs, hb, hcs, rfl⟩
    · rintro ⟨b, cs, hb, hcs, rfl⟩
      exact ⟨b, hb, cs, hcs, rfl⟩

/-- Lists whose elements are read alike are read alike. -/
theorem Forall₂.mapM_eq_some {R : α → β → Prop} {f : α → Option γ} {g : β → Option γ} {as : List α}
    {bs : List β} {cs : List γ} (h : Forall₂ R as bs)
    (hr : ∀ a b, R a b → ∀ c, f a = some c → g b = some c) (has : as.mapM f = some cs) :
    bs.mapM g = some cs := by
  induction h generalizing cs with
  | nil => exact has
  | cons hab h ih =>
    simp only [mapM_cons, bind, Option.bind_eq_some_iff, pure, Option.some.injEq] at has
    obtain ⟨c, hc, ds, hds, rfl⟩ := has
    simp only [mapM_cons, hr _ _ hab c hc, ih hds, bind, Option.bind_some, pure]

/-- Reading what was written gives back every item. -/
theorem mapM_map_eq_some (write : α → β) (read : β → Option γ) (value : α → γ) (as : List α)
    (h : ∀ a ∈ as, read (write a) = some (value a)) :
    (as.map write).mapM read = some (as.map value) := by
  rw [mapM_eq_some_iff, forall₂_map_left_iff, forall₂_map_right_iff, forall₂_same]
  exact h

/-- What is found under a key in a list whose values were all changed. -/
theorem lookup_map_snd {κ : Type} [BEq κ] (f : α → β) (entries : List (κ × α)) (key : κ) :
    (entries.map (fun e => (e.1, f e.2))).lookup key = (entries.lookup key).map f := by
  induction entries with
  | nil => rfl
  | cons e es ih =>
    rw [map_cons, lookup_cons, lookup_cons, ih]
    cases key == e.1 <;> rfl

theorem mem_of_lookup_eq_some {κ : Type} [BEq κ] [LawfulBEq κ] {entries : List (κ × α)} {key : κ}
    {a : α} (h : entries.lookup key = some a) : (key, a) ∈ entries := by
  obtain ⟨before, after, rfl, -⟩ := lookup_eq_some_iff.1 h
  exact mem_append_right before mem_cons_self

/-- What is found under one of the keys that are kept. -/
theorem lookup_filter_contains {κ : Type} [BEq κ] [LawfulBEq κ] {keys : List κ} {key : κ}
    (hkey : key ∈ keys) (entries : List (κ × α)) :
    (entries.filter (fun e => keys.contains e.1)).lookup key = entries.lookup key := by
  induction entries with
  | nil => rfl
  | cons e es ih =>
    obtain ⟨k, a⟩ := e
    rw [filter_cons]
    by_cases h : key = k
    · subst h
      rw [if_pos (contains_iff_mem.2 hkey), lookup_cons_self, lookup_cons_self]
    · have hother : lookup key ((k, a) :: es) = lookup key es := by
        rw [lookup_cons, beq_false_of_ne h]
      rw [hother, ← ih]
      split
      · rw [lookup_cons, beq_false_of_ne h]
      · rfl

/-- A key is found at the same place whatever keys follow it. -/
theorem lookup_zip_append {κ : Type} [BEq κ] [LawfulBEq κ] {keys : List κ} {key : κ}
    (hkey : key ∈ keys) (rest : List κ) (items : List α) :
    ((keys ++ rest).zip items).lookup key = (keys.zip items).lookup key := by
  induction keys generalizing items with
  | nil => contradiction
  | cons k keys ih =>
    cases items with
    | nil => rfl
    | cons a items =>
      rw [cons_append, zip_cons_cons, zip_cons_cons, lookup_cons, lookup_cons]
      by_cases h : key = k
      · rw [beq_iff_eq.2 h]
      · rw [beq_false_of_ne h]
        exact ih (mem_of_ne_of_mem h hkey) items

/-- Looking for less finds the same if what is found first is part of it. -/
theorem find?_eq_find?_of_imp {p q : α → Bool} {as : List α} (himp : ∀ a, q a = true → p a = true)
    (hfirst : ∀ a, as.find? p = some a → q a = true) : as.find? q = as.find? p := by
  cases hp : as.find? p with
  | none =>
    rw [find?_eq_none] at hp ⊢
    exact fun a ha hq => hp a ha (himp a hq)
  | some first =>
    obtain ⟨-, before, after, rfl, hbefore⟩ := find?_eq_some_iff_append.1 hp
    refine find?_eq_some_iff_append.2 ⟨hfirst first hp, before, after, rfl, fun a ha => ?_⟩
    have hnot := hbefore a ha
    cases hq : q a with
    | false => rfl
    | true => rw [himp a hq] at hnot; exact hnot

section Keys
variable {κ : Type} [DecidableEq κ] {key : α → κ} {as bs : List α} {k : κ} {a : α}

/-- If no two elements have the same key, the element that has a key is the one found under it. -/
theorem find?_key_eq_some_iff (h : (as.map key).Nodup) :
    as.find? (fun a => key a == k) = some a ↔ a ∈ as ∧ key a = k := by
  constructor
  · intro hf
    exact ⟨mem_of_find?_eq_some hf, by simpa using find?_some hf⟩
  · rintro ⟨ha, rfl⟩
    cases hf : as.find? (fun b => key b == key a) with
    | none =>
      have := find?_eq_none.1 hf a ha
      simp at this
    | some b =>
      have hb : key b = key a := by simpa using find?_some hf
      rw [inj_on_of_nodup_map h (mem_of_find?_eq_some hf) ha hb]

/-- What is found under a key depends on its element alone. -/
theorem find?_key_congr (has : (as.map key).Nodup) (hbs : (bs.map key).Nodup)
    (h : ∀ a, key a = k → (a ∈ as ↔ a ∈ bs)) :
    as.find? (fun a => key a == k) = bs.find? (fun a => key a == k) := by
  apply Option.ext
  intro a
  rw [find?_key_eq_some_iff has, find?_key_eq_some_iff hbs]
  exact and_congr_left fun ha => h a ha

end Keys

end List
