import PoolPlan.Document.Record
import PoolPlan.Proofs.Lists
import PoolPlan.Proofs.Yaml.Numeral

namespace PoolPlan

inductive Scalar.Respelled : Scalar → Scalar → Prop
  | null : Respelled .null .null
  | nullWord : Respelled .null (.written "null" true none)
  | bool (b : Bool) : Respelled (.bool b) (.bool b)
  | boolWord (b : Bool) : Respelled (.bool b) (.written (Json.bool b).text true none)
  | number (n : Json.Number) : Respelled (.number n) (.number n)
  | numeral {n : Int} (h : Json.Number.ofInt? n = some (.integer n)) :
    Respelled (.number (.integer n)) (.written (Json.integer n).text true none)
  | string (s : String) : Respelled (.string s) (.string s)
  | quoted (s : String) : Respelled (.string s) (.written s false none)
  | unreadable : Respelled .unreadable .unreadable

mutual
/-- What one document says is said by another. -/
inductive Document.Respelled : Document → Document → Prop
  | scalar {s t : Scalar} (h : s.Respelled t) : Respelled (.scalar s) (.scalar t)
  | sequence {ds es : List Document} (positional : Bool) (h : RespelledItems ds es) :
    Respelled (.sequence false ds) (.sequence positional es)
  | mapping {ds es : List (Document × Document)} (h : RespelledEntries ds es) :
    Respelled (.mapping ds) (.mapping es)
inductive Document.RespelledItems : List Document → List Document → Prop
  | nil : RespelledItems [] []
  | cons {d e : Document} {ds es : List Document} (hd : Respelled d e) (hds : RespelledItems ds es) :
    RespelledItems (d :: ds) (e :: es)
inductive Document.RespelledEntries :
    List (Document × Document) → List (Document × Document) → Prop
  | nil : RespelledEntries [] []
  | cons {k l d e : Document} {ds es : List (Document × Document)} (hk : k.text? = l.text?)
    (hd : Respelled d e) (hds : RespelledEntries ds es) : RespelledEntries ((k, d) :: ds) ((l, e) :: es)
end

def Fields.Respelled (f g : Fields) : Prop :=
  List.Forall₂ (fun a b => a.1 = b.1 ∧ a.2.Respelled b.2) f g

/-- A reader that does not depend on the spelling. -/
def Document.Steady {α : Type} (read : Document → Option α) : Prop :=
  ∀ ⦃d e : Document⦄, d.Respelled e → ∀ ⦃a : α⦄, read d = some a → read e = some a

def Fields.Steady {α : Type} (read : Fields → Option α) : Prop :=
  ∀ ⦃f g : Fields⦄, f.Respelled g → ∀ ⦃a : α⦄, read f = some a → read g = some a

namespace Document
variable {α β : Type} {read : Document → Option α}

theorem steady_text? : Steady text? := by
  intro d e h a ha
  cases h with
  | scalar h => cases h <;> first | exact ha | cases ha
  | sequence positional h => cases ha
  | mapping h => cases ha

theorem steady_integer? : Steady integer? := by
  intro d e h a ha
  cases h with
  | scalar h =>
    cases h with
    | @numeral n h =>
      obtain rfl : n = a := Option.some.inj ha
      simp only [integer?, untagged, Yaml.toList_text_integer, Yaml.integer?_integerChars]
    | _ => first | exact ha | cases ha
  | sequence positional h => cases ha
  | mapping h => cases ha

theorem steady_bool? : Steady bool? := by
  intro d e h a ha
  cases h with
  | scalar h =>
    cases h with
    | boolWord b =>
      obtain rfl : b = a := Option.some.inj ha
      cases b <;> rfl
    | _ => first | exact ha | cases ha
  | sequence positional h => cases ha
  | mapping h => cases ha

theorem scalarValue?_of_respelled {s t : Scalar} (h : s.Respelled t) {j : Json}
    (hj : scalarValue? s = some j) : scalarValue? t = some j := by
  cases h with
  | nullWord =>
    cases hj
    rfl
  | boolWord b =>
    cases hj
    cases b <;> rfl
  | numeral h =>
    cases hj
    exact Yaml.value?_integerText h
  | _ => exact hj

mutual
theorem value?_of_respelled : {d e : Document} → d.Respelled e → {j : Json} → d.value? = some j →
    e.value? = some j
  | _, _, .scalar h, j, hj => scalarValue?_of_respelled h hj
  | _, _, .sequence positional h, j, hj => by
    simp only [value?, Option.map_eq_some_iff] at hj ⊢
    obtain ⟨xs, hxs, rfl⟩ := hj
    exact ⟨xs, itemValues?_of_respelled h hxs, rfl⟩
  | _, _, .mapping h, j, hj => by
    simp only [value?, Option.map_eq_some_iff] at hj ⊢
    obtain ⟨fs, hfs, rfl⟩ := hj
    exact ⟨fs, entryValues?_of_respelled h hfs, rfl⟩
theorem itemValues?_of_respelled : {ds es : List Document} → RespelledItems ds es →
    {xs : List Json} → itemValues? ds = some xs → itemValues? es = some xs
  | _, _, .nil, xs, h => h
  | _, _, .cons hd hds, xs, h => by
    simp only [itemValues?, bind, Option.bind_eq_some_iff, pure, Option.some.injEq] at h
    obtain ⟨x, hx, ys, hys, rfl⟩ := h
    simp only [itemValues?, value?_of_respelled hd hx, itemValues?_of_respelled hds hys, bind,
      Option.bind_some, pure]
theorem entryValues?_of_respelled : {ds es : List (Document × Document)} → RespelledEntries ds es →
    {fs : List (String × Json)} → entryValues? ds = some fs → entryValues? es = some fs
  | _, _, .nil, fs, h => h
  | _, _, .cons hk hd hds, fs, h => by
    simp only [entryValues?, bind, Option.bind_eq_some_iff, pure, Option.some.injEq] at h
    obtain ⟨key, hkey, x, hx, gs, hgs, rfl⟩ := h
    simp only [entryValues?, ← hk, hkey, value?_of_respelled hd hx, entryValues?_of_respelled hds hgs,
      bind, Option.bind_some, pure]
end

theorem steady_value? : Steady value? := fun _ _ h _ ha => value?_of_respelled h ha

theorem Steady.andThen (hread : Steady read) (f : α → Option β) :
    Steady (fun d => (read d).bind f) := by
  intro d e h b hb
  obtain ⟨a, ha, hb⟩ := Option.bind_eq_some_iff.1 hb
  exact Option.bind_eq_some_iff.2 ⟨a, hread h ha, hb⟩

theorem steady_int32? : Steady int32? := steady_integer?.andThen int32Of?

theorem steady_int64? : Steady int64? := steady_integer?.andThen int64Of?

theorem Steady.optional? (hread : Steady read) : Steady (optional? read) := by
  intro d e h a ha
  have hpresent (ha : (read d).map some = some a) : (read e).map some = some a := by
    obtain ⟨b, hb, rfl⟩ := Option.map_eq_some_iff.1 ha
    rw [hread h hb, Option.map_some]
  cases h with
  | scalar h =>
    cases h with
    | null => exact ha
    | nullWord => exact ha
    | boolWord b => cases b <;> exact hpresent ha
    | @numeral n h =>
      -- without quotes, no text and words for null say that nothing is there
      have hempty : (Json.integer n).text.isEmpty = false := by
        rw [String.isEmpty_eq_false_iff, Ne, ← String.toList_eq_nil_iff, Yaml.toList_text_integer]
        simpa using (Yaml.not_word_integerChars n).1
      simp only [Document.optional?, hempty, Yaml.toList_text_integer,
        (Yaml.not_word_integerChars n).2.1]
      exact hpresent ha
    | _ => exact hpresent ha
  | sequence positional h => exact hpresent ha
  | mapping h => exact hpresent ha

theorem RespelledItems.forall₂ : {ds es : List Document} → RespelledItems ds es →
    List.Forall₂ Respelled ds es
  | _, _, .nil => .nil
  | _, _, .cons hd hds => .cons hd hds.forall₂

theorem Steady.list? (hread : Steady read) : Steady (list? read) := by
  intro d e h as has
  obtain ⟨ds, hds, has⟩ := Option.bind_eq_some_iff.1 has
  cases h with
  | scalar h => cases h <;> cases hds
  | sequence positional h =>
    cases hds
    exact h.forall₂.mapM_eq_some (fun _ _ hd _ ha => hread hd ha) has
  | mapping h => cases hds

theorem RespelledEntries.exists_texts {ds es : List (Document × Document)} (h : RespelledEntries ds es)
    {f : Fields} (hf : ds.mapM (fun e => e.1.text?.map (·, e.2)) = some f) :
    ∃ g : Fields, es.mapM (fun e => e.1.text?.map (·, e.2)) = some g ∧ f.Respelled g := by
  induction ds generalizing es f with
  | nil =>
    cases h
    cases hf
    exact ⟨[], rfl, List.Forall₂.nil⟩
  | cons d ds ih =>
    cases h with
    | @cons k l d e ds es hk hd hds =>
      simp only [List.mapM_cons, bind, Option.bind_eq_some_iff, Option.map_eq_some_iff, pure,
        Option.some.injEq] at hf
      obtain ⟨_, ⟨key, hkey, rfl⟩, f, hf, rfl⟩ := hf
      obtain ⟨g, hg, hfg⟩ := ih hds hf
      refine ⟨(key, e) :: g, ?_, List.Forall₂.cons ⟨rfl, hd⟩ hfg⟩
      simp only [List.mapM_cons, ← hk, hkey, hg, bind, Option.map_some, Option.bind_some, pure]

theorem Respelled.exists_entries {d e : Document} (h : d.Respelled e) {f : Fields}
    (hf : d.entries? = some f) : ∃ g, e.entries? = some g ∧ f.Respelled g := by
  cases h with
  | scalar h => cases h <;> cases hf
  | sequence positional h => cases hf
  | mapping h => exact h.exists_texts hf

theorem Steady.dict? (hread : Steady read) : Steady (dict? read) := by
  intro d e h a ha
  simp only [Document.dict?, bind, Option.bind_eq_some_iff, pure, Option.some.injEq] at ha
  obtain ⟨f, hf, pairs, hpairs, rfl⟩ := ha
  obtain ⟨g, hg, hfg⟩ := h.exists_entries hf
  have hpairs' : g.mapM (fun a => (read a.2).map (a.1, ·)) = some pairs := by
    refine List.Forall₂.mapM_eq_some hfg ?_ hpairs
    rintro ⟨k, d⟩ ⟨l, e⟩ ⟨rfl, hde⟩ c hc
    obtain ⟨b, hb, rfl⟩ := Option.map_eq_some_iff.1 hc
    simp only [hread hde hb, Option.map_some]
  simp only [Document.dict?, hg, hpairs', bind, Option.bind_some, pure]

end Document

namespace Fields
variable {α β : Type} {read : Document → Option α}

theorem Respelled.names {f g : Fields} (h : f.Respelled g) : f.map Prod.fst = g.map Prod.fst := by
  induction h with
  | nil => rfl
  | cons hab h ih => rw [List.map_cons, List.map_cons, hab.1, ih]

theorem Respelled.filter {f g : Fields} (h : f.Respelled g) (p : String → Bool) :
    Respelled (f.filter (fun a => p a.1)) (g.filter (fun a => p a.1)) := by
  induction h with
  | nil => exact List.Forall₂.nil
  | @cons a b as bs hab h ih =>
    rw [List.filter_cons, List.filter_cons, hab.1]
    split
    · exact List.Forall₂.cons hab ih
    · exact ih

theorem Respelled.lookup {f g : Fields} (h : f.Respelled g) (name : String) :
    f.lookup name = none ∧ g.lookup name = none ∨
      ∃ d e, f.lookup name = some d ∧ g.lookup name = some e ∧ d.Respelled e := by
  induction h with
  | nil => exact .inl ⟨rfl, rfl⟩
  | @cons a b as bs hab h ih =>
    obtain ⟨k, d⟩ := a
    obtain ⟨l, e⟩ := b
    obtain ⟨rfl, hde⟩ := hab
    rw [List.lookup_cons, List.lookup_cons]
    cases name == k with
    | true => exact .inr ⟨d, e, rfl, rfl, hde⟩
    | false => exact ih

theorem steady_pure (a : α) : Steady (fun _ => some a) := fun _ _ _ _ ha => ha

theorem Steady.bind {x : Fields → Option α} {k : α → Fields → Option β} (hx : Steady x)
    (hk : ∀ a, Steady (k a)) : Steady (fun f => (x f).bind (fun a => k a f)) := by
  intro f g h b hb
  obtain ⟨a, ha, hb⟩ := Option.bind_eq_some_iff.1 hb
  exact Option.bind_eq_some_iff.2 ⟨a, hx h ha, hk a h hb⟩

theorem steady_required? (hread : Document.Steady read) (name : String) :
    Steady (fun f => f.required? name read) := by
  intro f g h a ha
  obtain ⟨d, hd, ha⟩ := Option.bind_eq_some_iff.1 ha
  rcases h.lookup name with ⟨hf, -⟩ | ⟨d', e, hf, hg, hde⟩
  · rw [hf] at hd
    contradiction
  · obtain rfl : d' = d := Option.some.inj (hf.symm.trans hd)
    exact Option.bind_eq_some_iff.2 ⟨e, hg, hread hde ha⟩

theorem steady_withDefault? (hread : Document.Steady read) (name : String) (fallback : α) :
    Steady (fun f => f.withDefault? name fallback read) := by
  intro f g h a ha
  simp only [withDefault?] at ha ⊢
  rcases h.lookup name with ⟨hf, hg⟩ | ⟨d, e, hf, hg, hde⟩
  · rw [hf] at ha
    rw [hg]
    exact ha
  · rw [hf] at ha
    rw [hg]
    exact hread hde ha

theorem steady_optional? (hread : Document.Steady read) (name : String) :
    Steady (fun f => f.optional? name read) := by
  intro f g h a ha
  simp only [optional?] at ha ⊢
  rcases h.lookup name with ⟨hf, hg⟩ | ⟨d, e, hf, hg, hde⟩
  · rw [hf] at ha
    rw [hg]
    exact ha
  · rw [hf] at ha
    rw [hg]
    exact hread.optional? hde ha

theorem steady_last? (hread : Document.Steady read) (name : String) :
    Steady (fun f => f.last? name read) := by
  intro f g h a ha
  simp only [last?, bind, Option.bind_eq_some_iff, pure, Option.some.injEq] at ha ⊢
  obtain ⟨values, hvalues, rfl⟩ := ha
  have hfilter := h.filter (· == name)
  exact ⟨values, hfilter.mapM_eq_some (fun _ _ hab _ hv => hread.optional? hab.2 hv) hvalues, rfl⟩

end Fields

namespace Document
variable {α : Type} {read : Fields → Option α}

theorem Respelled.exists_record {d e : Document} (h : d.Respelled e) {names : List String} {f : Fields}
    (hf : d.record? names = some f) : ∃ g, e.record? names = some g ∧ f.Respelled g := by
  cases h with
  | scalar h => cases h <;> cases hf
  | sequence positional h => cases hf
  | mapping h =>
    simp only [record?, untagged, bind, Option.bind_eq_some_iff, Option.ite_none_right_eq_some, pure,
      Option.some.injEq] at hf ⊢
    obtain ⟨f, hentries, hnodup, rfl⟩ := hf
    obtain ⟨g, hg, hfg⟩ := (Respelled.mapping h).exists_entries hentries
    have hfilter := hfg.filter names.contains
    exact ⟨_, ⟨g, hg, hfilter.names ▸ hnodup, rfl⟩, hfilter⟩

/-- A strict record is steady if what is read of its fields is. -/
theorem steady_record (names : List String) (hread : Fields.Steady read) :
    Steady (fun d => (d.record? names).bind read) := by
  intro d e h a ha
  obtain ⟨f, hf, ha⟩ := Option.bind_eq_some_iff.1 ha
  obtain ⟨g, hg, hfg⟩ := h.exists_record hf
  exact Option.bind_eq_some_iff.2 ⟨g, hg, hread hfg ha⟩

theorem steady_looseRecord (hread : Fields.Steady read) :
    Steady (fun d => d.looseRecord?.bind read) := by
  intro d e h a ha
  obtain ⟨f, hf, ha⟩ := Option.bind_eq_some_iff.1 ha
  obtain ⟨g, hg, hfg⟩ := h.exists_entries hf
  exact Option.bind_eq_some_iff.2 ⟨g, hg, hread hfg ha⟩

end Document

namespace Document

mutual
/-- The document with all records given by name: none of its sequences stands for one. -/
def byName : Document → Document
  | .scalar s => .scalar s
  | .sequence _ items => .sequence false (byNameItems items)
  | .mapping entries => .mapping (byNameEntries entries)
  | .tagged name node => .tagged name node.byName
def byNameItems : List Document → List Document
  | [] => []
  | d :: ds => d.byName :: byNameItems ds
def byNameEntries : List (Document × Document) → List (Document × Document)
  | [] => []
  | (k, d) :: es => (k, d.byName) :: byNameEntries es
end

mutual
/-- A value whose records are given by name is respelled as its JSON. -/
theorem respelled_ofJson : (j : Json) → (ofJson j).byName.Respelled (ofJson j)
  | .null => .scalar .null
  | .bool b => .scalar (.bool b)
  | .number n => .scalar (.number n)
  | .string s => .scalar (.string s)
  | .array items => .sequence true (respelledItems_ofItems items)
  | .object fields => .mapping (respelledEntries_ofFields fields)
theorem respelledItems_ofItems : (xs : List Json) →
    RespelledItems (byNameItems (ofItems xs)) (ofItems xs)
  | [] => .nil
  | x :: xs => .cons (respelled_ofJson x) (respelledItems_ofItems xs)
theorem respelledEntries_ofFields : (fs : List (String × Json)) →
    RespelledEntries (byNameEntries (ofFields fs)) (ofFields fs)
  | [] => .nil
  | (_, x) :: fs => .cons rfl (respelled_ofJson x) (respelledEntries_ofFields fs)
end

end Document
end PoolPlan
