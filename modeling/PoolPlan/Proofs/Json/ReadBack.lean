import PoolPlan.Proofs.Json.Integer
import PoolPlan.Proofs.Json.Quotation
import PoolPlan.Proofs.Text.Blank

namespace PoolPlan

mutual
def Document.ofJson : Json → Document
  | .null => .scalar .null
  | .bool b => .scalar (.bool b)
  | .number n => .scalar (.number n)
  | .string s => .scalar (.string s)
  | .array items => .sequence true (Document.ofItems items)
  | .object fields => .mapping (Document.ofFields fields)
def Document.ofItems : List Json → List Document
  | [] => []
  | x :: xs => .ofJson x :: Document.ofItems xs
def Document.ofFields : List (String × Json) → List (Document × Document)
  | [] => []
  | (k, x) :: fs => (.scalar (.string k), .ofJson x) :: Document.ofFields fs
end

namespace Json

mutual
/-- All numbers are integers of 64 bits. -/
def Exact : Json → Prop
  | .number n => ∃ i, Number.ofInt? i = some n
  | .array items => ExactItems items
  | .object fields => ExactFields fields
  | _ => True
def ExactItems : List Json → Prop
  | [] => True
  | x :: xs => x.Exact ∧ ExactItems xs
def ExactFields : List (String × Json) → Prop
  | [] => True
  | (_, x) :: fs => x.Exact ∧ ExactFields fs
end

mutual
/-- How many containers stand around the innermost value, at most. -/
def depth : Json → Nat
  | .array items => depthItems items + 1
  | .object fields => depthFields fields + 1
  | _ => 0
def depthItems : List Json → Nat
  | [] => 0
  | x :: xs => max x.depth (depthItems xs)
def depthFields : List (String × Json) → Nat
  | [] => 0
  | (_, x) :: fs => max x.depth (depthFields fs)
end

theorem depthItems_le {items : List Json} {n : Nat} (h : ∀ x ∈ items, x.depth ≤ n) :
    depthItems items ≤ n := by
  induction items with
  | nil => exact Nat.zero_le n
  | cons x xs ih =>
    exact Nat.max_le.2 ⟨h x List.mem_cons_self, ih fun y hy => h y (List.mem_cons_of_mem _ hy)⟩

theorem depthFields_le {fs : List (String × Json)} {n : Nat} (h : ∀ f ∈ fs, f.2.depth ≤ n) :
    depthFields fs ≤ n := by
  induction fs with
  | nil => exact Nat.zero_le n
  | cons f fs ih =>
    exact Nat.max_le.2 ⟨h f List.mem_cons_self, ih fun g hg => h g (List.mem_cons_of_mem _ hg)⟩

theorem ofInt?_eq_some {i : Int} {n : Number} (h : Number.ofInt? i = some n) : n = .integer i := by
  unfold Number.ofInt? at h
  split at h
  · exact (Option.some.inj h).symm
  · contradiction

def Opens (c : Char) : Prop :=
  isSpace c = false ∧ c ≠ ']' ∧ c ≠ '\x7d'

theorem opens_of_isDigit {c : Char} (h : c.isDigit = true) : Opens c := by
  refine ⟨?_, ?_, ?_⟩
  · simp only [isSpace, Bool.or_eq_false_iff, beq_eq_false_iff_ne]
    refine ⟨⟨⟨?_, ?_⟩, ?_⟩, ?_⟩ <;> rintro rfl <;> exact absurd h (by decide)
  all_goals rintro rfl; exact absurd h (by decide)

theorem toDigits_cons (n : Nat) : ∃ d ds, Nat.toDigits 10 n = d :: ds ∧ d.isDigit = true := by
  obtain ⟨d, ds, he⟩ := List.exists_cons_of_ne_nil (Nat.toDigits_ne_nil (n := n) (b := 10))
  have hd : d ∈ Nat.toDigits 10 n := by simp [he]
  exact ⟨d, ds, he, Nat.isDigit_of_mem_toDigits (by decide) (by decide) hd⟩

theorem integerChars_cons (n : Int) :
    ∃ c cs, integerChars n = c :: cs ∧ (c = '-' ∨ c.isDigit = true) := by
  unfold integerChars
  split
  · exact ⟨_, _, rfl, .inl rfl⟩
  · obtain ⟨d, ds, he, hd⟩ := toDigits_cons n.natAbs
    exact ⟨d, ds, he, .inr hd⟩

theorem chars_cons {j : Json} (h : j.Exact) : ∃ c cs, j.chars = c :: cs ∧ Opens c := by
  have simple (c : Char) (cs : List Char) (hc : isSpace c = false ∧ c ≠ ']' ∧ c ≠ '\x7d') :
      ∃ d ds, c :: cs = d :: ds ∧ Opens d := ⟨c, cs, rfl, hc⟩
  cases j with
  | null => exact simple _ _ (by decide)
  | bool b => cases b <;> exact simple _ _ (by decide)
  | number n =>
    obtain ⟨i, hi⟩ := h
    obtain ⟨c, cs, he, hc⟩ := integerChars_cons i
    refine ⟨c, cs, by simpa [ofInt?_eq_some hi, chars, Number.chars] using he, ?_⟩
    rcases hc with rfl | hc
    · exact ⟨by decide, by decide, by decide⟩
    · exact opens_of_isDigit hc
  | string s => exact simple _ _ (by decide)
  | array items => cases items <;> exact simple _ _ (by decide)
  | object fields => rcases fields with _ | ⟨⟨k, x⟩, fs⟩ <;> exact simple _ _ (by decide)

theorem positional_cons {d : Char} (hd : d.isDigit = true) (ds : List Char) (point : Int) :
    ∃ c cs, Decimal.positional (d :: ds) point = c :: cs ∧ c.isDigit = true := by
  unfold Decimal.positional
  split
  · exact ⟨_, _, rfl, by decide⟩
  · rename_i hpoint
    split
    · exact ⟨_, _, rfl, hd⟩
    · obtain ⟨k, hk⟩ : ∃ k, point.toNat = k + 1 := ⟨point.toNat - 1, by omega⟩
      rw [hk]
      exact ⟨_, _, rfl, hd⟩

theorem write_cons (layout : Decimal.Layout) (x : Binary64) :
    ∃ c cs, layout.write x = c :: cs ∧ (c = '-' ∨ c.isDigit = true) := by
  obtain ⟨d, ds, hds, hd⟩ := toDigits_cons (Decimal.shortest x).digits
  simp only [Decimal.Layout.write, hds]
  split
  · exact ⟨_, _, rfl, .inl rfl⟩
  · split
    · exact ⟨_, _, rfl, .inr (by decide)⟩
    · split
      · obtain ⟨c, cs, he, hc⟩ := positional_cons hd ds
          (((d :: ds).length : Int) + (Decimal.shortest x).exponent)
        exact ⟨c, cs, he, .inr hc⟩
      · exact ⟨_, _, rfl, .inr hd⟩

theorem numberChars_cons (n : Number) :
    ∃ c cs, n.chars = c :: cs ∧ (c = '-' ∨ c.isDigit = true) := by
  cases n with
  | integer n => exact integerChars_cons n
  | float x => exact write_cons floatLayout x

/-- A value that is neither object nor array does not begin like one. -/
theorem chars_cons_of_scalar {j : Json} (hobject : ∀ fields, j ≠ .object fields)
    (harray : ∀ items, j ≠ .array items) :
    ∃ c cs, j.chars = c :: cs ∧ Text.isBlank c = false ∧ c ≠ '\x7b' ∧ c ≠ '[' := by
  cases j with
  | null => exact ⟨_, _, rfl, by decide⟩
  | bool b =>
    cases b with
    | false => exact ⟨_, _, rfl, by decide⟩
    | true => exact ⟨_, _, rfl, by decide⟩
  | number n =>
    obtain ⟨c, cs, hchars, hc⟩ := numberChars_cons n
    refine ⟨c, cs, hchars, ?_⟩
    cases hc with
    | inl hc =>
      subst hc
      decide
    | inr hc =>
      refine ⟨Text.isBlank_of_isDigit hc, ?_, ?_⟩
      all_goals
        rintro rfl
        exact absurd hc (by decide)
  | string s => exact ⟨_, _, rfl, by decide⟩
  | array items => exact absurd rfl (harray items)
  | object fields => exact absurd rfl (hobject fields)

@[simp] theorem skipSpace_cons {c : Char} {cs : List Char} (h : isSpace c = false) :
    skipSpace (c :: cs) = c :: cs := by simp [skipSpace, h]

/-- A numeral begins like no other value. -/
theorem node?_numeral (fuel room : Nat) {c : Char} {cs : List Char}
    (h : c = '-' ∨ c.isDigit = true) :
    node? (fuel + 1) room (c :: cs) = numberNode? (c :: cs) := by
  have hs : isSpace c = false := by
    rcases h with rfl | h
    · decide
    · exact (opens_of_isDigit h).1
  rw [node?.eq_def]
  simp only [skipSpace_cons hs]
  split
  all_goals try rfl
  all_goals
    rename_i he
    obtain ⟨rfl, -⟩ := List.cons.inj he
    exact absurd h (by decide)

theorem delimited_cons {c : Char} {cs : List Char}
    (h : c.isDigit = false ∧ c ≠ '.' ∧ c ≠ 'e' ∧ c ≠ 'E') : Delimited (c :: cs) := by
  rintro d hd
  obtain rfl : c = d := Option.some.inj hd
  exact h

theorem delimited_moreItems (xs : List Json) (rest : List Char) :
    Delimited (moreItems xs ++ rest) := by
  cases xs <;> exact delimited_cons (by decide)

theorem delimited_moreFields (fs : List (String × Json)) (rest : List Char) :
    Delimited (moreFields fs ++ rest) := by
  rcases fs with _ | ⟨⟨k, x⟩, fs⟩ <;> exact delimited_cons (by decide)

theorem moreFields_ends (fs : List (String × Json)) :
    ∃ cs, moreFields fs = cs ++ ['\x7d'] := by
  induction fs with
  | nil => exact ⟨[], rfl⟩
  | cons f fs ih =>
    obtain ⟨k, x⟩ := f
    obtain ⟨cs, hcs⟩ := ih
    exact ⟨',' :: quotedChars k.toList ++ ':' :: x.chars ++ cs, by simp [moreFields, hcs]⟩

theorem entry?_quoted (k : String) {fuel room : Nat} {text rest : List Char} {d : Document}
    (h : node? fuel room text = some (d, rest)) :
    entry? (fuel + 1) room (quotedChars k.toList ++ ':' :: text) =
      some ((.scalar (.string k), d), rest) := by
  simp [ entry?, quotedChars, stringNode?_quoted, isSpace, h]

mutual
/-- The text of a value is read as its document, and what follows the text is left. -/
theorem node?_chars : (j : Json) → j.Exact → (fuel room : Nat) → (rest : List Char) →
    2 * j.chars.length ≤ fuel → j.depth ≤ room → Delimited rest →
    node? fuel room (j.chars ++ rest) = some (.ofJson j, rest)
  | .null, _, fuel + 1, room, rest, _, _, _ => by simp [node?, chars, Document.ofJson, isSpace]
  | .bool true, _, fuel + 1, room, rest, _, _, _ => by
    simp [node?, chars, Document.ofJson, isSpace]
  | .bool false, _, fuel + 1, room, rest, _, _, _ => by
    simp [node?, chars, Document.ofJson, isSpace]
  | .number n, h, 0, room, rest, hf, _, _ => by
    obtain ⟨c, cs, he, -⟩ := chars_cons h
    simp [he] at hf
  | .number n, h, fuel + 1, room, rest, _, _, hr => by
    obtain ⟨i, hi⟩ := h
    obtain rfl := ofInt?_eq_some hi
    obtain ⟨c, cs, he, hc⟩ := integerChars_cons i
    have hn := numberNode?_integerChars hi hr
    rw [he, List.cons_append] at hn
    simp only [chars, Number.chars, he, List.cons_append, node?_numeral fuel room hc, hn,
      Document.ofJson]
  | .string s, _, fuel + 1, room, rest, _, _, _ => by
    simp [node?, chars, quotedChars, stringNode?_quoted, Document.ofJson, isSpace]
  | .array [], _, fuel + 1, room + 1, rest, _, _, _ => by
    simp [node?, chars, Document.ofJson, Document.ofItems, isSpace, bounded]
  | .array (x :: xs), h, fuel + 1, room + 1, rest, hf, hd, _ => by
    simp only [chars, List.length_append, List.length_cons] at hf
    simp only [depth, depthItems] at hd
    obtain ⟨c, cs, he, hc⟩ := chars_cons h.1
    have hx := node?_chars x h.1 fuel room (moreItems xs ++ rest) (by omega) (by omega)
      (delimited_moreItems xs rest)
    have hxs := moreNodes?_moreItems xs h.2 fuel room rest (by omega) (by omega)
    rw [he, List.cons_append] at hx
    simp only [chars, he, List.cons_append, List.append_assoc]
    rw [node?.eq_def]
    simp [isSpace, skipSpace_cons hc.1, hc.2.1, hx, hxs, bounded, Document.ofJson,
      Document.ofItems]
  | .object [], _, fuel + 1, room + 1, rest, _, _, _ => by
    simp [node?, chars, Document.ofJson, Document.ofFields, isSpace, bounded]
  | .object ((k, x) :: fs), h, fuel + 2, room + 1, rest, hf, hd, _ => by
    simp only [chars, quotedChars, List.length_append, List.length_cons] at hf
    simp only [depth, depthFields] at hd
    have hx := node?_chars x h.1 fuel room (moreFields fs ++ rest) (by omega) (by omega)
      (delimited_moreFields fs rest)
    have hfs := moreEntries?_moreFields fs h.2 (fuel + 1) room rest (by omega) (by omega)
    have he := entry?_quoted k hx
    simp only [chars, quotedChars, List.cons_append, List.append_assoc, List.nil_append] at he ⊢
    rw [node?.eq_def]
    simp only [skipSpace_cons (show isSpace '\x7b' = false by decide),
      skipSpace_cons (show isSpace '"' = false by decide)]
    simp [bounded, he, hfs, Document.ofJson, Document.ofFields]
theorem moreNodes?_moreItems : (xs : List Json) → ExactItems xs → (fuel room : Nat) →
    (rest : List Char) → 2 * (moreItems xs).length ≤ fuel → depthItems xs ≤ room →
    moreNodes? fuel room (moreItems xs ++ rest) = some (Document.ofItems xs, rest)
  | [], _, fuel + 1, room, rest, _, _ => by simp [moreNodes?, moreItems, Document.ofItems, isSpace]
  | x :: xs, h, fuel + 1, room, rest, hf, hd => by
    simp only [moreItems, List.length_append, List.length_cons] at hf
    simp only [depthItems] at hd
    have hx := node?_chars x h.1 fuel room (moreItems xs ++ rest) (by omega) (by omega)
      (delimited_moreItems xs rest)
    have hxs := moreNodes?_moreItems xs h.2 fuel room rest (by omega) (by omega)
    simp [moreNodes?, moreItems, isSpace, hx, hxs, Document.ofItems]
theorem moreEntries?_moreFields : (fs : List (String × Json)) → ExactFields fs → (fuel room : Nat) →
    (rest : List Char) → 2 * (moreFields fs).length ≤ fuel → depthFields fs ≤ room →
    moreEntries? fuel room (moreFields fs ++ rest) = some (Document.ofFields fs, rest)
  | [], _, fuel + 1, room, rest, _, _ => by
    simp [moreEntries?, moreFields, Document.ofFields, isSpace]
  | (k, x) :: fs, h, fuel + 2, room, rest, hf, hd => by
    simp only [moreFields, quotedChars, List.length_append, List.length_cons] at hf
    simp only [depthFields] at hd
    have hx := node?_chars x h.1 fuel room (moreFields fs ++ rest) (by omega) (by omega)
      (delimited_moreFields fs rest)
    have hfs := moreEntries?_moreFields fs h.2 (fuel + 1) room rest (by omega) (by omega)
    have he := entry?_quoted k hx
    simp only [moreFields, List.cons_append, List.append_assoc]
    rw [moreEntries?.eq_def]
    simp [isSpace, he, hfs, Document.ofFields]
end

def readWithin? (room : Nat) (cs : List Char) : Option Document :=
  match node? (fuelFor cs) room cs with
  | some (d, r) => if (skipSpace r).isEmpty then some d else none
  | none => none

/-- With room for its depth a value is read back as its document. -/
theorem readWithin?_chars {j : Json} {room : Nat} (h : j.Exact) (hd : j.depth ≤ room) :
    readWithin? room j.chars = some (.ofJson j) := by
  have hn := node?_chars j h (fuelFor j.chars) room [] (by simp only [fuelFor]; omega) hd
    delimited_nil
  rw [List.append_nil] at hn
  simp [readWithin?, hn, skipSpace]

/-- A value of an allowed depth is read back as its document. -/
theorem read?_chars {j : Json} (h : j.Exact) (hd : j.depth ≤ depthLimit) :
    read? j.chars = some (.ofJson j) := readWithin?_chars h hd

mutual
theorem ofJson_injective : {a b : Json} → Document.ofJson a = Document.ofJson b → a = b
  | .null, b, h | .bool _, b, h | .number _, b, h | .string _, b, h => by
    cases b <;> simp_all [Document.ofJson]
  | .array xs, b, h => by
    cases b <;> simp only [Document.ofJson, reduceCtorEq, Document.sequence.injEq, true_and] at h
    exact congrArg array (ofItems_injective h)
  | .object fs, b, h => by
    cases b <;> simp only [Document.ofJson, reduceCtorEq, Document.mapping.injEq] at h
    exact congrArg object (ofFields_injective h)
theorem ofItems_injective : {xs ys : List Json} →
    Document.ofItems xs = Document.ofItems ys → xs = ys
  | [], ys, h => by cases ys <;> simp_all [Document.ofItems]
  | x :: xs, ys, h => by
    cases ys <;> simp only [Document.ofItems, reduceCtorEq, List.cons.injEq] at h
    rw [ofJson_injective h.1, ofItems_injective h.2]
theorem ofFields_injective : {fs gs : List (String × Json)} →
    Document.ofFields fs = Document.ofFields gs → fs = gs
  | [], gs, h => by cases gs <;> simp_all [Document.ofFields]
  | (k, x) :: fs, gs, h => by
    rcases gs with _ | ⟨⟨l, y⟩, gs⟩ <;> simp only [Document.ofFields, reduceCtorEq, List.cons.injEq,
      Prod.mk.injEq, Document.scalar.injEq, Scalar.string.injEq] at h
    rw [h.1.1, ofJson_injective h.1.2, ofFields_injective h.2]
end

/-- The text of a value is unambiguous, however deep the value is: both values are read with room
for the deeper one. -/
theorem chars_injective {a b : Json} (ha : a.Exact) (hb : b.Exact) (h : a.chars = b.chars) :
    a = b := by
  have hra := node?_chars a ha (2 * a.chars.length) (max a.depth b.depth) [] (Nat.le_refl _)
    (Nat.le_max_left ..) delimited_nil
  have hrb := node?_chars b hb (2 * b.chars.length) (max a.depth b.depth) [] (Nat.le_refl _)
    (Nat.le_max_right ..) delimited_nil
  rw [h, hrb] at hra
  simp only [Option.some.injEq, Prod.mk.injEq, and_true] at hra
  exact (ofJson_injective hra).symm

theorem text_injective {a b : Json} (ha : a.Exact) (hb : b.Exact) (h : a.text = b.text) : a = b :=
  chars_injective ha hb (by simpa [text] using congrArg String.toList h)

end Json
end PoolPlan
