import Mathlib.Data.List.Forall2
import PoolPlan.Proofs.Class.Fingerprint
import PoolPlan.Proofs.Rewriting

namespace PoolPlan

theorem Decimal.Layout.write_of_isZero (layout : Layout) {x : Binary64} (h : x.isZero = true) :
    layout.write x = if x.negative then ['-', '0', '.', '0'] else ['0', '.', '0'] := by
  simp only [write, h, if_true]

/-- Fields that go together by name still do without those of one name. -/
theorem Dict.forall₂_erase {R : String × Json → String × Json → Prop} {fs gs : Dict Json}
    (key : String) (hname : ∀ f g, R f g → f.1 = g.1) (h : List.Forall₂ R fs gs) :
    List.Forall₂ R (Dict.erase key fs) (Dict.erase key gs) :=
  List.rel_filter (fun f g hfg => by simp only [hname f g hfg]) h

namespace Json

mutual
/-- Which zeros among the floats of a value are negative, in the order of its text. -/
def zeroSigns : Json → List Bool
  | .number (.float x) => if x.isZero then [x.negative] else []
  | .array items => zeroSignsOfItems items
  | .object fields => zeroSignsOfFields fields
  | _ => []
def zeroSignsOfItems : List Json → List Bool
  | [] => []
  | x :: xs => x.zeroSigns ++ zeroSignsOfItems xs
def zeroSignsOfFields : List (String × Json) → List Bool
  | [] => []
  | (_, x) :: fs => x.zeroSigns ++ zeroSignsOfFields fs
end

/-- Equal numbers are the same, or both are zeros. -/
theorem Number.eq_or_isZero_of_equals {m n : Number} (h : m.equals n = true) :
    m = n ∨ ∃ x y : Binary64, m = .float x ∧ n = .float y ∧ x.isZero = true ∧ y.isZero = true := by
  cases m with
  | integer m =>
    cases n with
    | integer n => exact .inl (congrArg integer (eq_of_beq h))
    | float y => contradiction
  | float x =>
    cases n with
    | integer n => contradiction
    | float y =>
      simp only [Number.equals, Binary64.equals, Bool.or_eq_true, Bool.and_eq_true] at h
      cases h with
      | inl hzero => exact .inr ⟨x, y, rfl, rfl, hzero⟩
      | inr hsame => exact .inl (congrArg float (eq_of_beq hsame))

mutual
/-- Equal values have zeros in the same places. -/
theorem length_zeroSigns : {a b : Json} → a.equals b = true →
    a.zeroSigns.length = b.zeroSigns.length
  | .null, b, h | .bool _, b, h | .string _, b, h => by cases b <;> simp_all [equals, zeroSigns]
  | .number m, b, h => by
    cases b with
    | number n =>
      rcases Number.eq_or_isZero_of_equals h with rfl | ⟨x, y, rfl, rfl, hx, hy⟩
      · rfl
      · simp only [zeroSigns, hx, hy, if_true, List.length_singleton]
    | _ => contradiction
  | .array xs, b, h => by
    cases b with
    | array ys => exact length_zeroSignsOfItems h
    | _ => contradiction
  | .object fs, b, h => by
    cases b with
    | object gs => exact length_zeroSignsOfFields h
    | _ => contradiction
theorem length_zeroSignsOfItems : {xs ys : List Json} → equalItems xs ys = true →
    (zeroSignsOfItems xs).length = (zeroSignsOfItems ys).length
  | [], [], _ => rfl
  | x :: xs, y :: ys, h => by
    simp only [equalItems, Bool.and_eq_true] at h
    simp only [zeroSignsOfItems, List.length_append, length_zeroSigns h.1,
      length_zeroSignsOfItems h.2]
theorem length_zeroSignsOfFields : {fs gs : List (String × Json)} → equalFields fs gs = true →
    (zeroSignsOfFields fs).length = (zeroSignsOfFields gs).length
  | [], [], _ => rfl
  | (_, x) :: fs, (_, y) :: gs, h => by
    simp only [equalFields, Bool.and_eq_true] at h
    simp only [zeroSignsOfFields, List.length_append, length_zeroSigns h.1.2,
      length_zeroSignsOfFields h.2]
end

theorem append_eq_iff_of_zero {x y : Binary64} (hx : x.isZero = true) (hy : y.isZero = true)
    (r s : List Char) :
    (Number.float x).chars ++ r = (Number.float y).chars ++ s ↔
      x.negative = y.negative ∧ r = s := by
  simp only [Number.chars, Decimal.Layout.write_of_isZero, hx, hy]
  cases x.negative <;> cases y.negative <;> simp

mutual
/-- Equal values, whatever follows them, have one text exactly if their zeros have the same signs. -/
theorem append_eq_iff_of_equals : {a b : Json} → a.equals b = true → (r s : List Char) →
    (a.chars ++ r = b.chars ++ s ↔ a.zeroSigns = b.zeroSigns ∧ r = s)
  | .null, b, h, r, s | .bool _, b, h, r, s | .string _, b, h, r, s => by
    cases b <;> simp_all [equals, zeroSigns]
  | .number m, b, h, r, s => by
    cases b with
    | number n =>
      rcases Number.eq_or_isZero_of_equals h with rfl | ⟨x, y, rfl, rfl, hx, hy⟩
      · simp
      · simp only [chars, append_eq_iff_of_zero hx hy, zeroSigns, hx, hy, if_true, List.cons.injEq,
          and_true]
    | _ => contradiction
  | .array [], b, h, r, s => by
    cases b with
    | array ys => cases ys <;> simp_all [equals, equalItems, zeroSigns]
    | _ => contradiction
  | .array (x :: xs), b, h, r, s => by
    cases b with
    | array ys =>
      cases ys with
      | nil => contradiction
      | cons y ys =>
        simp only [equals, equalItems, Bool.and_eq_true] at h
        simp only [chars, zeroSigns, zeroSignsOfItems, List.cons_append, List.append_assoc,
          List.cons.injEq, true_and, append_eq_iff_of_equals h.1, moreItems_append_eq_iff h.2,
          List.append_eq_append_iff_of_size_eq_left (length_zeroSigns h.1), and_assoc]
    | _ => contradiction
  | .object [], b, h, r, s => by
    cases b with
    | object gs => cases gs <;> simp_all [equals, equalFields, zeroSigns]
    | _ => contradiction
  | .object ((k, x) :: fs), b, h, r, s => by
    cases b with
    | object gs =>
      cases gs with
      | nil => contradiction
      | cons g gs =>
        obtain ⟨l, y⟩ := g
        simp only [equals, equalFields, Bool.and_eq_true, beq_iff_eq] at h
        obtain ⟨⟨rfl, hx⟩, hfs⟩ := h
        simp only [chars, zeroSigns, zeroSignsOfFields, List.cons_append, List.append_assoc,
          List.cons.injEq, true_and, List.append_cancel_left_eq, append_eq_iff_of_equals hx,
          moreFields_append_eq_iff hfs,
          List.append_eq_append_iff_of_size_eq_left (length_zeroSigns hx), and_assoc]
    | _ => contradiction
theorem moreItems_append_eq_iff : {xs ys : List Json} → equalItems xs ys = true →
    (r s : List Char) →
    (moreItems xs ++ r = moreItems ys ++ s ↔ zeroSignsOfItems xs = zeroSignsOfItems ys ∧ r = s)
  | [], [], _, r, s => by simp
  | x :: xs, y :: ys, h, r, s => by
    simp only [equalItems, Bool.and_eq_true] at h
    simp only [moreItems, zeroSignsOfItems, List.cons_append, List.append_assoc, List.cons.injEq,
      true_and, append_eq_iff_of_equals h.1, moreItems_append_eq_iff h.2,
      List.append_eq_append_iff_of_size_eq_left (length_zeroSigns h.1), and_assoc]
theorem moreFields_append_eq_iff : {fs gs : List (String × Json)} → equalFields fs gs = true →
    (r s : List Char) →
    (moreFields fs ++ r = moreFields gs ++ s ↔ zeroSignsOfFields fs = zeroSignsOfFields gs ∧ r = s)
  | [], [], _, r, s => by simp
  | (k, x) :: fs, (l, y) :: gs, h, r, s => by
    simp only [equalFields, Bool.and_eq_true, beq_iff_eq] at h
    obtain ⟨⟨rfl, hx⟩, hfs⟩ := h
    simp only [moreFields, zeroSignsOfFields, List.cons_append, List.append_assoc, List.cons.injEq,
      true_and, List.append_cancel_left_eq, append_eq_iff_of_equals hx, moreFields_append_eq_iff hfs,
      List.append_eq_append_iff_of_size_eq_left (length_zeroSigns hx), and_assoc]
end

/-- The texts of equal values differ only by the signs of zeros. -/
theorem text_eq_iff_of_equals {a b : Json} (h : a.equals b = true) :
    a.text = b.text ↔ a.zeroSigns = b.zeroSigns := by
  have hchars := append_eq_iff_of_equals h [] []
  simp only [List.append_nil, and_true] at hchars
  rw [text, text, String.ofList_inj, hchars]

theorem equalFields_iff_forall₂ {fs gs : List (String × Json)} : equalFields fs gs = true ↔
    List.Forall₂ (fun f g => f.1 = g.1 ∧ f.2.equals g.2 = true) fs gs := by
  induction fs generalizing gs with
  | nil => cases gs <;> simp [equalFields]
  | cons f fs ih => cases gs <;> simp [equalFields, ih]

/-- Zeros of equal fields have the same signs exactly if they do field by field. -/
theorem zeroSignsOfFields_eq_iff_forall₂ {fs gs : List (String × Json)} :
    equalFields fs gs = true ∧ zeroSignsOfFields fs = zeroSignsOfFields gs ↔
      List.Forall₂ (fun f g =>
        f.1 = g.1 ∧ f.2.equals g.2 = true ∧ f.2.zeroSigns = g.2.zeroSigns) fs gs := by
  induction fs generalizing gs with
  | nil => cases gs <;> simp [equalFields]
  | cons f fs ih =>
    cases gs with
    | nil => simp [equalFields]
    | cons g gs =>
      rw [List.forall₂_cons, ← ih]
      simp only [equalFields, zeroSignsOfFields, Bool.and_eq_true, beq_iff_eq]
      constructor
      · rintro ⟨⟨⟨hkey, hx⟩, hfs⟩, hzeros⟩
        obtain ⟨hfirst, hothers⟩ := List.append_inj hzeros (length_zeroSigns hx)
        exact ⟨⟨hkey, hx, hfirst⟩, hfs, hothers⟩
      · rintro ⟨⟨hkey, hx, hfirst⟩, hfs, hothers⟩
        exact ⟨⟨⟨hkey, hx⟩, hfs⟩, by rw [hfirst, hothers]⟩

end Json

namespace ClassSpec
variable {a b : ClassSpec}

def zeroSigns (spec : ClassSpec) : List Bool := spec.toJson.zeroSigns

theorem equals_erase (key : String) (h : a.equals b = true) :
    (a.erase key).equals (b.erase key) = true :=
  Json.equalFields_iff_forall₂.2
    (Dict.forall₂_erase key (fun _ _ hfg => hfg.1) (Json.equalFields_iff_forall₂.1 h))

theorem zeroSigns_erase (key : String) (h : a.equals b = true) (hzeros : a.zeroSigns = b.zeroSigns) :
    (a.erase key).zeroSigns = (b.erase key).zeroSigns := by
  have hfields := Json.zeroSignsOfFields_eq_iff_forall₂.1 ⟨h, hzeros⟩
  have herased := Dict.forall₂_erase key (fun _ _ hfg => hfg.1) hfields
  exact (Json.zeroSignsOfFields_eq_iff_forall₂.2 herased).2

theorem canonicalText_eq_iff_of_equals (h : a.equals b = true) :
    a.canonicalText = b.canonicalText ↔ a.zeroSigns = b.zeroSigns := by
  rw [canonicalText_eq_text, canonicalText_eq_text]
  exact Json.text_eq_iff_of_equals h

theorem hashedBytes_eq_iff_canonicalText (version : VersionMarker) :
    a.hashedBytes version = b.hashedBytes version ↔
      (a.erase nameField).canonicalText = (b.erase nameField).canonicalText := by
  simp only [hashedBytes, List.append_cancel_left_eq, List.cons.injEq, true_and]
  exact ⟨Utf8.encode_injective, congrArg Utf8.encode⟩

/-- Equal classes have the same text, and the same bytes are hashed for them, exactly if the zeros in
the one have the signs that they have in the other; then their fingerprints are the same. -/
theorem equal_classes_differ_by_zeros (h : a.equals b = true) :
    (a.canonicalText = b.canonicalText ↔ a.zeroSigns = b.zeroSigns) ∧
    (∀ version, a.hashedBytes version = b.hashedBytes version ↔
      (a.erase nameField).zeroSigns = (b.erase nameField).zeroSigns) ∧
    (a.zeroSigns = b.zeroSigns → ∀ version, a.fingerprint version = b.fingerprint version) := by
  have hhashed : ∀ version, a.hashedBytes version = b.hashedBytes version ↔
      (a.erase nameField).zeroSigns = (b.erase nameField).zeroSigns := fun version => by
    rw [hashedBytes_eq_iff_canonicalText, canonicalText_eq_iff_of_equals (equals_erase nameField h)]
  refine ⟨canonicalText_eq_iff_of_equals h, hhashed, ?_⟩
  intro hzeros version
  have hbytes := (hhashed version).2 (zeroSigns_erase nameField h hzeros)
  rw [fingerprint_eq_suffix, fingerprint_eq_suffix, hbytes]

end ClassSpec

namespace Sample

def zero (negative : Bool) : Json := .number (.float (.zero negative))

def ratio (negative : Bool) : ClassSpec := .ofFields [("ratio", zero negative)]

theorem canonicalText_ratio (negative : Bool) :
    (ratio negative).canonicalText =
      if negative then "\x7b\"ratio\":-0.0\x7d" else "\x7b\"ratio\":0.0\x7d" := by
  cases negative <;> decide +kernel

/-- An object with one float, as it is read. -/
theorem read?_float (key : String) {c : Char} {cs : List Char} {x : Binary64}
    (hc : c = '-' ∨ c.isDigit = true)
    (hx : Json.numberNode? (c :: cs) = some (.scalar (.number (.float x)), ['\x7d'])) :
    Json.read? ('\x7b' :: (Json.quotedChars key.toList ++ ':' :: c :: cs)) =
      some (.mapping [(.scalar (.string key), .scalar (.number (.float x)))]) := by
  obtain ⟨fuel, hfuel⟩ : ∃ fuel,
      Json.fuelFor ('\x7b' :: (Json.quotedChars key.toList ++ ':' :: c :: cs)) = fuel + 3 :=
    ⟨Json.fuelFor ('\x7b' :: (Json.quotedChars key.toList ++ ':' :: c :: cs)) - 3, by
      simp only [Json.fuelFor, List.length_append, List.length_cons]
      omega⟩
  have hentry : Json.entry? (fuel + 2) 126 _ = _ :=
    Json.entry?_quoted key ((Json.node?_numeral fuel 126 hc).trans hx)
  have hends : Json.moreEntries? (fuel + 2) 126 ['\x7d'] = some ([], []) := by
    simp [Json.moreEntries?, Json.isSpace]
  rw [Json.read?, hfuel, Json.node?.eq_def]
  simp only [Json.quotedChars, List.cons_append, List.append_assoc, List.nil_append] at hentry ⊢
  simp [Json.depthLimit, Json.bounded, Json.isSpace, hentry, hends, Json.skipSpace]

theorem decode?_ratio {text : String} {c : Char} {cs : List Char} {negative : Bool}
    (htext : text.toList = '\x7b' :: (Json.quotedChars "ratio".toList ++ ':' :: c :: cs))
    (hc : c = '-' ∨ c.isDigit = true)
    (hx : Json.numberNode? (c :: cs) =
      some (.scalar (.number (.float (.zero negative))), ['\x7d'])) :
    Json.decode? ClassSpec.ofDocument? text = some (ratio negative) := by
  rw [Json.decode?, Json.document?, htext, read?_float "ratio" hc hx]
  rfl

/-- Under the name of a class the signs show in its text, but not in what is hashed. -/
theorem zero_as_name_hashed_alike :
    ((ratio true).insert ClassSpec.nameField (zero false)).equals
        ((ratio true).insert ClassSpec.nameField (zero true)) = true ∧
      ((ratio true).insert ClassSpec.nameField (zero false)).canonicalText ≠
        ((ratio true).insert ClassSpec.nameField (zero true)).canonicalText ∧
      ∀ version, ((ratio true).insert ClassSpec.nameField (zero false)).hashedBytes version =
        ((ratio true).insert ClassSpec.nameField (zero true)).hashedBytes version := by
  have hequal : ((ratio true).insert ClassSpec.nameField (zero false)).equals
      ((ratio true).insert ClassSpec.nameField (zero true)) = true := by decide +kernel
  obtain ⟨htext, hhashed, -⟩ := ClassSpec.equal_classes_differ_by_zeros hequal
  refine ⟨hequal, fun h => ?_, fun version => (hhashed version).2 ?_⟩
  · exact absurd (htext.1 h) (by decide +kernel)
  · decide +kernel

/-- The two zeros, as JSON text says them, make equal classes with two texts and two fingerprints. -/
theorem zeros_equal_but_hashed_apart :
    Json.decode? ClassSpec.ofDocument? "\x7b\"ratio\":0.0\x7d" = some (ratio false) ∧
      Json.decode? ClassSpec.ofDocument? "\x7b\"ratio\":-0.0\x7d" = some (ratio true) ∧
      (ratio false).equals (ratio true) = true ∧
      (ratio false).canonicalText ≠ (ratio true).canonicalText ∧
      (ratio false).fingerprint ⟨1, 29⟩ ≠ (ratio true).fingerprint ⟨1, 29⟩ := by
  have hsame (negative : Bool) : (ratio negative).erase ClassSpec.nameField = ratio negative := by
    cases negative <;> rfl
  refine ⟨decode?_ratio rfl (by decide) rfl, decode?_ratio rfl (by decide) rfl, by decide +kernel, ?_,
    ?_⟩
  · rw [canonicalText_ratio, canonicalText_ratio]
    decide
  · rw [ClassSpec.fingerprint_eq_suffix, ClassSpec.fingerprint_eq_suffix, ClassSpec.hashedBytes,
      ClassSpec.hashedBytes, hsame, hsame, canonicalText_ratio, canonicalText_ratio]
    decide +kernel

end Sample
end PoolPlan
