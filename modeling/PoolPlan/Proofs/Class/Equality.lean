import PoolPlan.Proofs.Class.Fingerprint

namespace PoolPlan

namespace Json

mutual
/-- An exact value equals itself alone. -/
theorem equals_iff_eq : (a : Json) → a.Exact → (b : Json) → (a.equals b = true ↔ a = b)
  | .null, _, b | .bool _, _, b | .string _, _, b => by cases b <;> simp [equals]
  | .number n, h, b => by
    obtain ⟨i, hi⟩ := h
    obtain rfl := ofInt?_eq_some hi
    -- A float equals no integer, whatever its value is.
    cases b with
    | number m => cases m <;> simp [equals, Number.equals]
    | _ => simp [equals]
  | .array xs, h, b => by
    cases b with
    | array ys => simp only [equals, array.injEq, equalItems_iff_eq xs h ys]
    | _ => simp [equals]
  | .object fs, h, b => by
    cases b with
    | object gs => simp only [equals, object.injEq, equalFields_iff_eq fs h gs]
    | _ => simp [equals]
theorem equalItems_iff_eq : (xs : List Json) → ExactItems xs → (ys : List Json) →
    (equalItems xs ys = true ↔ xs = ys)
  | [], _, ys => by cases ys <;> simp [equalItems]
  | x :: xs, h, ys => by
    cases ys with
    | nil => simp [equalItems]
    | cons y ys =>
      simp [equalItems, equals_iff_eq x h.1 y, equalItems_iff_eq xs h.2 ys]
theorem equalFields_iff_eq : (fs : List (String × Json)) → ExactFields fs →
    (gs : List (String × Json)) → (equalFields fs gs = true ↔ fs = gs)
  | [], _, gs => by cases gs <;> simp [equalFields]
  | (k, x) :: fs, h, gs => by
    cases gs with
    | nil => simp [equalFields]
    | cons g gs =>
      obtain ⟨l, y⟩ := g
      simp [equalFields, equals_iff_eq x h.1 y, equalFields_iff_eq fs h.2 gs]
end

end Json

namespace ClassSpec
variable {a b : ClassSpec}

theorem equals_iff_eq (ha : a.Exact) : a.equals b = true ↔ a = b := by
  rw [equals, Json.equals_iff_eq a.toJson ha]
  exact ⟨toJson_injective, congrArg toJson⟩

/-- Without the field of a key classes are equal if they agree in every other one. -/
theorem erase_eq_erase_iff {key : String} :
    a.erase key = b.erase key ↔ ∀ k, k ≠ key → a.get? k = b.get? k := by
  constructor
  · intro h k hk
    have hget := congrArg (fun spec => get? spec k) h
    simpa [hk] using hget
  · intro h
    apply ext
    intro k
    by_cases hk : k = key
    · simp [hk]
    · simpa [hk] using h k hk

/-- The hashed bytes are the same exactly for the same version and fields that are equal apart from
the name of the class. A name further inside counts. -/
theorem hashed_bytes_determine_class (ha : a.Exact) (hb : b.Exact) (v w : VersionMarker) :
    (a.hashedBytes v = b.hashedBytes w ↔
        v = w ∧ (a.erase nameField).equals (b.erase nameField) = true) ∧
      ((a.erase nameField).equals (b.erase nameField) = true ↔
        ∀ key, key ≠ nameField → a.get? key = b.get? key) := by
  rw [equals_iff_eq (exact_erase ha nameField)]
  refine ⟨⟨hashedBytes_inj ha hb, ?_⟩, erase_eq_erase_iff⟩
  rintro ⟨rfl, h⟩
  rw [hashedBytes, hashedBytes, h]

end ClassSpec

namespace Sample

def named (name inner : String) : ClassSpec := .ofFields [
  (ClassSpec.nameField, .string name),
  ("limits", .array [.integer (-9223372036854775808), .integer 18446744073709551615, .array []]),
  ("owner", .object [(ClassSpec.nameField, .string inner)])]

theorem exact_named (name inner : String) : (named name inner).Exact := by
  apply ClassSpec.exact_ofFields
  simp only [Json.ExactFields, Json.Exact, Json.ExactItems, Json.integer, and_true, true_and]
  exact ⟨⟨-9223372036854775808, rfl⟩, ⟨18446744073709551615, rfl⟩⟩

theorem owner_named (name inner : String) :
    (named name inner).get? "owner" = some (.object [(ClassSpec.nameField, .string inner)]) := by
  rw [named, ClassSpec.get?_ofFields]
  rfl

/-- Another name makes no difference, but another name inside does, were it only for a quote. -/
theorem inner_name_counts :
    (named "a" "x").hashedBytes ⟨1, 29⟩ = (named "b" "x").hashedBytes ⟨1, 29⟩ ∧
      (named "a" "x").hashedBytes ⟨1, 29⟩ ≠ (named "a" "x\"").hashedBytes ⟨1, 29⟩ ∧
      (named "a" "x").hashedBytes ⟨1, 29⟩ ≠ (named "a" "x").hashedBytes ⟨12, 9⟩ := by
  have hx (name : String) := exact_named name "x"
  refine ⟨?_, fun h => ?_, fun h => ?_⟩
  · obtain ⟨hbytes, hequal⟩ :=
      ClassSpec.hashed_bytes_determine_class (hx "a") (hx "b") ⟨1, 29⟩ ⟨1, 29⟩
    refine hbytes.2 ⟨rfl, hequal.2 fun key hk => ?_⟩
    simp only [named, ClassSpec.get?_ofFields, List.reverse_cons, List.reverse_nil, List.nil_append,
      List.cons_append, List.lookup_cons, beq_false_of_ne hk]
  · obtain ⟨hbytes, hequal⟩ := ClassSpec.hashed_bytes_determine_class (hx "a")
      (exact_named "a" "x\"") ⟨1, 29⟩ ⟨1, 29⟩
    have howner := hequal.1 (hbytes.1 h).2 "owner" (by decide)
    rw [owner_named, owner_named] at howner
    simp at howner
  · obtain ⟨hbytes, -⟩ :=
      ClassSpec.hashed_bytes_determine_class (hx "a") (hx "a") ⟨1, 29⟩ ⟨12, 9⟩
    exact absurd (hbytes.1 h).1 (by decide)

end Sample
end PoolPlan
