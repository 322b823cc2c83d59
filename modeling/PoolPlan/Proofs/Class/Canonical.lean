import PoolPlan.Proofs.Class.Equality
import PoolPlan.Proofs.Rewriting
import PoolPlan.Status.Decoder

namespace PoolPlan

/-- A dictionary of values that is sorted at every depth is read back as itself. -/
theorem Document.dict?_ofJson {fields : Dict Json} (h : (Json.object fields).Sorted) :
    (ofJson (.object fields)).dict? value? = some fields := by
  have hvalues : ∀ f ∈ fields, ((ofJson f.2).value?).map (f.1, ·) = some f := fun f hf => by
    rw [value?_ofJson (Json.sortedFields_iff.1 h.2 f hf), Option.map_some]
  have hpairs := List.mapM_map_eq_some (fun f : String × Json => (f.1, ofJson f.2))
    (fun e => e.2.value?.map (e.1, ·)) id fields hvalues
  rw [dict?, entries?_ofJson]
  simp only [bind, Option.bind_some]
  rw [hpairs, Option.bind_some, List.map_id, Dict.ofList_of_ascending h.1]
  rfl

namespace ClassSpec
variable {spec : ClassSpec}

theorem ofDocument?_toJson (spec : ClassSpec) : ofDocument? (.ofJson spec.toJson) = some spec := by
  rw [ofDocument?, toJson, Document.dict?_ofJson spec.sorted, Option.map_some, ofFields_fields]

/-- With room for its depth, what is read from the canonical text are the fields as they are kept. -/
theorem readWithin?_canonicalText (h : spec.Exact) {room : Nat} (hroom : spec.toJson.depth ≤ room) :
    Json.readWithin? room spec.canonicalText.toList = some (.ofJson spec.toJson) := by
  rw [canonicalText_eq_text, Json.text, String.toList_ofList]
  exact Json.readWithin?_chars h hroom

/-- A class whose numbers are integers of 64 bits is written as compact JSON, in which every object at
every depth names its fields in strictly ascending order. If the reader has room for its depth it reads
that class again, and the class has the same bytes again. -/
theorem canonical_text_faithful (h : spec.Exact) :
    (∀ room, spec.toJson.depth ≤ room → ∃ value : Json,
      Json.readWithin? room spec.canonicalText.toList = some (.ofJson value) ∧ value.Sorted) ∧
    Utf8.encode spec.canonicalText = spec.toJson.bytes ∧
    (spec.toJson.depth ≤ Json.depthLimit → ∃ again : ClassSpec,
      Json.decode? ofDocument? spec.canonicalText = some again ∧
        again = spec ∧ again.equals spec = true ∧
        Utf8.encode again.canonicalText = Utf8.encode spec.canonicalText) := by
  refine ⟨?_, ?_, ?_⟩
  · intro room hroom
    exact ⟨spec.toJson, readWithin?_canonicalText h hroom, spec.sorted⟩
  · rw [canonicalText_eq_text, Json.bytes]
  · intro hdepth
    have hread : Json.decode? ofDocument? spec.canonicalText = some spec := by
      rw [canonicalText_eq_text, Json.decode?, Json.document?_text ⟨h, hdepth⟩, Option.bind_some,
        ofDocument?_toJson]
    exact ⟨spec, hread, rfl, (equals_iff_eq h).2 rfl, rfl⟩

end ClassSpec

namespace Sample

/-- Names from both sides of the surrogates, escapes, empty containers and integers from both ends. -/
def nested : ClassSpec := .ofFields [
  ("😀", .array [.integer (-9223372036854775808), .integer 18446744073709551615, .array []]),
  ("\uffff", .object [("b", .null), ("a\"\n", .string "\\\u0001\u2028"), ("", .object [])])]

theorem exact_nested : nested.Exact := by
  apply ClassSpec.exact_ofFields
  simp only [Json.ExactFields, Json.Exact, Json.ExactItems, Json.integer, and_true]
  exact ⟨⟨-9223372036854775808, rfl⟩, ⟨18446744073709551615, rfl⟩⟩

theorem nested_read_again :
    nested.canonicalText =
      "\x7b\"\uffff\":\x7b\"\":\x7b\x7d,\"a\\\"\\n\":\"\\\\\\u0001\u2028\",\"b\":null\x7d," ++
        "\"😀\":[-9223372036854775808,18446744073709551615,[]]\x7d" ∧
      nested.Exact ∧ nested.toJson.depth ≤ Json.depthLimit ∧
      ∃ again : ClassSpec, Json.decode? ClassSpec.ofDocument? nested.canonicalText = some again ∧
        again = nested := by
  have hdepth : nested.toJson.depth ≤ Json.depthLimit := by decide +kernel
  obtain ⟨-, -, hread⟩ := ClassSpec.canonical_text_faithful exact_nested
  obtain ⟨again, hagain, hsame, -⟩ := hread hdepth
  refine ⟨?_, exact_nested, hdepth, again, hagain, hsame⟩
  rw [ClassSpec.canonicalText_eq_text]
  decide +kernel

end Sample
end PoolPlan
