import PoolPlan.Json.Canonical

namespace PoolPlan.Json

theorem commaSeparated_cons_cons (t u : List Char) (rest : List (List Char)) :
    commaSeparated (t :: u :: rest) = t ++ ',' :: commaSeparated (u :: rest) := by
  simp [commaSeparated]

theorem keys_canonicalEntries (fs : List (String × Json)) :
    (canonicalEntries fs).map Prod.fst = Dict.keys fs := by
  induction fs with
  | nil => rfl
  | cons f fs ih =>
    obtain ⟨k, x⟩ := f
    simp only [canonicalEntries, List.map_cons, ih, Dict.keys]

/-- Entries that are in order already stay where they are. -/
theorem byName_of_ascending {α : Type} {entries : List (String × α)}
    (h : (entries.map Prod.fst).Pairwise (· < ·)) : byName entries = entries := by
  apply List.mergeSort_of_pairwise
  refine (List.pairwise_map.1 h).imp fun hlt => ?_
  exact decide_eq_true (Std.le_of_lt hlt)

mutual
theorem canonicalChars_of_sorted : {j : Json} → j.Sorted → j.canonicalChars = j.chars
  | .null, _ | .bool true, _ | .bool false, _ | .number _, _ | .string _, _ => by
    simp [canonicalChars, chars]
  | .array [], _ => rfl
  | .array (x :: xs), h => by
    have hx := canonicalChars_of_sorted h.1
    have hxs := commaSeparated_canonicalItems h.2 x.chars
    simp only [canonicalChars, canonicalItems, chars, hx, List.cons_append, hxs]
  | .object [], _ => by simp [canonicalChars, canonicalEntries, byName, commaSeparated, chars]
  | .object ((k, x) :: fs), h => by
    have hsame : byName (canonicalEntries ((k, x) :: fs)) = canonicalEntries ((k, x) :: fs) := by
      apply byName_of_ascending
      rw [keys_canonicalEntries]
      exact h.1
    have hx := canonicalChars_of_sorted h.2.1
    have hfs := commaSeparated_canonicalEntries h.2.2 (fieldChars (k, x.chars))
    rw [canonicalChars, hsame, canonicalEntries, List.map_cons, hx, List.cons_append, hfs, chars,
      fieldChars]
    simp only [List.append_assoc, List.cons_append]
theorem commaSeparated_canonicalItems : {xs : List Json} → SortedItems xs → (t : List Char) →
    commaSeparated (t :: canonicalItems xs) ++ [']'] = t ++ moreItems xs
  | [], _, t => by simp [canonicalItems, commaSeparated, moreItems]
  | x :: xs, h, t => by
    have hx := canonicalChars_of_sorted h.1
    have hxs := commaSeparated_canonicalItems h.2 x.chars
    simp only [canonicalItems, commaSeparated_cons_cons, hx, List.append_assoc, List.cons_append,
      hxs, moreItems]
theorem commaSeparated_canonicalEntries : {fs : List (String × Json)} → SortedFields fs →
    (t : List Char) →
    commaSeparated (t :: (canonicalEntries fs).map fieldChars) ++ ['\x7d'] = t ++ moreFields fs
  | [], _, t => by simp [canonicalEntries, commaSeparated, moreFields]
  | (k, x) :: fs, h, t => by
    have hx := canonicalChars_of_sorted h.1
    have hfs := commaSeparated_canonicalEntries h.2 (fieldChars (k, x.chars))
    rw [canonicalEntries, List.map_cons, commaSeparated_cons_cons, hx, List.append_assoc,
      List.cons_append, hfs, moreFields, fieldChars]
    simp only [List.append_assoc, List.cons_append]
end

theorem canonicalText_of_sorted {j : Json} (h : j.Sorted) : j.canonicalText = j.text := by
  rw [canonicalText, canonicalChars_of_sorted h, text]

end PoolPlan.Json
