import PoolPlan.Proofs.Json.ReadBack

namespace PoolPlan.Json

@[simp] theorem skipSpace_blank (cs : List Char) : skipSpace (' ' :: cs) = skipSpace cs := rfl

@[simp] theorem skipSpace_newLine (depth : Nat) (cs : List Char) :
    skipSpace (newLine depth ++ cs) = skipSpace cs := by
  apply List.dropWhile_append_of_pos
  intro c hc
  rcases List.mem_cons.1 hc with rfl | hc
  · rfl
  · rw [List.eq_of_mem_replicate hc]
    rfl

/-- White space in front of a value is of no account. -/
theorem node?_congr {cs ds : List Char} (h : skipSpace cs = skipSpace ds) (fuel room : Nat) :
    node? fuel room cs = node? fuel room ds := by
  cases fuel with
  | zero => simp only [node?]
  | succ fuel => simp only [node?.eq_def (fuel + 1), h]

theorem entry?_congr {cs ds : List Char} (h : skipSpace cs = skipSpace ds) (fuel room : Nat) :
    entry? fuel room cs = entry? fuel room ds := by
  cases fuel with
  | zero => simp only [ entry?]
  | succ fuel => simp only [ entry?, h]

/-- Laid out text begins like compact text. -/
theorem layout_cons {j : Json} (h : j.Exact) (depth : Nat) :
    ∃ c cs, j.layout depth = c :: cs ∧ Opens c := by
  have hbracket : Opens '[' := ⟨by decide, by decide, by decide⟩
  have hbrace : Opens '\x7b' := ⟨by decide, by decide, by decide⟩
  cases j with
  | array items => cases items <;> exact ⟨_, _, rfl, hbracket⟩
  | object fields => rcases fields with _ | ⟨⟨k, x⟩, fs⟩ <;> exact ⟨_, _, rfl, hbrace⟩
  | _ => exact chars_cons h

theorem delimited_layoutItems (depth : Nat) (xs : List Json) (rest : List Char) :
    Delimited (layoutItems depth xs ++ rest) := by
  cases xs <;> exact delimited_cons (by decide)

theorem delimited_layoutFields (depth : Nat) (fs : List (String × Json)) (rest : List Char) :
    Delimited (layoutFields depth fs ++ rest) := by
  rcases fs with _ | ⟨⟨k, x⟩, fs⟩ <;> exact delimited_cons (by decide)

mutual
/-- Laid out, too, a value is read as its document. -/
theorem node?_layout : (j : Json) → j.Exact → (depth fuel room : Nat) → (rest : List Char) →
    2 * (j.layout depth).length ≤ fuel → j.depth ≤ room → Delimited rest →
    node? fuel room (j.layout depth ++ rest) = some (.ofJson j, rest)
  | .null, h, _, fuel, room, rest, hf, hd, hr => node?_chars .null h fuel room rest hf hd hr
  | .bool b, h, _, fuel, room, rest, hf, hd, hr => node?_chars (.bool b) h fuel room rest hf hd hr
  | .number n, h, _, fuel, room, rest, hf, hd, hr =>
    node?_chars (.number n) h fuel room rest hf hd hr
  | .string s, h, _, fuel, room, rest, hf, hd, hr =>
    node?_chars (.string s) h fuel room rest hf hd hr
  | .array [], h, _, fuel, room, rest, hf, hd, hr => node?_chars (.array []) h fuel room rest hf hd hr
  | .object [], h, _, fuel, room, rest, hf, hd, hr =>
    node?_chars (.object []) h fuel room rest hf hd hr
  | .array (x :: xs), h, level, fuel + 1, room + 1, rest, hf, hd, _ => by
    simp only [layout, List.length_append, List.length_cons] at hf
    simp only [depth, depthItems] at hd
    obtain ⟨c, cs, he, hc⟩ := layout_cons h.1 (level + 1)
    have hx := node?_layout x h.1 (level + 1) fuel room (layoutItems level xs ++ rest) (by omega)
      (by omega) (delimited_layoutItems level xs rest)
    have hxs := moreNodes?_layoutItems xs h.2 level fuel room rest (by omega) (by omega)
    rw [he, List.cons_append] at hx
    simp only [layout, he, List.cons_append, List.append_assoc]
    rw [node?.eq_def]
    simp [isSpace, skipSpace_cons hc.1, hc.2.1, hx, hxs, bounded, Document.ofJson,
      Document.ofItems]
  | .object ((k, x) :: fs), h, level, fuel + 2, room + 1, rest, hf, hd, _ => by
    simp only [layout, quotedChars, List.length_append, List.length_cons] at hf
    simp only [depth, depthFields] at hd
    have hx := node?_layout x h.1 (level + 1) fuel room (layoutFields level fs ++ rest) (by omega)
      (by omega) (delimited_layoutFields level fs rest)
    have hfs := moreEntries?_layoutFields fs h.2 level (fuel + 1) room rest (by omega) (by omega)
    have he := entry?_quoted k ((node?_congr (skipSpace_blank _) fuel room).trans hx)
    simp only [layout, quotedChars, List.cons_append, List.append_assoc, List.nil_append] at he ⊢
    rw [node?.eq_def]
    simp only [skipSpace_cons (show isSpace '\x7b' = false by decide), skipSpace_newLine,
      skipSpace_cons (show isSpace '"' = false by decide)]
    simp [bounded, he, hfs, Document.ofJson, Document.ofFields]
theorem moreNodes?_layoutItems : (xs : List Json) → ExactItems xs → (depth fuel room : Nat) →
    (rest : List Char) → 2 * (layoutItems depth xs).length ≤ fuel → depthItems xs ≤ room →
    moreNodes? fuel room (layoutItems depth xs ++ rest) = some (Document.ofItems xs, rest)
  | [], _, _, fuel + 1, room, rest, _, _ => by
    simp [moreNodes?, layoutItems, Document.ofItems, skipSpace_cons (show isSpace ']' = false by decide)]
  | x :: xs, h, level, fuel + 1, room, rest, hf, hd => by
    simp only [layoutItems, List.length_append, List.length_cons] at hf
    simp only [depthItems] at hd
    have hx := node?_layout x h.1 (level + 1) fuel room (layoutItems level xs ++ rest) (by omega)
      (by omega) (delimited_layoutItems level xs rest)
    have hxs := moreNodes?_layoutItems xs h.2 level fuel room rest (by omega) (by omega)
    have hnext := (node?_congr (skipSpace_newLine (level + 1) _) fuel room).trans hx
    simp [moreNodes?, layoutItems, isSpace, hnext, hxs, Document.ofItems]
theorem moreEntries?_layoutFields : (fs : List (String × Json)) → ExactFields fs →
    (depth fuel room : Nat) → (rest : List Char) → 2 * (layoutFields depth fs).length ≤ fuel →
    depthFields fs ≤ room →
    moreEntries? fuel room (layoutFields depth fs ++ rest) = some (Document.ofFields fs, rest)
  | [], _, _, fuel + 1, room, rest, _, _ => by
    simp [moreEntries?, layoutFields, Document.ofFields,
      skipSpace_cons (show isSpace '\x7d' = false by decide)]
  | (k, x) :: fs, h, level, fuel + 2, room, rest, hf, hd => by
    simp only [layoutFields, quotedChars, List.length_append, List.length_cons] at hf
    simp only [depthFields] at hd
    have hx := node?_layout x h.1 (level + 1) fuel room (layoutFields level fs ++ rest) (by omega)
      (by omega) (delimited_layoutFields level fs rest)
    have hfs := moreEntries?_layoutFields fs h.2 level (fuel + 1) room rest (by omega) (by omega)
    have he := entry?_quoted k ((node?_congr (skipSpace_blank _) fuel room).trans hx)
    have hnext := ( entry?_congr (skipSpace_newLine (level + 1) _) (fuel + 1) room).trans he
    simp only [layoutFields, List.cons_append, List.append_assoc, List.nil_append] at hnext ⊢
    rw [moreEntries?.eq_def]
    simp [isSpace, hnext, hfs, Document.ofFields]
end

/-- A value is read back from its laid out text, with a line break after it. -/
theorem document?_pretty {j : Json} (h : j.Exact) (hd : j.depth ≤ depthLimit) :
    document? (j.pretty ++ "\n") = some (.ofJson j) := by
  have hn := node?_layout j h 0 (fuelFor (j.layout 0 ++ ['\n'])) depthLimit ['\n']
    (by simp only [fuelFor, List.length_append]; omega) hd (delimited_cons (by decide))
  have hchars : (j.pretty ++ "\n").toList = j.layout 0 ++ ['\n'] := by
    rw [String.toList_append, pretty, String.toList_ofList]
    rfl
  rw [document?, hchars, read?, hn]
  rfl

end PoolPlan.Json
