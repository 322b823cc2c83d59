import PoolPlan.Proofs.Yaml.Compact
import PoolPlan.Yaml.Reader

namespace PoolPlan

namespace Yaml.Node

mutual
def ofJson : Json → Node
  | .string s => .scalar none none s .quoted
  | .array items => .sequence none none (ofItems items)
  | .object fields => .mapping none none (ofFields fields)
  | j => .scalar none none j.text .plain
def ofItems : List Json → List Node
  | [] => []
  | x :: xs => ofJson x :: ofItems xs
def ofFields : List (String × Json) → List (Node × Node)
  | [] => []
  | (k, x) :: fs => (.scalar none none k .quoted, ofJson x) :: ofFields fs
end

def IsOpening : Token → Prop
  | .scalar .. | .flowSequence | .flowMapping => True
  | _ => False

theorem exists_tokens_cons (j : Json) : ∃ t ts, j.tokens = t :: ts ∧ IsOpening t := by
  cases j with
  | array xs => cases xs <;> exact ⟨_, _, rfl, trivial⟩
  | object fs => cases fs <;> exact ⟨_, _, rfl, trivial⟩
  | _ => exact ⟨_, _, rfl, trivial⟩

variable {handles : List (String × String)} {anchors : List (String × Nat)} {fuel : Nat}

def separator (first : Bool) : List Token := if first then [] else [.flowEntry]

section Steps
variable {t : Token} {ts rest last : List Token} {value : Node}

theorem node?_flowSequence {items : List Node} (block unindented : Bool)
    (h : flowItems? fuel true ⟨handles, anchors, ts⟩ = some (items, ⟨handles, anchors, rest⟩)) :
    node? (fuel + 1) block unindented ⟨handles, anchors, .flowSequence :: ts⟩ =
      some (.sequence none none items, ⟨handles, anchors, rest⟩) := by
  simp [node?, properties?, Source.drop, h]

theorem node?_flowMapping {entries : List (Node × Node)} (block unindented : Bool)
    (h : flowEntries? fuel true ⟨handles, anchors, ts⟩ = some (entries, ⟨handles, anchors, rest⟩)) :
    node? (fuel + 1) block unindented ⟨handles, anchors, .flowMapping :: ts⟩ =
      some (.mapping none none entries, ⟨handles, anchors, rest⟩) := by
  simp [node?, properties?, Source.drop, h]

theorem flowItems?_item {items : List Node} (ht : IsOpening t) (first : Bool)
    (hitem : node? fuel false false ⟨handles, anchors, t :: ts⟩ =
      some (value, ⟨handles, anchors, rest⟩))
    (hmore : flowItems? fuel false ⟨handles, anchors, rest⟩ = some (items, ⟨handles, anchors, last⟩)) :
    flowItems? (fuel + 1) first ⟨handles, anchors, separator first ++ t :: ts⟩ =
      some (value :: items, ⟨handles, anchors, last⟩) := by
  cases t <;> first
    | exact absurd ht id
    | cases first <;> simp [flowItems?, separator, Source.drop, hitem, hmore]

theorem nextIs_of_isOpening (ht : IsOpening t) {kinds : List Token}
    (hkinds : ∀ k ∈ kinds, ¬IsOpening k) :
    (⟨handles, anchors, t :: ts⟩ : Source).nextIs kinds = false := by
  change kinds.contains t = false
  rw [List.contains_eq_mem, decide_eq_false_iff_not]
  exact fun hmem => hkinds t hmem ht

theorem flowEntries?_entry {entries : List (Node × Node)} (ht : IsOpening t) (first : Bool)
    (key : String)
    (hvalue : node? fuel false false ⟨handles, anchors, t :: ts⟩ =
      some (value, ⟨handles, anchors, rest⟩))
    (hmore : flowEntries? (fuel + 2) false ⟨handles, anchors, rest⟩ =
      some (entries, ⟨handles, anchors, last⟩)) :
    flowEntries? (fuel + 3) first ⟨handles, anchors,
        separator first ++ .key :: .scalar key .quoted :: .value :: t :: ts⟩ =
      some ((.scalar none none key .quoted, value) :: entries, ⟨handles, anchors, last⟩) := by
  have hkey : optionalNode? (fuel + 2) false false [.value, .flowEntry, .flowMappingEnd]
      ⟨handles, anchors, .scalar key .quoted :: .value :: t :: ts⟩ =
      some (.scalar none none key .quoted, ⟨handles, anchors, .value :: t :: ts⟩) := rfl
  have hgiven : valueOf? (fuel + 2) false [.flowEntry, .flowMappingEnd]
      ⟨handles, anchors, .value :: t :: ts⟩ = some (value, ⟨handles, anchors, rest⟩) := by
    have hnext : (⟨handles, anchors, t :: ts⟩ : Source).nextIs [.flowEntry, .flowMappingEnd] = false :=
      nextIs_of_isOpening ht (by simp [IsOpening])
    simp [valueOf?, optionalNode?, Source.drop, hnext, hvalue]
  unfold flowEntries?
  cases first <;> simp [separator, Source.drop, hkey, hgiven, hmore]

end Steps

mutual
/-- The tokens of a value are read as its node, and what follows them is left. -/
theorem node?_tokens : (j : Json) → {fuel : Nat} → (block unindented : Bool) → (rest : List Token) →
    2 * j.tokens.length ≤ fuel →
    node? fuel block unindented ⟨handles, anchors, j.tokens ++ rest⟩ =
      some (ofJson j, ⟨handles, anchors, rest⟩)
  | .null, fuel + 1, _, _, _, _ | .bool _, fuel + 1, _, _, _, _ | .number _, fuel + 1, _, _, _, _
  | .string _, fuel + 1, _, _, _, _ | .array [], fuel + 2, _, _, _, _
  | .object [], fuel + 2, _, _, _, _ => rfl
  | .array (x :: xs), fuel, block, unindented, rest, hfuel => by
    simp only [Json.tokens, List.length_append, List.length_cons] at hfuel
    obtain ⟨n, rfl⟩ : ∃ n, fuel = n + 2 := ⟨fuel - 2, by omega⟩
    obtain ⟨t, ts, htokens, ht⟩ := exists_tokens_cons x
    have hitem := node?_tokens x false false (Json.moreItemTokens xs ++ rest) (show _ ≤ n by omega)
    have hmore := flowItems?_tokens xs rest (show _ ≤ n by omega)
    rw [htokens] at hitem
    have hsequence := node?_flowSequence block unindented (flowItems?_item ht true hitem hmore)
    rw [Json.tokens, htokens, ofJson]
    simpa [separator, ofItems, ofFields] using hsequence
  | .object ((k, x) :: fs), fuel, block, unindented, rest, hfuel => by
    -- the value is read four calls deeper than its mapping, which two steps a token leave room for
    simp only [Json.tokens, List.length_append, List.length_cons] at hfuel
    obtain ⟨n, rfl⟩ : ∃ n, fuel = n + 4 := ⟨fuel - 4, by omega⟩
    obtain ⟨t, ts, htokens, ht⟩ := exists_tokens_cons x
    have hvalue := node?_tokens x false false (Json.moreFieldTokens fs ++ rest) (show _ ≤ n by omega)
    have hmore := flowEntries?_tokens fs rest (show _ ≤ n + 2 by omega)
    rw [htokens] at hvalue
    have hmapping := node?_flowMapping block unindented (flowEntries?_entry ht true k hvalue hmore)
    rw [Json.tokens, htokens, ofJson]
    simpa [separator, ofItems, ofFields] using hmapping
theorem flowItems?_tokens : (xs : List Json) → {fuel : Nat} → (rest : List Token) →
    2 * (Json.moreItemTokens xs).length ≤ fuel →
    flowItems? fuel false ⟨handles, anchors, Json.moreItemTokens xs ++ rest⟩ =
      some (ofItems xs, ⟨handles, anchors, rest⟩)
  | [], fuel + 1, _, _ => rfl
  | x :: xs, fuel, rest, hfuel => by
    simp only [Json.moreItemTokens, List.length_append, List.length_cons] at hfuel
    obtain ⟨n, rfl⟩ : ∃ n, fuel = n + 1 := ⟨fuel - 1, by omega⟩
    obtain ⟨t, ts, htokens, ht⟩ := exists_tokens_cons x
    have hitem := node?_tokens x false false (Json.moreItemTokens xs ++ rest) (show _ ≤ n by omega)
    have hmore := flowItems?_tokens xs rest (show _ ≤ n by omega)
    rw [htokens] at hitem
    have hitems := flowItems?_item ht false hitem hmore
    rw [Json.moreItemTokens, htokens, ofItems]
    simpa [separator] using hitems
theorem flowEntries?_tokens : (fs : List (String × Json)) → {fuel : Nat} → (rest : List Token) →
    2 * (Json.moreFieldTokens fs).length ≤ fuel →
    flowEntries? fuel false ⟨handles, anchors, Json.moreFieldTokens fs ++ rest⟩ =
      some (ofFields fs, ⟨handles, anchors, rest⟩)
  | [], fuel + 1, _, _ => rfl
  | (k, x) :: fs, fuel, rest, hfuel => by
    simp only [Json.moreFieldTokens, List.length_append, List.length_cons] at hfuel
    obtain ⟨n, rfl⟩ : ∃ n, fuel = n + 3 := ⟨fuel - 3, by omega⟩
    obtain ⟨t, ts, htokens, ht⟩ := exists_tokens_cons x
    have hvalue := node?_tokens x false false (Json.moreFieldTokens fs ++ rest) (show _ ≤ n by omega)
    have hmore := flowEntries?_tokens fs rest (show _ ≤ n + 2 by omega)
    rw [htokens] at hvalue
    have hentries := flowEntries?_entry ht false k hvalue hmore
    rw [Json.moreFieldTokens, htokens, ofFields]
    simpa [separator] using hentries
end

/-- The node of a text that holds one value. -/
theorem ofTokens?_tokens (j : Json) : ofTokens? j.tokens = some (ofJson j) := by
  have hroot : root? [] j.tokens = some (ofJson j, []) := by
    have hnode : node? (4 * j.tokens.length + 4) true false ⟨[] ++ standardHandles, [], j.tokens ++ []⟩ =
        some (ofJson j, ⟨[] ++ standardHandles, [], []⟩) :=
      node?_tokens j true false [] (by omega)
    rw [List.append_nil] at hnode
    simp only [root?, hnode, bind, Option.bind_some, pure]
  obtain ⟨t, ts, htokens, ht⟩ := exists_tokens_cons j
  rw [htokens] at hroot ⊢
  cases t <;> first | exact absurd ht id | simp [ofTokens?, hroot]

end Yaml.Node

mutual
def Document.ofYaml : Json → Document
  | .string s => .scalar (.written s false none)
  | .array items => .sequence false (ofYamlItems items)
  | .object fields => .mapping (ofYamlFields fields)
  | j => .scalar (.written j.text true none)
def Document.ofYamlItems : List Json → List Document
  | [] => []
  | x :: xs => ofYaml x :: ofYamlItems xs
def Document.ofYamlFields : List (String × Json) → List (Document × Document)
  | [] => []
  | (k, x) :: fs => (.scalar (.written k false none), ofYaml x) :: ofYamlFields fs
end

namespace Yaml

section Expansion
variable (anchored : List (Nat × Node))

def expandEntry (room : Nat) (e : Node × Node) : StateM Nat (Document × Document) :=
  return (← e.1.expand anchored room, ← e.2.expand anchored room)

/-- Items are expanded one after the other. -/
theorem mapM_cons_state {α β : Type} {f : α → StateM Nat β} {a : α} {as : List α} {b : β} {bs : List β}
    {aliases : Nat} (ha : f a aliases = (b, aliases)) (has : as.mapM f aliases = (bs, aliases)) :
    (a :: as).mapM f aliases = (b :: bs, aliases) := by
  rw [List.mapM_cons]
  simp only [bind, StateT.bind, ha, has]
  rfl

mutual
/-- A node of compact text has no aliases, so it stands for itself. -/
theorem expand_ofJson : (j : Json) → (room : Nat) → j.depth ≤ room → (aliases : Nat) →
    (Node.ofJson j).expand anchored room aliases = (.ofYaml j, aliases)
  | .null, _, _, _ | .bool _, _, _, _ | .number _, _, _, _ | .string _, _, _, _ => by
    rw [Node.expand.eq_def]
    rfl
  | .array xs, room + 1, hd, aliases => by
    have hitems := mapM_expand_ofItems xs room (Nat.le_of_succ_le_succ hd) aliases
    rw [Node.expand.eq_def]
    change (match (Node.ofItems xs).mapM (Node.expand anchored room) aliases with
      | (items, aliases) => (Document.sequence false items, aliases)) = _
    rw [hitems, Document.ofYaml]
  | .object fs, room + 1, hd, aliases => by
    have hentries := mapM_expand_ofFields fs room (Nat.le_of_succ_le_succ hd) aliases
    rw [Node.expand.eq_def]
    change (match (Node.ofFields fs).mapM (expandEntry anchored room) aliases with
      | (entries, aliases) => (Document.mapping entries, aliases)) = _
    rw [hentries, Document.ofYaml]
theorem mapM_expand_ofItems : (xs : List Json) → (room : Nat) → Json.depthItems xs ≤ room →
    (aliases : Nat) →
    (Node.ofItems xs).mapM (Node.expand anchored room) aliases = (Document.ofYamlItems xs, aliases)
  | [], _, _, _ => rfl
  | x :: xs, room, hd, aliases =>
    mapM_cons_state (expand_ofJson x room (Nat.le_trans (Nat.le_max_left ..) hd) aliases)
      (mapM_expand_ofItems xs room (Nat.le_trans (Nat.le_max_right ..) hd) aliases)
theorem mapM_expand_ofFields : (fs : List (String × Json)) → (room : Nat) →
    Json.depthFields fs ≤ room → (aliases : Nat) →
    (Node.ofFields fs).mapM (expandEntry anchored room) aliases =
      (Document.ofYamlFields fs, aliases)
  | [], _, _, _ => rfl
  | (k, x) :: fs, room, hd, aliases => by
    have hx := expand_ofJson x room (Nat.le_trans (Nat.le_max_left ..) hd) aliases
    have hk := expand_ofJson (.string k) room (Nat.zero_le room) aliases
    refine mapM_cons_state ?_
      (mapM_expand_ofFields fs room (Nat.le_trans (Nat.le_max_right ..) hd) aliases)
    rw [Node.ofJson] at hk
    simp only [expandEntry, bind, StateT.bind, hk, hx]
    rfl
end

end Expansion

/-- Compact text of a container is read as its document. -/
theorem document?_text {j : Json} (hj : j.IsContainer) (hx : j.Exact) (hq : j.Quotable)
    (hd : j.depth ≤ Node.depthLimit) : document? j.text = some (.ofYaml j) := by
  rw [document?, Json.text, String.toList_ofList, read?, Json.tokens?_chars hj hx hq]
  simp only [bind, Option.bind_some, Node.ofTokens?_tokens, Node.toDocument,
    expand_ofJson _ j _ hd, pure]

end Yaml
end PoolPlan
