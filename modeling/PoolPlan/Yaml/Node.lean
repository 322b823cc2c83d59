import PoolPlan.Yaml.Token

namespace PoolPlan.Yaml

inductive Node where
  | scalar (anchor : Option Nat) (tag : Option String) (text : String) (style : Style)
  | sequence (anchor : Option Nat) (tag : Option String) (items : List Node)
  | mapping (anchor : Option Nat) (tag : Option String) (entries : List (Node × Node))
  /-- Stands for the node with that anchor. -/
  | alias (anchor : Nat)
deriving Repr

namespace Node

def missing : Node := .scalar none none "" .plain

/-- What is known while nodes are read: the beginnings of tags by handle, the anchors named so far, and
the tokens still to come. Anchors are numbered by how many names there were before. -/
structure Source where
  handles : List (String × String)
  anchors : List (String × Nat)
  tokens : List Token

namespace Source

/-- The kinds of tokens before which a node may be left out. -/
def nextIs (s : Source) (kinds : List Token) : Bool :=
  match s.tokens with
  | [] => false
  | t :: _ => kinds.contains t

def drop (s : Source) (n : Nat) : Source := { s with tokens := s.tokens.drop n }

def anchor (s : Source) (name : String) : Nat × Source :=
  let id := s.anchors.length
  (id, { s with anchors := (name, id) :: s.anchors.filter (fun a => a.1 != name) })

def tag? (s : Source) (handle suffix : String) : Option String :=
  if handle = "" then some suffix else (s.handles.lookup handle).map (· ++ suffix)

end Source

structure Properties where
  anchor : Option Nat
  tag : Option String

def properties? (s : Source) : Option (Properties × Source) :=
  match s.tokens with
  | .anchor name :: .tag handle suffix :: _ => do
    let tag ← s.tag? handle suffix
    let (id, s) := s.anchor name
    return (⟨some id, some tag⟩, s.drop 2)
  | .anchor name :: _ =>
    let (id, s) := s.anchor name
    some (⟨some id, none⟩, s.drop 1)
  | .tag handle suffix :: .anchor name :: _ => do
    let tag ← s.tag? handle suffix
    let (id, s) := s.anchor name
    return (⟨some id, some tag⟩, s.drop 2)
  | .tag handle suffix :: _ => do
    let tag ← s.tag? handle suffix
    return (⟨none, some tag⟩, s.drop 1)
  | _ => some (⟨none, none⟩, s)

/-- A scalar. The tag of a lone exclamation mark says nothing about it. -/
def ofScalar (p : Properties) (text : String) (style : Style) : Node :=
  .scalar p.anchor (if p.tag = some "!" then none else p.tag) text style

def leftOut? (p : Properties) (s : Source) : Option (Node × Source) :=
  if p.anchor.isNone && p.tag.isNone then none else some (.scalar p.anchor p.tag "" .plain, s)

mutual
/-- A node. Block collections stand only where `block` holds; a sequence that is not indented stands
only where `unindented` holds. -/
def node? (fuel : Nat) (block unindented : Bool) (s : Source) : Option (Node × Source) :=
  match fuel with
  | 0 => none
  | fuel + 1 =>
    match s.tokens with
    | .alias name :: _ => (s.anchors.lookup name).map (fun id => (.alias id, s.drop 1))
    | _ => do
      let (p, s) ← properties? s
      match s.tokens with
      | .scalar text style :: _ => return (ofScalar p text style, s.drop 1)
      | .flowSequence :: _ =>
        let (items, s) ← flowItems? fuel true (s.drop 1)
        return (.sequence p.anchor p.tag items, s)
      | .flowMapping :: _ =>
        let (entries, s) ← flowEntries? fuel true (s.drop 1)
        return (.mapping p.anchor p.tag entries, s)
      | .blockSequence :: _ =>
        if block then
          let (items, s) ← blockItems? fuel (s.drop 1)
          return (.sequence p.anchor p.tag items, s)
        else leftOut? p s
      | .blockMapping :: _ =>
        if block then
          let (entries, s) ← blockEntries? fuel (s.drop 1)
          return (.mapping p.anchor p.tag entries, s)
        else leftOut? p s
      | .blockEntry :: _ =>
        if unindented then
          let (items, s) ← unindentedItems? fuel s
          return (.sequence p.anchor p.tag items, s)
        else leftOut? p s
      | _ => leftOut? p s
def optionalNode? (fuel : Nat) (block unindented : Bool) (ends : List Token) (s : Source) :
    Option (Node × Source) :=
  match fuel with
  | 0 => none
  | fuel + 1 => if s.nextIs ends then some (missing, s) else node? fuel block unindented s
def blockItems? (fuel : Nat) (s : Source) : Option (List Node × Source) :=
  match fuel with
  | 0 => none
  | fuel + 1 =>
    match s.tokens with
    | .blockEntry :: _ => do
      let (item, s) ← optionalNode? fuel true false [.blockEntry, .blockEnd] (s.drop 1)
      let (items, s) ← blockItems? fuel s
      return (item :: items, s)
    | .blockEnd :: _ => some ([], s.drop 1)
    | _ => none
/-- The items of a block sequence at the indentation of the mapping around it. -/
def unindentedItems? (fuel : Nat) (s : Source) : Option (List Node × Source) :=
  match fuel with
  | 0 => none
  | fuel + 1 =>
    match s.tokens with
    | .blockEntry :: _ => do
      let (item, s) ← optionalNode? fuel true false [.blockEntry, .key, .value, .blockEnd] (s.drop 1)
      let (items, s) ← unindentedItems? fuel s
      return (item :: items, s)
    | _ => some ([], s)
def blockEntries? (fuel : Nat) (s : Source) : Option (List (Node × Node) × Source) :=
  match fuel with
  | 0 => none
  | fuel + 1 =>
    match s.tokens with
    | .key :: _ => do
      let (key, s) ← optionalNode? fuel true true [.key, .value, .blockEnd] (s.drop 1)
      let (value, s) ← valueOf? fuel true [.key, .value, .blockEnd] s
      let (entries, s) ← blockEntries? fuel s
      return ((key, value) :: entries, s)
    | .blockEnd :: _ => some ([], s.drop 1)
    | _ => none
/-- The value of a key, which may be left out with its colon or without. -/
def valueOf? (fuel : Nat) (block : Bool) (ends : List Token) (s : Source) : Option (Node × Source) :=
  match fuel with
  | 0 => none
  | fuel + 1 =>
    match s.tokens with
    | .value :: _ => optionalNode? fuel block block ends (s.drop 1)
    | _ => some (missing, s)
/-- The items of a flow sequence, and its end. A key makes an item a mapping of one entry. -/
def flowItems? (fuel : Nat) (first : Bool) (s : Source) : Option (List Node × Source) :=
  match fuel with
  | 0 => none
  | fuel + 1 =>
    match s.tokens with
    | .flowSequenceEnd :: _ => some ([], s.drop 1)
    | tokens => do
      let s ← if first then some s else if tokens.head? = some .flowEntry then some (s.drop 1) else none
      match s.tokens with
      | .flowSequenceEnd :: _ => return ([], s.drop 1)
      | .key :: _ =>
        let (entry, s) ← singlePair? fuel (s.drop 1)
        let (items, s) ← flowItems? fuel false s
        return (.mapping none none [entry] :: items, s)
      | _ =>
        let (item, s) ← node? fuel false false s
        let (items, s) ← flowItems? fuel false s
        return (item :: items, s)
/-- The only entry of a mapping without braces. Without a key the token after it is lost. -/
def singlePair? (fuel : Nat) (s : Source) : Option ((Node × Node) × Source) :=
  match fuel with
  | 0 => none
  | fuel + 1 =>
    let ends : List Token := [.flowEntry, .flowSequenceEnd]
    if s.nextIs (.value :: ends) then
      match valueOf? fuel false ends (s.drop 1) with
      | some (value, s) => some ((missing, value), s)
      | none => none
    else
      match node? fuel false false s with
      | none => none
      | some (key, s) =>
        match valueOf? fuel false ends s with
        | some (value, s) => some ((key, value), s)
        | none => none
/-- The entries of a flow mapping, and its end. A node without a colon is a key without a value. -/
def flowEntries? (fuel : Nat) (first : Bool) (s : Source) : Option (List (Node × Node) × Source) :=
  match fuel with
  | 0 => none
  | fuel + 1 =>
    let ends : List Token := [.flowEntry, .flowMappingEnd]
    match s.tokens with
    | .flowMappingEnd :: _ => some ([], s.drop 1)
    | tokens => do
      let s ← if first then some s else if tokens.head? = some .flowEntry then some (s.drop 1) else none
      match s.tokens with
      | .flowMappingEnd :: _ => return ([], s.drop 1)
      | .key :: _ =>
        let (key, s) ← optionalNode? fuel false false (.value :: ends) (s.drop 1)
        let (value, s) ← valueOf? fuel false ends s
        let (entries, s) ← flowEntries? fuel false s
        return ((key, value) :: entries, s)
      | _ =>
        let (key, s) ← node? fuel false false s
        let (entries, s) ← flowEntries? fuel false s
        return ((key, missing) :: entries, s)
end

def standardHandles : List (String × String) := [("!", "!"), ("!!", "tag:yaml.org,2002:")]

/-- Directives before a document: one version at most, and no handle twice. -/
def directives? (handles : List (String × String)) (versioned : Bool) :
    List Token → Option (List (String × String) × List Token)
  | .version major minor :: rest =>
    if versioned || major ≠ 1 || (minor ≠ 1 && minor ≠ 2) then none
    else directives? handles true rest
  | .tagHandle handle lead :: rest =>
    if (handles.lookup handle).isSome then none
    else directives? ((handle, lead) :: handles) versioned rest
  | rest => some (handles, rest)

def root? (handles : List (String × String)) (tokens : List Token) : Option (Node × List Token) := do
  let s : Source := ⟨handles ++ standardHandles, [], tokens⟩
  let (node, s) ← node? (4 * tokens.length + 4) true false s
  return (node, s.tokens)

def content? (handles : List (String × String)) (tokens : List Token) : Option (Node × List Token) :=
  match tokens with
  | [] | .version .. :: _ | .tagHandle .. :: _ | .documentStart :: _ | .documentEnd :: _ =>
    some (missing, tokens)
  | _ => root? handles tokens

def ofTokens? (tokens : List Token) : Option Node := do
  let (node, rest) ← match tokens with
    | [] => some (missing, [])
    | .version .. :: _ | .tagHandle .. :: _ | .documentStart :: _ => do
      let (handles, rest) ← directives? [] false tokens
      match rest with
      | .documentStart :: rest => content? handles rest
      | _ => none
    | tokens => root? [] tokens
  if rest.all (· == .documentEnd) then return node else none

end Node
end PoolPlan.Yaml
