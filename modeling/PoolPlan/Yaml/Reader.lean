import PoolPlan.Document
import PoolPlan.Yaml.Node
import PoolPlan.Yaml.Token.Lexer

namespace PoolPlan.Yaml

def coreTag (tag : String) : CoreTag :=
  if tag = "tag:yaml.org,2002:bool" then .bool
  else if tag = "tag:yaml.org,2002:int" then .int
  else if tag = "tag:yaml.org,2002:float" then .float
  else if tag = "tag:yaml.org,2002:null" then .null
  else .text

def localTag? (tag : String) : Option String :=
  match tag.toList with
  | ['!'] => some tag
  | '!' :: name => some (String.ofList name)
  | _ => none

/-- A node under a tag. A tag that is not local matters to scalars only. -/
def underTag (tag : Option String) (d : Document) : Document :=
  match tag.bind localTag? with
  | some name => .tagged name d
  | none => d

/-- A scalar as a document. A literal block tagged as an integer counts as plain. -/
def scalarDocument (tag : Option String) (text : String) (style : Style) : Document :=
  match tag with
  | none => .scalar (.written text (style == .plain) none)
  | some t =>
    match localTag? t with
    | some name => .tagged name (.scalar (.written text (style == .plain) none))
    | none =>
      let integer := coreTag t == .int && style == .literal && text != ""
      .scalar (.written text (style == .plain || integer) (some (coreTag t)))

namespace Node

/-- The nodes with an anchor, in the order in which they start. -/
def anchored : Node → List (Nat × Node)
  | .scalar anchor tag text style => anchor.toList.map (·, .scalar anchor tag text style)
  | .sequence anchor tag items =>
    anchor.toList.map (·, .sequence anchor tag items) ++ anchoredItems items
  | .mapping anchor tag entries =>
    anchor.toList.map (·, .mapping anchor tag entries) ++ anchoredEntries entries
  | .alias _ => []
where
  anchoredItems : List Node → List (Nat × Node)
    | [] => []
    | n :: ns => n.anchored ++ anchoredItems ns
  anchoredEntries : List (Node × Node) → List (Nat × Node)
    | [] => []
    | (k, v) :: es => k.anchored ++ v.anchored ++ anchoredEntries es

/-- The size of a node: one for each scalar and alias, two for each container. -/
def size : Node → Nat
  | .scalar .. => 1
  | .sequence _ _ items => 2 + sizeItems items
  | .mapping _ _ entries => 2 + sizeEntries entries
  | .alias _ => 1
where
  sizeItems : List Node → Nat
    | [] => 0
    | n :: ns => n.size + sizeItems ns
  sizeEntries : List (Node × Node) → Nat
    | [] => 0
    | (k, v) :: es => k.size + v.size + sizeEntries es

/-- The node an alias stands for, and one less alias to follow. Of nodes with one number the last in
the document counts. -/
def follow (anchored : List (Nat × Node)) (aliases : Nat) : Node → Option Node × Nat
  | .alias id =>
    if aliases = 0 then (none, 0) else (anchored.reverse.lookup id, aliases - 1)
  | n => (some n, aliases)

/-- A node as a document, with `room` levels of containers left for it, and how many aliases may still
be followed before and after it. -/
def expand (anchored : List (Nat × Node)) (room : Nat) (n : Node) : StateM Nat Document := do
  let target ← modifyGet (fun aliases => n.follow anchored aliases)
  match target with
  | some (.scalar _ tag text style) => return scalarDocument tag text style
  | some (.sequence _ tag items) =>
    match room with
    | 0 => return .scalar .unreadable
    | room + 1 => return underTag tag (.sequence false (← items.mapM (expand anchored room)))
  | some (.mapping _ tag entries) =>
    match room with
    | 0 => return .scalar .unreadable
    | room + 1 =>
      return underTag tag (.mapping (← entries.mapM (fun (k, v) =>
        return (← expand anchored room k, ← expand anchored room v))))
  | some (.alias _) => return .scalar .unreadable
  | none => return .scalar .unreadable

def depthLimit : Nat := 128

/-- How many aliases may be followed for each part of a document. -/
def aliasFactor : Nat := 100

def toDocument (n : Node) : Document :=
  (n.expand n.anchored depthLimit (aliasFactor * n.size)).1

end Node

def read? (cs : List Char) : Option Document := do
  let tokens ← tokens? cs
  let node ← Node.ofTokens? tokens
  return node.toDocument

def document? (text : String) : Option Document := read? text.toList

end PoolPlan.Yaml
