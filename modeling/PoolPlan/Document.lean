import PoolPlan.Yaml.Schema

namespace PoolPlan

inductive Scalar where
  | null
  | bool (b : Bool)
  | number (n : Json.Number)
  | string (s : String)
  /-- A scalar of YAML, where what is expected decides what the text means. Plain ones stand without
  quotes. -/
  | written (text : String) (plain : Bool) (tag : Option Yaml.CoreTag)
  /-- A node that can be skipped but not read: half of a surrogate pair, a float out of range, or more
  levels or repetitions than are allowed. -/
  | unreadable
deriving DecidableEq, Repr

/-- What JSON or YAML text says before it is known what it should be. -/
inductive Document where
  | scalar (s : Scalar)
  /-- A sequence may stand for a record, field by field, if it is `positional`. -/
  | sequence (positional : Bool) (items : List Document)
  | mapping (entries : List (Document × Document))
  /-- A node under a tag of its own. Where a type is expected the tag does not matter. -/
  | tagged (name : String) (node : Document)
deriving Repr

def int32Of? (n : Int) : Option Int :=
  if -2147483648 ≤ n ∧ n < 2147483648 then some n else none

def int64Of? (n : Int) : Option Int :=
  if -9223372036854775808 ≤ n ∧ n < 9223372036854775808 then some n else none

namespace Document

def untagged : Document → Document
  | .tagged _ node => node
  | node => node

/-- A plain scalar without any text. It stands for an empty sequence, mapping or record. -/
def isEmptyPlain (d : Document) : Bool :=
  match d.untagged with
  | .scalar (.written text true _) => text.isEmpty
  | _ => false

def text? (d : Document) : Option String :=
  match d.untagged with
  | .scalar (.string s) => some s
  | .scalar (.written text _ _) => some text
  | _ => none

def integer? (d : Document) : Option Int :=
  match d.untagged with
  | .scalar (.number (.integer n)) => some n
  | .scalar (.written text true _) => Yaml.integer? text.toList
  | _ => none

def int32? (d : Document) : Option Int := d.integer?.bind int32Of?

def int64? (d : Document) : Option Int := d.integer?.bind int64Of?

def bool? (d : Document) : Option Bool :=
  match d.untagged with
  | .scalar (.bool b) => some b
  | .scalar (.written text true _) => Yaml.bool? text.toList
  | _ => none

/-- Read a node that may be absent: null, or in YAML one of its plain spellings or nothing at all. -/
def optional? {α : Type} (read : Document → Option α) (d : Document) : Option (Option α) :=
  match d with
  | .scalar .null => some none
  | .scalar (.written text true none) =>
    if text.isEmpty || Yaml.isNullWord text.toList then some none else (read d).map some
  | .scalar (.written text true (some .null)) =>
    if Yaml.isNullWord text.toList then some none else none
  | _ => (read d).map some

def items? (d : Document) : Option (List Document) :=
  match d.untagged with
  | .sequence _ items => some items
  | node => if node.isEmptyPlain then some [] else none

def list? {α : Type} (read : Document → Option α) (d : Document) : Option (List α) :=
  d.items?.bind (fun items => items.mapM read)

def entries? (d : Document) : Option (List (String × Document)) :=
  match d.untagged with
  | .mapping entries => entries.mapM (fun (k, v) => k.text?.map (·, v))
  | node => if node.isEmptyPlain then some [] else none

/-- A dictionary. Of entries with one key the last counts, but all of them have to be readable. -/
def dict? {α : Type} (read : Document → Option α) (d : Document) : Option (Dict α) := do
  let entries ← d.entries?
  let pairs ← entries.mapM (fun (k, v) => (read v).map (k, ·))
  return Dict.ofList pairs

def scalarValue? : Scalar → Option Json
  | .null => some .null
  | .bool b => some (.bool b)
  | .number n => some (.number n)
  | .string s => some (.string s)
  | .written text plain tag => Yaml.value? text plain tag
  | .unreadable => none

mutual
def value? : Document → Option Json
  | .scalar s => scalarValue? s
  | .sequence _ items => (itemValues? items).map .array
  | .mapping entries => (entryValues? entries).map (fun fields => .object (Dict.ofList fields))
  | .tagged _ _ => none
def itemValues? : List Document → Option (List Json)
  | [] => some []
  | d :: ds => do return (← d.value?) :: (← itemValues? ds)
def entryValues? : List (Document × Document) → Option (List (String × Json))
  | [] => some []
  | (k, d) :: es => do return (← k.text?, ← d.value?) :: (← entryValues? es)
end

def case? (d : Document) : Option String :=
  match d with
  | .tagged name (.scalar (.written text true _)) =>
    if text.isEmpty || Yaml.isNullWord text.toList then some name else none
  | .tagged _ _ => none
  | .mapping [(k, .scalar .null)] => k.text?
  | node => node.text?

end Document
end PoolPlan
