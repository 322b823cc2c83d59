import PoolPlan.Document

namespace PoolPlan

abbrev Fields := List (String × Document)

namespace Fields

def required? {α : Type} (fields : Fields) (name : String) (read : Document → Option α) : Option α :=
  (fields.lookup name).bind read

/-- A field that may be missing, but not null. -/
def withDefault? {α : Type} (fields : Fields) (name : String) (fallback : α)
    (read : Document → Option α) : Option α :=
  match fields.lookup name with
  | none => some fallback
  | some d => read d

/-- A field that may be missing or null. -/
def optional? {α : Type} (fields : Fields) (name : String) (read : Document → Option α) :
    Option (Option α) :=
  match fields.lookup name with
  | none => some none
  | some d => d.optional? read

/-- A field of a loose record: every one of that name has to be readable, and the last one counts. -/
def last? {α : Type} (fields : Fields) (name : String) (read : Document → Option α) :
    Option (Option α) := do
  let values ← (fields.filter (fun f => f.1 == name)).mapM (fun f => f.2.optional? read)
  return (values.getLast?).join

end Fields

namespace Document

/-- The declared fields of a strict record: unknown ones are skipped, a known one may not come twice, and
where the notation allows it they may be given by position. -/
def record? (names : List String) (d : Document) : Option Fields :=
  match d.untagged with
  | .sequence true items => if items.length ≤ names.length then some (names.zip items) else none
  | node => do
    let entries ← node.entries?
    let known := entries.filter (fun e => names.contains e.1)
    if (known.map Prod.fst).Nodup then return known else none

/-- The fields of a loose record, which is never positional. -/
def looseRecord? (d : Document) : Option Fields := d.entries?

end Document
end PoolPlan
