import PoolPlan.Document
import PoolPlan.Json.Canonical

namespace PoolPlan

/-- Fields sorted at every depth: their text does not depend on the order in which they were put together. -/
structure ClassSpec where
  fields : Dict Json
  sorted : (Json.object fields).Sorted

namespace ClassSpec

/-- The field that names a class. It does not tell classes apart. -/
def nameField : String := "name"

def empty : ClassSpec := ⟨[], Dict.ascending_nil, trivial⟩

def ofFields (fields : List (String × Json)) : ClassSpec :=
  ⟨Dict.ofList (Json.sortFields fields), Json.sorted_sortKeys (.object fields)⟩

def insert (spec : ClassSpec) (key : String) (value : Json) : ClassSpec :=
  ⟨spec.fields.insert key value.sortKeys, Dict.ascending_insert spec.sorted.1,
    Json.sortedFields_insert (Json.sorted_sortKeys value) spec.sorted.2⟩

def erase (spec : ClassSpec) (key : String) : ClassSpec :=
  ⟨spec.fields.erase key, Dict.ascending_erase spec.sorted.1,
    Json.sortedFields_iff.2 fun f hf =>
      Json.sortedFields_iff.1 spec.sorted.2 f (List.mem_filter.1 hf).1⟩

def get? (spec : ClassSpec) (key : String) : Option Json := spec.fields.get? key

def contains (spec : ClassSpec) (key : String) : Bool := (spec.get? key).isSome

def keys (spec : ClassSpec) : List String := spec.fields.keys

def size (spec : ClassSpec) : Nat := spec.fields.length

def isEmpty (spec : ClassSpec) : Bool := spec.fields.isEmpty

def toJson (spec : ClassSpec) : Json := .object spec.fields

def ofDocument? (d : Document) : Option ClassSpec := (d.dict? Document.value?).map ofFields

def canonicalText (spec : ClassSpec) : String := spec.toJson.canonicalText

/-- Equality of the fields, with numbers compared as numbers. -/
def equals (a b : ClassSpec) : Bool := a.toJson.equals b.toJson

def named (spec : ClassSpec) (name : String) : ClassSpec := spec.insert nameField (.string name)

end ClassSpec
end PoolPlan
