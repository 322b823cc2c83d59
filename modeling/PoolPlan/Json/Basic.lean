import PoolPlan.Dict
import PoolPlan.Json.Number

namespace PoolPlan

inductive Json where
  | null
  | bool (b : Bool)
  | number (n : Json.Number)
  | string (s : String)
  | array (items : List Json)
  | object (fields : List (String × Json))
deriving Repr

namespace Json

def integer (n : Int) : Json := .number (.integer n)

def strings (items : List String) : Json := .array (items.map .string)

def fields? : Json → Option (Dict Json)
  | .object fields => some fields
  | _ => none

mutual
def Sorted : Json → Prop
  | .array items => SortedItems items
  | .object fields => Dict.Ascending fields ∧ SortedFields fields
  | _ => True
def SortedItems : List Json → Prop
  | [] => True
  | x :: xs => x.Sorted ∧ SortedItems xs
def SortedFields : List (String × Json) → Prop
  | [] => True
  | (_, x) :: fs => x.Sorted ∧ SortedFields fs
end

mutual
/-- Every object with its fields in ascending order; of fields with one name the last. -/
def sortKeys : Json → Json
  | .null => .null
  | .bool b => .bool b
  | .number n => .number n
  | .string s => .string s
  | .array items => .array (sortItems items)
  | .object fields => .object (Dict.ofList (sortFields fields))
def sortItems : List Json → List Json
  | [] => []
  | x :: xs => x.sortKeys :: sortItems xs
def sortFields : List (String × Json) → List (String × Json)
  | [] => []
  | (k, x) :: fs => (k, x.sortKeys) :: sortFields fs
end

mutual
/-- Equality of values, with numbers compared as numbers. -/
def equals : Json → Json → Bool
  | .null, .null => true
  | .bool a, .bool b => a == b
  | .number m, .number n => m.equals n
  | .string s, .string t => s == t
  | .array xs, .array ys => equalItems xs ys
  | .object fs, .object gs => equalFields fs gs
  | _, _ => false
def equalItems : List Json → List Json → Bool
  | [], [] => true
  | x :: xs, y :: ys => x.equals y && equalItems xs ys
  | _, _ => false
def equalFields : List (String × Json) → List (String × Json) → Bool
  | [], [] => true
  | (k, x) :: fs, (l, y) :: gs => k == l && x.equals y && equalFields fs gs
  | _, _ => false
end

theorem sortedFields_iff {fs : List (String × Json)} :
    SortedFields fs ↔ ∀ f ∈ fs, f.2.Sorted := by
  induction fs with
  | nil => simp [SortedFields]
  | cons f fs ih =>
    obtain ⟨k, x⟩ := f
    simp [SortedFields, ih]

theorem mem_insert {key : String} {value : Json} {d : Dict Json} {e : String × Json}
    (h : e ∈ d.insert key value) : e = (key, value) ∨ e ∈ d := by
  induction d with
  | nil => simpa [Dict.insert] using h
  | cons f d ih =>
    obtain ⟨k, v⟩ := f
    simp only [Dict.insert] at h
    split at h
    · simpa using h
    · split at h
      · rcases List.mem_cons.1 h with h | h
        · exact .inl h
        · exact .inr (List.mem_cons_of_mem _ h)
      · rcases List.mem_cons.1 h with h | h
        · exact .inr (h ▸ List.mem_cons_self)
        · rcases ih h with h | h
          · exact .inl h
          · exact .inr (List.mem_cons_of_mem _ h)

theorem sortedFields_insert {key : String} {value : Json} {d : Dict Json} (hv : value.Sorted)
    (hd : SortedFields d) : SortedFields (d.insert key value) := by
  rw [sortedFields_iff] at hd ⊢
  intro e he
  rcases mem_insert he with rfl | he
  · exact hv
  · exact hd e he

/-- What is kept of listed fields was listed. -/
theorem mem_ofList {fs : List (String × Json)} {e : String × Json} (h : e ∈ Dict.ofList fs) :
    e ∈ fs := by
  suffices ∀ (d : Dict Json),
      e ∈ fs.foldl (fun (d : Dict Json) e => d.insert e.1 e.2) d → e ∈ d ∨ e ∈ fs by
    exact (this [] h).resolve_left List.not_mem_nil
  clear h
  induction fs with
  | nil => exact fun _ h => .inl h
  | cons f fs ih =>
    intro d hd
    rcases ih _ hd with hmem | hmem
    · rcases mem_insert hmem with rfl | hmem
      · exact .inr List.mem_cons_self
      · exact .inl hmem
    · exact .inr (List.mem_cons_of_mem _ hmem)

theorem sortedFields_ofList {fs : List (String × Json)} (h : SortedFields fs) :
    SortedFields (Dict.ofList fs) :=
  sortedFields_iff.2 fun e he => sortedFields_iff.1 h e (mem_ofList he)

mutual
theorem sorted_sortKeys : (j : Json) → j.sortKeys.Sorted
  | .null | .bool _ | .number _ | .string _ => by simp [sortKeys, Sorted]
  | .array items => by
    simp only [sortKeys, Sorted]
    exact sorted_sortItems items
  | .object fields => by
    simp only [sortKeys, Sorted]
    exact ⟨Dict.ascending_ofList _, sortedFields_ofList (sorted_sortFields fields)⟩
theorem sorted_sortItems : (items : List Json) → SortedItems (sortItems items)
  | [] => trivial
  | x :: xs => ⟨sorted_sortKeys x, sorted_sortItems xs⟩
theorem sorted_sortFields : (fields : List (String × Json)) → SortedFields (sortFields fields)
  | [] => trivial
  | (_, x) :: fs => ⟨sorted_sortKeys x, sorted_sortFields fs⟩
end

end Json
end PoolPlan
