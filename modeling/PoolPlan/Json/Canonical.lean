import PoolPlan.Json.Writer

namespace PoolPlan.Json

def commaSeparated (pieces : List (List Char)) : List Char := [','].intercalate pieces

def byName {α : Type} (entries : List (String × α)) : List (String × α) :=
  entries.mergeSort (fun a b => a.1 ≤ b.1)

def fieldChars (e : String × List Char) : List Char := quotedChars e.1.toList ++ ':' :: e.2

mutual
def canonicalChars : Json → List Char
  | .null => ['n', 'u', 'l', 'l']
  | .bool true => ['t', 'r', 'u', 'e']
  | .bool false => ['f', 'a', 'l', 's', 'e']
  | .number n => n.chars
  | .string s => quotedChars s.toList
  | .array items => '[' :: commaSeparated (canonicalItems items) ++ [']']
  | .object fields =>
    '\x7b' :: commaSeparated ((byName (canonicalEntries fields)).map fieldChars) ++ ['\x7d']
def canonicalItems : List Json → List (List Char)
  | [] => []
  | x :: xs => x.canonicalChars :: canonicalItems xs
def canonicalEntries : List (String × Json) → List (String × List Char)
  | [] => []
  | (k, x) :: fs => (k, x.canonicalChars) :: canonicalEntries fs
end

def canonicalText (j : Json) : String := String.ofList j.canonicalChars

end PoolPlan.Json
