import PoolPlan.Yaml.Glyph

namespace PoolPlan.Yaml

/-- White space read so far, newest character first. -/
inductive Gap where
  | blanks (rev : List Char)
  /-- The first line break, none if it was escaped, and the breaks after it. -/
  | broken (first : Option Char) (rev : List Char)
deriving DecidableEq, Repr

namespace Gap

def none : Gap := .blanks []

def isNone : Gap → Bool
  | .blanks [] => true
  | _ => false

def isBroken : Gap → Bool
  | .blanks _ => false
  | .broken .. => true

def addBlank (c : Char) : Gap → Gap
  | .blanks rev => .blanks (c :: rev)
  | gap => gap

def addBreak (c : Char) : Gap → Gap
  | .blanks _ => .broken (some c) []
  | .broken first rev => .broken first (c :: rev)

/-- On one line it stays as it is. Otherwise the first line break becomes a space, or nothing where more
follow. -/
def folded : Gap → List Char
  | .blanks rev => rev
  | .broken (some '\n') [] => [' ']
  | .broken (some '\n') rev => rev
  | .broken (some c) rev => rev ++ [c]
  | .broken .none rev => rev

end Gap
end PoolPlan.Yaml
