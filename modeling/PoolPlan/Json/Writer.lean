import PoolPlan.Json.Basic

namespace PoolPlan.Json

/-- A character inside quotes. Only the quote, the backslash and control characters are escaped. -/
def escape (c : Char) : List Char :=
  if c = '"' then ['\\', '"']
  else if c = '\\' then ['\\', '\\']
  else if c = '\x08' then ['\\', 'b']
  else if c = '\x0c' then ['\\', 'f']
  else if c = '\n' then ['\\', 'n']
  else if c = '\r' then ['\\', 'r']
  else if c = '\t' then ['\\', 't']
  else if c.toNat < 0x20 then
    ['\\', 'u', '0', '0', Nat.digitChar (c.toNat / 16), Nat.digitChar (c.toNat % 16)]
  else [c]

def quotedChars (cs : List Char) : List Char := '"' :: cs.flatMap escape ++ ['"']

mutual
def chars : Json → List Char
  | .null => ['n', 'u', 'l', 'l']
  | .bool true => ['t', 'r', 'u', 'e']
  | .bool false => ['f', 'a', 'l', 's', 'e']
  | .number n => n.chars
  | .string s => quotedChars s.toList
  | .array [] => ['[', ']']
  | .array (x :: xs) => '[' :: x.chars ++ moreItems xs
  | .object [] => ['\x7b', '\x7d']
  | .object ((k, x) :: fs) => '\x7b' :: quotedChars k.toList ++ ':' :: x.chars ++ moreFields fs
def moreItems : List Json → List Char
  | [] => [']']
  | x :: xs => ',' :: x.chars ++ moreItems xs
def moreFields : List (String × Json) → List Char
  | [] => ['\x7d']
  | (k, x) :: fs => ',' :: quotedChars k.toList ++ ':' :: x.chars ++ moreFields fs
end

def text (j : Json) : String := String.ofList j.chars

def newLine (depth : Nat) : List Char := '\n' :: List.replicate (2 * depth) ' '

mutual
/-- Laid out text, for a value that stands at `depth`. -/
def layout (depth : Nat) : Json → List Char
  | .array (x :: xs) =>
    '[' :: newLine (depth + 1) ++ x.layout (depth + 1) ++ layoutItems depth xs
  | .object ((k, x) :: fs) =>
    '\x7b' :: newLine (depth + 1) ++ quotedChars k.toList ++ [':', ' '] ++ x.layout (depth + 1) ++
      layoutFields depth fs
  | j => j.chars
def layoutItems (depth : Nat) : List Json → List Char
  | [] => newLine depth ++ [']']
  | x :: xs => ',' :: newLine (depth + 1) ++ x.layout (depth + 1) ++ layoutItems depth xs
def layoutFields (depth : Nat) : List (String × Json) → List Char
  | [] => newLine depth ++ ['\x7d']
  | (k, x) :: fs =>
    ',' :: newLine (depth + 1) ++ quotedChars k.toList ++ [':', ' '] ++ x.layout (depth + 1) ++
      layoutFields depth fs
end

def pretty (j : Json) : String := String.ofList (j.layout 0)

end PoolPlan.Json
