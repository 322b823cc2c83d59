import PoolPlan.Json.Writer
import PoolPlan.Yaml.Glyph
import PoolPlan.Yaml.Schema

namespace PoolPlan.Yaml

def endsLine (c : Char) : Bool := isLineFeed c || isSeparator c

/-- Characters written as they are, in quotes or without. Of the control characters only the line feed
is, and noncharacters and the byte order mark are not. -/
def isVisible (c : Char) : Bool :=
  let n := c.toNat
  c == '\n' || (0x20 ≤ n && n ≤ 0x7E) ||
    (0xA0 ≤ n && c != '\uFEFF' && c != '\uFFFE' && c != '\uFFFF')

def hasPair (p q : Char → Bool) (cs : List Char) : Bool :=
  (cs.zip (cs.drop 1)).any (fun (c, d) => p c && q d)

/-- Only double quotes can hold it: a character to be escaped, or a space at the end of a line. -/
def needsEscapes (cs : List Char) : Bool := !cs.all isVisible || hasPair (· == ' ') endsLine cs

def endsWord : List Char → Bool
  | [] => true
  | c :: _ => isBlank c || endsLine c

def startsIndicator : List Char → Bool
  | [] => false
  | c :: cs =>
    "#,[]\x7b\x7d&*!|>'\"%@\x60".toList.contains c || ("?:-".toList.contains c && endsWord cs) ||
      (c :: cs).take 3 == "---".toList || (c :: cs).take 3 == "...".toList

/-- A colon at the end of a word, or a comment after white space. -/
def hasIndicator : List Char → Bool
  | [] => false
  | ':' :: cs => endsWord cs || hasIndicator cs
  | c :: '#' :: cs => isBlank c || endsLine c || hasIndicator ('#' :: cs)
  | _ :: cs => hasIndicator cs

/-- It would be read as something else than text, or looks like a number to others. -/
def isMistakable (cs : List Char) : Bool := resolve cs != .text || isZeroPadded cs

inductive Presentation where
  | plain | single | double | literal
deriving DecidableEq, Repr

def presentation (cs : List Char) : Presentation :=
  let spaceAtEnd := cs.getLast? == some ' '
  if cs.contains '\n' then if needsEscapes cs || spaceAtEnd then .double else .literal
  else if needsEscapes cs || hasPair endsLine (· == ' ') cs then .double
  else if isMistakable cs || cs.head? == some ' ' || spaceAtEnd || cs.any endsLine ||
      startsIndicator cs || hasIndicator cs then .single
  else .plain

def hexDigit (n : Nat) : Char := (Nat.digitChar n).toUpper

def hexChars : Nat → Nat → List Char
  | 0, _ => []
  | width + 1, n => hexChars width (n / 16) ++ [hexDigit (n % 16)]

def escape (c : Char) : List Char :=
  if c = '\x00' then ['\\', '0']
  else if c = '\x07' then ['\\', 'a']
  else if c = '\x08' then ['\\', 'b']
  else if c = '\t' then ['\\', 't']
  else if c = '\n' then ['\\', 'n']
  else if c = '\x0B' then ['\\', 'v']
  else if c = '\x0C' then ['\\', 'f']
  else if c = '\r' then ['\\', 'r']
  else if c = '\x1B' then ['\\', 'e']
  else if c = '"' ∨ c = '\\' then ['\\', c]
  else if c = '\u0085' then ['\\', 'N']
  else if c = '\u2028' then ['\\', 'L']
  else if c = '\u2029' then ['\\', 'P']
  else if isVisible c then [c]
  else if c.toNat ≤ 0xFF then '\\' :: 'x' :: hexChars 2 c.toNat
  else if c.toNat ≤ 0xFFFF then '\\' :: 'u' :: hexChars 4 c.toNat
  else '\\' :: 'U' :: hexChars 8 c.toNat

def spaces (depth : Nat) : List Char := List.replicate (2 * depth) ' '

/-- Text of several lines, each of which starts at `depth` unless it is empty. -/
def indentLines (depth : Nat) (atStart : Bool) : List Char → List Char
  | [] => []
  | c :: cs =>
    if endsLine c then c :: indentLines depth true cs
    else (if atStart then spaces depth else []) ++ c :: indentLines depth false cs

/-- After the bar of a literal block: the indentation if the text starts with white space, and what
becomes of the line breaks at its end. -/
def literalHeader (cs : List Char) : List Char :=
  let indentation := match cs with
    | c :: _ => if c == ' ' || endsLine c then ['2'] else []
    | [] => []
  let ending := match cs.reverse with
    | [] => ['-']
    | [c] => if endsLine c then ['+'] else ['-']
    | c :: d :: _ => if !endsLine c then ['-'] else if endsLine d then ['+'] else []
  indentation ++ ending

def doubleQuote (c : Char) : List Char := if c = '\'' then ['\'', '\''] else [c]

def textChars (depth : Nat) (cs : List Char) : List Char :=
  match presentation cs with
  | .plain => cs
  | .single => '\'' :: indentLines depth false (cs.flatMap doubleQuote ++ ['\''])
  | .double => '"' :: cs.flatMap escape ++ ['"']
  | .literal => '|' :: literalHeader cs ++ '\n' :: indentLines depth true cs

def leafChars (depth : Nat) : Json → List Char
  | .string s => textChars depth s.toList
  | j => j.chars

def endLine (cs : List Char) : List Char :=
  match cs.getLast? with
  | some c => if endsLine c then cs else cs ++ ['\n']
  | none => ['\n']

/-- A key stands before its colon only if it is short and on one line. -/
def isSimpleKey (k : String) : Bool := k.utf8ByteSize ≤ 128 && !k.toList.any endsLine

def simpleKeyChars (depth : Nat) (k : String) : List Char :=
  textChars (depth + 1) k.toList ++ [':']

def longKeyChars (depth : Nat) (k : String) : List Char :=
  endLine ('?' :: ' ' :: textChars (depth + 1) k.toList) ++ spaces depth ++ [':', ' ']

mutual
def valueChars (depth : Nat) : Json → List Char
  | .object (f :: fs) => '\n' :: spaces (depth + 1) ++ fieldChars (depth + 1) (f :: fs)
  | .array (x :: xs) => '\n' :: spaces depth ++ itemChars depth (x :: xs)
  | j => ' ' :: leafChars (depth + 1) j
def inlineChars (depth : Nat) : Json → List Char
  | .object (f :: fs) => fieldChars (depth + 1) (f :: fs)
  | .array (x :: xs) => itemChars (depth + 1) (x :: xs)
  | j => leafChars (depth + 1) j
def itemChars (depth : Nat) : List Json → List Char
  | [] => []
  | [x] => '-' :: ' ' :: inlineChars depth x
  | x :: xs => endLine ('-' :: ' ' :: inlineChars depth x) ++ spaces depth ++ itemChars depth xs
def fieldChars (depth : Nat) : List (String × Json) → List Char
  | [] => []
  | (k, x) :: fs =>
    let field :=
      if isSimpleKey k then simpleKeyChars depth k ++ valueChars depth x
      else longKeyChars depth k ++ inlineChars depth x
    if fs.isEmpty then field else endLine field ++ spaces depth ++ fieldChars depth fs
end

/-- Block style. The items of a list are not indented under their key. -/
def text (j : Json) : String := String.ofList (endLine (inlineRoot j))
where
  inlineRoot : Json → List Char
    | .object (f :: fs) => fieldChars 0 (f :: fs)
    | .array (x :: xs) => itemChars 0 (x :: xs)
    | j => leafChars 0 j

end PoolPlan.Yaml
