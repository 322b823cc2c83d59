import PoolPlan.Yaml.Scalar.Plain
import PoolPlan.Yaml.Scalar.Quoted
import PoolPlan.Yaml.Scalar.Block

namespace PoolPlan.Yaml

inductive Style where
  | plain | quoted | literal | folded
deriving DecidableEq, Repr

inductive Token where
  | version (major minor : Nat)
  | tagHandle (handle lead : String)
  | documentStart | documentEnd
  | blockSequence | blockMapping | blockEnd
  | flowSequence | flowSequenceEnd
  | flowMapping | flowMappingEnd
  | blockEntry | flowEntry
  | key | value
  | alias (name : String)
  | anchor (name : String)
  /-- The handle of a tag, empty if it is given in full, and the rest of it. -/
  | tag (handle suffix : String)
  | scalar (text : String) (style : Style)
deriving DecidableEq, Repr

def isWordChar (c : Char) : Bool := c.isAlphanum || c == '-' || c == '_'

/-- The characters of a tag; commas and brackets only where it is enclosed. -/
def isTagChar (enclosed : Bool) (c : Char) : Bool :=
  isWordChar c || ";/?:@&=+$.%!~*'()".toList.contains c || (enclosed && ",[]".toList.contains c)

def tagBytes? : List Char → Option (List UInt8)
  | [] => some []
  | '%' :: a :: b :: cs => do
    let high ← digitIn? 16 a
    let low ← digitIn? 16 b
    return UInt8.ofNat (16 * high + low) :: (← tagBytes? cs)
  | c :: cs => if c = '%' then none else (tagBytes? cs).map (UInt8.ofNat c.toNat :: ·)

def tagText? (cs : List Char) : Option String := do
  let bytes ← tagBytes? cs
  String.fromUTF8? ⟨bytes.toArray⟩

/-- A tag's handle: an exclamation mark, a word and perhaps another mark. -/
def tagHandle? : List Glyph → Option (List Char × List Glyph)
  | ⟨'!', _, _⟩ :: gs =>
    match takeRun isWordChar gs with
    | (word, ⟨'!', _, _⟩ :: rest) => some ('!' :: word ++ ['!'], rest)
    | (word, rest) => some ('!' :: word, rest)
  | _ => none

/-- A tag that starts with a handle, or is local. A lone exclamation mark is a tag by itself. -/
def shortTag? (gs : List Glyph) : Option (Token × List Glyph) := do
  let (handle, rest) ← tagHandle? gs
  let (chars, rest) := takeRun (isTagChar false) rest
  let text ← tagText? chars
  if 1 < handle.length ∧ handle.getLast? = some '!' then
    if chars.isEmpty then none else return (.tag (String.ofList handle) text, rest)
  else
    let suffix := String.ofList (handle.drop 1) ++ text
    if suffix.isEmpty then return (.tag "" "!", rest) else return (.tag "!" suffix, rest)

def enclosedTag? (gs : List Glyph) : Option (Token × List Glyph) := do
  let (chars, rest) := takeRun (isTagChar true) gs
  let text ← tagText? chars
  match rest with
  | ⟨'>', _, _⟩ :: rest => if chars.isEmpty then none else return (.tag "" text, rest)
  | _ => none

/-- A tag, which has to be a word of its own, or to stand before a comma of a flow collection. -/
def tag? (flow : Bool) (gs : List Glyph) : Option (Token × List Glyph) := do
  let (token, rest) ← match gs with
    | ⟨'!', _, _⟩ :: ⟨'<', _, _⟩ :: gs => enclosedTag? gs
    | gs => shortTag? gs
  let ends := match rest with
    | ⟨',', _, _⟩ :: _ => flow
    | rest => atWordEnd rest
  if ends then return (token, rest) else none

def anchorName? (gs : List Glyph) : Option (String × List Glyph) :=
  let (name, rest) := takeRun isWordChar gs
  let ends := match rest with
    | g :: _ => atWordEnd rest || "?:,]\x7d%@\x60".toList.contains g.char
    | [] => true
  if name.isEmpty || !ends then none else some (String.ofList name, rest)

def versionNumber? (gs : List Glyph) : Option (Nat × List Glyph) :=
  let (digits, rest) := takeRun Char.isDigit gs
  if digits.isEmpty || 9 < digits.length then none else some (Nat.ofDigitChars 10 digits 0, rest)

def versionDirective? (gs : List Glyph) : Option (Token × List Glyph) := do
  let (major, rest) ← versionNumber? (skipBlanks gs)
  match rest with
  | ⟨'.', _, _⟩ :: rest =>
    let (minor, rest) ← versionNumber? rest
    return (.version major minor, rest)
  | _ => none

def tagDirective? (gs : List Glyph) : Option (Token × List Glyph) := do
  let (handle, rest) ← tagHandle? (skipBlanks gs)
  if handle.getLast? ≠ some '!' then none
  else if !(rest.head?.any (fun g => isBlank g.char)) then none
  else
    let (chars, rest) := takeRun (isTagChar true) (skipBlanks rest)
    let text ← tagText? chars
    if chars.isEmpty || !atWordEnd rest then none
    else return (.tagHandle (String.ofList handle) text, rest)

def directive? (gs : List Glyph) : Option (Token × List Glyph) := do
  let (name, rest) := takeRun isWordChar gs
  if !atWordEnd rest then none
  else
    let (token, rest) ←
      if name = "YAML".toList then versionDirective? rest
      else if name = "TAG".toList then tagDirective? rest
      else none
    let rest := skipComment (skipBlanks rest)
    if atLineEnd rest then return (token, rest.drop 1) else none

end PoolPlan.Yaml
