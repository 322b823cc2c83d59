import PoolPlan.Yaml.Glyph

namespace PoolPlan.Yaml

inductive Chomping where
  | strip | clip | keep
deriving DecidableEq, Repr

structure BlockHeader where
  literal : Bool
  chomping : Chomping
  /-- Indentation as it is given, relative to what the scalar belongs to; 0 if it is not. -/
  increment : Nat

def chomping? (c : Char) : Option Chomping :=
  if c = '+' then some .keep else if c = '-' then some .strip else none

def increment? (c : Char) : Option Nat :=
  if '1' ≤ c ∧ c ≤ '9' then some (c.toNat - '0'.toNat) else none

/-- Chomping and indentation after the indicator of a block scalar, in either order. -/
def blockHeader? (literal : Bool) (gs : List Glyph) : Option (BlockHeader × List Glyph) :=
  let header : BlockHeader × List Glyph := match gs with
    | [] => (⟨literal, .clip, 0⟩, [])
    | g :: rest =>
      match chomping? g.char, increment? g.char with
      | some chomping, _ =>
        match rest with
        | h :: more =>
          match increment? h.char with
          | some n => (⟨literal, chomping, n⟩, more)
          | none => (⟨literal, chomping, 0⟩, rest)
        | [] => (⟨literal, chomping, 0⟩, [])
      | none, some n =>
        match rest with
        | h :: more =>
          match chomping? h.char with
          | some chomping => (⟨literal, chomping, n⟩, more)
          | none => (⟨literal, .clip, n⟩, rest)
        | [] => (⟨literal, .clip, n⟩, [])
      | none, none => (⟨literal, .clip, 0⟩, gs)
  let rest := skipComment (skipBlanks header.2)
  if atLineEnd rest then some (header.1, rest.drop 1) else none

/-- What was read of a block scalar. Line breaks are held back until it is known what follows. -/
structure BlockScan where
  rev : List Char
  ending : Option Char
  /-- Breaks of empty lines after it, newest first. -/
  emptyLines : List Char
  blankLine : Bool

namespace BlockScan

def empty : BlockScan := ⟨[], none, [], false⟩

/-- Start another line, with the breaks held back before it. A break that is folded becomes a space, or
nothing where an empty line follows it. -/
def startLine (s : BlockScan) (literal : Bool) (c : Char) : BlockScan :=
  let joined :=
    if !literal && s.ending == some '\n' && !s.blankLine && !isBlank c then
      if s.emptyLines.isEmpty then ' ' :: s.rev else s.emptyLines ++ s.rev
    else s.emptyLines ++ s.ending.toList ++ s.rev
  ⟨c :: joined, none, [], isBlank c⟩

def chars (s : BlockScan) (chomping : Chomping) : List Char :=
  match chomping with
  | .strip => s.rev.reverse
  | .clip => s.rev.reverse ++ s.ending.toList
  | .keep => s.rev.reverse ++ s.ending.toList ++ s.emptyLines.reverse

end BlockScan

/-- Read the lines of a block scalar. While the indentation is not known (0) it is the greatest column
reached before the first line that is not empty, and at least `least`. -/
def scanBlock (literal : Bool) (least : Nat) (indent reached : Nat) (inLine : Bool) (s : BlockScan) :
    List Glyph → Option (BlockScan × List Glyph)
  | [] => some (s, [])
  | g :: gs =>
    if inLine then
      if isBreak g.char then
        scanBlock literal least indent reached false { s with ending := some g.char } gs
      else scanBlock literal least indent reached true { s with rev := g.char :: s.rev } gs
    else
      let inMargin := indent == 0 || g.column < indent
      let reached := max reached g.column
      if inMargin && g.char == ' ' then scanBlock literal least indent reached false s gs
      else if inMargin && g.char == '\t' then none
      else if isBreak g.char then
        scanBlock literal least indent reached false
          { s with emptyLines := g.char :: s.emptyLines } gs
      else
        let indent := if indent == 0 then max reached least else indent
        if g.column == indent then
          scanBlock literal least indent reached true (s.startLine literal g.char) gs
        else some (s, g :: gs)

def blockScalar? (literal : Bool) (parent : Option Nat) (gs : List Glyph) :
    Option (List Char × List Glyph) := do
  let (header, rest) ← blockHeader? literal gs
  let least := max 1 (parent.elim 0 (· + 1))
  let indent := if header.increment = 0 then 0 else parent.getD 0 + header.increment
  let (s, rest) ← scanBlock literal least indent 0 false .empty rest
  return (s.chars header.chomping, rest)

end PoolPlan.Yaml
