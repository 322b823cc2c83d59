import PoolPlan.Yaml.Token

namespace PoolPlan.Yaml

/-- Something that is a key if a colon follows: then the start of the key is inserted before it. -/
structure PossibleKey where
  /-- It stands at the indentation of a block mapping, where nothing but a key may stand. -/
  required : Bool
  before : Nat
  line : Nat
  column : Nat

structure Lexer where
  tokens : List Token
  count : Nat
  /-- Columns of the open block collections, innermost first. -/
  indents : List Nat
  /-- The possible key of the innermost level, and those of the levels around it. There is a level for
  each open flow collection. -/
  key : Option PossibleKey
  outerKeys : List (Option PossibleKey)
  keyAllowed : Bool

namespace Lexer

def start : Lexer := ⟨[], 0, [], none, [], true⟩

def inFlow (s : Lexer) : Bool := !s.outerKeys.isEmpty

def emit (s : Lexer) (token : Token) : Lexer :=
  { s with tokens := token :: s.tokens, count := s.count + 1 }

def insertBehind (after : Nat) (token : Token) (tokens : List Token) : List Token :=
  tokens.take after ++ token :: tokens.drop after

def insert (s : Lexer) (before : Nat) (token : Token) : Lexer :=
  { s with tokens := insertBehind (s.count - before) token s.tokens, count := s.count + 1 }

/-- Open a block collection at a column, unless it is no deeper than the innermost open one. -/
def openBlock (s : Lexer) (column before : Nat) (token : Token) : Lexer :=
  let deeper := match s.indents with
    | [] => true
    | i :: _ => i < column
  if !s.inFlow && deeper then { s with indents := column :: s.indents }.insert before token else s

def closeBlocks (s : Lexer) (closes : Nat → Bool) : Lexer :=
  if s.inFlow then s
  else
    let n := (s.indents.takeWhile closes).length
    { s with
      tokens := List.replicate n .blockEnd ++ s.tokens
      count := s.count + n
      indents := s.indents.drop n }

/-- Give up a possible key. A required one cannot be given up. -/
def dropKey (s : Lexer) : Option Lexer :=
  match s.key with
  | some k => if k.required then none else some { s with key := none }
  | none => some s

def saveKey (s : Lexer) (g : Glyph) : Option Lexer :=
  if s.keyAllowed then do
    let s ← s.dropKey
    return { s with
      key := some ⟨!s.inFlow && s.indents.head? == some g.column, s.count, g.line, g.column⟩ }
  else some s

/-- A key has its colon on the same line and within 1024 characters. -/
def expire (g : Glyph) : Option PossibleKey → Option (Option PossibleKey)
  | some k =>
    if k.line < g.line ∨ k.column + 1024 < g.column then
      if k.required then none else some none
    else some (some k)
  | none => some none

def expireKeys (s : Lexer) (g : Glyph) : Option Lexer := do
  let outerKeys ← s.outerKeys.mapM (expire g)
  let key ← expire g s.key
  return { s with key, outerKeys }

def allowKey (s : Lexer) (allowed : Bool) : Lexer := { s with keyAllowed := allowed }

/-- A token between documents or before one ends everything that is open. -/
def boundary (s : Lexer) (token : Token) : Option Lexer := do
  let s ← (s.closeBlocks (fun _ => true)).dropKey
  return (s.allowKey false).emit token

def openFlow (s : Lexer) (g : Glyph) (token : Token) : Option Lexer := do
  let s ← s.saveKey g
  return ({ s with key := none, outerKeys := s.key :: s.outerKeys }.allowKey true).emit token

def closeFlow (s : Lexer) (token : Token) : Option Lexer := do
  let s ← s.dropKey
  let s := match s.outerKeys with
    | k :: ks => { s with key := k, outerKeys := ks }
    | [] => s
  return (s.allowKey false).emit token

def flowEntry (s : Lexer) : Option Lexer := do
  let s ← s.dropKey
  return (s.allowKey true).emit .flowEntry

def blockEntry (s : Lexer) (g : Glyph) : Option Lexer :=
  if !s.inFlow && !s.keyAllowed then none
  else do
    let s ← (s.openBlock g.column s.count .blockSequence).dropKey
    return (s.allowKey true).emit .blockEntry

def explicitKey (s : Lexer) (g : Glyph) : Option Lexer :=
  if !s.inFlow && !s.keyAllowed then none
  else do
    let s ← (s.openBlock g.column s.count .blockMapping).dropKey
    return (s.allowKey (!s.inFlow)).emit .key

/-- A colon makes a key of the possible one; without one the key is empty or was explicit. -/
def valueMark (s : Lexer) (g : Glyph) : Option Lexer :=
  match s.key with
  | some k =>
    let s := (s.insert k.before .key).openBlock k.column k.before .blockMapping
    some (({ s with key := none }.allowKey false).emit .value)
  | none =>
    if !s.inFlow && !s.keyAllowed then none
    else some (((s.openBlock g.column s.count .blockMapping).allowKey (!s.inFlow)).emit .value)

def node (s : Lexer) (g : Glyph) (token : Token) : Option Lexer := do
  let s ← s.saveKey g
  return (s.allowKey false).emit token

def plain (s : Lexer) (g : Glyph) (gs : List Glyph) : Option (Lexer × List Glyph) := do
  let scan ← scanPlain s.inFlow (s.indents.head?.elim 0 (· + 1)) [] .none gs
  let s ← s.node g (.scalar (String.ofList scan.rev.reverse) .plain)
  return (s.allowKey scan.broken, scan.rest)

def quoted (s : Lexer) (g : Glyph) (scan : Option (List Char × List Glyph)) :
    Option (Lexer × List Glyph) := do
  let (rev, rest) ← scan
  let s ← s.node g (.scalar (String.ofList rev.reverse) .quoted)
  return (s, rest)

def block (s : Lexer) (style : Style) (gs : List Glyph) : Option (Lexer × List Glyph) := do
  let s ← s.dropKey
  let (chars, rest) ← blockScalar? (style == .literal) s.indents.head? gs
  return ((s.allowKey true).emit (.scalar (String.ofList chars) style), rest)

/-- Characters that cannot start a plain scalar. The dash, question mark and colon can, where they are
no indicators. -/
def isReserved (c : Char) : Bool := ",[]\x7b\x7d#&*!|>'\"%@\x60".toList.contains c

def token (s : Lexer) (g : Glyph) (rest : List Glyph) : Option (Lexer × List Glyph) :=
  let c := g.char
  if g.column = 0 ∧ c = '%' then do
    let (token, rest) ← directive? rest
    return (← s.boundary token, rest)
  else if atMark '-' (g :: rest) then (s.boundary .documentStart).map (·, rest.drop 2)
  else if atMark '.' (g :: rest) then (s.boundary .documentEnd).map (·, rest.drop 2)
  else if c = '[' then (s.openFlow g .flowSequence).map (·, rest)
  else if c = '\x7b' then (s.openFlow g .flowMapping).map (·, rest)
  else if c = ']' then (s.closeFlow .flowSequenceEnd).map (·, rest)
  else if c = '\x7d' then (s.closeFlow .flowMappingEnd).map (·, rest)
  else if c = ',' then s.flowEntry.map (·, rest)
  else if c = '-' ∧ atWordEnd rest then (s.blockEntry g).map (·, rest)
  else if c = '?' ∧ (s.inFlow ∨ atWordEnd rest) then (s.explicitKey g).map (·, rest)
  else if c = ':' ∧ (s.inFlow ∨ atWordEnd rest) then (s.valueMark g).map (·, rest)
  else if c = '*' then do
    let (name, rest) ← anchorName? rest
    return (← s.node g (.alias name), rest)
  else if c = '&' then do
    let (name, rest) ← anchorName? rest
    return (← s.node g (.anchor name), rest)
  else if c = '!' then do
    let (token, rest) ← tag? s.inFlow (g :: rest)
    return (← s.node g token, rest)
  else if c = '|' ∧ !s.inFlow then s.block .literal rest
  else if c = '>' ∧ !s.inFlow then s.block .folded rest
  else if c = '\'' then s.quoted g (scanSingle [] .none rest)
  else if c = '"' then s.quoted g (scanDouble [] (.text .none) rest)
  else if isBlank c || isReserved c then none
  else s.plain g (g :: rest)

/-- Go to the next token. A tab may come before it only where no key can, since it would leave the
indentation open; outside of flow collections a key may start on a new line. -/
def skip (s : Lexer) (inComment : Bool) : List Glyph → Lexer × List Glyph
  | [] => (s, [])
  | g :: gs =>
    if isBreak g.char then (s.allowKey (s.keyAllowed || !s.inFlow)).skip false gs
    else if inComment then s.skip true gs
    else if g.char == ' ' || (g.char == '\t' && (s.inFlow || !s.keyAllowed)) then s.skip false gs
    else if g.char == '#' then s.skip true gs
    else (s, g :: gs)

/-- Read all tokens, of which each takes at least one glyph. -/
def run (s : Lexer) (fuel : Nat) (gs : List Glyph) : Option (List Token) :=
  match fuel with
  | 0 => none
  | fuel + 1 =>
    match s.skip false gs with
    | (s, []) => do
      let s ← (s.closeBlocks (fun _ => true)).dropKey
      return s.tokens.reverse
    | (s, g :: rest) => do
      let s ← s.expireKeys g
      let (s, rest) ← (s.closeBlocks (g.column < ·)).token g rest
      s.run fuel rest

end Lexer

def tokens? (cs : List Char) : Option (List Token) := do
  let gs ← glyphs? cs
  Lexer.start.run (gs.length + 1) gs

end PoolPlan.Yaml
