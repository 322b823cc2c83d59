import PoolPlan.Yaml.Scalar.Gap
import PoolPlan.Yaml.Schema

namespace PoolPlan.Yaml

def escaped? (c : Char) : Option Char :=
  if c = '0' then some '\x00'
  else if c = 'a' then some '\x07'
  else if c = 'b' then some '\x08'
  else if c = 't' ∨ c = '\t' then some '\t'
  else if c = 'n' then some '\n'
  else if c = 'v' then some '\x0B'
  else if c = 'f' then some '\x0C'
  else if c = 'r' then some '\r'
  else if c = 'e' then some '\x1B'
  else if c = ' ' ∨ c = '"' ∨ c = '/' ∨ c = '\\' then some c
  else if c = 'N' then some '\u0085'
  else if c = '_' then some '\u00A0'
  else if c = 'L' then some '\u2028'
  else if c = 'P' then some '\u2029'
  else none

def codeLength? (c : Char) : Option Nat :=
  if c = 'x' then some 2
  else if c = 'u' then some 4
  else if c = 'U' then some 8
  else none

def charOfCode? (n : Nat) : Option Char :=
  if n < 0xD800 ∨ (0xDFFF < n ∧ n ≤ 0x10FFFF) then some (Char.ofNat n) else none

/-- Read up to the closing single quote, with the text so far backwards and the white space after it. -/
def scanSingle (rev : List Char) (gap : Gap) : List Glyph → Option (List Char × List Glyph)
  | [] => none
  | g :: gs =>
    if isBreak g.char then scanSingle rev (gap.addBreak g.char) gs
    else if isBlank g.char then scanSingle rev (gap.addBlank g.char) gs
    else if atDocumentMark (g :: gs) then none
    else if g.char = '\'' then
      match gs with
      | ⟨'\'', _, _⟩ :: gs => scanSingle ('\'' :: gap.folded ++ rev) .none gs
      | gs => some (gap.folded ++ rev, gs)
    else scanSingle (g.char :: gap.folded ++ rev) .none gs

inductive DoubleState where
  | text (gap : Gap)
  | escape
  /-- In an escape by code point: digits still to come, and the value of those read. -/
  | code (missing value : Nat)

def scanDouble (rev : List Char) (state : DoubleState) : List Glyph → Option (List Char × List Glyph)
  | [] => none
  | g :: gs =>
    match state with
    | .text gap =>
      if isBreak g.char then scanDouble rev (.text (gap.addBreak g.char)) gs
      else if isBlank g.char then scanDouble rev (.text (gap.addBlank g.char)) gs
      else if atDocumentMark (g :: gs) then none
      else if g.char = '"' then some (gap.folded ++ rev, gs)
      else if g.char = '\\' then scanDouble (gap.folded ++ rev) .escape gs
      else scanDouble (g.char :: gap.folded ++ rev) (.text .none) gs
    | .escape =>
      if isBreak g.char then scanDouble rev (.text (.broken none [])) gs
      else match codeLength? g.char with
        | some n => scanDouble rev (.code n 0) gs
        | none =>
          match escaped? g.char with
          | some c => scanDouble (c :: rev) (.text .none) gs
          | none => none
    | .code missing value =>
      match digitIn? 16 g.char with
      | none => none
      | some d =>
        if missing ≤ 1 then
          match charOfCode? (16 * value + d) with
          | some c => scanDouble (c :: rev) (.text .none) gs
          | none => none
        else scanDouble rev (.code (missing - 1) (16 * value + d)) gs

end PoolPlan.Yaml
