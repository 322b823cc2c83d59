import PoolPlan.Yaml.Scalar.Gap

namespace PoolPlan.Yaml

def isFlowIndicator (c : Char) : Bool := c == ',' || c == '[' || c == ']' || c == '\x7b' || c == '\x7d'

/-- Inside a flow collection a colon may not stand right before punctuation. -/
def isAmbiguous : List Glyph → Bool
  | ⟨':', _, _⟩ :: g :: _ => isFlowIndicator g.char || g.char == '?'
  | _ => false

def endsPlain (flow : Bool) : List Glyph → Bool
  | ⟨':', _, _⟩ :: rest => atWordEnd rest
  | g :: _ => flow && isFlowIndicator g.char
  | [] => true

/-- After white space a plain scalar may also end where something else starts. -/
def stopsPlain (flow : Bool) (indent : Nat) (gs : List Glyph) : Bool :=
  match gs with
  | [] => true
  | g :: _ => (!flow && g.column < indent) || atDocumentMark gs || g.char == '#'

/-- What was read of a plain scalar: its text backwards, whether it was followed by a line break, and
what comes next. -/
structure PlainScan where
  rev : List Char
  broken : Bool
  rest : List Glyph

/-- Read on, with the text so far and the white space after it. Continuation lines are indented by
`indent` with spaces. -/
def scanPlain (flow : Bool) (indent : Nat) (rev : List Char) (gap : Gap) :
    List Glyph → Option PlainScan
  | [] => some ⟨rev, gap.isBroken, []⟩
  | g :: gs =>
    if isBreak g.char then scanPlain flow indent rev (gap.addBreak g.char) gs
    else if isBlank g.char then
      if gap.isBroken && g.char == '\t' && g.column < indent then none
      else scanPlain flow indent rev (gap.addBlank g.char) gs
    else if !gap.isNone && stopsPlain flow indent (g :: gs) then some ⟨rev, gap.isBroken, g :: gs⟩
    else if flow && isAmbiguous (g :: gs) then none
    else if endsPlain flow (g :: gs) then some ⟨rev, gap.isBroken, g :: gs⟩
    else scanPlain flow indent (g.char :: gap.folded ++ rev) .none gs

end PoolPlan.Yaml
