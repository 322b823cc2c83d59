namespace PoolPlan.Yaml

structure Glyph where
  char : Char
  line : Nat
  column : Nat
deriving DecidableEq, Repr

/-- No control character, apart from tabs and line breaks, may stand in a text. -/
def isAllowed (c : Char) : Bool :=
  let n := c.toNat
  n == 0x09 || n == 0x0A || n == 0x0D || (0x20 ≤ n && n ≤ 0x7E) || n == 0x85 ||
    (0xA0 ≤ n && n ≤ 0xFFFD) || 0x10000 ≤ n

def isBlank (c : Char) : Bool := c == ' ' || c == '\t'

def isLineFeed (c : Char) : Bool := c == '\n' || c == '\r' || c == '\u0085'

def isSeparator (c : Char) : Bool := c == '\u2028' || c == '\u2029'

def isBreak (c : Char) : Bool := c == '\n' || isSeparator c

def place (line column : Nat) : List Char → List Glyph
  | [] => []
  | '\r' :: '\n' :: cs => ⟨'\n', line, column⟩ :: place (line + 1) 0 cs
  | c :: cs =>
    if isLineFeed c then ⟨'\n', line, column⟩ :: place (line + 1) 0 cs
    else if isSeparator c then ⟨c, line, column⟩ :: place (line + 1) 0 cs
    else ⟨c, line, column⟩ :: place line (column + 1) cs

/-- The glyphs of a text. A byte order mark in front takes up a column and is dropped. -/
def glyphs? (cs : List Char) : Option (List Glyph) :=
  if cs.all isAllowed then
    match place 0 0 cs with
    | ⟨'\uFEFF', _, _⟩ :: gs => some gs
    | gs => some gs
  else none

def atLineEnd : List Glyph → Bool
  | [] => true
  | g :: _ => isBreak g.char

/-- What stands before ends here: a blank, a line break or the end of the text follows. -/
def atWordEnd : List Glyph → Bool
  | [] => true
  | g :: _ => isBlank g.char || isBreak g.char

def atMark (c : Char) : List Glyph → Bool
  | g :: h :: i :: rest =>
    g.column == 0 && g.char == c && h.char == c && i.char == c && atWordEnd rest
  | _ => false

def atDocumentMark (gs : List Glyph) : Bool := atMark '-' gs || atMark '.' gs

def skipBlanks (gs : List Glyph) : List Glyph := gs.dropWhile (fun g => isBlank g.char)

def skipComment : List Glyph → List Glyph
  | ⟨'#', _, _⟩ :: gs => gs.dropWhile (fun g => !isBreak g.char)
  | gs => gs

def takeRun (p : Char → Bool) (gs : List Glyph) : List Char × List Glyph :=
  ((gs.takeWhile (fun g => p g.char)).map (·.char), gs.dropWhile (fun g => p g.char))

end PoolPlan.Yaml
