import PoolPlan.Document

namespace PoolPlan.Json

def isSpace (c : Char) : Bool := c == ' ' || c == '\t' || c == '\n' || c == '\r'

def skipSpace (cs : List Char) : List Char := cs.dropWhile isSpace

/-- One unit of a quoted string: a character, or the code unit of an escape. -/
inductive StringUnit where
  | char (c : Char)
  | code (n : Nat)

def hex? (a b c d : Char) : Option Nat := do
  let p ← Yaml.digitIn? 16 a
  let q ← Yaml.digitIn? 16 b
  let r ← Yaml.digitIn? 16 c
  let s ← Yaml.digitIn? 16 d
  return 4096 * p + 256 * q + 16 * r + s

def simpleEscape? (c : Char) : Option Char :=
  if c = '"' then some '"'
  else if c = '\\' then some '\\'
  else if c = '/' then some '/'
  else if c = 'b' then some '\x08'
  else if c = 'f' then some '\x0c'
  else if c = 'n' then some '\n'
  else if c = 'r' then some '\r'
  else if c = 't' then some '\t'
  else none

def units? : List Char → Option (List StringUnit × List Char)
  | [] => none
  | '"' :: cs => some ([], cs)
  | '\\' :: 'u' :: a :: b :: c :: d :: cs =>
    match hex? a b c d, units? cs with
    | some n, some (us, r) => some (.code n :: us, r)
    | _, _ => none
  | '\\' :: e :: cs =>
    match simpleEscape? e, units? cs with
    | some c, some (us, r) => some (.char c :: us, r)
    | _, _ => none
  | c :: cs =>
    if c.toNat < 0x20 ∨ c = '\\' then none
    else match units? cs with
      | some (us, r) => some (.char c :: us, r)
      | none => none

def isHighSurrogate (n : Nat) : Bool := 0xD800 ≤ n && n < 0xDC00
def isLowSurrogate (n : Nat) : Bool := 0xDC00 ≤ n && n < 0xE000

/-- The text of units, if every surrogate is half of a pair. -/
def unitChars? : List StringUnit → Option (List Char)
  | [] => some []
  | .char c :: us => (unitChars? us).map (c :: ·)
  | .code n :: us =>
    if isHighSurrogate n then
      match us with
      | .code m :: rest =>
        if isLowSurrogate m then
          (unitChars? rest).map (Char.ofNat (0x10000 + 1024 * (n - 0xD800) + (m - 0xDC00)) :: ·)
        else none
      | _ => none
    else if isLowSurrogate n then none
    else (unitChars? us).map (Char.ofNat n :: ·)

def stringNode? (cs : List Char) : Option (Document × List Char) :=
  match units? cs with
  | none => none
  | some (us, r) =>
    match unitChars? us with
    | some text => some (.scalar (.string (String.ofList text)), r)
    | none => some (.scalar .unreadable, r)

def numberNode? (cs : List Char) : Option (Document × List Char) :=
  match numeral? cs with
  | none => none
  | some (n, r) =>
    match n.value? with
    | some v => some (.scalar (.number v), r)
    | none => some (.scalar .unreadable, r)

def bounded (room : Nat) (d : Document) : Document :=
  match room with
  | 0 => .scalar .unreadable
  | _ + 1 => d

mutual
/-- A value with `room` levels of containers allowed, and the text after it. -/
def node? (fuel room : Nat) (cs : List Char) : Option (Document × List Char) :=
  match fuel with
  | 0 => none
  | fuel + 1 =>
    match skipSpace cs with
    | 'n' :: 'u' :: 'l' :: 'l' :: r => some (.scalar .null, r)
    | 't' :: 'r' :: 'u' :: 'e' :: r => some (.scalar (.bool true), r)
    | 'f' :: 'a' :: 'l' :: 's' :: 'e' :: r => some (.scalar (.bool false), r)
    | '"' :: r => stringNode? r
    | '[' :: r =>
      match skipSpace r with
      | ']' :: r => some (bounded room (.sequence true []), r)
      | r =>
        match node? fuel (room - 1) r with
        | none => none
        | some (d, r) =>
          match moreNodes? fuel (room - 1) r with
          | none => none
          | some (ds, r) => some (bounded room (.sequence true (d :: ds)), r)
    | '\x7b' :: r =>
      match skipSpace r with
      | '\x7d' :: r => some (bounded room (.mapping []), r)
      | r =>
        match entry? fuel (room - 1) r with
        | none => none
        | some (e, r) =>
          match moreEntries? fuel (room - 1) r with
          | none => none
          | some (es, r) => some (bounded room (.mapping (e :: es)), r)
    | r => numberNode? r
def moreNodes? (fuel room : Nat) (cs : List Char) : Option (List Document × List Char) :=
  match fuel with
  | 0 => none
  | fuel + 1 =>
    match skipSpace cs with
    | ']' :: r => some ([], r)
    | ',' :: r =>
      match node? fuel room r with
      | none => none
      | some (d, r) =>
        match moreNodes? fuel room r with
        | none => none
        | some (ds, r) => some (d :: ds, r)
    | _ => none
def entry? (fuel room : Nat) (cs : List Char) : Option ((Document × Document) × List Char) :=
  match fuel with
  | 0 => none
  | fuel + 1 =>
    match skipSpace cs with
    | '"' :: r =>
      match stringNode? r with
      | none => none
      | some (k, r) =>
        match skipSpace r with
        | ':' :: r =>
          match node? fuel room r with
          | none => none
          | some (d, r) => some ((k, d), r)
        | _ => none
    | _ => none
def moreEntries? (fuel room : Nat) (cs : List Char) :
    Option (List (Document × Document) × List Char) :=
  match fuel with
  | 0 => none
  | fuel + 1 =>
    match skipSpace cs with
    | '\x7d' :: r => some ([], r)
    | ',' :: r =>
      match entry? fuel room r with
      | none => none
      | some (e, r) =>
        match moreEntries? fuel room r with
        | none => none
        | some (es, r) => some (e :: es, r)
    | _ => none
end

def depthLimit : Nat := 127

/-- Every step takes a character or goes one level down right before it takes one. -/
def fuelFor (cs : List Char) : Nat := 2 * cs.length + 2

def read? (cs : List Char) : Option Document :=
  match node? (fuelFor cs) depthLimit cs with
  | some (d, r) => if (skipSpace r).isEmpty then some d else none
  | none => none

def document? (text : String) : Option Document := read? text.toList

end PoolPlan.Json
