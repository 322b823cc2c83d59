import PoolPlan.Bytes

namespace PoolPlan.Utf8

inductive Fault where
  /-- The bytes end inside a sequence that begins at `start` and is valid so far. -/
  | incomplete (start : Nat)
  /-- Of the sequence at `start` the first `length` bytes cannot be followed by the next one. -/
  | invalid (start length : Nat)
deriving DecidableEq, Repr

def Fault.message : Fault → String
  | .incomplete start => s!"incomplete utf-8 byte sequence from index {start}"
  | .invalid start length => s!"invalid utf-8 sequence of {length} bytes from index {start}"

def isTail (b : UInt8) : Bool := 0x80 ≤ b && b ≤ 0xBF

/-- How many bytes follow a first byte, and the least and greatest byte allowed right after it. The
narrower ranges keep out overlong forms, surrogates and code points beyond U+10FFFF. -/
def lead? (b : UInt8) : Option (Nat × UInt8 × UInt8) :=
  if b < 0x80 then some (0, 0, 0)
  else if b < 0xC2 then none
  else if b < 0xE0 then some (1, 0x80, 0xBF)
  else if b = 0xE0 then some (2, 0xA0, 0xBF)
  else if b = 0xED then some (2, 0x80, 0x9F)
  else if b < 0xF0 then some (2, 0x80, 0xBF)
  else if b = 0xF0 then some (3, 0x90, 0xBF)
  else if b < 0xF4 then some (3, 0x80, 0xBF)
  else if b = 0xF4 then some (3, 0x80, 0x8F)
  else none

/-- What is read of a sequence: where it began, how many of its bytes were taken, how many are still
to come and the range of the next one. -/
structure Partial where
  start : Nat
  taken : Nat
  missing : Nat
  low : UInt8
  high : UInt8

def scan (index : Nat) (state : Option Partial) : Bytes → Option Fault
  | [] => state.map (fun p => .incomplete p.start)
  | b :: rest =>
    match state with
    | some p =>
      if p.low ≤ b && b ≤ p.high then
        if p.missing = 1 then scan (index + 1) none rest
        else scan (index + 1) (some ⟨p.start, p.taken + 1, p.missing - 1, 0x80, 0xBF⟩) rest
      else some (.invalid p.start p.taken)
    | none =>
      match lead? b with
      | none => some (.invalid index 1)
      | some (0, _, _) => scan (index + 1) none rest
      | some (missing, low, high) => scan (index + 1) (some ⟨index, 1, missing, low, high⟩) rest

def fault (bytes : Bytes) : Fault := (scan 0 none bytes).getD (.incomplete bytes.length)

def decode (bytes : Bytes) : Except Fault String :=
  match String.fromUTF8? ⟨bytes.toArray⟩ with
  | some text => .ok text
  | none => .error (fault bytes)

def encode (text : String) : Bytes := text.toUTF8.data.toList

/-- Text has exactly one encoding. -/
theorem decode_eq_ok_iff {bytes : Bytes} {text : String} :
    decode bytes = .ok text ↔ bytes = encode text := by
  have hb : ∀ b : ByteArray, b.data.toList = bytes ↔ b = ⟨bytes.toArray⟩ := fun b => by
    cases b
    simp [← Array.toList_inj]
  rw [encode, eq_comm (a := bytes), hb]
  simp only [decode, String.fromUTF8?]
  split
  · rename_i t h
    split at h
    · simp only [Option.some.injEq] at h
      subst h
      simp only [Except.ok.injEq, ← String.toByteArray_inj]
      exact ⟨fun h => h.symm, fun h => h.symm⟩
    · cases h
  · rename_i h
    split at h
    · cases h
    · rename_i hv
      simp only [reduceCtorEq, false_iff]
      exact fun ht => hv (ht ▸ text.isValidUTF8)

@[simp] theorem decode_encode (text : String) : decode (encode text) = .ok text :=
  decode_eq_ok_iff.2 rfl

end PoolPlan.Utf8
