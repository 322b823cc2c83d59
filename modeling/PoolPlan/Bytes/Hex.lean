import PoolPlan.Bytes

namespace PoolPlan.Hex

def digit (n : Nat) : Char := Nat.digitChar n

def encode (bytes : Bytes) : List Char :=
  bytes.flatMap (fun b => [digit (b.toNat / 16), digit (b.toNat % 16)])

def digit? (c : Char) : Option Nat :=
  let n := c.toNat
  if 48 ≤ n ∧ n ≤ 57 then some (n - 48)
  else if 97 ≤ n ∧ n ≤ 102 then some (n - 87)
  else if 65 ≤ n ∧ n ≤ 70 then some (n - 55)
  else none

def decode? : List Char → Option Bytes
  | [] => some []
  | a :: b :: rest => do
    let high ← digit? a
    let low ← digit? b
    let bytes ← decode? rest
    return UInt8.ofNat (16 * high + low) :: bytes
  | [_] => none

theorem digit?_digit {n : Nat} (h : n < 16) : digit? (digit n) = some n :=
  (by decide : ∀ n : Fin 16, digit? (digit n) = some n.val) ⟨n, h⟩

/-- What is written is read back. -/
theorem decode?_encode (bytes : Bytes) : decode? (encode bytes) = some bytes := by
  induction bytes with
  | nil => rfl
  | cons b bytes ih =>
    have hb := b.toNat_lt
    rw [encode, List.flatMap_cons, ← encode]
    simp only [List.cons_append, List.nil_append, decode?, ih,
      digit?_digit (show b.toNat / 16 < 16 by omega), digit?_digit (show b.toNat % 16 < 16 by omega)]
    simp only [Option.bind_eq_bind, Option.bind_some, pure, Option.some.injEq, List.cons.injEq, and_true]
    rw [show 16 * (b.toNat / 16) + b.toNat % 16 = b.toNat by omega, UInt8.ofNat_toNat]

end PoolPlan.Hex
