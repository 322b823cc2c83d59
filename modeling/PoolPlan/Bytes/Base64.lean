import PoolPlan.Bytes

namespace PoolPlan.Base64

def digit (n : Nat) : Char :=
  if n < 26 then Char.ofNat (65 + n)
  else if n < 52 then Char.ofNat (71 + n)
  else if n < 62 then Char.ofNat (n - 4)
  else if n = 62 then '+'
  else '/'

def digit? (c : Char) : Option Nat :=
  let n := c.toNat
  if 65 ≤ n ∧ n ≤ 90 then some (n - 65)
  else if 97 ≤ n ∧ n ≤ 122 then some (n - 71)
  else if 48 ≤ n ∧ n ≤ 57 then some (n + 4)
  else if c = '+' then some 62
  else if c = '/' then some 63
  else none

def encode : Bytes → List Char
  | [] => []
  | [a] =>
    let n := a.toNat
    [digit (n / 4), digit (n % 4 * 16), '=', '=']
  | [a, b] =>
    let n := 256 * a.toNat + b.toNat
    [digit (n / 1024), digit (n / 16 % 64), digit (n % 16 * 4), '=']
  | a :: b :: c :: rest =>
    let n := 65536 * a.toNat + 256 * b.toNat + c.toNat
    digit (n / 262144) :: digit (n / 4096 % 64) :: digit (n / 64 % 64) :: digit (n % 64) :: encode rest

/-- Padding is required, and the bits that the last digit does not need have to be zero. -/
def decodeLast? (a b c d : Char) : Option Bytes := do
  let p ← digit? a
  let q ← digit? b
  if c = '=' then
    if d = '=' ∧ q % 16 = 0 then return [UInt8.ofNat (4 * p + q / 16)] else none
  else
    let r ← digit? c
    if d = '=' then
      if r % 4 = 0 then
        return [UInt8.ofNat (4 * p + q / 16), UInt8.ofNat (q % 16 * 16 + r / 4)]
      else none
    else
      let s ← digit? d
      return [UInt8.ofNat (4 * p + q / 16), UInt8.ofNat (q % 16 * 16 + r / 4),
        UInt8.ofNat (r % 4 * 64 + s)]

def decode? : List Char → Option Bytes
  | [] => some []
  | [a, b, c, d] => decodeLast? a b c d
  | a :: b :: c :: d :: rest => do
    let p ← digit? a
    let q ← digit? b
    let r ← digit? c
    let s ← digit? d
    let bytes ← decode? rest
    return UInt8.ofNat (4 * p + q / 16) :: UInt8.ofNat (q % 16 * 16 + r / 4) ::
      UInt8.ofNat (r % 4 * 64 + s) :: bytes
  | _ => none

theorem digit?_digit {n : Nat} (h : n < 64) : digit? (digit n) = some n :=
  (by decide : ∀ n : Fin 64, digit? (digit n) = some n.val) ⟨n, h⟩

theorem digit_ne_pad {n : Nat} (h : n < 64) : digit n ≠ '=' :=
  (by decide : ∀ n : Fin 64, digit n ≠ '=') ⟨n, h⟩

theorem ofNat_eq {n : Nat} {b : UInt8} (h : n = b.toNat) : UInt8.ofNat n = b := by
  rw [h, UInt8.ofNat_toNat]

/-- What is written is read back. -/
theorem decode?_encode (bytes : Bytes) : decode? (encode bytes) = some bytes := by
  fun_induction encode bytes with
  | case1 => rfl
  | case2 a n =>
    have ha := a.toNat_lt
    simp only [decode?, decodeLast?, digit?_digit (show n / 4 < 64 by omega),
      digit?_digit (show n % 4 * 16 < 64 by omega)]
    simp only [Option.bind_eq_bind, Option.bind_some, if_true, true_and]
    rw [if_pos (by omega)]
    simp only [pure, Option.some.injEq, List.cons.injEq, and_true]
    exact ofNat_eq (by omega)
  | case3 a b n =>
    have ha := a.toNat_lt
    have hb := b.toNat_lt
    simp only [decode?, decodeLast?, digit?_digit (show n / 1024 < 64 by omega),
      digit?_digit (show n / 16 % 64 < 64 by omega), digit?_digit (show n % 16 * 4 < 64 by omega),
      digit_ne_pad (show n % 16 * 4 < 64 by omega)]
    simp only [Option.bind_eq_bind, Option.bind_some, if_true, if_false]
    rw [if_pos (by omega)]
    simp only [pure, Option.some.injEq, List.cons.injEq, and_true]
    exact ⟨ofNat_eq (by omega), ofNat_eq (by omega)⟩
  | case4 a b c rest n ih =>
    have ha := a.toNat_lt
    have hb := b.toNat_lt
    have hc := c.toNat_lt
    have h1 := digit?_digit (show n / 262144 < 64 by omega)
    have h2 := digit?_digit (show n / 4096 % 64 < 64 by omega)
    have h3 := digit?_digit (show n / 64 % 64 < 64 by omega)
    have h4 := digit?_digit (show n % 64 < 64 by omega)
    have e1 : UInt8.ofNat (4 * (n / 262144) + n / 4096 % 64 / 16) = a := ofNat_eq (by omega)
    have e2 : UInt8.ofNat (n / 4096 % 64 % 16 * 16 + n / 64 % 64 / 4) = b := ofNat_eq (by omega)
    have e3 : UInt8.ofNat (n / 64 % 64 % 4 * 64 + n % 64) = c := ofNat_eq (by omega)
    cases hr : encode rest with
    | nil =>
      rw [hr] at ih
      simp only [decode?, Option.some.injEq] at ih
      simp only [decode?, decodeLast?, h1, h2, h3, h4, Option.bind_eq_bind, Option.bind_some,
        if_neg (digit_ne_pad (show n / 64 % 64 < 64 by omega)),
        if_neg (digit_ne_pad (show n % 64 < 64 by omega)), e1, e2, e3, ih, pure]
    | cons d ds =>
      rw [hr] at ih
      rw [decode?.eq_3]
      · simp only [h1, h2, h3, h4, Option.bind_eq_bind, Option.bind_some, e1, e2, e3, ih, pure]
      · simp

def ofString? (s : String) : Option Bytes := decode? s.toList

def toString (bytes : Bytes) : String := String.ofList (encode bytes)

end PoolPlan.Base64
