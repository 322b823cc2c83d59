import PoolPlan.Json.Reader

namespace PoolPlan.Json

/-- Text that cannot be taken for the continuation of a numeral. -/
def Delimited (rest : List Char) : Prop :=
  ∀ c ∈ rest.head?, c.isDigit = false ∧ c ≠ '.' ∧ c ≠ 'e' ∧ c ≠ 'E'

theorem delimited_nil : Delimited [] := by simp [Delimited]

/-- The first digit of a positive number is not a zero. -/
theorem head_toDigits {n : Nat} (hn : n ≠ 0) : (Nat.toDigits 10 n).head? ≠ some '0' := by
  induction n using Nat.strongRecOn with
  | ind n ih =>
    rw [Nat.toDigits_eq_if (by decide)]
    split
    · simp [hn]
    · have hne : Nat.toDigits 10 (n / 10) ≠ [] := Nat.toDigits_ne_nil
      obtain ⟨d, ds, he⟩ := List.exists_cons_of_ne_nil hne
      have := ih (n / 10) (by omega) (by omega)
      simpa [he] using this

theorem digits?_append {ds rest : List Char} (hds : ∀ c ∈ ds, c.isDigit = true) (hne : ds ≠ [])
    (hr : Delimited rest) : digits? (ds ++ rest) = some (ds, rest) := by
  have htake : rest.takeWhile Char.isDigit = [] ∧ rest.dropWhile Char.isDigit = rest := by
    cases rest with
    | nil => simp
    | cons c cs => simp [(hr c rfl).1]
  cases ds with
  | nil => exact absurd rfl hne
  | cons d ds =>
    simp only [digits?, List.takeWhile_append_of_pos hds, List.dropWhile_append_of_pos hds,
      htake.1, htake.2, List.append_nil]

theorem whole?_toDigits (n : Nat) {rest : List Char} (hr : Delimited rest) :
    whole? (Nat.toDigits 10 n ++ rest) = some (Nat.toDigits 10 n, rest) := by
  have hd := digits?_append (fun c hc => Nat.isDigit_of_mem_toDigits (by decide) (by decide) hc)
    (Nat.toDigits_ne_nil (n := n) (b := 10)) hr
  simp only [whole?, hd]
  split
  · rename_i hz
    simp only [Option.some.injEq, Prod.mk.injEq] at hz
    by_cases hn : n = 0
    · simp [hn] at hz
    · have := head_toDigits hn
      simp [hz.1] at this
  · rfl

theorem exponent?_of_delimited {rest : List Char} (hr : Delimited rest) :
    exponent? rest = some (none, rest) := by
  cases rest with
  | nil => rfl
  | cons c cs =>
    obtain ⟨-, -, he, hE⟩ := hr c rfl
    simp [exponent?, he, hE]

def wholeNumeral (negative : Bool) (n : Nat) : Numeral :=
  ⟨negative, Nat.toDigits 10 n, [], none, true⟩

theorem unsigned?_toDigits (negative : Bool) (n : Nat) {rest : List Char} (hr : Delimited rest) :
    unsigned? negative (Nat.toDigits 10 n ++ rest) = some (wholeNumeral negative n, rest) := by
  have hp : ∀ r, rest ≠ '.' :: r := by
    rintro r rfl
    exact (hr '.' rfl).2.1 rfl
  simp only [unsigned?, whole?_toDigits n hr, Option.bind_eq_bind, Option.bind_some,
    exponent?_of_delimited hr]
  rfl

theorem numeral?_integerChars (n : Int) {rest : List Char} (hr : Delimited rest) :
    numeral? (integerChars n ++ rest) = some (wholeNumeral (n < 0) n.natAbs, rest) := by
  by_cases hn : n < 0
  · simp [integerChars, hn, numeral?, unsigned?_toDigits _ _ hr]
  · have hd := unsigned?_toDigits false n.natAbs hr
    simp only [integerChars, hn, if_false, decide_false]
    cases he : Nat.toDigits 10 n.natAbs with
    | nil => exact absurd he Nat.toDigits_ne_nil
    | cons d ds =>
      have hdig : d.isDigit = true :=
        Nat.isDigit_of_mem_toDigits (b := 10) (n := n.natAbs) (by decide) (by decide) (by simp [he])
      rw [he, List.cons_append] at hd
      rw [List.cons_append, numeral?, hd]
      rintro cs hcs
      obtain ⟨rfl, -⟩ := List.cons.inj hcs
      exact absurd hdig (by decide)

theorem value?_wholeNumeral {n : Int} {v : Number} (hv : Number.ofInt? n = some v) :
    (wholeNumeral (n < 0) n.natAbs).value? = some v := by
  have hw : (if n < 0 then -(n.natAbs : Int) else (n.natAbs : Int)) = n := by
    split <;> omega
  have hz : (decide (n < 0) && n == 0) = false := by
    by_cases h : n = 0 <;> simp [h]
  simp only [Numeral.value?, wholeNumeral, Nat.ofDigitChars_ten_toDigits, decide_eq_true_eq, hw, hz,
    hv, Bool.not_false, Bool.and_self, if_true]

/-- An integer is read back as itself. -/
theorem numberNode?_integerChars {n : Int} {v : Number} (hv : Number.ofInt? n = some v)
    {rest : List Char} (hr : Delimited rest) :
    numberNode? (integerChars n ++ rest) = some (.scalar (.number v), rest) := by
  simp [numberNode?, numeral?_integerChars n hr, value?_wholeNumeral hv]

end PoolPlan.Json
