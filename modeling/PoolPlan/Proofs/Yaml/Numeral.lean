import PoolPlan.Proofs.Json.ReadBack

namespace PoolPlan.Yaml

theorem ne_of_isDigit {c : Char} (hc : c.isDigit = true) (d : Char) (hd : d.isDigit = false) :
    c ≠ d := by
  rintro rfl
  simp [hc] at hd

theorem digitIn?_of_isDigit {c : Char} (h : c.isDigit = true) :
    digitIn? 10 c = some (c.toNat - '0'.toNat) := by
  have hrange : 48 ≤ c.toNat ∧ c.toNat ≤ 57 := Char.isDigit_iff_toNat.1 h
  have hlt : c.toNat - 48 < 10 := by omega
  simp [digitIn?, hrange, hlt]

theorem foldl_digits {cs : List Char} (h : ∀ c ∈ cs, c.isDigit = true) (n : Nat) :
    cs.foldl (fun acc c => do return 10 * (← acc) + (← digitIn? 10 c)) (some n) =
      some (Nat.ofDigitChars 10 cs n) := by
  induction cs generalizing n with
  | nil => rfl
  | cons c cs ih =>
    obtain ⟨hc, hcs⟩ := List.forall_mem_cons.1 h
    rw [List.foldl_cons, Nat.ofDigitChars_cons]
    simp only [digitIn?_of_isDigit hc, bind, Option.bind_some, pure]
    exact ih hcs _

/-- A number is read from its decimal digits, which have no zero in front. -/
theorem magnitude?_toDigits (n : Nat) : magnitude? (Nat.toDigits 10 n) = some n := by
  by_cases hn : n = 0
  · subst hn
    decide
  · have hdigits : ∀ c ∈ Nat.toDigits 10 n, c.isDigit = true := fun c hc =>
      Nat.isDigit_of_mem_toDigits (by decide) (by decide) hc
    have hfold := foldl_digits hdigits 0
    have hhead := Json.head_toDigits hn
    rw [Nat.ofDigitChars_ten_toDigits] at hfold
    obtain ⟨c, cs, hcs⟩ := List.exists_cons_of_ne_nil (Nat.toDigits_ne_nil (n := n) (b := 10))
    rw [hcs] at hdigits hfold hhead ⊢
    have hne := ne_of_isDigit (hdigits c List.mem_cons_self)
    have hzero : c ≠ '0' := by simpa using hhead
    have hpadded : isZeroPadded (c :: cs) = false := by
      simp [isZeroPadded, hne '+' (by decide), hne '-' (by decide), hzero]
    simp only [magnitude?, hpadded, inRadix?, hfold]
    simp [hzero]

theorem integer?_integerChars (n : Int) : integer? (Json.integerChars n) = some n := by
  by_cases hn : n < 0
  · have hneg : -(n.natAbs : Int) = n := by omega
    rw [Json.integerChars, if_pos hn, integer?, magnitude?_toDigits]
    exact congrArg some hneg
  · have hpos : (n.natAbs : Int) = n := by omega
    obtain ⟨d, ds, hds, hd⟩ := Json.toDigits_cons n.natAbs
    have hmagnitude := magnitude?_toDigits n.natAbs
    simp only [Json.integerChars, hn, if_false]
    rw [hds] at hmagnitude ⊢
    have hne := ne_of_isDigit hd
    simp [integer?, hne '+' (by decide), hne '-' (by decide), hmagnitude, hpos]

/-- A whole number does not look like a word. -/
theorem not_word_integerChars (n : Int) :
    (Json.integerChars n).isEmpty = false ∧ isNullWord (Json.integerChars n) = false ∧
      bool? (Json.integerChars n) = none := by
  obtain ⟨c, cs, hcs, hc⟩ := Json.integerChars_cons n
  have hne (d : Char) (hd : (d != '-' && !d.isDigit) = true) : c ≠ d := by
    rintro rfl
    rcases hc with rfl | hc
    · exact absurd hd (by decide)
    · simp [hc] at hd
  rw [hcs]
  simp [isNullWord, bool?, hne 'n' (by decide), hne 'N' (by decide), hne '~' (by decide),
    hne 't' (by decide), hne 'T' (by decide), hne 'f' (by decide), hne 'F' (by decide)]

theorem resolve_integerChars {n : Int} (h : Json.Number.ofInt? n = some (.integer n)) :
    resolve (Json.integerChars n) = .integer n := by
  obtain ⟨hempty, hnull, hbool⟩ := not_word_integerChars n
  obtain ⟨hrange, -⟩ := Option.ite_none_right_eq_some.1 h
  have hbounded : boundedInteger? (Json.integerChars n) = some n := by
    rw [boundedInteger?, integer?_integerChars]
    simp only
    rw [if_pos (by omega)]
  simp [resolve, hempty, hnull, hbool, hbounded]

theorem toList_text_integer (n : Int) : (Json.integer n).text.toList = Json.integerChars n :=
  String.toList_ofList

/-- A 64-bit number that stands without quotes is that number. -/
theorem value?_integerText {n : Int} (h : Json.Number.ofInt? n = some (.integer n)) :
    value? (Json.integer n).text true none = some (.integer n) := by
  simp only [value?, toList_text_integer, if_true, resolve_integerChars h, integerValue?, h,
    Option.map_some]
  rfl

end PoolPlan.Yaml
