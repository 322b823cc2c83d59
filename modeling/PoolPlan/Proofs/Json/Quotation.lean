import PoolPlan.Json.Reader
import PoolPlan.Json.Writer

namespace PoolPlan.Json

/-- The value of two hexadecimal digits that a control character is written with. -/
theorem hex?_control {n : Nat} (h : n < 0x20) :
    hex? '0' '0' (Nat.digitChar (n / 16)) (Nat.digitChar (n % 16)) = some n :=
  (by decide : ∀ n : Fin 32,
    hex? '0' '0' (Nat.digitChar (n.val / 16)) (Nat.digitChar (n.val % 16)) = some n.val) ⟨n, h⟩

def shortEscaped : List Char := ['"', '\\', '\x08', '\x0c', '\n', '\r', '\t']

/-- How a character is written: with an escape of its own, by its code, or as it is. -/
theorem escape_cases (c : Char) :
    c ∈ shortEscaped ∨
    (c ∉ shortEscaped ∧ c.toNat < 0x20 ∧ escape c =
      ['\\', 'u', '0', '0', Nat.digitChar (c.toNat / 16), Nat.digitChar (c.toNat % 16)]) ∨
    (0x20 ≤ c.toNat ∧ c ≠ '"' ∧ c ≠ '\\' ∧ escape c = [c]) := by
  by_cases hs : c ∈ shortEscaped
  · exact .inl hs
  · have hne : c ≠ '"' ∧ c ≠ '\\' ∧ c ≠ '\x08' ∧ c ≠ '\x0c' ∧ c ≠ '\n' ∧ c ≠ '\r' ∧ c ≠ '\t' := by
      simpa [shortEscaped] using hs
    by_cases hlt : c.toNat < 0x20
    · exact .inr (.inl ⟨hs, hlt, by simp [escape, hne, hlt]⟩)
    · exact .inr (.inr ⟨Nat.le_of_not_lt hlt, hne.1, hne.2.1, by simp [escape, hne, hlt]⟩)

/-- The unit that a written character is read as: its code where it is written as one. -/
def writtenUnit (c : Char) : StringUnit :=
  if c.toNat < 0x20 ∧ c ∉ shortEscaped then .code c.toNat else .char c

theorem units?_escape (c : Char) (rest : List Char) :
    units? (escape c ++ rest) = (units? rest).map (fun (us, r) => (writtenUnit c :: us, r)) := by
  rcases escape_cases c with hs | ⟨hs, hlt, he⟩ | ⟨hge, hquote, hback, he⟩
  · have hu : writtenUnit c = .char c := if_neg (fun h => h.2 hs)
    rw [hu]
    simp only [shortEscaped, List.mem_cons, List.not_mem_nil, or_false] at hs
    rcases hs with rfl | rfl | rfl | rfl | rfl | rfl | rfl <;>
      cases h : units? rest <;> simp [escape, units?, simpleEscape?, h]
  · simp only [he, List.cons_append, List.nil_append, units?, hex?_control hlt]
    cases units? rest <;> simp [writtenUnit, hlt, hs]
  · have hlt : ¬c.toNat < 0x20 := Nat.not_lt.2 hge
    rw [he, List.singleton_append, units?]
    · cases units? rest <;> simp [hlt, hback, writtenUnit]
    all_goals simp [hquote, hback]

theorem unitChars?_writtenUnit (c : Char) (us : List StringUnit) :
    unitChars? (writtenUnit c :: us) = (unitChars? us).map (c :: ·) := by
  unfold writtenUnit
  split
  · rename_i h
    have hhigh : isHighSurrogate c.toNat = false := by simp only [isHighSurrogate]; grind
    have hlow : isLowSurrogate c.toNat = false := by simp only [isLowSurrogate]; grind
    rw [unitChars?.eq_def]
    simp [hhigh, hlow]
  · rfl

theorem units?_quoted (cs rest : List Char) :
    units? (cs.flatMap escape ++ '"' :: rest) = some (cs.map writtenUnit, rest) := by
  induction cs with
  | nil => simp [units?]
  | cons c cs ih => simp [units?_escape, ih]

theorem unitChars?_map_writtenUnit (cs : List Char) :
    unitChars? (cs.map writtenUnit) = some cs := by
  induction cs with
  | nil => rfl
  | cons c cs ih => rw [List.map_cons, unitChars?_writtenUnit, ih]; rfl

/-- A string is read back as itself. -/
theorem stringNode?_quoted (s : String) (rest : List Char) :
    stringNode? (s.toList.flatMap escape ++ '"' :: rest) = some (.scalar (.string s), rest) := by
  simp [stringNode?, units?_quoted, unitChars?_map_writtenUnit]

end PoolPlan.Json
