import PoolPlan.Traced

namespace PoolPlan
variable {ε α β : Type}

@[simp] theorem ok_bind (a : α) (f : α → Except ε β) : Except.ok a >>= f = f a := rfl

theorem bind_eq_ok_iff {x : Except ε α} {f : α → Except ε β} {b : β} :
    x >>= f = .ok b ↔ ∃ a, x = .ok a ∧ f a = .ok b := by
  cases x with
  | error e => simp [bind, Except.bind]
  | ok a => simp

theorem bind_eq_error_iff {x : Except ε α} {f : α → Except ε β} {e : ε} :
    x >>= f = .error e ↔ x = .error e ∨ ∃ a, x = .ok a ∧ f a = .error e := by
  cases x with
  | error d => simp [bind, Except.bind]
  | ok a => simp

/-- The result of a computation that stops at the first of the given problems. -/
def StopsAt (problems : List ε) : Except ε α → Prop
  | .ok _ => problems = []
  | .error failure => problems.head? = some failure

namespace StopsAt
variable {ps qs : List ε}

theorem pure (a : α) : StopsAt ([] : List ε) (Pure.pure a : Except ε α) := rfl

theorem bind {x : Except ε α} {f : α → Except ε β} (h : StopsAt ps x)
    (hf : ∀ a, x = .ok a → StopsAt qs (f a)) : StopsAt (ps ++ qs) (x >>= f) := by
  cases x with
  | error failure =>
    change (ps ++ qs).head? = some failure
    rw [List.head?_append, h]
    rfl
  | ok a =>
    obtain rfl : ps = [] := h
    exact hf a rfl

/-- A part that cannot fail. -/
theorem bind_ok {x : Except ε α} {f : α → Except ε β} (h : StopsAt ps x)
    (hf : ∀ a, StopsAt ([] : List ε) (f a)) : StopsAt ps (x >>= f) := by
  have hall := h.bind fun a _ => hf a
  rwa [List.append_nil] at hall

theorem ok_iff {x : Except ε α} (h : StopsAt ps x) : (∃ a, x = .ok a) ↔ ps = [] := by
  cases x with
  | error failure =>
    have hne : ps ≠ [] := by
      rintro rfl
      contradiction
    simp [hne]
  | ok a => exact ⟨fun _ => h, fun _ => ⟨a, rfl⟩⟩

theorem error_iff {x : Except ε α} (h : StopsAt ps x) (failure : ε) :
    x = .error failure ↔ ps.head? = some failure := by
  cases x with
  | error other =>
    have hother : ps.head? = some other := h
    rw [hother, Except.error.injEq, Option.some.injEq]
  | ok a =>
    obtain rfl : ps = [] := h
    simp

end StopsAt

/-- Both fail in the same way, or both have results that are related. -/
inductive Alike {ε α β : Type} (R : α → β → Prop) : Except ε α → Except ε β → Prop where
  | error (failure : ε) : Alike R (.error failure) (.error failure)
  | ok {a : α} {b : β} (related : R a b) : Alike R (.ok a) (.ok b)

theorem Alike.map {γ : Type} {f : γ → α} {g : γ → β} {R : α → β → Prop} (h : ∀ c, R (f c) (g c))
    (x : Except ε γ) : Alike R (x.map f) (x.map g) := by
  cases x with
  | error failure => exact .error failure
  | ok c => exact .ok (h c)

theorem Alike.exists_ok {R : α → β → Prop} {x : Except ε α} {y : Except ε β} {a : α}
    (h : Alike R x y) (hx : x = .ok a) : ∃ b, y = .ok b ∧ R a b := by
  subst hx
  cases h with
  | ok related => exact ⟨_, rfl, related⟩

end PoolPlan
