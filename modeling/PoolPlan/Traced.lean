import PoolPlan.Event
import PoolPlan.Failure

namespace PoolPlan

/-- What was reported before a failure stays reported. -/
structure Traced (ε α : Type) where
  events : List Event
  result : Except ε α

namespace Traced
variable {ε α β : Type}

protected def pure (a : α) : Traced ε α := ⟨[], .ok a⟩

protected def bind (t : Traced ε α) (f : α → Traced ε β) : Traced ε β :=
  match t.result with
  | .ok a =>
    let next := f a
    ⟨t.events ++ next.events, next.result⟩
  | .error failure => ⟨t.events, .error failure⟩

instance : Monad (Traced ε) where
  pure := Traced.pure
  bind := Traced.bind

def emit (e : Event) : Traced ε Unit := ⟨[e], .ok ()⟩

def fail (failure : ε) : Traced ε α := ⟨[], .error failure⟩

def ofExcept (result : Except ε α) : Traced ε α := ⟨[], result⟩

def mapError {δ : Type} (f : ε → δ) (t : Traced ε α) : Traced δ α := ⟨t.events, t.result.mapError f⟩

@[simp] theorem result_pure (a : α) : (pure a : Traced ε α).result = .ok a := rfl

@[simp] theorem events_pure (a : α) : (pure a : Traced ε α).events = [] := rfl

@[simp] theorem result_emit (e : Event) : (emit e : Traced ε Unit).result = .ok () := rfl

@[simp] theorem events_emit (e : Event) : (emit e : Traced ε Unit).events = [e] := rfl

@[simp] theorem result_fail (failure : ε) : (fail failure : Traced ε α).result = .error failure := rfl

@[simp] theorem events_fail (failure : ε) : (fail failure : Traced ε α).events = [] := rfl

@[simp] theorem result_ofExcept (r : Except ε α) : (ofExcept r).result = r := rfl

@[simp] theorem events_ofExcept (r : Except ε α) : (ofExcept r).events = [] := rfl

@[simp] theorem result_bind (t : Traced ε α) (f : α → Traced ε β) :
    (t >>= f).result = t.result >>= fun a => (f a).result := by
  obtain ⟨events, result⟩ := t
  cases result <;> rfl

theorem bind_of_ok {t : Traced ε α} {a : α} (h : t.result = .ok a) (f : α → Traced ε β) :
    t >>= f = ⟨t.events ++ (f a).events, (f a).result⟩ := by
  simp [bind, Traced.bind, h]

theorem bind_of_error {t : Traced ε α} {failure : ε} (h : t.result = .error failure)
    (f : α → Traced ε β) : t >>= f = ⟨t.events, .error failure⟩ := by
  simp [bind, Traced.bind, h]

end Traced
end PoolPlan
