import StateWake.Base.Error

/-!
# Computations with effects

A computation that performs effects in order and then returns or raises. What was performed
before an exception stays performed.
-/

namespace StateWake.Base

/-- The effects performed, first one first, and the result. -/
structure Logged (ε α : Type) where
  effects : List ε
  result : Except PyError α

namespace Logged

variable {ε α β : Type}

instance : Monad (Logged ε) where
  pure a := ⟨[], .ok a⟩
  bind x f :=
    match x.result with
    | .error e => ⟨x.effects, .error e⟩
    | .ok a => ⟨x.effects ++ (f a).effects, (f a).result⟩

/-- A step without an effect. -/
def ofExcept (x : Except PyError α) : Logged ε α := ⟨[], x⟩

/-- A step whose effect is performed even where it raises. -/
def perform (e : ε) (x : Except PyError α) : Logged ε α := ⟨[e], x⟩

@[simp] theorem effects_pure (a : α) : (pure a : Logged ε α).effects = [] := rfl

@[simp] theorem effects_ofExcept (x : Except PyError α) : (ofExcept x : Logged ε α).effects = [] :=
  rfl

@[simp] theorem effects_perform (e : ε) (x : Except PyError α) : (perform e x).effects = [e] := rfl

@[simp] theorem result_ofExcept (x : Except PyError α) : (ofExcept x : Logged ε α).result = x := rfl

@[simp] theorem result_perform (e : ε) (x : Except PyError α) : (perform e x).result = x := rfl

/-- An effect of a sequence is one of its first step, or of the rest after a result. -/
theorem mem_bind {x : Logged ε α} {f : α → Logged ε β} {e : ε} :
    e ∈ (x >>= f).effects ↔ e ∈ x.effects ∨ ∃ a, x.result = .ok a ∧ e ∈ (f a).effects := by
  obtain ⟨effects, result⟩ := x
  cases result with
  | error error => simp [bind]
  | ok a => simp [bind]

end Logged

end StateWake.Base
