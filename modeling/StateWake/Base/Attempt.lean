import StateWake.Base.Error

/-!
# Attempts

A computation over a state that may raise. What it did to the state before it raised stands. An
`except` clause takes the kinds it names, in the state the raising left. A relation between states
that composes holds across an attempt when it holds across its parts.

Library support; no repository notion occurs here.
-/

namespace StateWake.Base

/-- A computation over a state that may raise. -/
def Attempt (σ α : Type) : Type := σ → Except PyError α × σ

namespace Attempt

variable {σ α β : Type}

/-- The rest of a computation, where the first part did not raise. -/
def andThen (m : Attempt σ α) (f : α → Attempt σ β) : Attempt σ β := fun s ↦
  match m s with
  | (.ok a, s') => f a s'
  | (.error e, s') => (.error e, s')

instance : Monad (Attempt σ) where
  pure a := fun s ↦ (.ok a, s)
  bind := andThen

/-- What raises or not, whatever the state. -/
def lift (x : Except PyError α) : Attempt σ α := fun s ↦ (x, s)

/-- The state. -/
def get : Attempt σ σ := fun s ↦ (.ok s, s)

/-- A change of the state. -/
def modify (f : σ → σ) : Attempt σ Unit := fun s ↦ (.ok (), f s)

/-- `try: m` with an `except` clause for some kinds. -/
def catching (caught : ErrorKind → Bool) (m : Attempt σ α) (handle : PyError → Attempt σ α) :
    Attempt σ α := fun s ↦
  match m s with
  | (.ok a, s') => (.ok a, s')
  | (.error e, s') => if caught e.kind then handle e s' else (.error e, s')

/-- A computation on a part of the state. -/
def focus {τ : Type} (part : τ → σ) (put : τ → σ → τ) (m : Attempt σ α) : Attempt τ α := fun t ↦
  ((m (part t)).1, put t (m (part t)).2)

theorem pure_apply (a : α) (s : σ) : (pure a : Attempt σ α) s = (.ok a, s) := rfl

theorem lift_apply (x : Except PyError α) (s : σ) : lift x s = (x, s) := rfl

theorem get_apply (s : σ) : get s = (.ok s, s) := rfl

theorem modify_apply (f : σ → σ) (s : σ) : modify f s = (.ok (), f s) := rfl

theorem bind_of_ok {m : Attempt σ α} {f : α → Attempt σ β} {s s' : σ} {a : α}
    (h : m s = (.ok a, s')) : (m >>= f) s = f a s' := by
  change andThen m f s = _
  rw [andThen, h]

theorem bind_of_error {m : Attempt σ α} {f : α → Attempt σ β} {s s' : σ} {e : PyError}
    (h : m s = (.error e, s')) : (m >>= f) s = (.error e, s') := by
  change andThen m f s = _
  rw [andThen, h]

@[simp] theorem lift_ok_bind (a : α) (f : α → Attempt σ β) : (lift (.ok a) >>= f) = f a := rfl

@[simp] theorem lift_error_bind (e : PyError) (f : α → Attempt σ β) :
    (lift (.error e) >>= f) = lift (.error e) := rfl

theorem get_bind (f : σ → Attempt σ β) (s : σ) : (get >>= f) s = f s s := rfl

theorem modify_bind (g : σ → σ) (f : Unit → Attempt σ β) (s : σ) :
    (modify g >>= f) s = f () (g s) := rfl

theorem catching_of_ok {caught : ErrorKind → Bool} {m : Attempt σ α}
    {handle : PyError → Attempt σ α} {s s' : σ} {a : α} (h : m s = (.ok a, s')) :
    catching caught m handle s = (.ok a, s') := by
  rw [catching, h]

theorem catching_of_caught {caught : ErrorKind → Bool} {m : Attempt σ α}
    {handle : PyError → Attempt σ α} {s s' : σ} {e : PyError} (h : m s = (.error e, s'))
    (he : caught e.kind = true) : catching caught m handle s = handle e s' := by
  rw [catching, h]
  exact if_pos he

theorem catching_of_escaped {caught : ErrorKind → Bool} {m : Attempt σ α}
    {handle : PyError → Attempt σ α} {s s' : σ} {e : PyError} (h : m s = (.error e, s'))
    (he : caught e.kind = false) : catching caught m handle s = (.error e, s') := by
  rw [catching, h]
  exact if_neg (Bool.eq_false_iff.mp he)

/-! ### What an attempt keeps -/

/-- The state after the attempt, whether it raised or not, is related to the state before. -/
def Keeps (R : σ → σ → Prop) (m : Attempt σ α) : Prop := ∀ s, R s (m s).2

namespace Keeps

variable {R : σ → σ → Prop} {m : Attempt σ α}

theorem lift (hr : ∀ s, R s s) (x : Except PyError α) : Keeps R (Attempt.lift x) := fun s ↦ hr s

theorem bind (ht : ∀ {s t u}, R s t → R t u → R s u) {f : α → Attempt σ β} (hm : Keeps R m)
    (hf : ∀ a, Keeps R (f a)) : Keeps R (m >>= f) := by
  intro s
  have hfirst := hm s
  cases hrun : m s with
  | mk outcome s' =>
    rw [hrun] at hfirst
    cases outcome with
    | error e =>
      rw [bind_of_error hrun]
      exact hfirst
    | ok a =>
      rw [bind_of_ok hrun]
      exact ht hfirst (hf a s')

theorem catching (ht : ∀ {s t u}, R s t → R t u → R s u) {caught : ErrorKind → Bool}
    {handle : PyError → Attempt σ α} (hm : Keeps R m) (hh : ∀ e, Keeps R (handle e)) :
    Keeps R (Attempt.catching caught m handle) := by
  intro s
  have hfirst := hm s
  cases hrun : m s with
  | mk outcome s' =>
    rw [hrun] at hfirst
    cases outcome with
    | ok a =>
      rw [catching_of_ok hrun]
      exact hfirst
    | error e =>
      cases hcaught : caught e.kind with
      | true =>
        rw [catching_of_caught hrun hcaught]
        exact ht hfirst (hh e s')
      | false =>
        rw [catching_of_escaped hrun hcaught]
        exact hfirst

end Keeps

end Attempt

end StateWake.Base
