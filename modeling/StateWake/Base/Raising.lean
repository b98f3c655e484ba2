import StateWake.Base.Error

/-!
# What a computation may raise

A computation raises errors of some kinds only. One rule for each way to compose computations says
what the whole raises from what its parts raise.

Library support; no repository notion occurs here.
-/

namespace StateWake.Base

variable {α β : Type} {P Q : ErrorKind → Prop}

/-- Whatever the computation raises is of an allowed kind. -/
def RaisesOnly (P : ErrorKind → Prop) (x : Except PyError α) : Prop :=
  ∀ e, x = .error e → P e.kind

namespace RaisesOnly

theorem ok (a : α) : RaisesOnly P (.ok a) := nofun

theorem error {e : PyError} (h : P e.kind) : RaisesOnly P (.error e : Except PyError α) := by
  intro e' he
  cases he
  exact h

theorem mono {x : Except PyError α} (h : RaisesOnly P x) (hpq : ∀ k, P k → Q k) :
    RaisesOnly Q x := fun e he ↦ hpq _ (h e he)

/-- A sequence raises what its first part raises, or what the rest does on a result of it. -/
theorem bind {x : Except PyError α} {f : α → Except PyError β} (hx : RaisesOnly P x)
    (hf : ∀ a, x = .ok a → RaisesOnly P (f a)) : RaisesOnly P (x >>= f) := by
  intro e he
  cases h : x with
  | error raised =>
    rw [h, error_bind, Except.error.injEq] at he
    rw [← he]
    exact hx raised h
  | ok a =>
    rw [h, ok_bind] at he
    exact hf a h e he

theorem require {e : PyError} {p : Bool} (h : P e.kind) :
    RaisesOnly P (StateWake.Base.require e p) := by
  cases p with
  | true => exact ok ()
  | false => exact error h

theorem orRaise {e : PyError} {o : Option α} (h : P e.kind) :
    RaisesOnly P (StateWake.Base.orRaise e o) := by
  cases o with
  | none => exact error h
  | some a => exact ok a

/-- A loop raises what one of its rounds raises. -/
theorem forM {f : α → Except PyError Unit} (h : ∀ a, RaisesOnly P (f a)) (l : List α) :
    RaisesOnly P (l.forM f) := by
  induction l with
  | nil => exact ok ()
  | cons a l ih =>
    change RaisesOnly P (f a >>= fun _ ↦ l.forM f)
    exact (h a).bind fun _ _ ↦ ih

theorem mapM {f : α → Except PyError β} (h : ∀ a, RaisesOnly P (f a)) (l : List α) :
    RaisesOnly P (l.mapM f) := by
  induction l with
  | nil => exact ok []
  | cons a l ih =>
    rw [List.mapM_cons]
    exact (h a).bind fun _ _ ↦ ih.bind fun _ _ ↦ ok _

end RaisesOnly

end StateWake.Base
