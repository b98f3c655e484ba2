import Mathlib.Logic.Function.Basic

/-!
# Interleaved parties over shared data

Any family of parties, each with its own local state, takes atomic steps on shared data in
the order a schedule names them. An invariant relates the shared data to an abstract value
and each local state to that value; it holds after every schedule when a step keeps it for
the party that moves and does not spoil it for the others.

Library support; no repository notion occurs here.
-/

namespace StateWake.Base.Interleaving

variable {ι σ α : Type} {ℓ : Type}

/-- The shared data and the local state of every party. -/
structure Config (ι σ ℓ : Type) where
  shared : σ
  locals : ι → ℓ

variable [DecidableEq ι] (next : ι → σ → ℓ → σ × ℓ)

/-- One party takes its next atomic step. -/
def step (c : Config ι σ ℓ) (i : ι) : Config ι σ ℓ where
  shared := (next i c.shared (c.locals i)).1
  locals := Function.update c.locals i (next i c.shared (c.locals i)).2

/-- The parties a schedule names take their steps in its order. -/
def run (c : Config ι σ ℓ) (schedule : List ι) : Config ι σ ℓ := schedule.foldl (step next) c

/-- A condition holds before each step of a schedule. -/
def Meets (P : ι → σ → ℓ → Prop) : Config ι σ ℓ → List ι → Prop
  | _, [] => True
  | c, i :: schedule => P i c.shared (c.locals i) ∧ Meets P (step next c i) schedule

/-- The shared data and every local state agree with one abstract value. -/
def Holds (Shared : σ → α → Prop) (Local : ι → α → ℓ → Prop) (c : Config ι σ ℓ) : Prop :=
  ∃ a, Shared c.shared a ∧ ∀ i, Local i a (c.locals i)

@[simp] theorem run_nil (c : Config ι σ ℓ) : run next c [] = c := rfl

theorem run_cons (c : Config ι σ ℓ) (i : ι) (schedule : List ι) :
    run next c (i :: schedule) = run next (step next c i) schedule := rfl

theorem run_append_singleton (c : Config ι σ ℓ) (schedule : List ι) (i : ι) :
    run next c (schedule ++ [i]) = step next (run next c schedule) i := by
  simp [run]

theorem run_append (c : Config ι σ ℓ) (schedule schedule' : List ι) :
    run next c (schedule ++ schedule') = run next (run next c schedule) schedule' := by
  simp [run]

theorem locals_step_self (c : Config ι σ ℓ) (i : ι) :
    (step next c i).locals i = (next i c.shared (c.locals i)).2 := Function.update_self ..

theorem locals_step_of_ne (c : Config ι σ ℓ) {i j : ι} (hij : i ≠ j) :
    (step next c j).locals i = c.locals i := Function.update_of_ne hij ..

/-- A party that takes no step stands where it stood. -/
theorem locals_run_of_not_mem (c : Config ι σ ℓ) {schedule : List ι} {i : ι} (hi : i ∉ schedule) :
    (run next c schedule).locals i = c.locals i := by
  induction schedule generalizing c with
  | nil => rfl
  | cons j schedule ih =>
    rw [List.mem_cons, not_or] at hi
    rw [run_cons, ih _ hi.2, locals_step_of_ne next c hi.1]

variable {next} in
/-- What every step does to the shared data, a run does. -/
theorem shared_run {R : σ → σ → Prop} (hrefl : ∀ s, R s s)
    (htrans : ∀ s s' s'', R s s' → R s' s'' → R s s'')
    (hstep : ∀ i s l, R s (next i s l).1) (c : Config ι σ ℓ) (schedule : List ι) :
    R c.shared (run next c schedule).shared := by
  induction schedule generalizing c with
  | nil => exact hrefl c.shared
  | cons i schedule ih =>
    rw [run_cons]
    exact htrans _ _ _ (hstep i c.shared (c.locals i)) (ih (step next c i))

theorem meets_true (c : Config ι σ ℓ) (schedule : List ι) :
    Meets next (fun _ _ _ ↦ True) c schedule := by
  induction schedule generalizing c with
  | nil => trivial
  | cons i schedule ih => exact ⟨trivial, ih _⟩

/-- The obligations on one step: it leads to an abstract value the shared data and the
moving party agree with, and no other party notices. -/
structure Preserves (P : ι → σ → ℓ → Prop) (Shared : σ → α → Prop)
    (Local : ι → α → ℓ → Prop) : Prop where
  keeps : ∀ {i s a l}, Shared s a → Local i a l → P i s l →
    ∃ a', Shared (next i s l).1 a' ∧ Local i a' (next i s l).2 ∧
      ∀ j m, j ≠ i → Local j a m → Local j a' m

variable {next}

/-- One step keeps the invariant. -/
theorem Preserves.holds_step {P : ι → σ → ℓ → Prop} {Shared : σ → α → Prop}
    {Local : ι → α → ℓ → Prop} (hp : Preserves next P Shared Local) {c : Config ι σ ℓ}
    (hc : Holds Shared Local c) {i : ι} (hi : P i c.shared (c.locals i)) :
    Holds Shared Local (step next c i) := by
  obtain ⟨a, hs, hl⟩ := hc
  obtain ⟨a', hs', hl', hothers⟩ := hp.keeps hs (hl i) hi
  refine ⟨a', hs', fun j ↦ ?_⟩
  by_cases hj : j = i
  · subst hj
    simp only [step, Function.update_self]
    exact hl'
  · simp only [step, Function.update_of_ne hj]
    exact hothers j _ hj (hl j)

/-- A run whose steps all meet the condition keeps the invariant. -/
theorem Preserves.holds_run {P : ι → σ → ℓ → Prop} {Shared : σ → α → Prop}
    {Local : ι → α → ℓ → Prop} (hp : Preserves next P Shared Local) {c : Config ι σ ℓ}
    (hc : Holds Shared Local c) {schedule : List ι} (hm : Meets next P c schedule) :
    Holds Shared Local (run next c schedule) := by
  induction schedule generalizing c with
  | nil => exact hc
  | cons i schedule ih =>
    obtain ⟨hi, hm⟩ := hm
    rw [run_cons]
    exact ih (hp.holds_step hc hi) hm

/-- A party that gets one nearer to its end with each of its steps is there after as many. -/
theorem Preserves.measure_run {Shared : σ → α → Prop} {Local : ι → α → ℓ → Prop}
    (hp : Preserves next (fun _ _ _ ↦ True) Shared Local) (left : ℓ → Nat) {i : ι}
    (hleft : ∀ {s a l}, Shared s a → Local i a l → left (next i s l).2 ≤ left l - 1)
    {c : Config ι σ ℓ} (hc : Holds Shared Local c) (schedule : List ι) :
    left ((run next c schedule).locals i) ≤ left (c.locals i) - schedule.count i := by
  induction schedule generalizing c with
  | nil => simp
  | cons j schedule ih =>
    rw [run_cons]
    have hrest := ih (hp.holds_step hc (i := j) trivial)
    by_cases hj : j = i
    · subst hj
      obtain ⟨a, hs, hl⟩ := hc
      have hfirst := hleft hs (hl j)
      rw [locals_step_self] at hrest
      rw [List.count_cons_self]
      omega
    · rw [List.count_cons_of_ne hj]
      rw [locals_step_of_ne next c (Ne.symm hj)] at hrest
      exact hrest

end StateWake.Base.Interleaving
