import Mathlib.Data.List.Induction

/-!
# The first failure

A list of checks is gone through with a state until one fails. It fails with what the first check
that fails gives, in the state the checks before it left.

Library support; no repository notion occurs here.
-/

namespace StateWake.Base.FirstFailure

variable {ε σ α : Type} {f : σ → α → Except ε σ}

/-- Checks that pass, and then one that fails. -/
theorem foldlM_of_failure {pre : List α} {a : α} {post : List α} {s s' : σ} {e : ε}
    (hpre : pre.foldlM f s = .ok s') (ha : f s' a = .error e) :
    (pre ++ a :: post).foldlM f s = .error e := by
  rw [List.foldlM_append, hpre]
  change (List.foldlM f s' (a :: post)) = _
  rw [List.foldlM_cons, ha]
  rfl

/-- A list that fails has checks that pass, and then one that fails as the list does. -/
theorem exists_of_foldlM_eq_error {l : List α} {s : σ} {e : ε} (h : l.foldlM f s = .error e) :
    ∃ pre a post s', l = pre ++ a :: post ∧ pre.foldlM f s = .ok s' ∧ f s' a = .error e := by
  induction l generalizing s with
  | nil => cases h
  | cons a l ih =>
    rw [List.foldlM_cons] at h
    cases ha : f s a with
    | error e' =>
      rw [ha] at h
      cases h
      exact ⟨[], a, l, s, rfl, rfl, ha⟩
    | ok s' =>
      rw [ha] at h
      obtain ⟨pre, b, post, t, rfl, hpre, hb⟩ := ih h
      refine ⟨a :: pre, b, post, t, rfl, ?_, hb⟩
      rw [List.foldlM_cons, ha]
      exact hpre

/-- What all checks pass with, where a check that passes after passed ones is told by `P` of them
all, and what it leaves by `state`. -/
theorem foldlM_eq_ok_iff {P : List α → Prop} {state : List α → σ} (hnil : P [])
    (hstep : ∀ l a s, P l → (f (state l) a = .ok s ↔ P (l ++ [a]) ∧ s = state (l ++ [a])))
    (hinit : ∀ l a, P (l ++ [a]) → P l) {l : List α} {s : σ} :
    l.foldlM f (state []) = .ok s ↔ P l ∧ s = state l := by
  induction l using List.reverseRecOn generalizing s with
  | nil => exact ⟨fun h ↦ ⟨hnil, (Except.ok.inj h).symm⟩, fun h ↦ congrArg _ h.2.symm⟩
  | append_singleton l a ih =>
    have hsingle (t : σ) : [a].foldlM f t = f t a := by
      rw [List.foldlM_cons]
      cases f t a <;> rfl
    rw [List.foldlM_append]
    constructor
    · intro h
      cases hl : l.foldlM f (state []) with
      | error e =>
        rw [hl] at h
        cases h
      | ok s' =>
        obtain ⟨hp, hs'⟩ := ih.mp hl
        rw [hl, hs'] at h
        change [a].foldlM f (state l) = .ok s at h
        rw [hsingle] at h
        exact (hstep l a s hp).mp h
    · intro ⟨hp, hs⟩
      have hl := hinit l a hp
      rw [ih.mpr ⟨hl, rfl⟩]
      change [a].foldlM f (state l) = .ok s
      rw [hsingle]
      exact (hstep l a s hl).mpr ⟨hp, hs⟩

end StateWake.Base.FirstFailure
