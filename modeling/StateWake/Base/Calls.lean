import StateWake.Base.Error

/-!
# Sequences of calls

A component with a state answers calls; a call may raise and may change the state. A
condition on calls holds along a sequence when each call meets it in the state the earlier
calls left. Two conditions that agree wherever an invariant holds agree along every sequence.

Library support; no repository notion occurs here.
-/

namespace StateWake.Base.Calls

variable {σ γ ρ : Type} (call : σ → γ → Except PyError ρ × σ)

/-- The state after a sequence of calls. -/
def run (s : σ) (calls : List γ) : σ := calls.foldl (fun s c ↦ (call s c).2) s

/-- A condition on a call in its state holds at every call of a sequence. -/
def Along (P : σ → γ → Prop) : σ → List γ → Prop
  | _, [] => True
  | s, c :: calls => P s c ∧ Along P (call s c).2 calls

@[simp] theorem run_nil (s : σ) : run call s [] = s := rfl

@[simp] theorem run_cons (s : σ) (c : γ) (calls : List γ) :
    run call s (c :: calls) = run call (call s c).2 calls := rfl

variable {call} {P Q : σ → γ → Prop} {J : σ → Prop}

/-- A condition that keeps an invariant keeps it along a sequence. -/
theorem Along.keeps (hstep : ∀ s c, J s → P s c → J (call s c).2) {s : σ} (hs : J s)
    {calls : List γ} (h : Along call P s calls) : J (run call s calls) := by
  induction calls generalizing s with
  | nil => exact hs
  | cons c calls ih => exact ih (hstep s c hs h.1) h.2

/-- Under an invariant one condition gives the other, along every sequence. -/
theorem Along.imp (hstep : ∀ s c, J s → P s c → Q s c ∧ J (call s c).2) {s : σ} (hs : J s)
    {calls : List γ} (h : Along call P s calls) : Along call Q s calls := by
  induction calls generalizing s with
  | nil => trivial
  | cons c calls ih =>
    obtain ⟨hq, hj⟩ := hstep s c hs h.1
    exact ⟨hq, ih hj h.2⟩

/-- Conditions that agree under an invariant, which they keep, agree along every sequence. -/
theorem along_iff (hiff : ∀ s c, J s → (P s c ↔ Q s c))
    (hkeeps : ∀ s c, J s → P s c → J (call s c).2) {s : σ} (hs : J s) (calls : List γ) :
    Along call P s calls ↔ Along call Q s calls := by
  constructor
  · exact Along.imp (fun s c hj hp ↦ ⟨(hiff s c hj).mp hp, hkeeps s c hj hp⟩) hs
  · refine Along.imp (fun s c hj hq ↦ ?_) hs
    have hp := (hiff s c hj).mpr hq
    exact ⟨hp, hkeeps s c hj hp⟩

/-- What holds at every call in every state holds along every sequence. -/
theorem along_of_forall (h : ∀ s c, P s c) (s : σ) (calls : List γ) : Along call P s calls := by
  induction calls generalizing s with
  | nil => trivial
  | cons c calls ih => exact ⟨h s c, ih _⟩

theorem run_append (s : σ) (calls more : List γ) :
    run call s (calls ++ more) = run call (run call s calls) more := by
  rw [run, List.foldl_append]
  rfl

/-- A condition holds along a sequence when it holds at every call, in the state the calls
before it left. -/
theorem along_iff_forall_split {s : σ} {calls : List γ} : Along call P s calls ↔
    ∀ pre c post, calls = pre ++ c :: post → P (run call s pre) c := by
  induction calls generalizing s with
  | nil => exact iff_of_true trivial fun pre c post h ↦ by simp at h
  | cons d calls ih =>
    rw [Along, ih]
    constructor
    · rintro ⟨hd, hrest⟩ pre c post h
      cases pre with
      | nil =>
        cases h
        exact hd
      | cons e pre =>
        cases h
        exact hrest pre c post rfl
    · intro h
      exact ⟨h [] d calls rfl, fun pre c post hcalls ↦ h (d :: pre) c post (by rw [hcalls]; rfl)⟩

/-- A condition holds along a sequence and one more call when it holds along the sequence and at
the call, in the state the sequence left. -/
theorem along_append_singleton {s : σ} {calls : List γ} {c : γ} :
    Along call P s (calls ++ [c]) ↔ Along call P s calls ∧ P (run call s calls) c := by
  induction calls generalizing s with
  | nil => simp [Along]
  | cons d calls ih => rw [List.cons_append, Along, Along, ih, run_cons, and_assoc]

/-- A condition on the calls alone. -/
theorem along_const_iff {R : γ → Prop} (s : σ) (calls : List γ) :
    Along call (fun _ c ↦ R c) s calls ↔ ∀ c ∈ calls, R c := by
  induction calls generalizing s with
  | nil => exact iff_of_true trivial nofun
  | cons c calls ih => rw [Along, ih, List.forall_mem_cons]

end StateWake.Base.Calls
