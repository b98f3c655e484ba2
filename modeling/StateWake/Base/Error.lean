import StateWake.Base.Text

/-!
# Exceptions

A fallible function returns `Except PyError`. The class of an exception decides which
`except` clause takes it; its text is the source's own where the program words it and
empty where the standard library does.
-/

namespace StateWake.Base

open Text

/-- The exception classes the modelled code raises. -/
inductive ErrorKind where
  | valueError
  | jsonDecodeError
  | unicodeEncodeError
  | unicodeDecodeError
  | overflowError
  | keyError
  | typeError
  | indexError
  | attributeError
  | stopIteration
  | fileNotFoundError
  | permissionError
  | integrityError
  | approvalIdempotencyConflictError
  | approvalAlreadyRecordedError
  | approvalLifecycleConflictError
  | approvalLifecycleTargetError
  | fileExistsError
  | isADirectoryError
  | workspaceError
  | workspaceManifestError
  | workspaceSchemaError
  | corruptWorkspaceDatabaseError
  | unsupportedWorkspaceSchemaError
  | workspaceRecordConflictError
  | idempotencyConflictError
  | reviewSupersessionError
  | trustAnchorError
  | anchorDiscrepancyError
  deriving DecidableEq, Repr

/-- Subclasses of `ValueError`, itself included. -/
def ErrorKind.isValueError : ErrorKind → Bool
  | .overflowError | .keyError | .typeError | .indexError | .attributeError | .stopIteration
  | .fileNotFoundError | .permissionError | .fileExistsError | .isADirectoryError | .integrityError
  | .workspaceError | .workspaceManifestError | .workspaceSchemaError
  | .corruptWorkspaceDatabaseError | .unsupportedWorkspaceSchemaError
  | .workspaceRecordConflictError => false
  | _ => true

/-- `except (json.JSONDecodeError, KeyError, TypeError, ValueError)`. -/
def ErrorKind.isRecordError (k : ErrorKind) : Bool :=
  k.isValueError || k == .keyError || k == .typeError

/-- A raised exception. -/
structure PyError where
  kind : ErrorKind
  message : Text := []
  deriving DecidableEq

/-- `raise ValueError(message)`. -/
def valueError {α : Type} (message : Text) : Except PyError α := .error ⟨.valueError, message⟩

/-- Raise `e` where a value is missing. -/
def orRaise {α : Type} (e : PyError) : Option α → Except PyError α
  | some a => .ok a
  | none => .error e

/-- Raise `e` unless the condition holds. -/
def require (e : PyError) (p : Bool) : Except PyError Unit := if p then .ok () else .error e

variable {α β : Type}

/-- A sequence of two steps succeeds exactly when both do. -/
theorem bind_eq_ok {x : Except PyError α} {f : α → Except PyError β} {b : β} :
    (x >>= f) = .ok b ↔ ∃ a, x = .ok a ∧ f a = .ok b := by
  cases x with
  | error e => simp [bind, Except.bind]
  | ok a => simp [bind, Except.bind]

@[simp] theorem ok_bind (a : α) (f : α → Except PyError β) :
    ((Except.ok a : Except PyError α) >>= f) = f a := rfl

@[simp] theorem error_bind (e : PyError) (f : α → Except PyError β) :
    ((Except.error e : Except PyError α) >>= f) = .error e := rfl

@[simp] theorem require_eq_ok {e : PyError} {p : Bool} {u : Unit} :
    require e p = .ok u ↔ p = true := by
  cases p <;> simp [require]

/-- A checked sequence succeeds exactly when the check and the rest do. -/
theorem require_bind_eq_ok {e : PyError} {p : Bool} {f : Unit → Except PyError β} {b : β} :
    (require e p >>= f) = .ok b ↔ p = true ∧ f () = .ok b := by
  cases p <;> simp [require]

@[simp] theorem require_true (e : PyError) : require e true = .ok () := rfl

@[simp] theorem orRaise_some (e : PyError) (a : α) : orRaise e (some a) = .ok a := rfl

@[simp] theorem orRaise_none (e : PyError) : orRaise e (none : Option α) = .error e := rfl

@[simp] theorem orRaise_eq_ok {e : PyError} {o : Option α} {a : α} :
    orRaise e o = .ok a ↔ o = some a := by
  cases o <;> simp [orRaise]

/-- A result that evaluates to a success is one. -/
theorem exists_ok_of_toBool {x : Except PyError α} (h : x.toBool = true) : ∃ a, x = .ok a := by
  cases x with
  | error e => cases h
  | ok a => exact ⟨a, rfl⟩

/-- A check of every element succeeds exactly when each check does. -/
theorem forM_eq_ok {f : α → Except PyError Unit} {l : List α} :
    forM l f = .ok () ↔ ∀ a ∈ l, f a = .ok () := by
  induction l with
  | nil => exact iff_of_true rfl fun _ h ↦ nomatch h
  | cons a l ih =>
    rw [List.forM_cons, bind_eq_ok, List.forall_mem_cons]
    constructor
    · rintro ⟨u, ha, hl⟩
      exact ⟨ha, ih.mp hl⟩
    · rintro ⟨ha, hl⟩
      exact ⟨(), ha, ih.mpr hl⟩

/-- Reading every written element gives the elements. -/
theorem mapM_map_eq_ok {f : β → Except PyError α} {g : α → β} {l : List α}
    (h : ∀ a ∈ l, f (g a) = .ok a) : (l.map g).mapM f = .ok l := by
  induction l with
  | nil => rfl
  | cons a l ih =>
    obtain ⟨ha, hl⟩ := List.forall_mem_cons.mp h
    rw [List.map_cons, List.mapM_cons, ha, ok_bind, ih hl, ok_bind]
    rfl

section

variable {γ : Type} {f : α → Except PyError β} {l : List α} {m : List β}

/-- What is read from a list keeps what each reading keeps. -/
theorem map_of_mapM_eq_ok {g : β → γ} {k : α → γ} (h : ∀ a b, f a = .ok b → g b = k a)
    (hm : l.mapM f = .ok m) : m.map g = l.map k := by
  induction l generalizing m with
  | nil =>
    cases hm
    rfl
  | cons a l ih =>
    rw [List.mapM_cons, bind_eq_ok] at hm
    obtain ⟨b, hb, hm⟩ := hm
    rw [bind_eq_ok] at hm
    obtain ⟨rest, hrest, hm⟩ := hm
    cases hm
    rw [List.map_cons, List.map_cons, h a b hb, ih hrest]

/-- What is read from a list is what is read from an element. -/
theorem mem_of_mapM_eq_ok (hm : l.mapM f = .ok m) {b : β} : b ∈ m ↔ ∃ a ∈ l, f a = .ok b := by
  induction l generalizing m with
  | nil =>
    cases hm
    simp
  | cons a l ih =>
    rw [List.mapM_cons, bind_eq_ok] at hm
    obtain ⟨c, hc, hm⟩ := hm
    rw [bind_eq_ok] at hm
    obtain ⟨rest, hrest, hm⟩ := hm
    cases hm
    rw [List.mem_cons, ih hrest, List.exists_mem_cons_iff, hc, Except.ok.injEq, eq_comm]

/-- Each element of a list that was read was read. -/
theorem exists_of_mapM_eq_ok (hm : l.mapM f = .ok m) {a : α} (ha : a ∈ l) :
    ∃ b ∈ m, f a = .ok b := by
  induction l generalizing m with
  | nil => cases ha
  | cons c l ih =>
    rw [List.mapM_cons, bind_eq_ok] at hm
    obtain ⟨b, hb, hm⟩ := hm
    rw [bind_eq_ok] at hm
    obtain ⟨rest, hrest, ⟨⟩⟩ := hm
    rcases List.mem_cons.mp ha with rfl | ha
    · exact ⟨b, List.mem_cons_self, hb⟩
    · obtain ⟨b', hb', hf⟩ := ih hrest ha
      exact ⟨b', List.mem_cons_of_mem _ hb', hf⟩

/-- A reading that is a function on the elements of a list gives its values. -/
theorem mapM_eq_ok_map {g : α → β} (h : ∀ a ∈ l, f a = .ok (g a)) : l.mapM f = .ok (l.map g) := by
  induction l with
  | nil => rfl
  | cons a l ih =>
    rw [List.forall_mem_cons] at h
    rw [List.mapM_cons, h.1, ok_bind, ih h.2, ok_bind]
    rfl

/-- A list is read when each element is. -/
theorem exists_mapM_eq_ok (h : ∀ a ∈ l, ∃ b, f a = .ok b) : ∃ m, l.mapM f = .ok m := by
  induction l with
  | nil => exact ⟨[], rfl⟩
  | cons a l ih =>
    obtain ⟨⟨b, hb⟩, hl⟩ := List.forall_mem_cons.mp h
    obtain ⟨m, hm⟩ := ih hl
    exact ⟨b :: m, by rw [List.mapM_cons, hb, ok_bind, hm, ok_bind]; rfl⟩

/-- A list of readings succeeds, or fails as one of them does. -/
theorem mapM_cases (f : α → Except PyError β) (l : List α) :
    (∀ a ∈ l, ∃ b, f a = .ok b) ∨ ∃ a ∈ l, ∃ e, f a = .error e ∧ l.mapM f = .error e := by
  induction l with
  | nil => exact .inl nofun
  | cons a l ih =>
    cases ha : f a with
    | error e =>
      refine .inr ⟨a, List.mem_cons_self, e, ha, ?_⟩
      rw [List.mapM_cons, ha]
      rfl
    | ok b =>
      cases ih with
      | inl hall => exact .inl (List.forall_mem_cons.mpr ⟨⟨b, ha⟩, hall⟩)
      | inr hfail =>
        obtain ⟨c, hc, e, he, hl⟩ := hfail
        refine .inr ⟨c, List.mem_cons_of_mem _ hc, e, he, ?_⟩
        rw [List.mapM_cons, ha, ok_bind, hl]
        rfl

/-- Readings that agree on the elements agree on the list. -/
theorem mapM_congr {g : α → Except PyError β} (h : ∀ a ∈ l, f a = g a) : l.mapM f = l.mapM g := by
  induction l with
  | nil => rfl
  | cons a l ih =>
    obtain ⟨ha, hl⟩ := List.forall_mem_cons.mp h
    rw [List.mapM_cons, List.mapM_cons, ha, ih hl]

end

/-! ### Constructors with checks -/

section Constructors

variable {φ : Type} (check : φ → Except PyError Unit)

/-- The values a constructor accepts: fields its checks passed. -/
abbrev Accepted : Type := {f : φ // check f = .ok ()}

/-- Construct a value of its fields. -/
def construct (f : φ) : Except PyError (Accepted check) :=
  match accepted : check f with
  | .error e => .error e
  | .ok () => .ok ⟨f, accepted⟩

variable {check}

theorem construct_of_check {f : φ} (h : check f = .ok ()) :
    construct check f = .ok ⟨f, h⟩ := by
  rw [construct]
  split
  · next e he => cases h.symm.trans he
  · rfl

/-- A constructed value has the fields it was constructed of. -/
theorem construct_eq_ok {f : φ} {a : Accepted check} :
    construct check f = .ok a ↔ a.val = f := by
  constructor
  · intro h
    rw [construct] at h
    split at h
    · cases h
    · cases h
      rfl
  · rintro rfl
    exact construct_of_check a.property

/-- The fields of a constructed value construct it. -/
@[simp] theorem construct_val (a : Accepted check) : construct check a.val = .ok a :=
  construct_of_check a.property

end Constructors

end StateWake.Base
