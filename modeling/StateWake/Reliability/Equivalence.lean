import StateWake.Reliability.Jsonl
import StateWake.Reliability.Sqlite

/-!
# Two adapters, one behaviour

Both adapters implement the abstract store, so the same appends leave them representing
the same history: they accept the same calls, return the same transitions and answer the
same reads. They differ only on a queried subject UTF-8 cannot encode.
-/

namespace StateWake.Reliability

open StateWake.Base Text

/-- The state of a store after a sequence of appends, accepted or not. -/
def runAppends {σ : Type} (store : StateStore σ) (s : σ)
    (transitions : List ReliabilityStateTransition) : σ :=
  transitions.foldl (fun s t ↦ (store.append s t).2) s

/-- The abstract history after a sequence of appends. -/
def runAccepts (transitions : List ReliabilityStateTransition) : List ReliabilityStateTransition :=
  transitions.foldl (fun h t ↦ (accepts h t).getD h) []

theorem runAccepts_append_singleton (ts : List ReliabilityStateTransition)
    (t : ReliabilityStateTransition) :
    runAccepts (ts ++ [t]) = (accepts (runAccepts ts) t).getD (runAccepts ts) := by
  simp [runAccepts]

/-- Every sequence of appends leaves a valid history. -/
theorem valid_runAccepts (ts : List ReliabilityStateTransition) : Valid (runAccepts ts) := by
  induction ts using List.reverseRecOn with
  | nil => exact valid_nil
  | append_singleton ts t ih =>
    rw [runAccepts_append_singleton]
    cases ha : accepts (runAccepts ts) t with
    | none => exact ih
    | some h' => exact ih.accepts ha

/-- A store that implements the abstract one follows it through any sequence of appends. -/
theorem Implements.runAppends {σ : Type} {store : StateStore σ}
    {represents : σ → List ReliabilityStateTransition → Prop} (hi : Implements store represents)
    {s : σ} (hs : represents s []) (ts : List ReliabilityStateTransition) :
    represents (runAppends store s ts) (runAccepts ts) := by
  induction ts using List.reverseRecOn with
  | nil => exact hs
  | append_singleton ts t ih =>
    rw [runAccepts_append_singleton, Reliability.runAppends, List.foldl_append]
    cases ha : accepts (runAccepts ts) t with
    | none =>
      obtain ⟨e, s', happ, hr⟩ := hi.append_error (valid_runAccepts ts) ih ha
      rw [Reliability.runAppends] at happ
      simpa [happ] using hr
    | some h' =>
      obtain ⟨s', happ, hr⟩ := hi.append_ok (valid_runAccepts ts) ih ha
      rw [Reliability.runAppends] at happ
      simpa [happ] using hr

/-- Two outcomes of an append agree: both raise, or both return transitions with equal
dictionaries. -/
def Agree (a b : Except PyError ReliabilityStateTransition) : Prop :=
  (∃ t u, a = .ok t ∧ b = .ok u ∧ t.toDict = u.toDict) ∨ ∃ e e', a = .error e ∧ b = .error e'

/-- Two reads answer alike: both return the same list. -/
def SameAnswer (a b : Except PyError (List ReliabilityStateTransition)) : Prop :=
  ∃ l, a = .ok l ∧ b = .ok l

/-- Two stores that implement the abstract one are observationally equivalent on every
subject that can be encoded. -/
theorem Implements.equivalent {σ τ : Type} {first : StateStore σ} {second : StateStore τ}
    {rep : σ → List ReliabilityStateTransition → Prop}
    {rep' : τ → List ReliabilityStateTransition → Prop} (hf : Implements first rep)
    (hs : Implements second rep') {a : σ} {b : τ} (ha : rep a []) (hb : rep' b [])
    (ts : List ReliabilityStateTransition) :
    (∀ t, Agree (first.append (Reliability.runAppends first a ts) t).1
      (second.append (Reliability.runAppends second b ts) t).1) ∧
    ∀ subjectId : Option Text, (∀ s ∈ subjectId, SurrogateFree s) →
      SameAnswer (first.read (Reliability.runAppends first a ts) subjectId).1
        (second.read (Reliability.runAppends second b ts) subjectId).1 := by
  have hv := valid_runAccepts ts
  have hra := hf.runAppends ha ts
  have hrb := hs.runAppends hb ts
  refine ⟨fun t ↦ ?_, fun subjectId hsub ↦ ?_⟩
  · cases hacc : accepts (runAccepts ts) t with
    | none =>
      obtain ⟨e, a', ha', -⟩ := hf.append_error hv hra hacc
      obtain ⟨e', b', hb', -⟩ := hs.append_error hv hrb hacc
      exact .inr ⟨e, e', by rw [ha'], by rw [hb']⟩
    | some h' =>
      obtain ⟨a', ha', -⟩ := hf.append_ok hv hra hacc
      obtain ⟨b', hb', -⟩ := hs.append_ok hv hrb hacc
      exact .inl ⟨t, t, by rw [ha'], by rw [hb'], rfl⟩
  · obtain ⟨a', ha', -⟩ := hf.read_ok subjectId hv hra hsub
    obtain ⟨b', hb', -⟩ := hs.read_ok subjectId hv hrb hsub
    exact ⟨_, by rw [ha'], by rw [hb']⟩

/-- The two adapters accept the same calls, return the same transitions, and after any
sequence of appends answer every read alike, for every subject UTF-8 can encode and for
all subjects at once. -/
theorem jsonl_sqlite_equivalent (recover : Bool) (ts : List ReliabilityStateTransition) :
    (∀ t, Agree ((Jsonl.store recover).append (runAppends (Jsonl.store recover) none ts) t).1
      (Sqlite.store.append (runAppends Sqlite.store [] ts) t).1) ∧
    ∀ subjectId : Option Text, (∀ s ∈ subjectId, SurrogateFree s) →
      SameAnswer ((Jsonl.store recover).read (runAppends (Jsonl.store recover) none ts) subjectId).1
        (Sqlite.store.read (runAppends Sqlite.store [] ts) subjectId).1 :=
  (Jsonl.implements recover).equivalent Sqlite.implements Jsonl.represents_empty
    Sqlite.represents_empty ts

/-- On empty stores a lone surrogate as subject is answered by one adapter and raises in
the other. -/
theorem jsonl_sqlite_differ_on_surrogate :
    ¬∀ (recover : Bool) (ts : List ReliabilityStateTransition) (subjectId : Option Text),
      SameAnswer ((Jsonl.store recover).read (runAppends (Jsonl.store recover) none ts) subjectId).1
        (Sqlite.store.read (runAppends Sqlite.store [] ts) subjectId).1 := by
  intro h
  obtain ⟨l, -, hl⟩ := h true [] (some [0xD800])
  have hread : (Sqlite.store.read (runAppends Sqlite.store [] []) (some [0xD800])).1 =
      .error ⟨.unicodeEncodeError, []⟩ :=
    Sqlite.read_surrogate [] fun hs ↦ absurd (hs 0xD800 List.mem_cons_self) (by decide)
  rw [hread] at hl
  cases hl

/-! ### Either adapter -/

/-- The adapters of the store protocol. -/
inductive Adapter where
  | jsonl (recoverPartialTail : Bool)
  | sqlite
  deriving DecidableEq, Repr

namespace Adapter

/-- What an adapter keeps on disk. -/
abbrev State : Adapter → Type
  | jsonl _ => Option Bytes
  | sqlite => List Sqlite.Row

/-- The operations of an adapter. -/
def store : (adapter : Adapter) → StateStore adapter.State
  | jsonl recover => Jsonl.store recover
  | sqlite => Sqlite.store

/-- An adapter before any append. -/
def empty : (adapter : Adapter) → adapter.State
  | jsonl _ => none
  | sqlite => []

/-- The history the data of an adapter stands for. -/
def Represents : (adapter : Adapter) → adapter.State → List ReliabilityStateTransition → Prop
  | jsonl _ => Jsonl.Represents
  | sqlite => Sqlite.Represents

theorem implements (adapter : Adapter) : Implements adapter.store adapter.Represents := by
  cases adapter with
  | jsonl recover => exact Jsonl.implements recover
  | sqlite => exact Sqlite.implements

theorem represents_empty (adapter : Adapter) : adapter.Represents adapter.empty [] := by
  cases adapter with
  | jsonl recover => exact Jsonl.represents_empty
  | sqlite => exact Sqlite.represents_empty

end Adapter
end StateWake.Reliability
