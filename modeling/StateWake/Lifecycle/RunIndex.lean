import StateWake.Lifecycle.SharedEvidence

/-!
# Indexed runs

The runs of `workspace/sqlite_repository.py:173–214`. A record is indexed after its run, in one
transaction, and a run is never taken away: the run of a record is a run of the index.
-/

namespace StateWake.Lifecycle.Workspace

open StateWake.Base Text Utils

/-- `PRAGMA foreign_key_check`: the run of a record is a run of the index. -/
def foreignKeysHold (s : Workspace) : Bool :=
  s.records.all fun r ↦ r.2.runId.all fun runId ↦ (s.runs.get? runId).isSome

theorem foreignKeysHold_iff {s : Workspace} : s.foreignKeysHold = true ↔
    ∀ r ∈ s.records, ∀ runId, r.2.runId = some runId → (s.runs.get? runId).isSome = true := by
  rw [foreignKeysHold, List.all_eq_true]
  refine forall₂_congr fun r _ ↦ ?_
  cases r.2.runId <;> simp

/-- An observed run is in the index, with all that were there. -/
theorem ensureObservedRun_spec {runs runs' : Dict RunRow} {runId : Text} {r : RecordRow}
    (h : ensureObservedRun runs runId r = .ok runs') :
    (runs'.get? runId).isSome = true ∧
      ∀ id, (runs.get? id).isSome = true → (runs'.get? id).isSome = true := by
  unfold ensureObservedRun at h
  have hset (row : RunRow) : ((runs.set runId row).get? runId).isSome = true ∧
      ∀ id, (runs.get? id).isSome = true → ((runs.set runId row).get? id).isSome = true := by
    constructor
    · rw [Dict.get?_set, if_pos rfl]
      rfl
    · intro id hid
      rw [Dict.get?_set]
      split
      · rfl
      · exact hid
  split at h
  · cases h
    exact hset _
  · rw [require_bind_eq_ok] at h
    cases h.2
    exact hset _

/-- Indexing a record keeps every run and adds the record's own. -/
theorem indexRecord_runs {s s' : Workspace} {r : RecordRow} (h : s.indexRecord r = .ok s') :
    (∀ runId, r.runId = some runId → (s'.runs.get? runId).isSome = true) ∧
      (∀ id, (s.runs.get? id).isSome = true → (s'.runs.get? id).isSome = true) ∧
      (s'.records = s.records ∨
        s.records.get? r.recordId = none ∧ s'.records = s.records.set r.recordId r) := by
  rw [indexRecord, bind_eq_ok] at h
  obtain ⟨-, -, h⟩ := h
  rw [bind_eq_ok] at h
  obtain ⟨runs, hruns, h⟩ := h
  have hspec : (∀ runId, r.runId = some runId → (runs.get? runId).isSome = true) ∧
      ∀ id, (s.runs.get? id).isSome = true → (runs.get? id).isSome = true := by
    cases hid : r.runId with
    | none =>
      rw [hid] at hruns
      cases hruns
      exact ⟨by rintro _ ⟨⟩, fun _ ↦ id⟩
    | some runId =>
      rw [hid] at hruns
      simp only [Option.elim_some, bind_eq_ok] at hruns
      obtain ⟨-, -, hruns⟩ := hruns
      refine ⟨?_, (ensureObservedRun_spec hruns).2⟩
      rintro _ ⟨⟩
      exact (ensureObservedRun_spec hruns).1
  cases hrow : s.records.get? r.recordId with
  | none =>
    rw [hrow] at h
    dsimp only at h
    rw [bind_eq_ok] at h
    obtain ⟨-, -, h⟩ := h
    cases h
    exact ⟨hspec.1, hspec.2, .inr ⟨rfl, rfl⟩⟩
  | some row =>
    rw [hrow] at h
    dsimp only at h
    rw [require_bind_eq_ok] at h
    cases h.2
    exact ⟨hspec.1, hspec.2, .inl rfl⟩

/-- Indexing a record keeps the references to runs. -/
theorem indexRecord_foreignKeysHold {s s' : Workspace} {r : RecordRow}
    (hs : s.foreignKeysHold = true) (h : s.indexRecord r = .ok s') :
    s'.foreignKeysHold = true := by
  obtain ⟨hown, hruns, hrecords⟩ := indexRecord_runs h
  rw [foreignKeysHold_iff] at hs ⊢
  intro m hm runId hrun
  rcases hrecords with hrecords | ⟨hnew, hrecords⟩
  · rw [hrecords] at hm
    exact hruns _ (hs m hm runId hrun)
  · rw [hrecords, Dict.set_of_not_mem (Dict.get?_eq_none_iff.mp hnew), List.mem_append,
      List.mem_singleton] at hm
    rcases hm with hm | rfl
    · exact hruns _ (hs m hm runId hrun)
    · exact hown runId hrun

variable {governance : Option PrivacyGovernance} {s : Workspace}

private theorem ingestBytes_foreignKeysHold (hs : s.foreignKeysHold = true) (content : Bytes)
    (a : IngestionArguments) : (s.ingestBytes governance content a).2.foreignKeysHold = true := by
  unfold ingestBytes
  split
  · exact hs
  · dsimp only
    split
    · exact hs
    · next s' hindexed =>
      rw [bind_eq_ok] at hindexed
      obtain ⟨row, -, hindexed⟩ := hindexed
      exact indexRecord_foreignKeysHold (by exact hs) hindexed

/-- Every operation keeps the references to runs. -/
theorem apply_foreignKeysHold (hs : s.foreignKeysHold = true) (op : Operation) :
    (apply governance s op).2.foreignKeysHold = true := by
  cases op with
  | ingestBytes content a => exact ingestBytes_foreignKeysHold hs content a
  | ingestFile path name content a =>
    cases content with
    | none => exact hs
    | some content => exact ingestBytes_foreignKeysHold hs content _
  | applyRetention recordId policy legalHold now =>
    rw [apply]
    split
    · exact hs
    · next s' h =>
      simp only [applyRetention, bind_eq_ok] at h
      obtain ⟨-, -, -, -, ⟨⟩, -, ⟨⟩⟩ := h
      exact hs
  | deleteExpired recordId now reason =>
    rw [apply]
    unfold deleteExpiredRecord
    split
    · exact hs
    · dsimp only
      split
      · exact hs
      · next hrecorded =>
        simp only [bind_eq_ok] at hrecorded
        obtain ⟨artifactDeletion, -, deletion, -, s', hs', heq⟩ := hrecorded
        cases heq
        simp only [recordDeletion, bind_eq_ok] at hs'
        obtain ⟨-, -, -, -, hs'⟩ := hs'
        cases hs'
        exact hs

end StateWake.Lifecycle.Workspace
