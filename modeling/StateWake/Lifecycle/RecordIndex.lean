import StateWake.Base.DatetimeOrder
import StateWake.Lifecycle.RunIndex

/-!
# Records and runs of the index

`workspace/sqlite_repository.py:134–238`. Any record may be indexed, and a call that raises is
rolled back. Every run spans the records that name it: they have its producer, and it starts with
the earliest of them and finishes with the latest.
-/

namespace StateWake.Lifecycle.RecordIndex

open StateWake.Base Text Utils

/-! ### Indexing -/

/-- `WorkspaceRecord`, `workspace/models.py:34–57`; its identity is that of its receipt. -/
structure WorkspaceRecord where
  receipt : ExternalEvidenceReceipt
  createdAt : AwareDatetime
  sensitivity : Text
  policyId : Text
  verificationStatus : Option Text
  reliabilityState : Option Text
  identified : blank receipt.receiptId = false
  classified : blank sensitivity = false
  governed : blank policyId = false

/-- `_record_values`, `workspace/sqlite_repository.py:215–238`. -/
def recordValues (record : WorkspaceRecord) : Except PyError RecordRow := do
  let receipt := record.receipt
  let capturedAt ← receipt.capturedAt.toUtc
  let createdAt ← record.createdAt.toUtc
  pure ⟨receipt.receiptId, receipt.receiptId, receipt.artifactDigest, receipt.artifactSize,
    receipt.producerId, receipt.producerType, receipt.producerVersion, receipt.sourceRef,
    receipt.sourceEventId, receipt.runId, isoformat capturedAt, record.sensitivity,
    record.policyId, record.verificationStatus, record.reliabilityState, isoformat createdAt⟩

/-- `index_record`, `workspace/sqlite_repository.py:134–171`. A size is bound as a signed integer of
64 bits. -/
def indexRecord (s : Workspace) (record : WorkspaceRecord) : Except PyError Workspace := do
  let values ← recordValues record
  let indexed ← s.indexRecord values
  require ⟨.overflowError, lit "Python int too large to convert to SQLite INTEGER"⟩
    ((s.records.get? values.recordId).isSome ||
      decide (-2 ^ 63 ≤ values.artifactSize ∧ values.artifactSize < 2 ^ 63))
  pure indexed

/-- The index after a call, which is rolled back where it raises. -/
def step (s : Workspace) (record : WorkspaceRecord) : Workspace :=
  match indexRecord s record with
  | .error _ => s
  | .ok indexed => indexed

/-- The index after a sequence of calls. -/
def indexed (records : List WorkspaceRecord) : Workspace := records.foldl step Workspace.empty

/-! ### What a run spans -/

/-- The instants at which the records of a run were captured. -/
def capturedInstants (s : Workspace) (runId : Text) : Set Int :=
  {instant | ∃ recordId row captured, s.records.get? recordId = some row ∧
    row.runId = some runId ∧ row.capturedAt = isoformat captured ∧ captured.instant = instant}

/-- A run has the producer of its records, and lasts from the first of them to the last. -/
structure Spans (s : Workspace) (runId : Text) (run : RunRow) : Prop where
  produced : ∀ recordId row, s.records.get? recordId = some row → row.runId = some runId →
    row.producerId = run.producerId ∧ row.producerType = run.producerType ∧
      row.producerVersion = run.producerVersion
  lasts : ∃ started finished, run.startedAt = isoformat started ∧
    run.finishedAt = isoformat finished ∧
    IsLeast (capturedInstants s runId) started.instant ∧
    IsGreatest (capturedInstants s runId) finished.instant

/-- What every index keeps. -/
structure Consistent (s : Workspace) : Prop where
  distinct : s.records.Distinct ∧ s.runs.Distinct
  keyed : ∀ recordId row, s.records.get? recordId = some row → row.recordId = recordId
  timed : ∀ recordId row, s.records.get? recordId = some row →
    ∃ captured, row.capturedAt = isoformat captured
  linked : ∀ recordId row runId, s.records.get? recordId = some row → row.runId = some runId →
    (s.runs.get? runId).isSome = true
  bound : ∀ recordId row, s.records.get? recordId = some row →
    bindTexts [row.recordId] = .ok () ∧ ∀ runId, row.runId = some runId →
      bindTexts ([runId, row.producerId, row.producerType] ++ row.producerVersion.toList) = .ok ()
  spans : ∀ runId run, s.runs.get? runId = some run → Spans s runId run

/-! ### Times -/

/-- The smaller of two timestamps is that of the earlier instant. -/
theorem exists_min_isoformat (t u : Datetime) :
    ∃ v, min (isoformat t) (isoformat u) = isoformat v ∧
      v.instant = min t.instant u.instant := by
  by_cases h : t.instant ≤ u.instant
  · exact ⟨t, min_eq_left (isoformat_le_iff.mpr h), (min_eq_left h).symm⟩
  · have h' : u.instant ≤ t.instant := by omega
    exact ⟨u, min_eq_right (isoformat_le_iff.mpr h'), (min_eq_right h').symm⟩

/-- The larger of two timestamps is that of the later instant. -/
theorem exists_max_isoformat (t u : Datetime) :
    ∃ v, max (isoformat t) (isoformat u) = isoformat v ∧
      v.instant = max t.instant u.instant := by
  by_cases h : t.instant ≤ u.instant
  · exact ⟨u, max_eq_right (isoformat_le_iff.mpr h), (max_eq_right h).symm⟩
  · have h' : u.instant ≤ t.instant := by omega
    exact ⟨t, max_eq_left (isoformat_le_iff.mpr h'), (max_eq_left h').symm⟩

/-! ### One call -/

variable {s s' : Workspace} {r : RecordRow}

/-- What indexing a row does: its run is observed, and it is in the table, added there where it
was not. -/
theorem indexRecord_spec (h : s.indexRecord r = .ok s') :
    (r.runId = none ∧ s'.runs = s.runs ∨
      ∃ runId, r.runId = some runId ∧
        Workspace.ensureObservedRun s.runs runId r = .ok s'.runs) ∧
    (bindTexts [r.recordId] = .ok () ∧ ∀ runId, r.runId = some runId →
      bindTexts ([runId, r.producerId, r.producerType] ++ r.producerVersion.toList) = .ok ()) ∧
    s'.records.get? r.recordId = some r ∧
    (s.records.get? r.recordId = some r ∧ s'.records = s.records ∨
      s.records.get? r.recordId = none ∧ s'.records = s.records.set r.recordId r) := by
  rw [Workspace.indexRecord, bind_eq_ok] at h
  obtain ⟨⟨⟩, hbindId, h⟩ := h
  rw [bind_eq_ok] at h
  obtain ⟨runs, hruns, h⟩ := h
  have hobserved : (r.runId = none ∧ runs = s.runs ∨ ∃ runId, r.runId = some runId ∧
      Workspace.ensureObservedRun s.runs runId r = .ok runs) ∧ ∀ runId, r.runId = some runId →
        bindTexts ([runId, r.producerId, r.producerType] ++ r.producerVersion.toList) =
          .ok () := by
    cases hid : r.runId with
    | none =>
      rw [hid] at hruns
      cases hruns
      exact ⟨.inl ⟨rfl, rfl⟩, by rintro _ ⟨⟩⟩
    | some runId =>
      rw [hid] at hruns
      simp only [Option.elim_some, bind_eq_ok] at hruns
      obtain ⟨⟨⟩, hbind, hruns⟩ := hruns
      refine ⟨.inr ⟨runId, rfl, hruns⟩, ?_⟩
      rintro _ ⟨⟩
      exact hbind
  cases hrow : s.records.get? r.recordId with
  | none =>
    rw [hrow] at h
    dsimp only at h
    rw [bind_eq_ok] at h
    obtain ⟨-, -, h⟩ := h
    cases h
    exact ⟨hobserved.1, ⟨hbindId, hobserved.2⟩, by rw [Dict.get?_set, if_pos rfl],
      .inr ⟨rfl, rfl⟩⟩
  | some row =>
    rw [hrow] at h
    dsimp only at h
    rw [require_bind_eq_ok] at h
    obtain ⟨heq, h⟩ := h
    cases h
    rw [of_decide_eq_true heq] at hrow ⊢
    exact ⟨hobserved.1, ⟨hbindId, hobserved.2⟩, hrow, .inl ⟨rfl, rfl⟩⟩

/-- Rows stay as they are. -/
theorem indexRecord_keeps (h : s.indexRecord r = .ok s') {recordId : Text} {row : RecordRow}
    (hrow : s.records.get? recordId = some row) : s'.records.get? recordId = some row := by
  obtain ⟨-, -, -, ⟨-, hrecords⟩ | ⟨hnone, hrecords⟩⟩ := indexRecord_spec h
  · rw [hrecords]
    exact hrow
  · rw [hrecords, Dict.get?_set, if_neg]
    · exact hrow
    · rintro rfl
      rw [hnone] at hrow
      cases hrow

/-- A row that is there was there before, or is the one that was indexed. -/
theorem indexRecord_adds (h : s.indexRecord r = .ok s') {recordId : Text} {row : RecordRow}
    (hrow : s'.records.get? recordId = some row) :
    s.records.get? recordId = some row ∨ recordId = r.recordId ∧ row = r := by
  obtain ⟨-, -, -, ⟨-, hrecords⟩ | ⟨-, hrecords⟩⟩ := indexRecord_spec h
  · rw [hrecords] at hrow
    exact .inl hrow
  · rw [hrecords, Dict.get?_set] at hrow
    by_cases hid : recordId = r.recordId
    · rw [if_pos hid] at hrow
      cases hrow
      exact .inr ⟨hid, rfl⟩
    · rw [if_neg hid] at hrow
      exact .inl hrow

/-- A call comes to a row of its record, indexed. -/
theorem indexRecord_eq_ok {record : WorkspaceRecord} (h : indexRecord s record = .ok s') :
    ∃ row captured, recordValues record = .ok row ∧ row.capturedAt = isoformat captured ∧
      s.indexRecord row = .ok s' := by
  simp only [indexRecord, bind_eq_ok, require_eq_ok, exists_const] at h
  obtain ⟨row, hrow, indexed, hindexed, -, ⟨⟩⟩ := h
  refine ⟨row, ?_⟩
  simp only [recordValues, bind_eq_ok] at hrow ⊢
  obtain ⟨captured, hcaptured, created, hcreated, ⟨⟩⟩ := hrow
  exact ⟨captured, ⟨captured, hcaptured, created, hcreated, rfl⟩, rfl, hindexed⟩

/-- The records of a run that the row does not name stay as they are. -/
theorem capturedInstants_of_ne (h : s.indexRecord r = .ok s') {runId : Text}
    (hne : r.runId ≠ some runId) : capturedInstants s' runId = capturedInstants s runId := by
  ext instant
  constructor
  · rintro ⟨recordId, row, captured, hrow, hrun, hcaptured⟩
    rcases indexRecord_adds h hrow with hrow | ⟨-, rfl⟩
    · exact ⟨recordId, row, captured, hrow, hrun, hcaptured⟩
    · exact absurd hrun hne
  · rintro ⟨recordId, row, captured, hrow, hcaptured⟩
    exact ⟨recordId, row, captured, indexRecord_keeps h hrow, hcaptured⟩

/-- The row's own run has one more instant. -/
theorem capturedInstants_of_eq (h : s.indexRecord r = .ok s') {runId : Text}
    (hrun : r.runId = some runId) {captured : Datetime} (hr : r.capturedAt = isoformat captured) :
    capturedInstants s' runId = insert captured.instant (capturedInstants s runId) := by
  ext instant
  rw [Set.mem_insert_iff]
  constructor
  · rintro ⟨recordId, row, captured', hrow, hid, hcaptured', rfl⟩
    rcases indexRecord_adds h hrow with hrow | ⟨-, rfl⟩
    · exact .inr ⟨recordId, row, captured', hrow, hid, hcaptured', rfl⟩
    · left
      rw [hr] at hcaptured'
      rw [isoformat_injective hcaptured']
  · rintro (rfl | ⟨recordId, row, captured', hrow, hcaptured'⟩)
    · exact ⟨r.recordId, r, captured, (indexRecord_spec h).2.2.1, hrun, hr, rfl⟩
    · exact ⟨recordId, row, captured', indexRecord_keeps h hrow, hcaptured'⟩

/-- A run that the row does not name spans the same records. -/
theorem Spans.of_ne (h : s.indexRecord r = .ok s') {runId : Text} (hne : r.runId ≠ some runId)
    {run : RunRow} (hs : Spans s runId run) : Spans s' runId run := by
  refine ⟨?_, by rw [capturedInstants_of_ne h hne]; exact hs.lasts⟩
  intro recordId row hrow hrun
  rcases indexRecord_adds h hrow with hrow | ⟨-, rfl⟩
  · exact hs.produced recordId row hrow hrun
  · exact absurd hrun hne

/-- The first record of a run is all it spans. -/
theorem spans_first (hs : Consistent s) (h : s.indexRecord r = .ok s') {runId : Text}
    (hrun : r.runId = some runId) (hnew : s.runs.get? runId = none) {captured : Datetime}
    (hr : r.capturedAt = isoformat captured) :
    Spans s' runId ⟨r.producerId, r.producerType, r.producerVersion, r.capturedAt,
      r.capturedAt⟩ := by
  have hnone (recordId : Text) (row : RecordRow) (hrow : s.records.get? recordId = some row) :
      row.runId ≠ some runId := by
    intro hid
    have hsome := hs.linked recordId row runId hrow hid
    rw [hnew] at hsome
    cases hsome
  have hinstants : capturedInstants s' runId = {captured.instant} := by
    have hempty : capturedInstants s runId = ∅ := by
      apply Set.eq_empty_of_forall_notMem
      rintro instant ⟨recordId, row, -, hrow, hid, -⟩
      exact hnone recordId row hrow hid
    rw [capturedInstants_of_eq h hrun hr, hempty, insert_empty_eq]
  refine ⟨?_, captured, captured, hr, hr, ?_, ?_⟩
  · intro recordId row hrow hid
    rcases indexRecord_adds h hrow with hrow | ⟨-, rfl⟩
    · exact absurd hid (hnone recordId row hrow)
    · exact ⟨rfl, rfl, rfl⟩
  · rw [hinstants]
    exact isLeast_singleton
  · rw [hinstants]
    exact isGreatest_singleton

/-- A run with the row's producer spans the row once its times are widened. -/
theorem spans_widened (h : s.indexRecord r = .ok s') {runId : Text} (hrun : r.runId = some runId)
    {run : RunRow} (hs : Spans s runId run) (hproducer : run.producerId = r.producerId ∧
      run.producerType = r.producerType ∧ run.producerVersion = r.producerVersion)
    {captured : Datetime} (hr : r.capturedAt = isoformat captured) :
    Spans s' runId { run with
      startedAt := min run.startedAt r.capturedAt
      finishedAt := max run.finishedAt r.capturedAt } := by
  constructor
  · intro recordId row hrow hid
    rcases indexRecord_adds h hrow with hrow | ⟨-, rfl⟩
    · exact hs.produced recordId row hrow hid
    · exact ⟨hproducer.1.symm, hproducer.2.1.symm, hproducer.2.2.symm⟩
  · obtain ⟨started, finished, hstarted, hfinished, hleast, hgreatest⟩ := hs.lasts
    obtain ⟨first, hfirst, hmin⟩ := exists_min_isoformat started captured
    obtain ⟨last, hlast, hmax⟩ := exists_max_isoformat finished captured
    refine ⟨first, last, ?_, ?_, ?_, ?_⟩
    · rw [hstarted, hr, hfirst]
    · rw [hfinished, hr, hlast]
    · rw [hmin, min_comm, capturedInstants_of_eq h hrun hr]
      exact hleast.insert captured.instant
    · rw [hmax, max_comm, capturedInstants_of_eq h hrun hr]
      exact hgreatest.insert captured.instant

/-- What observing a run does to the runs. -/
theorem ensureObservedRun_cases {runs runs' : Dict RunRow} {runId : Text}
    (h : Workspace.ensureObservedRun runs runId r = .ok runs') :
    runs.get? runId = none ∧ runs' = runs.set runId
        ⟨r.producerId, r.producerType, r.producerVersion, r.capturedAt, r.capturedAt⟩ ∨
      ∃ run, runs.get? runId = some run ∧ (run.producerId = r.producerId ∧
        run.producerType = r.producerType ∧ run.producerVersion = r.producerVersion) ∧
        runs' = runs.set runId { run with
          startedAt := min run.startedAt r.capturedAt
          finishedAt := max run.finishedAt r.capturedAt } := by
  unfold Workspace.ensureObservedRun at h
  split at h
  · next hnone =>
    cases h
    exact .inl ⟨hnone, rfl⟩
  · next run hrun =>
    rw [require_bind_eq_ok] at h
    obtain ⟨hproducer, h⟩ := h
    cases h
    exact .inr ⟨run, hrun, of_decide_eq_true hproducer, rfl⟩

/-- Indexing a row keeps what every index keeps. -/
theorem Consistent.indexRecord (hs : Consistent s) (h : s.indexRecord r = .ok s')
    {captured : Datetime} (hr : r.capturedAt = isoformat captured) : Consistent s' := by
  obtain ⟨hruns, hbound, hget, hrecords⟩ := indexRecord_spec h
  -- the run of the row is observed, and the others stay
  have hspans : s'.runs.Distinct ∧
      (∀ runId, (s.runs.get? runId).isSome = true → (s'.runs.get? runId).isSome = true) ∧
      (∀ runId, r.runId = some runId → (s'.runs.get? runId).isSome = true) ∧
      ∀ runId run, s'.runs.get? runId = some run → Spans s' runId run := by
    rcases hruns with ⟨hnone, hruns⟩ | ⟨runId, hrun, hruns⟩
    · rw [hruns]
      refine ⟨hs.distinct.2, fun _ ↦ id, ?_, ?_⟩
      · intro runId hid
        rw [hnone] at hid
        cases hid
      · intro runId run hget
        exact (hs.spans runId run hget).of_ne h (by rw [hnone]; nofun)
    · have hset : ∃ run, s'.runs = s.runs.set runId run ∧ Spans s' runId run := by
        rcases ensureObservedRun_cases hruns with ⟨hnew, heq⟩ | ⟨run, hold, hproducer, heq⟩
        · exact ⟨_, heq, spans_first hs h hrun hnew hr⟩
        · exact ⟨_, heq, spans_widened h hrun (hs.spans runId run hold) hproducer hr⟩
      obtain ⟨run, hset, hspans⟩ := hset
      rw [hset]
      refine ⟨hs.distinct.2.set runId run, ?_, ?_, ?_⟩
      · intro id hid
        rw [Dict.get?_set]
        by_cases heq : id = runId
        · rw [if_pos heq]
          rfl
        · rw [if_neg heq]
          exact hid
      · intro id hid
        rw [hrun] at hid
        cases hid
        rw [Dict.get?_set, if_pos rfl]
        rfl
      · intro id run' hget'
        rw [Dict.get?_set] at hget'
        by_cases heq : id = runId
        · rw [if_pos heq] at hget'
          cases hget'
          rw [heq]
          exact hspans
        · rw [if_neg heq] at hget'
          apply (hs.spans id run' hget').of_ne h
          rw [hrun]
          exact fun hid ↦ heq (Option.some.inj hid).symm
  constructor
  · refine ⟨?_, hspans.1⟩
    rcases hrecords with ⟨-, heq⟩ | ⟨-, heq⟩
    · rw [heq]
      exact hs.distinct.1
    · rw [heq]
      exact hs.distinct.1.set _ _
  · intro recordId row hrow
    rcases indexRecord_adds h hrow with hrow | ⟨hid, rfl⟩
    · exact hs.keyed recordId row hrow
    · exact hid.symm
  · intro recordId row hrow
    rcases indexRecord_adds h hrow with hrow | ⟨-, rfl⟩
    · exact hs.timed recordId row hrow
    · exact ⟨captured, hr⟩
  · intro recordId row runId hrow hid
    rcases indexRecord_adds h hrow with hrow | ⟨-, rfl⟩
    · exact hspans.2.1 runId (hs.linked recordId row runId hrow hid)
    · exact hspans.2.2.1 runId hid
  · intro recordId row hrow
    rcases indexRecord_adds h hrow with hrow | ⟨-, rfl⟩
    · exact hs.bound recordId row hrow
    · exact hbound
  · exact hspans.2.2.2

/-- The run of an indexed row is observed again as it was. -/
theorem ensureObservedRun_again (hs : Consistent s) (hrow : s.records.get? r.recordId = some r)
    {runId : Text} (hrun : r.runId = some runId) :
    Workspace.ensureObservedRun s.runs runId r = .ok s.runs := by
  obtain ⟨captured, hcaptured⟩ := hs.timed _ _ hrow
  obtain ⟨run, hget⟩ := Option.isSome_iff_exists.mp (hs.linked _ _ runId hrow hrun)
  obtain ⟨hproduced, started, finished, hstarted, hfinished, hleast, hgreatest⟩ :=
    hs.spans runId run hget
  obtain ⟨hid, htype, hversion⟩ := hproduced _ _ hrow hrun
  have hmem : captured.instant ∈ capturedInstants s runId :=
    ⟨r.recordId, r, captured, hrow, hrun, hcaptured, rfl⟩
  have hmin : min run.startedAt r.capturedAt = run.startedAt := by
    rw [hstarted, hcaptured]
    exact min_eq_left (isoformat_le_iff.mpr (hleast.2 hmem))
  have hmax : max run.finishedAt r.capturedAt = run.finishedAt := by
    rw [hfinished, hcaptured]
    exact max_eq_left (isoformat_le_iff.mpr (hgreatest.2 hmem))
  rw [Workspace.ensureObservedRun, hget]
  dsimp only
  rw [hmin, hmax, decide_eq_true ⟨hid.symm, htype.symm, hversion.symm⟩, require_true, ok_bind]
  exact congrArg Except.ok (Dict.set_of_get? hget)

/-- Indexing an equal record again succeeds and changes nothing. -/
theorem indexRecord_again (hs : Consistent s) {record : WorkspaceRecord}
    (hvalues : recordValues record = .ok r) (hrow : s.records.get? r.recordId = some r) :
    indexRecord s record = .ok s := by
  obtain ⟨hbindId, hbindRun⟩ := hs.bound _ _ hrow
  have hruns : (r.runId.elim (.ok s.runs) fun runId ↦ do
      bindTexts ([runId, r.producerId, r.producerType] ++ r.producerVersion.toList)
      Workspace.ensureObservedRun s.runs runId r) = .ok s.runs := by
    cases hrun : r.runId with
    | none => rfl
    | some runId =>
      rw [Option.elim_some, hbindRun runId hrun, ok_bind, ensureObservedRun_again hs hrow hrun]
  have hindexed : s.indexRecord r = .ok s := by
    rw [Workspace.indexRecord, hbindId, ok_bind, hruns, ok_bind, hrow]
    dsimp only
    rw [decide_eq_true rfl, require_true, ok_bind]
    rfl
  rw [indexRecord, hvalues, ok_bind, hindexed, ok_bind, hrow, Option.isSome_some, Bool.true_or,
    require_true, ok_bind]
  rfl

/-! ### Sequences of calls -/

/-- A new index. -/
theorem consistent_empty : Consistent Workspace.empty :=
  ⟨⟨List.nodup_nil, List.nodup_nil⟩, nofun, nofun, nofun, nofun, nofun⟩

/-- Every call keeps what every index keeps. -/
theorem Consistent.step (hs : Consistent s) (record : WorkspaceRecord) :
    Consistent (step s record) := by
  rw [RecordIndex.step]
  cases h : RecordIndex.indexRecord s record with
  | error e => exact hs
  | ok s' =>
    obtain ⟨row, captured, -, hcaptured, hindexed⟩ := indexRecord_eq_ok h
    exact hs.indexRecord hindexed hcaptured

/-- Every call keeps the rows. -/
theorem step_keeps (record : WorkspaceRecord) {recordId : Text} {row : RecordRow}
    (hrow : s.records.get? recordId = some row) :
    (step s record).records.get? recordId = some row := by
  rw [step]
  cases h : indexRecord s record with
  | error e => exact hrow
  | ok s' =>
    obtain ⟨_, _, -, -, hindexed⟩ := indexRecord_eq_ok h
    exact indexRecord_keeps hindexed hrow

/-- Every index keeps what an index keeps. -/
theorem consistent_indexed (records : List WorkspaceRecord) : Consistent (indexed records) := by
  have hrun (s : Workspace) (hs : Consistent s) : Consistent (records.foldl step s) := by
    induction records generalizing s with
    | nil => exact hs
    | cons record records ih => exact ih _ (hs.step record)
  exact hrun _ consistent_empty

/-- Every row is that of a record of the sequence. -/
theorem exists_record (records : List WorkspaceRecord) {recordId : Text} {row : RecordRow}
    (hrow : (indexed records).records.get? recordId = some row) :
    ∃ record ∈ records, recordValues record = .ok row := by
  induction records using List.reverseRecOn with
  | nil => cases hrow
  | append_singleton records record ih =>
    rw [indexed, List.foldl_append, List.foldl_cons, List.foldl_nil, step] at hrow
    have hbefore (h : (indexed records).records.get? recordId = some row) :
        ∃ record' ∈ records ++ [record], recordValues record' = .ok row := by
      obtain ⟨record', hmem, hvalues⟩ := ih h
      exact ⟨record', List.mem_append_left _ hmem, hvalues⟩
    cases h : indexRecord (records.foldl step Workspace.empty) record with
    | error e =>
      rw [h] at hrow
      exact hbefore hrow
    | ok s' =>
      rw [h] at hrow
      obtain ⟨row', _, hvalues, -, hindexed⟩ := indexRecord_eq_ok h
      rcases indexRecord_adds hindexed hrow with hrow | ⟨-, rfl⟩
      · exact hbefore hrow
      · exact ⟨record, List.mem_append_right _ (List.mem_singleton_self _), hvalues⟩

/-- Over every sequence of calls a record has one row, which never changes and is not written again,
and every run spans the records that name it. -/
theorem index_spans_runs (records later : List WorkspaceRecord) :
    (indexed records).records.Distinct ∧
    (∀ recordId row, (indexed records).records.get? recordId = some row →
      row.recordId = recordId ∧ (∃ record ∈ records, recordValues record = .ok row) ∧
        (indexed (records ++ later)).records.get? recordId = some row) ∧
    (∀ record row, recordValues record = .ok row →
      (indexed records).records.get? row.recordId = some row →
        indexRecord (indexed records) record = .ok (indexed records)) ∧
    ∀ runId run, (indexed records).runs.get? runId = some run →
      Spans (indexed records) runId run := by
  have hs := consistent_indexed records
  refine ⟨hs.distinct.1, ?_, ?_, hs.spans⟩
  · intro recordId row hrow
    refine ⟨hs.keyed recordId row hrow, exists_record records hrow, ?_⟩
    have hkept (s : Workspace) (hs : s.records.get? recordId = some row) :
        (later.foldl step s).records.get? recordId = some row := by
      induction later generalizing s with
      | nil => exact hs
      | cons record later ih => exact ih _ (step_keeps record hs)
    rw [indexed, List.foldl_append]
    exact hkept _ hrow
  · intro record row hvalues hrow
    exact indexRecord_again hs hvalues hrow

end StateWake.Lifecycle.RecordIndex
