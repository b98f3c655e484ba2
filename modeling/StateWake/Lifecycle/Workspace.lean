import StateWake.Lifecycle.EvidenceReceipt

/-!
# Workspace lifecycle

`workspace/integration.py`, `workspace/lifecycle.py` and the tables of
`workspace/sqlite_repository.py` they read and write. Retention is kept for each record and an
artifact for each digest, so one record's deletion takes the artifact from every record of equal
bytes. Evidence that must be kept is kept exactly when no deletion that takes place meets such a
record.
-/

namespace StateWake.Lifecycle

open StateWake.Base Text Utils

/-! ### Tables -/

/-- A row of `records`, `workspace/sqlite_repository.py:215–238`. -/
structure RecordRow where
  recordId : Text
  receiptId : Text
  artifactDigest : Text
  artifactSize : Int
  producerId : Text
  producerType : Text
  producerVersion : Option Text
  sourceRef : Text
  sourceEventId : Option Text
  runId : Option Text
  capturedAt : Text
  sensitivity : Text
  policyId : Text
  verificationStatus : Option Text
  reliabilityState : Option Text
  createdAt : Text
  deriving DecidableEq

/-- What `_ensure_observed_run` keeps of a run, `workspace/sqlite_repository.py:173–214`. -/
structure RunRow where
  producerId : Text
  producerType : Text
  producerVersion : Option Text
  startedAt : Text
  finishedAt : Text

/-- `WorkspaceRetention`, `workspace/models.py:114–122`, a row of `retention`. -/
structure WorkspaceRetention where
  objectId : Text
  policyId : Text
  sensitivity : Text
  retainUntil : Option Text
  legalHold : Bool
  deriving DecidableEq

/-- `WorkspaceRecordIndexEntry`, `workspace/models.py:188–207`: a row with its times read. -/
structure WorkspaceRecordIndexEntry where
  row : RecordRow
  capturedAt : Datetime
  createdAt : Datetime

/-- A workspace: its files and its tables by primary key. -/
structure Workspace where
  files : EvidenceFiles
  runs : Dict RunRow
  records : Dict RecordRow
  retention : Dict WorkspaceRetention
  deletions : Dict DeletionRecord

/-- Binding texts to a statement: each is encoded as UTF-8, or `UnicodeEncodeError`. -/
def bindTexts (values : List Text) : Except PyError Unit :=
  require ⟨.unicodeEncodeError, []⟩ (values.all fun s ↦ (Utf8.encode s).isSome)

theorem bindTexts_eq_ok {values : List Text} :
    bindTexts values = .ok () ↔ ∀ s ∈ values, SurrogateFree s := by
  simp only [bindTexts, require_eq_ok, List.all_eq_true, Utf8.encode_isSome_iff]

namespace Workspace

/-- A new workspace. -/
def empty : Workspace := ⟨⟨[], []⟩, [], [], [], []⟩

/-! ### Ingestion -/

/-- The runs after one record of a run was observed, `_ensure_observed_run`,
`workspace/sqlite_repository.py:173–214`. -/
def ensureObservedRun (runs : Dict RunRow) (runId : Text) (r : RecordRow) :
    Except PyError (Dict RunRow) :=
  match runs.get? runId with
  | none => .ok (runs.set runId
      ⟨r.producerId, r.producerType, r.producerVersion, r.capturedAt, r.capturedAt⟩)
  | some run => do
    require ⟨.workspaceRecordConflictError, lit "workspace run identity conflict: " ++ runId⟩
      (run.producerId = r.producerId ∧ run.producerType = r.producerType ∧
        run.producerVersion = r.producerVersion)
    pure (runs.set runId { run with
      startedAt := min run.startedAt r.capturedAt
      finishedAt := max run.finishedAt r.capturedAt })

/-- `index_record`, `workspace/sqlite_repository.py:134–171`, in one transaction. -/
def indexRecord (s : Workspace) (r : RecordRow) : Except PyError Workspace := do
  bindTexts [r.recordId]
  let runs ← r.runId.elim (.ok s.runs) fun runId ↦ do
    bindTexts ([runId, r.producerId, r.producerType] ++ r.producerVersion.toList)
    ensureObservedRun s.runs runId r
  match s.records.get? r.recordId with
  | none => do
    bindTexts ([r.receiptId, r.artifactDigest, r.producerId, r.producerType, r.sourceRef,
      r.sensitivity, r.policyId] ++ r.producerVersion.toList ++ r.sourceEventId.toList ++
      r.verificationStatus.toList ++ r.reliabilityState.toList)
    pure { s with runs, records := s.records.set r.recordId r }
  | some row => do
    require ⟨.workspaceRecordConflictError,
      lit "workspace record identity conflict: " ++ r.recordId⟩ (row = r)
    pure { s with runs }

/-- The row of a receipt, `_index_receipt` at `workspace/integration.py:496–516` with the checks
of `WorkspaceRecord` at `workspace/models.py:45–56`. -/
def indexRow (governance : Option PrivacyGovernance) (receipt : ExternalEvidenceReceipt)
    (sensitivity : Text) : Except PyError RecordRow := do
  let policyId := governance.elim (lit "default") PrivacyGovernance.evidencePolicyId
  require ⟨.valueError, lit "record_id must not be blank."⟩ (!blank receipt.receiptId)
  require ⟨.valueError, lit "sensitivity must not be blank."⟩ (!blank sensitivity)
  require ⟨.valueError, lit "policy_id must not be blank."⟩ (!blank policyId)
  let captured ← receipt.capturedAt.toUtc
  pure ⟨receipt.receiptId, receipt.receiptId, receipt.artifactDigest, receipt.artifactSize,
    receipt.producerId, receipt.producerType, receipt.producerVersion, receipt.sourceRef,
    receipt.sourceEventId, receipt.runId, isoformat captured, sensitivity, policyId, none, none,
    isoformat captured⟩

/-- `ingest_bytes` of the workspace, `workspace/integration.py:66–93`. -/
def ingestBytes (governance : Option PrivacyGovernance) (s : Workspace) (content : Bytes)
    (a : IngestionArguments) : Except PyError Unit × Workspace :=
  match s.files.ingestBytes governance content a with
  | (.error e, files) => (.error e, { s with files })
  | (.ok receipt, files) =>
    let stored := { s with files }
    let indexed : Except PyError Workspace := do
      let row ← indexRow governance receipt a.sensitivity
      stored.indexRecord row
    match indexed with
    | .error e => (.error e, stored)
    | .ok s => (.ok (), s)

/-- `ingest_file`, `workspace/integration.py:95–121` and `adapters/evidence_ingestion.py:202–221`:
the content of a file under the file's own name, or nothing where there is no file. -/
def ingestFile (governance : Option PrivacyGovernance) (s : Workspace) (path name : Text)
    (content : Option Bytes) (a : IngestionArguments) : Except PyError Unit × Workspace :=
  match content with
  | none => (.error ⟨.fileNotFoundError, path⟩, s)
  | some content => s.ingestBytes governance content { a with sourceRef := name }

/-- `_entry_from_row`, `workspace/sqlite_repository.py:318–338`. -/
def entryFromRow (row : RecordRow) : Except PyError WorkspaceRecordIndexEntry := do
  let capturedAt ← parseDatetime row.capturedAt (lit "captured_at")
  let createdAt ← parseDatetime row.createdAt (lit "created_at")
  pure ⟨row, capturedAt, createdAt⟩

/-- `_require_record`, `workspace/lifecycle.py:284–298`, with the checks of
`WorkspaceRecordQuery` at `workspace/models.py:157–173`. -/
def requireRecord (s : Workspace) (recordId : Text) :
    Except PyError WorkspaceRecordIndexEntry := do
  require ⟨.valueError, lit "record_id must not be blank when provided."⟩ (!blank recordId)
  bindTexts [recordId]
  match s.records.get? recordId with
  | none => .error ⟨.keyError, lit "workspace record not found: " ++ recordId⟩
  | some row => entryFromRow row

/-- The receipt of a row, `_hydrate` at `workspace/integration.py:518–555`. -/
def hydrate (s : Workspace) (entry : WorkspaceRecordIndexEntry) :
    Except PyError ExternalEvidenceReceipt := do
  let r ← s.files.receipts.get entry.row.receiptId
  let captured ← r.capturedAt.toUtc
  require ⟨.valueError,
      lit "workspace index does not match persisted receipt " ++ entry.row.receiptId ++ lit "."⟩
    (entry.row.recordId = r.receiptId ∧ entry.row.artifactDigest = r.artifactDigest ∧
      entry.row.artifactSize = r.artifactSize ∧ entry.row.producerId = r.producerId ∧
      entry.row.producerType = r.producerType ∧ entry.row.producerVersion = r.producerVersion ∧
      entry.row.sourceRef = r.sourceRef ∧ entry.row.sourceEventId = r.sourceEventId ∧
      entry.row.runId = r.runId ∧ entry.capturedAt = captured)
  pure r

/-! ### Queries -/

/-- `WorkspaceRecord`, `workspace/models.py:34–43`: a row with its receipt. -/
structure WorkspaceRecord where
  entry : WorkspaceRecordIndexEntry
  receipt : ExternalEvidenceReceipt

/-- Rows of `records`, newest first: `ORDER BY captured_at DESC, record_id DESC`,
`workspace/sqlite_repository.py:289–294`. -/
def orderedRows (s : Workspace) : List RecordRow :=
  (s.records.map Prod.snd).insertionSort fun a b ↦
    b.capturedAt < a.capturedAt ∨ b.capturedAt = a.capturedAt ∧ b.recordId ≤ a.recordId

/-- A page of the query without filters, `workspace/integration.py:159–168`: its records, and how
many there are in all. -/
def query (s : Workspace) (limit offset : Nat) : Except PyError (List WorkspaceRecord × Nat) := do
  let entries ← ((s.orderedRows.drop offset).take limit).mapM entryFromRow
  let records ← entries.mapM fun entry ↦ do
    let receipt ← s.hydrate entry
    pure ⟨entry, receipt⟩
  pure (records, s.records.length)

@[simp] theorem length_orderedRows (s : Workspace) : s.orderedRows.length = s.records.length := by
  rw [orderedRows, List.length_insertionSort, List.length_map]

/-- A page holds its rows. -/
theorem rows_query {s : Workspace} {limit offset total : Nat} {records : List WorkspaceRecord}
    (h : s.query limit offset = .ok (records, total)) :
    (records.map fun r ↦ r.entry.row) = (s.orderedRows.drop offset).take limit ∧
      total = s.records.length := by
  simp only [query, bind_eq_ok] at h
  obtain ⟨entries, hentries, hydrated, hhydrated, h⟩ := h
  cases h
  have hrecords : (records.map fun r ↦ r.entry) = entries.map id := by
    refine map_of_mapM_eq_ok (fun entry r hr ↦ ?_) hhydrated
    rw [bind_eq_ok] at hr
    obtain ⟨receipt, -, hr⟩ := hr
    cases hr
    rfl
  have hrows : (entries.map fun entry ↦ entry.row) =
      ((s.orderedRows.drop offset).take limit).map id := by
    refine map_of_mapM_eq_ok (fun row entry hentry ↦ ?_) hentries
    simp only [entryFromRow, bind_eq_ok] at hentry
    obtain ⟨captured, -, created, -, hentry⟩ := hentry
    cases hentry
    rfl
  rw [List.map_id] at hrecords hrows
  rw [← hrows, ← hrecords, List.map_map]
  exact ⟨rfl, rfl⟩

/-! ### Retention and deletion -/

/-- A lifecycle policy from its parts, `domain/data_lifecycle.py:57–69`. The number of days is
never negative here. -/
def lifecyclePolicy (policyId : Text) (maxRetentionDays : Option Nat) :
    Except PyError DataLifecyclePolicy :=
  if h : blank policyId = false then
    .ok ⟨policyId, maxRetentionDays, .restricted, .internal, .restricted, h⟩
  else valueError (lit "policy_id and purpose must not be empty.")

/-- `apply_retention`, `workspace/lifecycle.py:51–85`. -/
def applyRetention (s : Workspace) (recordId : Text) (policy : DataLifecyclePolicy)
    (legalHold : Bool) (now : AwareDatetime) : Except PyError Workspace := do
  let record ← s.requireRecord recordId
  let decision ← assessDataLifecycle recordId record.row.sensitivity (.ofUtc record.createdAt)
    policy now legalHold
  bindTexts ([recordId, policy.policyId, record.row.sensitivity] ++ decision.retainUntil.toList)
  let retention : WorkspaceRetention :=
    ⟨recordId, policy.policyId, record.row.sensitivity, decision.retainUntil, legalHold⟩
  pure { s with retention := s.retention.set recordId retention }

/-- `datetime.fromisoformat` of a stored deadline, as the arithmetic that follows needs it. -/
def parseRetainUntil (retainUntil : Text) : Except PyError AwareDatetime := do
  let (_, tz) ← orRaise ⟨.valueError, lit "Invalid isoformat string"⟩ (fromisoformat retainUntil)
  let _ ← orRaise ⟨.typeError, lit "can't subtract offset-naive and offset-aware datetimes"⟩ tz
  parseAware retainUntil []

/-- The days from a creation time to a deadline, `max(0, (retain_until - created_at).days)`. -/
def retentionDays (created : Datetime) (retainUntil : AwareDatetime) : Nat :=
  ((retainUntil.instant - created.instant) / microsPerDay).toNat

/-- The policy a stored requirement stands for, `workspace/lifecycle.py:121–136`. -/
def retentionPolicy (record : WorkspaceRecordIndexEntry) (retention : WorkspaceRetention) :
    Except PyError DataLifecyclePolicy := do
  let policy ← lifecyclePolicy retention.policyId none
  match retention.retainUntil with
  | none => pure policy
  | some text => do
    let retainUntil ← parseRetainUntil text
    lifecyclePolicy retention.policyId (some (retentionDays record.createdAt retainUntil))

/-- The adapter a deletion asks, `workspace/lifecycle.py:150–159`: it holds the requirement of
the record to delete and no other. -/
def retentionAdapter (record : WorkspaceRecordIndexEntry) (retention : WorkspaceRetention) :
    Except PyError RetentionAdapter :=
  match retention.retainUntil with
  | none => .ok []
  | some text => do
    let retainUntil ← parseRetainUntil text
    if h : blank record.row.artifactDigest = false ∧ blank retention.policyId = false then
      .ok (RetentionAdapter.requireRetention [] ⟨record.row.artifactDigest, retainUntil,
        retention.legalHold, retention.policyId, h.1, h.2⟩)
    else valueError (lit "artifact_id and policy_id must not be empty.")

/-- `record_deletion`, `workspace/sqlite_repository.py:390–415`. -/
def recordDeletion (s : Workspace) (d : DeletionRecord) : Except PyError Workspace := do
  bindTexts [d.objectId, d.digest, d.sensitivity, d.deletedAt, d.policyId, d.reason]
  require ⟨.workspaceRecordConflictError,
    lit "workspace deletion identity conflict: " ++ d.objectId⟩ (s.deletions.get? d.objectId).isNone
  pure { s with deletions := s.deletions.set d.objectId d }

/-- What precedes the deletion of the artifact, `workspace/lifecycle.py:114–159`. -/
def admitDeletion (s : Workspace) (recordId : Text) (now : AwareDatetime) :
    Except PyError (WorkspaceRecordIndexEntry × WorkspaceRetention × DataLifecycleDecision ×
      RetentionAdapter) := do
  let record ← s.requireRecord recordId
  let retention ← orRaise ⟨.permissionError,
    lit "no durable retention policy is registered: " ++ recordId⟩ (s.retention.get? recordId)
  let policy ← retentionPolicy record retention
  let decision ← assessDataLifecycle recordId record.row.sensitivity (.ofUtc record.createdAt)
    policy now retention.legalHold
  require ⟨.permissionError,
    lit "artifact deletion is blocked by lifecycle policy: " ++ recordId⟩ decision.deletionAllowed
  let adapter ← retentionAdapter record retention
  pure (record, retention, decision, adapter)

/-- `delete_expired_record`, `workspace/lifecycle.py:106–176`. The artifact goes first, and what
raises after that leaves it gone. -/
def deleteExpiredRecord (s : Workspace) (recordId : Text) (now : AwareDatetime) (reason : Text) :
    Except PyError (DataLifecycleDecision × DeletionRecord) × Workspace :=
  match s.admitDeletion recordId now with
  | .error e => (.error e, s)
  | .ok (record, retention, decision, adapter) =>
    let (deleted, artifacts) := s.files.artifacts.delete record.row.artifactDigest adapter now
      ⟨record.row.sensitivity, retention.policyId, reason, []⟩
    let left := { s with files := { s.files with artifacts } }
    let recorded : Except PyError (DeletionRecord × Workspace) := do
      let artifactDeletion ← deleted
      let deletion ← DeletionRecord.create { artifactDeletion with objectId := recordId }
      let s ← left.recordDeletion deletion
      pure (deletion, s)
    match recorded with
    | .error e => (.error e, left)
    | .ok (deletion, s) => (.ok (decision, deletion), s)

end Workspace

end StateWake.Lifecycle
