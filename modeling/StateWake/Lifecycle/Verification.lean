import StateWake.Lifecycle.Ingestion
import StateWake.Lifecycle.Opening

/-!
# Verification of a workspace

`workspace/verification.py` over the snapshot of `workspace/sqlite_repository.py:441–540`. A
workspace of records verifies without errors exactly when each record without a tombstone has its
artifact and each record with one has none.
-/

namespace StateWake.Lifecycle

open StateWake.Base Text Utils

/-! ### Issues -/

/-- The severity of an issue. -/
inductive IssueSeverity where
  | warning
  | error
  deriving DecidableEq, Repr

/-- `WorkspaceVerificationIssue`, `workspace/verification.py:29–37`, without the path. -/
structure WorkspaceVerificationIssue where
  code : Text
  severity : IssueSeverity
  message : Text
  objectId : Option Text

/-- An issue of severity `error` about an object. -/
def errorIssue (code message : String) (objectId : Option Text) : WorkspaceVerificationIssue :=
  ⟨lit code, .error, lit message, objectId⟩

/-- `WorkspaceVerificationStatus`. -/
inductive WorkspaceVerificationStatus where
  | healthy
  | healthyWithLimitations
  | incomplete
  | invalid
  | corrupt
  deriving DecidableEq, Repr

/-- `_status_for`, `workspace/verification.py:561–573`. -/
def statusFor (issues : List WorkspaceVerificationIssue) : WorkspaceVerificationStatus :=
  if issues.isEmpty then .healthy
  else if issues.any fun i ↦ i.code = lit "MANIFEST_UNREADABLE" then .corrupt
  else if issues.any fun i ↦ i.severity = .error then
    if issues.any fun i ↦ i.code = lit "ARTIFACT_MISSING" ∨ i.code = lit "EXPORT_MISSING" then
      .incomplete
    else .invalid
  else .healthyWithLimitations

/-- `WorkspaceVerificationReport`, `workspace/verification.py:40–62`, without its counts and
paths. -/
structure WorkspaceVerificationReport where
  status : WorkspaceVerificationStatus
  issues : List WorkspaceVerificationIssue

/-- `has_errors`. -/
def WorkspaceVerificationReport.hasErrors (r : WorkspaceVerificationReport) : Bool :=
  r.issues.any fun issue ↦ issue.severity = .error

/-- The subclasses of `OSError` among the modelled classes. -/
def isOsError (k : ErrorKind) : Bool :=
  k ∈ [.fileNotFoundError, .permissionError, .fileExistsError, .isADirectoryError]

/-- `except (OSError, ValueError, TypeError)`. -/
def isEvidenceError (k : ErrorKind) : Bool := isOsError k || k.isValueError || k == .typeError

/-! ### Exports -/

/-- `WorkspaceExport`, `workspace/models.py:126–137`, a row of `exports`. -/
structure WorkspaceExport where
  exportId : Text
  format : Text
  createdAt : Text
  queryDefinitionJson : Text
  disclosureMaxSensitivity : Text
  sourceSchemaVersion : Text
  outputPath : Text
  outputDigest : Option Text
  rowCount : Option Int

/-- What an export left at its path: a file, or a directory with the relative path and the
content of each file in it, in the order of the paths. -/
inductive ExportPayload where
  | file (content : Bytes)
  | dataset (members : List (Bytes × Bytes))

/-- `_sha256_path`, `workspace/verification.py:537–553`. -/
def ExportPayload.digest : ExportPayload → Text
  | .file content => sha256 content
  | .dataset members => sha256 (members.flatMap fun m ↦ m.1 ++ 0 :: m.2)

/-- `is_file`. -/
def ExportPayload.isFile : ExportPayload → Bool
  | .file _ => true
  | .dataset _ => false

/-- The exports of a workspace: their table, their requirements and tombstones, which stand in
the tables of those of records under identities of their own, and what is at each path. -/
structure ExportStore where
  rows : Dict WorkspaceExport
  retention : Dict WorkspaceRetention
  deletions : Dict DeletionRecord
  payloads : Dict ExportPayload

/-- No exports. -/
def ExportStore.empty : ExportStore := ⟨[], [], [], []⟩

/-- `_export_object_id`. -/
def exportObjectId (exportId : Text) : Text := lit "export:" ++ exportId

/-! ### The snapshot -/

/-- `WorkspaceIntegritySnapshot` but for the tables that nothing writes. -/
structure WorkspaceIntegritySnapshot where
  records : List WorkspaceRecordIndexEntry
  runIds : List Text
  retentionObjectIds : List Text
  deletionRecords : List DeletionRecord
  exports : List WorkspaceExport

/-- The rows of `deletions`, `ORDER BY deleted_at, object_id`. -/
def orderedDeletions (deletions : Dict DeletionRecord) : List DeletionRecord :=
  (deletions.map Prod.snd).insertionSort fun a b ↦
    a.deletedAt < b.deletedAt ∨ a.deletedAt = b.deletedAt ∧ a.objectId ≤ b.objectId

/-- The rows of `exports`, `ORDER BY created_at, export_id`. -/
def orderedExports (rows : Dict WorkspaceExport) : List WorkspaceExport :=
  (rows.map Prod.snd).insertionSort fun a b ↦
    a.createdAt < b.createdAt ∨ a.createdAt = b.createdAt ∧ a.exportId ≤ b.exportId

/-- `integrity_snapshot`, `workspace/sqlite_repository.py:441–540`. The derivation of a tombstone
is not stored. -/
def integritySnapshot (root : WorkspaceRoot) (exports : ExportStore) :
    Except PyError WorkspaceIntegritySnapshot := do
  let database ← orRaise ⟨.corruptWorkspaceDatabaseError, lit "workspace database is missing"⟩
    root.database
  require ⟨.unsupportedWorkspaceSchemaError,
    lit "workspace database schema is incomplete or unsupported"⟩
    (database.userVersion = supportedSchema ∧ database.tables = expectedTables ∧
      database.indexes = expectedIndexes)
  require ⟨.corruptWorkspaceDatabaseError, lit "workspace database foreign-key check failed"⟩
    root.content.foreignKeysHold
  let records ← root.content.orderedRows.mapM Workspace.entryFromRow
  let deletionRecords ← (orderedDeletions (root.content.deletions ++ exports.deletions)).mapM
    fun d ↦ DeletionRecord.create { d with derivedFrom := [] }
  pure ⟨records, root.content.runs.keys, root.content.retention.keys ++ exports.retention.keys,
    deletionRecords, orderedExports exports.rows⟩

/-! ### The checks -/

/-- `_verify_manifest`, `workspace/verification.py:140–191`. -/
def verifyManifest (identity : WorkspaceIdentity) (manifest : Option Bytes) :
    List WorkspaceVerificationIssue :=
  let payload : Except PyError Json := do
    let content ← orRaise ⟨.fileNotFoundError, []⟩ manifest
    let text ← Utf8.ofBytes content
    Json.loads text
  match payload with
  | .error _ =>
    [errorIssue "MANIFEST_UNREADABLE" "workspace manifest could not be read." none]
  | .ok (.obj members) =>
    let expected : List (Text × Text) := [(lit "workspace_id", identity.workspaceId),
      (lit "created_at", identity.createdAt), (lit "schema_version", identity.schemaVersion),
      (lit "public_api_contract_version", identity.publicApiContractVersion)]
    (expected.filter fun field ↦ Dict.get? members field.1 ≠ some (.str field.2)).map (fun field ↦
        ⟨lit "MANIFEST_MISMATCH", .error, lit "manifest field '" ++ field.1 ++
          lit "' does not match the workspace identity.", none⟩) ++
      if Dict.get? members (lit "storage_backend") ≠ some (.str (lit "sqlite")) then
        [errorIssue "MANIFEST_BACKEND_MISMATCH"
          "manifest storage_backend is not the supported SQLite backend." none]
      else []
  | .ok _ => [errorIssue "MANIFEST_INVALID" "workspace manifest must contain a JSON object." none]

/-- `_verify_reference_consistency`, `workspace/verification.py:193–257`. -/
def verifyReferenceConsistency (snapshot : WorkspaceIntegritySnapshot)
    (deleted : Dict DeletionRecord) : List WorkspaceVerificationIssue :=
  let known := snapshot.records.map (fun record ↦ record.row.recordId) ++
    snapshot.exports.map fun item ↦ exportObjectId item.exportId
  (snapshot.records.filter fun record ↦
      record.row.runId.any fun runId ↦ runId ∉ snapshot.runIds).map (fun record ↦
        errorIssue "DANGLING_RUN_REFERENCE" "record references a missing run."
          (some record.row.recordId)) ++
    (snapshot.retentionObjectIds.filter (· ∉ known)).map (fun objectId ↦
      errorIssue "DANGLING_RETENTION" "retention metadata references an unknown workspace object."
        (some objectId)) ++
    ((deleted.map Prod.snd).filter fun deletion ↦ deletion.objectId ∉ known).map fun deletion ↦
      errorIssue "DANGLING_DELETION" "deletion tombstone references an unknown workspace object."
        (some deletion.objectId)

/-- `_receipt_matches_entry`, `workspace/verification.py:511–527`. -/
def receiptMatchesEntry (receipt : ExternalEvidenceReceipt) (entry : WorkspaceRecordIndexEntry) :
    Except PyError Bool :=
  if receipt.receiptId = entry.row.receiptId ∧ receipt.artifactDigest = entry.row.artifactDigest ∧
      receipt.artifactSize = entry.row.artifactSize ∧ receipt.producerId = entry.row.producerId ∧
      receipt.producerType = entry.row.producerType ∧
      receipt.producerVersion = entry.row.producerVersion ∧
      receipt.sourceRef = entry.row.sourceRef ∧ receipt.sourceEventId = entry.row.sourceEventId ∧
      receipt.runId = entry.row.runId then do
    let captured ← receipt.capturedAt.toUtc
    pure (captured = entry.capturedAt)
  else .ok false

/-- One record of `_verify_records`, `workspace/verification.py:268–357`. Files are never
symbolic links here. -/
def verifyRecordEntry (files : EvidenceFiles) (deleted : Dict DeletionRecord)
    (record : WorkspaceRecordIndexEntry) : Except PyError (List WorkspaceVerificationIssue) :=
  let issue (code message : String) := errorIssue code message (some record.row.recordId)
  match files.receipts.get record.row.receiptId with
  | .error e =>
    if isEvidenceError e.kind then
      .ok [issue "RECEIPT_INVALID" "canonical receipt could not be loaded."]
    else .error e
  | .ok receipt => do
    let matched ← receiptMatchesEntry receipt record
    if !matched then
      pure [issue "RECEIPT_REFERENCE_MISMATCH"
        "persisted receipt does not match the operational index."]
    else
      match deleted.get? record.row.recordId with
      | some tombstone => do
        let present ← files.artifacts.exists record.row.artifactDigest
        pure ((if tombstone.digest = record.row.artifactDigest then []
            else [issue "DELETION_DIGEST_MISMATCH"
              "deletion tombstone digest does not match the indexed artifact."]) ++
          if present then [issue "DELETED_ARTIFACT_PRESENT"
              "artifact remains present despite a deletion tombstone."] else [])
      | none =>
        match files.verify receipt with
        | .ok () => .ok []
        | .error e =>
          if e.kind = .fileNotFoundError then
            .ok [issue "ARTIFACT_MISSING" "referenced artifact is missing."]
          else if isEvidenceError e.kind then
            .ok [issue "EVIDENCE_INVALID" "canonical evidence verification failed."]
          else .error e

/-- The query of an export, `workspace/verification.py:373–394`. -/
def exportQueryIssues (item : WorkspaceExport) : Except PyError (List WorkspaceVerificationIssue) :=
  let issue (message : String) :=
    errorIssue "EXPORT_METADATA_INVALID" message (some (exportObjectId item.exportId))
  match Json.loads item.queryDefinitionJson with
  | .ok (.obj _) | .ok .null => .ok []
  | .ok _ => .ok [issue "export query definition must be a JSON object."]
  | .error e =>
    if e.kind = .jsonDecodeError ∨ e.kind = .typeError then
      .ok [issue "export query definition is not valid JSON."]
    else .error e

/-- The output of an export, `workspace/verification.py:395–464`. What resolves below the export
root is given. -/
def exportOutputIssues (managed : Text → Bool) (payloads : Dict ExportPayload) (deleted : Bool)
    (item : WorkspaceExport) : List WorkspaceVerificationIssue :=
  let issue (code message : String) := errorIssue code message (some (exportObjectId item.exportId))
  if !managed item.outputPath then
    [issue "EXPORT_PATH_OUTSIDE_ROOT" "export output path is outside the workspace export root."]
  else
    match deleted, payloads.get? item.outputPath with
    | true, some _ => [issue "DELETED_EXPORT_PRESENT"
        "export remains present despite a deletion tombstone."]
    | true, none => []
    | false, none => [issue "EXPORT_MISSING"
        "persisted export metadata references a missing output."]
    | false, some payload =>
      match item.outputDigest.filter isSha256 with
      | none => [issue "EXPORT_DIGEST_INVALID" "export output digest is missing or malformed."]
      | some digest =>
        (if payload.digest = digest then [] else [issue "EXPORT_DIGEST_MISMATCH"
            "export output digest does not match persisted metadata."]) ++
          if item.rowCount.all (· < 0) then [issue "EXPORT_ROW_COUNT_INVALID"
            "export row count is missing or negative."] else []

/-- One export of `_verify_exports`, `workspace/verification.py:361–464`. -/
def verifyExport (managed : Text → Bool) (payloads : Dict ExportPayload)
    (deleted : Dict DeletionRecord) (item : WorkspaceExport) :
    Except PyError (List WorkspaceVerificationIssue) := do
  let query ← exportQueryIssues item
  pure (query ++ exportOutputIssues managed payloads
    (deleted.get? (exportObjectId item.exportId)).isSome item)

/-- The warnings about files that no record refers to, `workspace/verification.py:105–122`. -/
def orphanIssues (files : EvidenceFiles) (records : List WorkspaceRecordIndexEntry) :
    List WorkspaceVerificationIssue :=
  (files.artifacts.keys.filter fun digest ↦
      digest ∉ records.map fun record ↦ record.row.artifactDigest).map (fun _ ↦
        ⟨lit "ORPHAN_ARTIFACT", .warning,
          lit "artifact exists without a canonical workspace record.", none⟩) ++
    (files.receipts.keys.filter fun receiptId ↦
      receiptId ∉ records.map fun record ↦ record.row.receiptId).map fun _ ↦
        ⟨lit "ORPHAN_RECEIPT", .warning,
          lit "receipt exists without a canonical workspace record.", none⟩

/-- `verify`, `workspace/verification.py:78–138`. -/
def verifySnapshot (managed : Text → Bool) (identity : WorkspaceIdentity)
    (manifest : Option Bytes) (files : EvidenceFiles) (payloads : Dict ExportPayload)
    (snapshot : WorkspaceIntegritySnapshot) : Except PyError WorkspaceVerificationReport := do
  let deleted := Dict.ofPairs (snapshot.deletionRecords.map fun d ↦ (d.objectId, d))
  let records ← snapshot.records.mapM (verifyRecordEntry files deleted)
  let exports ← snapshot.exports.mapM (verifyExport managed payloads deleted)
  let issues := verifyManifest identity manifest ++ verifyReferenceConsistency snapshot deleted ++
    records.flatten ++ exports.flatten ++ orphanIssues files snapshot.records
  pure ⟨statusFor issues, issues⟩

/-- `verify_workspace`, `workspace/integration.py:127–157`. -/
def verifyWorkspace (managed : Text → Bool) (identity : WorkspaceIdentity) (root : WorkspaceRoot)
    (exports : ExportStore) : Except PyError WorkspaceVerificationReport :=
  match integritySnapshot root exports with
  | .error e =>
    if isOsError e.kind || e.kind.isValueError || e.kind == .unsupportedWorkspaceSchemaError ||
        e.kind == .corruptWorkspaceDatabaseError then
      .ok ⟨.corrupt, [errorIssue "REPOSITORY_UNAVAILABLE"
        "workspace repository could not be verified." none]⟩
    else .error e
  | .ok snapshot =>
    verifySnapshot managed identity root.manifest root.content.files exports.payloads snapshot

/-- Verification comes to a report without errors. -/
def Verifies (managed : Text → Bool) (identity : WorkspaceIdentity) (root : WorkspaceRoot)
    (exports : ExportStore) : Prop :=
  ∃ report, verifyWorkspace managed identity root exports = .ok report ∧ report.hasErrors = false

/-! ### What holds of a workspace -/

/-- A record that is deleted has no artifact and a tombstone of its digest. One that is not has
an artifact of its size. -/
def RecordIntact (s : Workspace) (recordId : Text) (row : RecordRow) : Prop :=
  match s.deletions.get? recordId with
  | some d => d.digest = row.artifactDigest ∧ s.files.artifacts.get? row.artifactDigest = none
  | none => ∃ content, s.files.artifacts.get? row.artifactDigest = some content ∧
      (content.length : Int) = row.artifactSize

/-- Tombstones are those of known objects, and can be read back. -/
structure Tombstones (known : Text → Prop) (deletions : Dict DeletionRecord) : Prop where
  keys : deletions.Distinct
  named : ∀ objectId d, deletions.get? objectId = some d →
    d.objectId = objectId ∧ DeletionRecord.create d = .ok d ∧ known objectId

/-- The identity of a recorded record. -/
def Recorded (s : Workspace) (recordId : Text) : Prop := ∃ row, s.records.get? recordId = some row

/-- The object identity of a registered export. -/
def Registered (exports : ExportStore) (objectId : Text) : Prop :=
  ∃ item ∈ exports.rows.map Prod.snd, objectId = exportObjectId item.exportId

/-- What verification relies on in every workspace: its manifest and schema are those it was
opened with, and its rows, files, requirements and tombstones belong together. -/
structure Coherent (identity : WorkspaceIdentity) (root : WorkspaceRoot) (exports : ExportStore) :
    Prop where
  manifest : verifyManifest identity root.manifest = []
  database : ∃ database, root.database = some database ∧ database.userVersion = supportedSchema ∧
    database.tables = expectedTables ∧ database.indexes = expectedIndexes
  foreignKeys : root.content.foreignKeysHold = true
  sound : root.content.Sound
  filed : root.content.Filed
  tombstones : Tombstones (Recorded root.content) root.content.deletions
  exportRetention : ∀ objectId ∈ exports.retention.keys, Registered exports objectId
  exportTombstones : Tombstones (Registered exports) exports.deletions

/-! ### The snapshot of a coherent workspace -/

/-- A tombstone as the snapshot reads it. -/
def DeletionRecord.read (d : DeletionRecord) : DeletionRecord := { d with derivedFrom := [] }

private theorem create_read {d : DeletionRecord} (h : DeletionRecord.create d = .ok d) :
    DeletionRecord.create d.read = .ok d.read := by
  simp only [DeletionRecord.create, bind_eq_ok, require_eq_ok, exists_const] at h ⊢
  obtain ⟨hnames, hdigest, level, hlevel, hdated, -, -⟩ := h
  exact ⟨hnames, hdigest, level, hlevel, hdated, rfl, rfl⟩

/-- The identity of an export is no digest. -/
theorem isSha256_exportObjectId (exportId : Text) : isSha256 (exportObjectId exportId) = false := by
  have hx : ((exportObjectId exportId).all isLowerHex) = false := by
    rw [exportObjectId, List.all_append, show (lit "export:").all isLowerHex = false by decide,
      Bool.false_and]
  rw [isSha256, hx, Bool.and_false]

/-- A dictionary with one more key has its keys once. -/
theorem distinct_append_singleton {α : Type} {d : Dict α} (hd : d.Distinct) {key : Text}
    (hnew : d.get? key = none) (v : α) : Dict.Distinct (d ++ [(key, v)]) := by
  rw [Dict.Distinct, Dict.keys, List.map_append, List.nodup_append]
  refine ⟨hd, List.nodup_singleton _, ?_⟩
  intro k hk k' hk' heq
  rw [List.map_singleton, List.mem_singleton] at hk'
  rw [heq, hk'] at hk
  exact Dict.get?_eq_none_iff.mp hnew hk

/-- One more tombstone, of a known object that had none. -/
theorem Tombstones.set {known : Text → Prop} {deletions : Dict DeletionRecord}
    (h : Tombstones known deletions) {objectId : Text} (hnone : deletions.get? objectId = none)
    {d : DeletionRecord} (hd : d.objectId = objectId) (hvalid : DeletionRecord.create d = .ok d)
    (hknown : known objectId) : Tombstones known (deletions.set objectId d) := by
  constructor
  · rw [Dict.set_of_not_mem (Dict.get?_eq_none_iff.mp hnone)]
    exact distinct_append_singleton h.keys hnone d
  · intro id d' hget
    rw [Dict.get?_set] at hget
    split at hget
    · next hid =>
      cases hget
      rw [hid]
      exact ⟨hd, hvalid, hknown⟩
    · exact h.named id d' hget

/-- Tombstones are read back under their identities. -/
theorem Tombstones.read {known : Text → Prop} {deletions : Dict DeletionRecord}
    (h : Tombstones known deletions) :
    ∃ records, (orderedDeletions deletions).mapM
        (fun d ↦ DeletionRecord.create { d with derivedFrom := [] }) = .ok records ∧
      (Dict.ofPairs (records.map fun d ↦ (d.objectId, d))).Perm
        (Dict.mapValues DeletionRecord.read deletions) := by
  have hperm : (orderedDeletions deletions).Perm (deletions.map Prod.snd) :=
    List.perm_insertionSort _ _
  have hnamed : ∀ m ∈ deletions, m.2.objectId = m.1 ∧ DeletionRecord.create m.2 = .ok m.2 := by
    intro m hm
    obtain ⟨hid, hcreate, -⟩ := h.named m.1 m.2 ((Dict.get?_eq_some_iff h.keys).mpr hm)
    exact ⟨hid, hcreate⟩
  refine ⟨(orderedDeletions deletions).map DeletionRecord.read, ?_, ?_⟩
  · apply mapM_eq_ok_map
    intro d hd
    obtain ⟨m, hm, rfl⟩ := List.mem_map.mp (hperm.mem_iff.mp hd)
    exact create_read (hnamed m hm).2
  · have hpairs : (((orderedDeletions deletions).map DeletionRecord.read).map
        fun d ↦ (d.objectId, d)).Perm (Dict.mapValues DeletionRecord.read deletions) := by
      refine ((hperm.map _).map _).trans ?_
      rw [List.map_map, List.map_map, Dict.mapValues]
      apply List.Perm.of_eq
      apply List.map_congr_left
      intro m hm
      show (m.2.objectId, m.2.read) = (m.1, m.2.read)
      rw [(hnamed m hm).1]
    have hkeys : (Dict.mapValues DeletionRecord.read deletions).Distinct := by
      rw [Dict.Distinct, Dict.keys_mapValues]
      exact h.keys
    rw [Dict.ofPairs_of_distinct (hkeys.perm hpairs.symm)]
    exact hpairs

section

variable {identity : WorkspaceIdentity} {root : WorkspaceRoot} {exports : ExportStore}

/-- No record has the identity of an export. -/
theorem Coherent.disjoint (h : Coherent identity root exports) {objectId : Text}
    (hrecorded : Recorded root.content objectId) : ¬Registered exports objectId := by
  rintro ⟨item, -, rfl⟩
  obtain ⟨row, hrow⟩ := hrecorded
  have hid := (h.sound.records _ _ hrow).id
  rw [isSha256_exportObjectId] at hid
  cases hid

/-- Every tombstone of a coherent workspace. -/
theorem Coherent.allTombstones (h : Coherent identity root exports) :
    Tombstones (fun objectId ↦ Recorded root.content objectId ∨ Registered exports objectId)
      (root.content.deletions ++ exports.deletions) := by
  have hrecorded : ∀ objectId ∈ root.content.deletions.keys, Recorded root.content objectId := by
    intro objectId hkey
    obtain ⟨d, hd⟩ := Dict.mem_keys.mp hkey
    exact (h.tombstones.named _ d ((Dict.get?_eq_some_iff h.tombstones.keys).mpr hd)).2.2
  have hregistered : ∀ objectId ∈ exports.deletions.keys, Registered exports objectId := by
    intro objectId hkey
    obtain ⟨d, hd⟩ := Dict.mem_keys.mp hkey
    exact (h.exportTombstones.named _ d
      ((Dict.get?_eq_some_iff h.exportTombstones.keys).mpr hd)).2.2
  constructor
  · rw [Dict.Distinct, Dict.keys, List.map_append]
    refine h.tombstones.keys.append h.exportTombstones.keys fun objectId hleft hright ↦ ?_
    exact h.disjoint (hrecorded objectId hleft) (hregistered objectId hright)
  · intro objectId d hget
    rw [Dict.get?_append, Option.or_eq_some_iff] at hget
    rcases hget with hget | ⟨-, hget⟩
    · obtain ⟨hid, hcreate, hknown⟩ := h.tombstones.named objectId d hget
      exact ⟨hid, hcreate, .inl hknown⟩
    · obtain ⟨hid, hcreate, hknown⟩ := h.exportTombstones.named objectId d hget
      exact ⟨hid, hcreate, .inr hknown⟩

/-! ### The issues of a coherent workspace -/

private theorem entries_eq (h : root.content.Filed) :
    ∃ entries, root.content.orderedRows.mapM Workspace.entryFromRow = .ok entries ∧
      ∀ entry, entry ∈ entries ↔ ∃ recordId r captured sensitivity policyId text,
        root.content.records.get? recordId = some entry.row ∧
        root.content.files.receipts.get? recordId = some text ∧
        Workspace.ReceiptFile recordId text r captured ∧
        entry = ⟨Workspace.receiptRow r captured sensitivity policyId, captured, captured⟩ := by
  have hrows : ∀ row ∈ root.content.orderedRows, ∃ recordId,
      root.content.records.get? recordId = some row := by
    intro row hrow
    have hmem : row ∈ root.content.records.map Prod.snd := (List.mem_insertionSort _).mp hrow
    obtain ⟨⟨recordId, row⟩, hrecord, rfl⟩ := List.mem_map.mp hmem
    exact ⟨recordId, (Dict.get?_eq_some_iff h.keys).mpr hrecord⟩
  obtain ⟨entries, hentries⟩ : ∃ entries,
      root.content.orderedRows.mapM Workspace.entryFromRow = .ok entries := by
    apply exists_mapM_eq_ok
    intro row hrow
    obtain ⟨recordId, hget⟩ := hrows row hrow
    obtain ⟨text, r, captured, sensitivity, policyId, -, -, rfl⟩ := h.records recordId row hget
    exact ⟨_, Workspace.entryFromRow_receiptRow ..⟩
  refine ⟨entries, hentries, fun entry ↦ ?_⟩
  rw [mem_of_mapM_eq_ok hentries]
  constructor
  · rintro ⟨row, hrow, hentry⟩
    obtain ⟨recordId, hget⟩ := hrows row hrow
    obtain ⟨text, r, captured, sensitivity, policyId, htext, hfile, rfl⟩ :=
      h.records recordId row hget
    rw [Workspace.entryFromRow_receiptRow] at hentry
    cases hentry
    exact ⟨recordId, r, captured, sensitivity, policyId, text, hget, htext, hfile, rfl⟩
  · rintro ⟨recordId, r, captured, sensitivity, policyId, text, hget, -, -, rfl⟩
    refine ⟨_, ?_, Workspace.entryFromRow_receiptRow ..⟩
    exact (List.mem_insertionSort _).mpr (List.mem_map.mpr ⟨_, Dict.mem_of_get? hget, rfl⟩)

/-- A receipt read from its file verifies as its artifact does. -/
theorem verify_stored {files : EvidenceFiles} {text : Text} {r : ExternalEvidenceReceipt}
    {captured : Datetime} (hget : files.receipts.get? r.receiptId = some text)
    (hfile : Workspace.ReceiptFile r.receiptId text r captured) :
    files.verify (r.stored captured) = files.assertExistingArtifact (r.stored captured) := by
  obtain ⟨record, hrecord⟩ := Workspace.toDict_isOk hfile.received
  have hread : JsonEvidenceReceiptStore.get files.receipts (r.stored captured).receiptId =
      .ok (r.stored captured) := Workspace.get_of_file hget hfile
  rw [EvidenceFiles.verify]
  cases files.assertExistingArtifact (r.stored captured) with
  | error e => rfl
  | ok u =>
    rw [ok_bind, hread, ok_bind, toDict_stored hfile.received.constructed, hrecord, ok_bind, ok_bind,
      decide_eq_true rfl, require_true]

private theorem severity_of_mem_ite {p : Prop} [Decidable p] {code message : String}
    {objectId : Option Text} {issue : WorkspaceVerificationIssue}
    (h : issue ∈ if p then [] else [errorIssue code message objectId]) :
    issue.severity = .error := by
  split at h
  · cases h
  · rw [List.mem_singleton.mp h]
    rfl

private theorem severity_of_mem_ite' {p : Prop} [Decidable p] {code message : String}
    {objectId : Option Text} {issue : WorkspaceVerificationIssue}
    (h : issue ∈ if p then [errorIssue code message objectId] else []) :
    issue.severity = .error := by
  split at h
  · rw [List.mem_singleton.mp h]
    rfl
  · cases h

/-- The issues of a coherent record are errors, and there are none exactly when it is intact. -/
private theorem verifyRecordEntry_spec (h : root.content.Filed) {deleted : Dict DeletionRecord}
    {recordId text : Text} {r : ExternalEvidenceReceipt} {captured : Datetime}
    (sensitivity policyId : Text) (hsha : isSha256 r.artifactDigest = true)
    (hdeleted : deleted.get? recordId = (root.content.deletions.get? recordId).map
      DeletionRecord.read)
    (hget : root.content.files.receipts.get? recordId = some text)
    (hfile : Workspace.ReceiptFile recordId text r captured) :
    ∃ issues, verifyRecordEntry root.content.files deleted
        ⟨Workspace.receiptRow r captured sensitivity policyId, captured, captured⟩ = .ok issues ∧
      (∀ issue ∈ issues, issue.severity = .error) ∧
      (issues = [] ↔ RecordIntact root.content recordId
        (Workspace.receiptRow r captured sensitivity policyId)) := by
  have hid := hfile.id
  rw [← hid] at hget hfile hdeleted ⊢
  have hmatch : receiptMatchesEntry (r.stored captured)
      ⟨Workspace.receiptRow r captured sensitivity policyId, captured, captured⟩ = .ok true := by
    simp [receiptMatchesEntry, ExternalEvidenceReceipt.stored,
      ExternalEvidenceReceipt.storedFields, Workspace.receiptRow]
  have hread : JsonEvidenceReceiptStore.get root.content.files.receipts r.receiptId =
      .ok (r.stored captured) := Workspace.get_of_file hget hfile
  rw [verifyRecordEntry, RecordIntact]
  simp only [Workspace.receiptRow] at hmatch ⊢
  rw [hread]
  dsimp only
  rw [hmatch, ok_bind, hdeleted]
  simp only [Bool.not_true, Bool.false_eq_true, if_false]
  cases hd : root.content.deletions.get? r.receiptId with
  | some d =>
    simp only [Option.map_some, DeletionRecord.read, ContentAddressedArtifactStore.exists,
      ContentAddressedArtifactStore.pathFor, hsha, require_true, ok_bind]
    refine ⟨_, rfl, ?_, ?_⟩
    · intro issue hissue
      rcases List.mem_append.mp hissue with hissue | hissue
      · exact severity_of_mem_ite hissue
      · exact severity_of_mem_ite' hissue
    · by_cases hdigest : d.digest = r.artifactDigest
      · simp [hdigest]
      · simp [hdigest]
  | none =>
    simp only [Option.map_none]
    rw [verify_stored hget hfile]
    cases hstored : root.content.files.artifacts.get? r.artifactDigest with
    | none =>
      have hmissing : root.content.files.assertExistingArtifact (r.stored captured) =
          .error ⟨.fileNotFoundError, lit "Artifact not found: " ++ r.artifactDigest⟩ := by
        simp [EvidenceFiles.assertExistingArtifact, ContentAddressedArtifactStore.get,
          ContentAddressedArtifactStore.pathFor, ExternalEvidenceReceipt.stored,
          ExternalEvidenceReceipt.storedFields, hsha, hstored, orRaise]
      rw [hmissing]
      exact ⟨_, rfl, by simp [errorIssue], by simp⟩
    | some content =>
      have hdigest := h.artifacts _ _ hstored
      by_cases hsize : (content.length : Int) = r.artifactSize
      · have hpresent : root.content.files.assertExistingArtifact (r.stored captured) = .ok () :=
          (Workspace.assertExistingArtifact_eq_ok hstored hdigest).mpr hsize
        rw [hpresent]
        exact ⟨_, rfl, by simp, by simp [hsize]⟩
      · obtain ⟨e, hwrong, hkind⟩ : ∃ e,
            root.content.files.assertExistingArtifact (r.stored captured) = .error e ∧
              e.kind = .valueError := by
          simp [EvidenceFiles.assertExistingArtifact, ContentAddressedArtifactStore.get,
            ContentAddressedArtifactStore.pathFor, ContentAddressedArtifactStore.checkIntegrity,
            ExternalEvidenceReceipt.stored, ExternalEvidenceReceipt.storedFields, hsha, hstored,
            orRaise, hdigest, hsize, require]
        rw [hwrong]
        simp only [hkind]
        exact ⟨_, rfl, by simp [errorIssue], by simp [hsize]⟩

/-- The issues about an export are errors. -/
private theorem severity_of_verifyExport {managed : Text → Bool} {payloads : Dict ExportPayload}
    {deleted : Dict DeletionRecord} {item : WorkspaceExport}
    {issues : List WorkspaceVerificationIssue}
    (h : verifyExport managed payloads deleted item = .ok issues) :
    ∀ issue ∈ issues, issue.severity = .error := by
  rw [verifyExport, bind_eq_ok] at h
  obtain ⟨query, hquery, ⟨⟩⟩ := h
  intro issue hissue
  rcases List.mem_append.mp hissue with hissue | hissue
  · rw [exportQueryIssues] at hquery
    split at hquery
    · cases hquery
      cases hissue
    · cases hquery
      cases hissue
    · cases hquery
      rw [List.mem_singleton.mp hissue]
      rfl
    · split at hquery
      · cases hquery
        rw [List.mem_singleton.mp hissue]
        rfl
      · cases hquery
  · unfold exportOutputIssues at hissue
    dsimp only at hissue
    split at hissue
    · rw [List.mem_singleton.mp hissue]
      rfl
    · split at hissue
      · rw [List.mem_singleton.mp hissue]
        rfl
      · cases hissue
      · rw [List.mem_singleton.mp hissue]
        rfl
      · split at hissue
        · rw [List.mem_singleton.mp hissue]
          rfl
        · rcases List.mem_append.mp hissue with hissue | hissue
          · exact severity_of_mem_ite hissue
          · exact severity_of_mem_ite' hissue

/-- Verification looks up the tombstone of an export by its identity. -/
private theorem verifyExport_congr {managed : Text → Bool} {payloads : Dict ExportPayload}
    {deleted deleted' : Dict DeletionRecord} {item : WorkspaceExport}
    (h : deleted.get? (exportObjectId item.exportId) =
      (deleted'.get? (exportObjectId item.exportId)).map DeletionRecord.read) :
    verifyExport managed payloads deleted item = verifyExport managed payloads deleted' item := by
  rw [verifyExport, verifyExport, h, Option.isSome_map]

/-- No object of a coherent workspace is unknown. -/
private theorem verifyReferenceConsistency_eq_nil (h : Coherent identity root exports)
    {snapshot : WorkspaceIntegritySnapshot} {deleted : Dict DeletionRecord}
    (hrecords : ∀ recordId row, root.content.records.get? recordId = some row →
      recordId ∈ snapshot.records.map fun record ↦ record.row.recordId)
    (hruns : ∀ record ∈ snapshot.records, ∀ runId, record.row.runId = some runId →
      runId ∈ snapshot.runIds)
    (hretention : snapshot.retentionObjectIds =
      root.content.retention.keys ++ exports.retention.keys)
    (hdeleted : ∀ d ∈ deleted.map Prod.snd, Recorded root.content d.objectId ∨
      Registered exports d.objectId)
    (hexports : ∀ item ∈ exports.rows.map Prod.snd, item ∈ snapshot.exports) :
    verifyReferenceConsistency snapshot deleted = [] := by
  have hknown : ∀ objectId, Recorded root.content objectId ∨ Registered exports objectId →
      objectId ∈ snapshot.records.map (fun record ↦ record.row.recordId) ++
        snapshot.exports.map fun item ↦ exportObjectId item.exportId := by
    rintro objectId (⟨row, hrow⟩ | ⟨item, hitem, rfl⟩)
    · exact List.mem_append_left _ (hrecords objectId row hrow)
    · exact List.mem_append_right _ (List.mem_map.mpr ⟨item, hexports item hitem, rfl⟩)
  have hnone {α : Type} {l : List α} {p : α → Bool} {f : α → WorkspaceVerificationIssue}
      (hl : ∀ a ∈ l, p a = false) : (l.filter p).map f = [] := by
    rw [List.filter_eq_nil_iff.mpr fun a ha ↦ by rw [hl a ha]; exact Bool.false_ne_true,
      List.map_nil]
  rw [verifyReferenceConsistency, hnone, hnone, hnone]
  · rfl
  · intro d hd
    exact decide_eq_false (not_not_intro (hknown _ (hdeleted d hd)))
  · intro objectId hkey
    apply decide_eq_false (not_not_intro (hknown _ ?_))
    rw [hretention] at hkey
    rcases List.mem_append.mp hkey with hkey | hkey
    · left
      cases hget : root.content.retention.get? objectId with
      | none => exact absurd hkey (Dict.get?_eq_none_iff.mp hget)
      | some retention => exact (h.sound.retention _ _ hget).recorded
    · exact .inr (h.exportRetention objectId hkey)
  · intro record hrecord
    cases hrun : record.row.runId with
    | none => rfl
    | some runId => exact decide_eq_false (not_not_intro (hruns record hrecord runId hrun))

/-- A coherent workspace verifies exactly when its records are intact and nothing is to be said
about its exports. -/
theorem verifies_iff (h : Coherent identity root exports) (managed : Text → Bool) :
    Verifies managed identity root exports ↔
      (∀ recordId row, root.content.records.get? recordId = some row →
        RecordIntact root.content recordId row) ∧
      ∀ item ∈ exports.rows.map Prod.snd,
        verifyExport managed exports.payloads exports.deletions item = .ok [] := by
  obtain ⟨database, hdatabase, hschema⟩ := h.database
  obtain ⟨entries, hentries, hmem⟩ := entries_eq h.filed
  obtain ⟨tombstones, htombstones, hperm⟩ := h.allTombstones.read
  have hsnapshot : integritySnapshot root exports = .ok ⟨entries, root.content.runs.keys,
      root.content.retention.keys ++ exports.retention.keys, tombstones,
      orderedExports exports.rows⟩ := by
    rw [integritySnapshot, hdatabase, orRaise_some, ok_bind, decide_eq_true hschema, require_true,
      ok_bind, h.foreignKeys, require_true, ok_bind, hentries, ok_bind, htombstones, ok_bind]
    rfl
  have hlookup (objectId : Text) :
      (Dict.ofPairs (tombstones.map fun d ↦ (d.objectId, d))).get? objectId =
        ((root.content.deletions.get? objectId).or (exports.deletions.get? objectId)).map
          DeletionRecord.read := by
    have hkeys : (Dict.mapValues DeletionRecord.read
        (root.content.deletions ++ exports.deletions)).Distinct := by
      rw [Dict.Distinct, Dict.keys_mapValues]
      exact h.allTombstones.keys
    rw [Dict.get?_perm hkeys hperm.symm, Dict.get?_mapValues, Dict.get?_append]
  have hrecord : ∀ entry ∈ entries, ∃ issues, verifyRecordEntry root.content.files
      (Dict.ofPairs (tombstones.map fun d ↦ (d.objectId, d))) entry = .ok issues ∧
        (∀ issue ∈ issues, issue.severity = .error) ∧
        (issues = [] ↔ RecordIntact root.content entry.row.recordId entry.row) := by
    intro entry hentry
    obtain ⟨recordId, r, captured, sensitivity, policyId, text, hrow, htext, hfile, rfl⟩ :=
      (hmem entry).mp hentry
    have hrecorded : Recorded root.content recordId := ⟨_, hrow⟩
    have hdeleted : (Dict.ofPairs (tombstones.map fun d ↦ (d.objectId, d))).get? recordId =
        (root.content.deletions.get? recordId).map DeletionRecord.read := by
      rw [hlookup]
      cases hexport : exports.deletions.get? recordId with
      | none => rw [Option.or_none]
      | some d =>
        exact absurd (h.exportTombstones.named _ _ hexport).2.2 (h.disjoint hrecorded)
    have hspec := verifyRecordEntry_spec h.filed sensitivity policyId
      (h.sound.records _ _ hrow).artifact hdeleted htext hfile
    rw [← hfile.id] at hspec
    exact hspec
  obtain ⟨found, hfound⟩ := exists_mapM_eq_ok fun entry hentry ↦
    (hrecord entry hentry).imp fun _ hissues ↦ hissues.1
  have hintact : found.flatten = [] ↔ ∀ recordId row,
      root.content.records.get? recordId = some row → RecordIntact root.content recordId row := by
    rw [List.flatten_eq_nil_iff]
    constructor
    · intro hnil recordId row hrow
      obtain ⟨text, r, captured, sensitivity, policyId, htext, hfile, rfl⟩ :=
        h.filed.records recordId row hrow
      have hentry := (hmem _).mpr
        ⟨recordId, r, captured, sensitivity, policyId, text, hrow, htext, hfile, rfl⟩
      obtain ⟨issues, hissues, -, hiff⟩ := hrecord _ hentry
      have hempty := hnil issues ((mem_of_mapM_eq_ok hfound).mpr ⟨_, hentry, hissues⟩)
      rw [← hfile.id]
      exact hiff.mp hempty
    · intro hall issues hissues
      obtain ⟨entry, hentry, hok⟩ := (mem_of_mapM_eq_ok hfound).mp hissues
      obtain ⟨issues', hissues', -, hiff⟩ := hrecord entry hentry
      rw [hok] at hissues'
      cases hissues'
      obtain ⟨recordId, r, captured, sensitivity, policyId, text, hrow, htext, hfile, rfl⟩ :=
        (hmem entry).mp hentry
      apply hiff.mpr
      have hid := hfile.id
      rw [← hid] at hrow
      exact hall _ _ hrow
  have hfoundErrors : ∀ issue ∈ found.flatten, issue.severity = .error := by
    intro issue hissue
    obtain ⟨issues, hissues, hin⟩ := List.mem_flatten.mp hissue
    obtain ⟨entry, hentry, hok⟩ := (mem_of_mapM_eq_ok hfound).mp hissues
    obtain ⟨issues', hissues', herrors, -⟩ := hrecord entry hentry
    rw [hok] at hissues'
    cases hissues'
    exact herrors issue hin
  have hitems : ∀ item, item ∈ orderedExports exports.rows ↔ item ∈ exports.rows.map Prod.snd :=
    fun item ↦ List.mem_insertionSort _
  have hexport : ∀ item, verifyExport managed exports.payloads
      (Dict.ofPairs (tombstones.map fun d ↦ (d.objectId, d))) item =
        verifyExport managed exports.payloads exports.deletions item := by
    intro item
    apply verifyExport_congr
    rw [hlookup]
    cases hdeleted : root.content.deletions.get? (exportObjectId item.exportId) with
    | none => rw [Option.none_or]
    | some d =>
      obtain ⟨row, hrow⟩ := (h.tombstones.named _ _ hdeleted).2.2
      have hid := (h.sound.records _ _ hrow).id
      rw [isSha256_exportObjectId] at hid
      cases hid
  have hconsistent : verifyReferenceConsistency ⟨entries, root.content.runs.keys,
      root.content.retention.keys ++ exports.retention.keys, tombstones,
      orderedExports exports.rows⟩
      (Dict.ofPairs (tombstones.map fun d ↦ (d.objectId, d))) = [] := by
    apply verifyReferenceConsistency_eq_nil h
    · intro recordId row hrow
      obtain ⟨text, r, captured, sensitivity, policyId, htext, hfile, rfl⟩ :=
        h.filed.records recordId row hrow
      have hentry := (hmem _).mpr
        ⟨recordId, r, captured, sensitivity, policyId, text, hrow, htext, hfile, rfl⟩
      exact List.mem_map.mpr ⟨_, hentry, hfile.id⟩
    · intro entry hentry runId hrun
      obtain ⟨recordId, r, captured, sensitivity, policyId, text, hrow, htext, hfile, rfl⟩ :=
        (hmem entry).mp hentry
      by_contra hmissing
      have hsome := Workspace.foreignKeysHold_iff.mp h.foreignKeys _ (Dict.mem_of_get? hrow)
        runId hrun
      rw [Dict.get?_eq_none_iff.mpr hmissing] at hsome
      cases hsome
    · rfl
    · intro d hd
      obtain ⟨pair, hpair, rfl⟩ := List.mem_map.mp hd
      obtain ⟨m, hm, rfl⟩ := List.mem_map.mp (hperm.mem_iff.mp hpair)
      obtain ⟨hid, -, hknown⟩ := h.allTombstones.named m.1 m.2
        ((Dict.get?_eq_some_iff h.allTombstones.keys).mpr hm)
      show Recorded root.content m.2.objectId ∨ Registered exports m.2.objectId
      rw [hid]
      exact hknown
    · exact fun item hitem ↦ (hitems item).mpr hitem
  have hverify : verifyWorkspace managed identity root exports = (do
      let output ← (orderedExports exports.rows).mapM
        (verifyExport managed exports.payloads exports.deletions)
      let issues := found.flatten ++ output.flatten ++ orphanIssues root.content.files entries
      pure ⟨statusFor issues, issues⟩) := by
    rw [verifyWorkspace, hsnapshot]
    dsimp only
    rw [verifySnapshot]
    dsimp only
    rw [hfound, ok_bind, h.manifest, hconsistent, mapM_congr fun item _ ↦ hexport item]
    rfl
  have horphans : ∀ issue ∈ orphanIssues root.content.files entries,
      issue.severity = .warning := by
    intro issue hissue
    rcases List.mem_append.mp hissue with hissue | hissue
    · obtain ⟨-, -, rfl⟩ := List.mem_map.mp hissue
      rfl
    · obtain ⟨-, -, rfl⟩ := List.mem_map.mp hissue
      rfl
  rw [Verifies, hverify, ← hintact]
  constructor
  · rintro ⟨report, hreport, hclean⟩
    rw [bind_eq_ok] at hreport
    obtain ⟨output, houtput, ⟨⟩⟩ := hreport
    have hnone : ∀ issue ∈ found.flatten ++ output.flatten, issue.severity ≠ .error := by
      intro issue hissue herror
      rw [WorkspaceVerificationReport.hasErrors, List.any_eq_false] at hclean
      exact hclean issue (List.mem_append_left _ hissue) (decide_eq_true herror)
    constructor
    · exact List.eq_nil_iff_forall_not_mem.mpr fun issue hissue ↦
        hnone issue (List.mem_append_left _ hissue) (hfoundErrors issue hissue)
    · intro item hitem
      obtain ⟨issues, hissues, hok⟩ := exists_of_mapM_eq_ok houtput ((hitems item).mpr hitem)
      have hempty : issues = [] := List.eq_nil_iff_forall_not_mem.mpr fun issue hissue ↦
        hnone issue (List.mem_append_right _ (List.mem_flatten.mpr ⟨issues, hissues, hissue⟩))
          (severity_of_verifyExport hok issue hissue)
      rw [hok, hempty]
  · rintro ⟨hnone, hall⟩
    rw [mapM_eq_ok_map fun item hitem ↦ hall item ((hitems item).mp hitem), ok_bind]
    refine ⟨_, rfl, ?_⟩
    rw [WorkspaceVerificationReport.hasErrors, List.any_eq_false]
    intro issue hissue herror
    rw [hnone, List.nil_append] at hissue
    rcases List.mem_append.mp hissue with hissue | hissue
    · obtain ⟨issues, hissues, hin⟩ := List.mem_flatten.mp hissue
      obtain ⟨item, -, rfl⟩ := List.mem_map.mp hissues
      cases hin
    · rw [horphans issue hissue] at herror
      cases herror

end

end StateWake.Lifecycle
