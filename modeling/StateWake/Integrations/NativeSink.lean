import StateWake.Base.Calls
import StateWake.Base.Window
import StateWake.Integrations.FailureJournal
import StateWake.Lifecycle.Ingestion

/-!
# The native capture sink

`integrations/native_capture.py`. A sink keeps a window of results, each persisted into a workspace
before it is taken, and journals what fails. In every run what is taken is in the workspace, what is
not is one more line of the journal while it has room, and a sink opened on the journal has counted
the same failures.
-/

namespace StateWake.Integrations

open StateWake.Base Text Claims
open Lifecycle (Workspace PrivacyGovernance IngestionArguments)

/-! ### Persisting -/

/-- `type(exc).__name__`. -/
def className : ErrorKind → Text
  | .valueError => lit "ValueError"
  | .jsonDecodeError => lit "JSONDecodeError"
  | .unicodeEncodeError => lit "UnicodeEncodeError"
  | .unicodeDecodeError => lit "UnicodeDecodeError"
  | .overflowError => lit "OverflowError"
  | .keyError => lit "KeyError"
  | .typeError => lit "TypeError"
  | .indexError => lit "IndexError"
  | .attributeError => lit "AttributeError"
  | .stopIteration => lit "StopIteration"
  | .fileNotFoundError => lit "FileNotFoundError"
  | .permissionError => lit "PermissionError"
  | .integrityError => lit "IntegrityError"
  | .approvalIdempotencyConflictError => lit "ApprovalIdempotencyConflictError"
  | .approvalAlreadyRecordedError => lit "ApprovalAlreadyRecordedError"
  | .approvalLifecycleConflictError => lit "ApprovalLifecycleConflictError"
  | .approvalLifecycleTargetError => lit "ApprovalLifecycleTargetError"
  | .fileExistsError => lit "FileExistsError"
  | .isADirectoryError => lit "IsADirectoryError"
  | .workspaceError => lit "WorkspaceError"
  | .workspaceManifestError => lit "WorkspaceManifestError"
  | .workspaceSchemaError => lit "WorkspaceSchemaError"
  | .corruptWorkspaceDatabaseError => lit "CorruptWorkspaceDatabaseError"
  | .unsupportedWorkspaceSchemaError => lit "UnsupportedWorkspaceSchemaError"
  | .workspaceRecordConflictError => lit "WorkspaceRecordConflictError"
  | .idempotencyConflictError => lit "IdempotencyConflictError"
  | .reviewSupersessionError => lit "ReviewSupersessionError"
  | .trustAnchorError => lit "TrustAnchorError"
  | .anchorDiscrepancyError => lit "AnchorDiscrepancyError"

/-- The time of a payload, `integrations/base.py:50–58`. -/
def capturedAt (payload : Dict Json) : Except PyError AwareDatetime :=
  match payload.get? (lit "captured_at") with
  | some (.str value) => do
    let text := replaceAll value (lit "Z") (lit "+00:00")
    let (_, tz) ← orRaise ⟨.valueError, lit "captured_at must be a valid UTC timestamp"⟩
      (fromisoformat text)
    require ⟨.valueError, lit "captured_at must be timezone-aware UTC"⟩ tz.isSome
    let captured ← orRaise ⟨.valueError, lit "captured_at must be a valid UTC timestamp"⟩
      (parseAware text []).toOption
    let utc ← captured.toUtc
    pure (.ofUtc utc)
  | _ => valueError (lit "captured_at must be an observed UTC timestamp")

/-- `str(self.evidence.metadata.get(key, "unknown"))`. -/
def metadataText (result : ContractCaptureResult) (key : Text) : Text :=
  (result.evidence.metadata.get? key).getD (lit "unknown")

/-- What `persist` gives to the workspace, `integrations/base.py:45–77`. -/
def ingestion (result : ContractCaptureResult) : Except PyError (Bytes × IngestionArguments) := do
  let contractType := metadataText result (lit "contract_type")
  let captured ← capturedAt result.payload
  let digest ← result.digest
  require ⟨.valueError, lit "captured contract payload digest mismatch"⟩
    (contractDigest result.payload = digest)
  pure (Utf8.ascii (Json.dumps Json.compact (.obj result.payload)),
    ⟨lit "statewake-integration", metadataText result (lit "producer_id"),
      lit "ai-contract:" ++ contractType ++ lit ":" ++ digest, captured, none, none,
      some (metadataText result (lit "run_id")),
      [(lit "contract_type", contractType), (lit "evidence_id", result.evidence.evidenceId),
        (lit "evidence_digest", digest)], result.evidence.sensitivity⟩)

/-- `persist`, `integrations/base.py:45–77`. -/
def persist (governance : Option PrivacyGovernance) (result : ContractCaptureResult)
    (w : Workspace) : Except PyError Unit × Workspace :=
  match ingestion result with
  | .error e => (.error e, w)
  | .ok (content, arguments) => w.ingestBytes governance content arguments

/-- The payload of a result is in the index of a workspace. -/
def Indexed (w : Workspace) (result : ContractCaptureResult) : Prop :=
  ∃ row, w.records.get? row.recordId = some row ∧
    row.artifactDigest = contractDigest result.payload

/-- Any exception that a store raises in place of what it would give: the name of its class, what
stands for it, and the workspace it leaves. -/
structure Fault where
  className : Text
  raised : PyError
  left : Workspace

/-- `persist`, or a fault of a store; what is raised is with the name of its class. -/
def attemptPersist (governance : Option PrivacyGovernance) (fault : Option Fault)
    (result : ContractCaptureResult) (w : Workspace) :
    Except (Text × PyError) Unit × Workspace :=
  match fault with
  | some f => (.error (f.className, f.raised), f.left)
  | none =>
    match persist governance result w with
    | (.error e, w) => (.error (className e.kind, e), w)
    | (.ok (), w) => (.ok (), w)

theorem artifactDigest_of_create {f : Lifecycle.ReceiptFields} {receiptId digest : Text}
    {receipt : Lifecycle.ExternalEvidenceReceipt}
    (h : Lifecycle.ExternalEvidenceReceipt.create f receiptId digest = .ok receipt) :
    receipt.artifactDigest = f.artifactDigest := by
  simp only [Lifecycle.ExternalEvidenceReceipt.create, bind_eq_ok, require_eq_ok,
    exists_const] at h
  obtain ⟨-, -, -, -, -, -, -, -, _, -, -, -, _, -, -, _, -, -, h⟩ := h
  cases h
  rfl

/-- What the files of a workspace take is under the digest of its bytes. -/
theorem artifactDigest_of_ingestBytes {governance : Option PrivacyGovernance}
    {files files' : Lifecycle.EvidenceFiles} {content : Bytes} {arguments : IngestionArguments}
    {receipt : Lifecycle.ExternalEvidenceReceipt}
    (h : files.ingestBytes governance content arguments = (.ok receipt, files')) :
    receipt.artifactDigest = sha256 content := by
  rw [Lifecycle.EvidenceFiles.ingestBytes] at h
  cases hreceipt : Lifecycle.EvidenceFiles.receiptFor governance content arguments with
  | error e =>
    rw [hreceipt] at h
    cases h
  | ok r =>
    rw [hreceipt] at h
    dsimp only at h
    split at h
    · cases h
    · cases h
      rw [Lifecycle.EvidenceFiles.receiptFor, bind_eq_ok] at hreceipt
      obtain ⟨-, -, hreceipt⟩ := hreceipt
      rw [bind_eq_ok] at hreceipt
      obtain ⟨r, hcreate, hreceipt⟩ := hreceipt
      rw [bind_eq_ok] at hreceipt
      obtain ⟨-, -, hreceipt⟩ := hreceipt
      cases hreceipt
      exact artifactDigest_of_create hcreate

/-- What is persisted is in the index. -/
theorem indexed_of_persist {governance : Option PrivacyGovernance} {result : ContractCaptureResult}
    {w w' : Workspace} (h : persist governance result w = (.ok (), w')) : Indexed w' result := by
  rw [persist] at h
  cases hingestion : ingestion result with
  | error e =>
    rw [hingestion] at h
    cases h
  | ok given =>
    obtain ⟨content, arguments⟩ := given
    rw [hingestion] at h
    dsimp only at h
    have hcontent : sha256 content = contractDigest result.payload := by
      rw [ingestion, bind_eq_ok] at hingestion
      obtain ⟨_, -, hingestion⟩ := hingestion
      rw [bind_eq_ok] at hingestion
      obtain ⟨_, -, hingestion⟩ := hingestion
      rw [require_bind_eq_ok] at hingestion
      obtain ⟨-, hingestion⟩ := hingestion
      cases hingestion
      rfl
    rw [Workspace.ingestBytes] at h
    cases hfiles : w.files.ingestBytes governance content arguments with
    | mk outcome files =>
      rw [hfiles] at h
      cases outcome with
      | error e => cases h
      | ok receipt =>
        dsimp only at h
        split at h
        · cases h
        · next hindexed =>
          cases h
          rw [bind_eq_ok] at hindexed
          obtain ⟨row, hrow, hindexed⟩ := hindexed
          refine ⟨row, Workspace.get?_of_indexRecord hindexed, ?_⟩
          simp only [Workspace.indexRow, bind_eq_ok, require_eq_ok, exists_const] at hrow
          obtain ⟨-, -, -, captured, -, hrow⟩ := hrow
          cases hrow
          exact (artifactDigest_of_ingestBytes hfiles).trans hcontent

theorem indexed_of_attemptPersist {governance : Option PrivacyGovernance} {fault : Option Fault}
    {result : ContractCaptureResult} {w w' : Workspace} {u : Unit}
    (h : attemptPersist governance fault result w = (.ok u, w')) : Indexed w' result := by
  cases fault with
  | some f => cases h
  | none =>
    rw [attemptPersist] at h
    cases hpersist : persist governance result w with
    | mk outcome left =>
      rw [hpersist] at h
      cases outcome with
      | error e => cases h
      | ok u =>
        cases h
        exact indexed_of_persist hpersist

/-! ### The sink -/

/-- `NativeCaptureSink`, `integrations/native_capture.py:222–240`, with the workspace and the journal
at its path. -/
structure NativeCaptureSink where
  results : List ContractCaptureResult
  failures : List Text
  capacity : Nat
  failureCapacity : Nat
  failureJournalMaxBytes : Nat
  workspace : Option Workspace
  failureJournal : Option JournalPath
  failureCount : Nat

namespace NativeCaptureSink

/-- A failure in memory, `integrations/native_capture.py:318–321`, which is also how one is
replayed. -/
def remember (s : NativeCaptureSink) (stage errorType : Text) : NativeCaptureSink :=
  let failures := s.failures ++ [stage ++ lit ": " ++ errorType]
  { s with
    failureCount := s.failureCount + 1
    failures := if s.failureCapacity < failures.length then failures.tail else failures }

/-- `__post_init__`, `integrations/native_capture.py:242–272`, of what the constructor was given. -/
def create (given : NativeCaptureSink) : Except PyError NativeCaptureSink := do
  require ⟨.valueError, lit "capture capacities must be positive"⟩
    (0 < given.capacity && 0 < given.failureCapacity && 0 < given.failureJournalMaxBytes)
  require ⟨.valueError, lit "initial capture buffers exceed capacity"⟩
    (given.results.length ≤ given.capacity && given.failures.length ≤ given.failureCapacity)
  require ⟨.valueError, lit "durable capture requires a failure journal"⟩
    (given.workspace.isNone || given.failureJournal.isSome)
  let s := { given with failureCount := 0 }
  match given.failureJournal with
  | none => pure s
  | some path => do
    require ⟨.valueError, lit "failure journal path cannot traverse a symlink"⟩ (path ≠ .symlink)
    let snapshot ← readFailureJournal path s.failureJournalMaxBytes
      (max 1 s.failureJournalMaxBytes)
    pure (snapshot.records.foldl (fun s record ↦ s.remember record.stage record.errorType) s)

/-- The name that stands for an exception's class, `integrations/native_capture.py:294–295`. -/
def safeErrorType (errorType : Text) : Text :=
  if validFailureToken errorType then errorType else lit "UnclassifiedError"

/-- `_record_failure`, `integrations/native_capture.py:292–321`. -/
def recordFailure (stage errorType : Text) : Attempt NativeCaptureSink Unit := fun s ↦
  match s.failureJournal with
  | none => (.ok (), s.remember stage (safeErrorType errorType))
  | some path =>
    match path.append (journalLine stage (safeErrorType errorType)) s.failureJournalMaxBytes with
    | .error e => (.error e, s)
    | .ok path =>
      (.ok (), { s with failureJournal := some path }.remember stage (safeErrorType errorType))

/-- A failure recorded before an exception is raised. -/
def failing (stage errorType : Text) (e : PyError) : Attempt NativeCaptureSink Unit := do
  recordFailure stage errorType
  Attempt.lift (.error e)

/-- `add`, `integrations/native_capture.py:274–290`. -/
def add (governance : Option PrivacyGovernance) (fault : Option Fault)
    (result : ContractCaptureResult) : Attempt NativeCaptureSink Unit := fun s ↦
  if s.capacity ≤ s.results.length then
    failing (lit "native_capture.capacity") (lit "NativeCaptureCapacityError")
      (capacityError (lit "native capture result capacity exceeded")) s
  else
    match s.workspace with
    | none => (.ok (), { s with results := s.results ++ [result] })
    | some w =>
      match attemptPersist governance fault result w with
      | (.ok (), w) => (.ok (), { s with workspace := some w, results := s.results ++ [result] })
      | (.error (name, e), w) =>
        failing (lit "native_capture.persist") name e { s with workspace := some w }

/-- `fail`, `integrations/native_capture.py:323–328`, given the name of the exception's class. -/
def fail (stage errorType : Text) : Attempt NativeCaptureSink Unit :=
  recordFailure (if validFailureToken stage then stage else lit "native_capture.invalid_stage")
    errorType

/-- `drain`, `integrations/native_capture.py:335–340`. -/
def drain : Attempt NativeCaptureSink (List ContractCaptureResult) := fun s ↦
  (.ok s.results, { s with results := [] })

/-- The calls of a sink. -/
inductive Call where
  | add (fault : Option Fault) (result : ContractCaptureResult)
  | fail (stage errorType : Text)
  | drain

/-- A call, and what it returns: nothing but for a drain. -/
def apply (governance : Option PrivacyGovernance) (s : NativeCaptureSink) :
    Call → Except PyError (List ContractCaptureResult) × NativeCaptureSink
  | .add fault result => ((add governance fault result s).1.map fun _ ↦ [],
      (add governance fault result s).2)
  | .fail stage errorType => ((fail stage errorType s).1.map fun _ ↦ [],
      (fail stage errorType s).2)
  | .drain => drain s

/-! ### Conservation -/

/-- The bytes of the journal. -/
def journalContent (s : NativeCaptureSink) : Bytes :=
  s.failureJournal.elim [] JournalPath.content

/-- The records of the journal. -/
def journalRecords (s : NativeCaptureSink) : Except PyError (List FailureRecord) :=
  s.failureJournal.elim (.ok []) fun path ↦
    FailureJournalSnapshot.records <$> readFailureJournal path s.failureJournalMaxBytes
      (max 1 s.failureJournalMaxBytes)

/-- The journal has room for a line. -/
def HasRoom (s : NativeCaptureSink) (stage errorType : Text) : Prop :=
  s.journalContent.length + (Utf8.ascii (journalLine stage errorType)).length ≤
    s.failureJournalMaxBytes

/-- A failure is one more record of the journal where it has room, and else leaves the journal. -/
def Journals (s t : NativeCaptureSink) : Prop :=
  ∃ records stage errorType, s.journalRecords = .ok records ∧
    (s.HasRoom stage errorType →
      t.journalRecords = .ok (records ++ [⟨records.length, stage, errorType⟩])) ∧
    (¬s.HasRoom stage errorType → t.failureJournal = s.failureJournal)

/-- What a call conserves. A result that is added is appended and in the workspace; one that is not
leaves the window and is journaled. -/
def Conserves (governance : Option PrivacyGovernance) (s : NativeCaptureSink) (call : Call) : Prop :=
  match call with
  | .add fault result => match add governance fault result s with
    | (.ok (), t) => t.results = s.results ++ [result] ∧
      (∃ w, t.workspace = some w ∧ Indexed w result) ∧ t.failureJournal = s.failureJournal
    | (.error _, t) => t.results = s.results ∧ s.Journals t
  | .fail stage errorType => (fail stage errorType s).2.results = s.results ∧
    s.Journals (fail stage errorType s).2
  | .drain => drain s = (.ok s.results, { s with results := [] })

/-! ### The invariant -/

/-- The text of a record among the failures. -/
def failureText (record : FailureRecord) : Text :=
  record.stage ++ lit ": " ++ record.errorType

/-- A sink has what its constructor was given, and in memory the failures of its journal. -/
structure Tracks (given s : NativeCaptureSink) (path : JournalPath)
    (records : List FailureRecord) : Prop where
  capacity : s.capacity = given.capacity
  failureCapacity : s.failureCapacity = given.failureCapacity
  maxBytes : s.failureJournalMaxBytes = given.failureJournalMaxBytes
  positive : 0 < s.failureJournalMaxBytes
  workspace : s.workspace.isSome = true
  window : s.results.length ≤ s.capacity
  journal : s.failureJournal = some path
  regular : path = .absent ∨ ∃ raw, path = .file raw
  readable : Readable s.failureJournalMaxBytes path.content records
  count : s.failureCount = records.length
  failures : s.failures =
    Window.latest s.failureCapacity (given.failures ++ records.map failureText)

section Invariant

variable {given s : NativeCaptureSink} {path : JournalPath} {records : List FailureRecord}

theorem remember_failures {items : List Text}
    (h : s.failures = Window.latest s.failureCapacity items) (record : FailureRecord) :
    (s.remember record.stage record.errorType).failures =
      Window.latest s.failureCapacity (items ++ [failureText record]) := by
  have hlength : s.failures.length ≤ s.failureCapacity := by
    rw [h]
    exact Window.length_latest_le _ _
  rw [← Window.latest_append_singleton, ← h, remember, Window.latest, failureText]
  dsimp only
  split
  · next hlong =>
    rw [List.length_append, List.length_singleton] at hlong ⊢
    rw [show s.failures.length + 1 - s.failureCapacity = 1 by omega, List.drop_one]
  · next hshort => rw [Nat.sub_eq_zero_of_le (not_lt.mp hshort), List.drop_zero]

/-- What replaying records leaves. -/
theorem foldl_remember (records : List FailureRecord) {items : List Text}
    (h : s.failures = Window.latest s.failureCapacity items) :
    records.foldl (fun s record ↦ s.remember record.stage record.errorType) s =
      { s with
        failureCount := s.failureCount + records.length
        failures := Window.latest s.failureCapacity (items ++ records.map failureText) } := by
  induction records generalizing s items with
  | nil =>
    rw [List.foldl_nil, List.map_nil, List.append_nil, ← h]
    rfl
  | cons record records ih =>
    have hnext := @ih (s.remember record.stage record.errorType) (items ++ [failureText record])
      (remember_failures h record)
    rw [List.foldl_cons, hnext, List.map_cons, List.length_cons, List.append_assoc]
    have hcount : s.failureCount + 1 + records.length = s.failureCount + (records.length + 1) := by
      omega
    rw [← hcount]
    rfl

/-- A sink that is opened has its journal's failures. -/
theorem tracks_of_create (h : given.create = .ok s) (hworkspace : given.workspace.isSome = true)
    (hjournal : given.failureJournal = some path) : ∃ records, Tracks given s path records := by
  rw [create, require_bind_eq_ok, require_bind_eq_ok, require_bind_eq_ok] at h
  obtain ⟨hpositive, hbuffers, -, h⟩ := h
  rw [hjournal] at h
  dsimp only at h
  rw [require_bind_eq_ok, bind_eq_ok] at h
  obtain ⟨-, snapshot, hsnapshot, h⟩ := h
  obtain ⟨hbytes, hregular, hreadable⟩ := readable_of_read hsnapshot
  simp only [Bool.and_eq_true, decide_eq_true_eq] at hpositive hbuffers
  have hinitial : given.failures = Window.latest given.failureCapacity given.failures :=
    (Window.latest_of_le hbuffers.2).symm
  have hs := Except.ok.inj h
  have hfold := @foldl_remember { given with failureCount := 0, failureJournal := some path }
    snapshot.records given.failures hinitial
  rw [hfold] at hs
  refine ⟨snapshot.records, ?_⟩
  rw [← hs]
  exact ⟨rfl, rfl, rfl, hbytes, hworkspace, hbuffers.1, rfl, hregular, hreadable,
    Nat.zero_add _, rfl⟩

theorem positive_of_create (h : given.create = .ok s) : 0 < given.capacity ∧
    0 < given.failureJournalMaxBytes ∧ given.results.length ≤ given.capacity := by
  rw [create, require_bind_eq_ok, require_bind_eq_ok] at h
  obtain ⟨hpositive, hbuffers, -⟩ := h
  simp only [Bool.and_eq_true, decide_eq_true_eq] at hpositive hbuffers
  exact ⟨hpositive.1.1, hpositive.2, hbuffers.1⟩

/-- A sink opened on a journal that can be read. -/
theorem create_of_readable (hpositive : 0 < given.capacity) (hfailures : 0 < given.failureCapacity)
    (hbytes : 0 < given.failureJournalMaxBytes) (hresults : given.results.length ≤ given.capacity)
    (hinitial : given.failures.length ≤ given.failureCapacity)
    (hjournal : given.failureJournal = some path)
    (hregular : path = .absent ∨ ∃ raw, path = .file raw)
    (hreadable : Readable given.failureJournalMaxBytes path.content records) :
    ∃ t, given.create = .ok t ∧ t.failureCount = records.length ∧
      t.failures =
        Window.latest given.failureCapacity (given.failures ++ records.map failureText) := by
  obtain ⟨snapshot, hread, hrecords⟩ := hreadable.exists_read hbytes hregular
  have hsymlink : decide (path ≠ .symlink) = true := by
    apply decide_eq_true
    intro hpath
    rw [hpath] at hregular
    exact hregular.elim (fun h ↦ by cases h) fun ⟨_, h⟩ ↦ by cases h
  have hsame : given.failures = Window.latest given.failureCapacity given.failures :=
    (Window.latest_of_le hinitial).symm
  rw [create, decide_eq_true hpositive, decide_eq_true hfailures, decide_eq_true hbytes,
    decide_eq_true hresults, decide_eq_true hinitial, hjournal]
  rw [Option.isSome_some, Bool.or_true, Bool.and_self, Bool.and_self, require_true, ok_bind,
    require_true, ok_bind, require_true, ok_bind]
  dsimp only
  rw [hsymlink, require_true, ok_bind, hread, ok_bind, hrecords]
  have hfold := @foldl_remember { given with failureCount := 0, failureJournal := some path }
    records given.failures hsame
  refine ⟨_, congrArg Except.ok hfold, Nat.zero_add _, rfl⟩

/-- The records of a sink's journal. -/
theorem Tracks.journalRecords (h : Tracks given s path records) :
    s.journalRecords = .ok records := by
  obtain ⟨snapshot, hread, hrecords⟩ := h.readable.exists_read h.positive h.regular
  rw [NativeCaptureSink.journalRecords, h.journal, Option.elim_some, hread, ← hrecords]
  rfl

theorem Tracks.content (h : Tracks given s path records) : s.journalContent = path.content := by
  rw [journalContent, h.journal, Option.elim_some]

theorem validFailureToken_safeErrorType (errorType : Text) :
    validFailureToken (safeErrorType errorType) = true := by
  rw [safeErrorType]
  split
  · assumption
  · decide

/-- A failure is recorded, in memory too, where the journal has room, and else only raised. -/
theorem Tracks.recordFailure (h : Tracks given s path records) {stage : Text}
    (hstage : validFailureToken stage = true) (errorType : Text) :
    (s.HasRoom stage (safeErrorType errorType) ∧ ∃ t path', recordFailure stage errorType s =
        (.ok (), t) ∧ Tracks given t path'
          (records ++ [⟨records.length, stage, safeErrorType errorType⟩]) ∧
        t.results = s.results ∧ t.workspace = s.workspace) ∨
      ¬s.HasRoom stage (safeErrorType errorType) ∧
        ∃ e, recordFailure stage errorType s = (.error e, s) := by
  have herror := validFailureToken_safeErrorType errorType
  by_cases hroom : s.HasRoom stage (safeErrorType errorType)
  · have hroom' := hroom
    rw [HasRoom, h.content] at hroom'
    have happend := append_of_room h.regular hroom'
    have hreadable := h.readable.append hstage herror hroom'
    have hfailures := @remember_failures { s with failureJournal := some (.file (path.content ++
      Utf8.ascii (journalLine stage (safeErrorType errorType)))) } _ h.failures
      ⟨records.length, stage, safeErrorType errorType⟩
    refine .inl ⟨hroom, { s with failureJournal := some (.file (path.content ++
      Utf8.ascii (journalLine stage (safeErrorType errorType)))) }.remember stage
        (safeErrorType errorType), .file (path.content ++
      Utf8.ascii (journalLine stage (safeErrorType errorType))), ?_, ?_, rfl, rfl⟩
    · rw [NativeCaptureSink.recordFailure, h.journal]
      dsimp only
      rw [happend]
    · refine ⟨h.capacity, h.failureCapacity, h.maxBytes, h.positive, h.workspace, h.window, rfl,
        .inr ⟨_, rfl⟩, hreadable, ?_, ?_⟩
      · rw [List.length_append, List.length_singleton]
        exact congrArg (· + 1) h.count
      · rw [List.map_append, ← List.append_assoc]
        exact hfailures
  · have hfull := hroom
    rw [HasRoom, h.content] at hfull
    obtain ⟨e, he⟩ := append_of_full hfull
    refine .inr ⟨hroom, e, ?_⟩
    rw [NativeCaptureSink.recordFailure, h.journal]
    dsimp only
    rw [he]

/-- A failure that is recorded before an exception is raised. -/
theorem Tracks.failing (h : Tracks given s path records) {stage : Text}
    (hstage : validFailureToken stage = true) (errorType : Text) (e : PyError) :
    ∃ e' t path' records', failing stage errorType e s = (.error e', t) ∧
      Tracks given t path' records' ∧ t.results = s.results ∧ s.Journals t := by
  apply (h.recordFailure hstage errorType).elim
  · intro ⟨hroom, t, path', hrun, ht, hresults, _⟩
    refine ⟨e, t, path', _, ?_, ht, hresults, records, stage, safeErrorType errorType,
      h.journalRecords, fun _ ↦ ht.journalRecords, fun hfull ↦ absurd hroom hfull⟩
    rw [NativeCaptureSink.failing, Attempt.bind_of_ok hrun]
    rfl
  · intro ⟨hfull, e', hrun⟩
    refine ⟨e', s, path, records, ?_, h, rfl, records, stage, safeErrorType errorType,
      h.journalRecords, fun hroom ↦ absurd hroom hfull, fun _ ↦ rfl⟩
    rw [NativeCaptureSink.failing, Attempt.bind_of_error hrun]

/-- One call conserves what it must and keeps the invariant. -/
theorem Tracks.step (governance : Option PrivacyGovernance) (h : Tracks given s path records)
    (call : Call) : Conserves governance s call ∧
      ∃ path' records', Tracks given (apply governance s call).2 path' records' := by
  cases call with
  | drain =>
    exact ⟨rfl, path, records, h.capacity, h.failureCapacity, h.maxBytes, h.positive, h.workspace,
      Nat.zero_le _, h.journal, h.regular, h.readable, h.count, h.failures⟩
  | fail stage errorType =>
    have hstage : validFailureToken
        (if validFailureToken stage then stage else lit "native_capture.invalid_stage") = true := by
      split
      · assumption
      · decide
    rw [Conserves, apply, fail]
    apply (h.recordFailure hstage errorType).elim
    · intro ⟨hroom, t, path', hrun, ht, hresults, _⟩
      rw [hrun]
      exact ⟨⟨hresults, records, _, safeErrorType errorType, h.journalRecords,
        fun _ ↦ ht.journalRecords, fun hfull ↦ absurd hroom hfull⟩, path', _, ht⟩
    · intro ⟨hfull, e, hrun⟩
      rw [hrun]
      exact ⟨⟨rfl, records, _, safeErrorType errorType, h.journalRecords,
        fun hroom ↦ absurd hroom hfull, fun _ ↦ rfl⟩, path, records, h⟩
  | add fault result =>
    rw [Conserves, apply, add]
    by_cases hfull : s.capacity ≤ s.results.length
    · obtain ⟨e, t, path', records', hrun, ht, hresults, hjournals⟩ := h.failing
        (show validFailureToken (lit "native_capture.capacity") = true by decide)
        (lit "NativeCaptureCapacityError")
        (capacityError (lit "native capture result capacity exceeded"))
      rw [if_pos hfull, hrun]
      exact ⟨⟨hresults, hjournals⟩, path', records', ht⟩
    · rw [if_neg hfull]
      obtain ⟨w, hw⟩ := Option.isSome_iff_exists.mp h.workspace
      rw [hw]
      dsimp only
      cases hpersist : attemptPersist governance fault result w with
      | mk outcome w' =>
        cases outcome with
        | ok u =>
          have hindexed := indexed_of_attemptPersist hpersist
          refine ⟨⟨rfl, ⟨w', rfl, hindexed⟩, rfl⟩, path, records, h.capacity, h.failureCapacity,
            h.maxBytes, h.positive, rfl, ?_, h.journal, h.regular, h.readable, h.count, h.failures⟩
          dsimp only
          rw [List.length_append, List.length_singleton]
          omega
        | error raised =>
          obtain ⟨name, e⟩ := raised
          have hs' : Tracks given { s with workspace := some w' } path records :=
            ⟨h.capacity, h.failureCapacity, h.maxBytes, h.positive, rfl, h.window, h.journal,
              h.regular, h.readable, h.count, h.failures⟩
          obtain ⟨e', t, path', records', hrun, ht, hresults, hjournals⟩ := hs'.failing
            (show validFailureToken (lit "native_capture.persist") = true by decide) name e
          dsimp only
          rw [hrun]
          exact ⟨⟨hresults, hjournals⟩, path', records', ht⟩

end Invariant

/-- A durable sink on a new journal. -/
def durable : NativeCaptureSink := ⟨[], [], 1, 1, 100, some .empty, some .absent, 0⟩

/-- The sink that handlers are given. -/
def asSink (governance : Option PrivacyGovernance) (capacity : Nat) : Sink NativeCaptureSink where
  capacity := capacity
  add := add governance none
  fail stage e := fail stage (className e.kind)

theorem recordFailure_results (stage errorType : Text) (s : NativeCaptureSink) :
    (recordFailure stage errorType s).2.results = s.results := by
  rw [recordFailure]
  cases s.failureJournal with
  | none => rfl
  | some path =>
    dsimp only
    cases path.append (journalLine stage (safeErrorType errorType)) s.failureJournalMaxBytes with
    | error e => rfl
    | ok path => rfl

theorem failing_apply (stage errorType : Text) (e : PyError) (s : NativeCaptureSink) :
    ∃ e' t, failing stage errorType e s = (.error e', t) ∧ t.results = s.results := by
  have hresults := recordFailure_results stage errorType s
  cases hrun : recordFailure stage errorType s with
  | mk outcome t =>
    rw [hrun] at hresults
    cases outcome with
    | error e' => exact ⟨e', t, Attempt.bind_of_error hrun, hresults⟩
    | ok u => exact ⟨e, t, Attempt.bind_of_ok hrun, hresults⟩

/-- A result is appended or, where the call raises, not. -/
theorem add_results (governance : Option PrivacyGovernance) (fault : Option Fault)
    (result : ContractCaptureResult) (s : NativeCaptureSink) :
    (add governance fault result s).2.results =
      match (add governance fault result s).1 with
      | .ok () => s.results ++ [result]
      | .error _ => s.results := by
  rw [add]
  split
  · obtain ⟨e, t, hrun, ht⟩ := failing_apply (lit "native_capture.capacity")
      (lit "NativeCaptureCapacityError")
      (capacityError (lit "native capture result capacity exceeded")) s
    rw [hrun]
    exact ht
  · cases s.workspace with
    | none => rfl
    | some w =>
      dsimp only
      cases attemptPersist governance fault result w with
      | mk outcome w' =>
        cases outcome with
        | ok u => rfl
        | error raised =>
          obtain ⟨e, t, hrun, ht⟩ := failing_apply (lit "native_capture.persist") raised.1 raised.2
            { s with workspace := some w' }
          dsimp only
          rw [hrun]
          exact ht

/-- What a handler has captured is the window of its sink. -/
theorem capture_evidence (governance : Option PrivacyGovernance) (capacity : Nat)
    (contract : Except PyError AIContract) {r : Recorder NativeCaptureSink}
    (h : r.evidence = r.sink.results) :
    (Recorder.capture (asSink governance capacity) contract r).2.evidence =
      (Recorder.capture (asSink governance capacity) contract r).2.sink.results := by
  rw [Recorder.capture]
  cases contract >>= captureContract with
  | error e => exact h
  | ok result =>
    have hresults := add_results governance none result r.sink
    rw [Attempt.lift_ok_bind]
    cases hrun : add governance none result r.sink with
    | mk outcome t =>
      have hadd : (asSink governance capacity).add result r.sink = (outcome, t) := hrun
      rw [hrun] at hresults
      rw [Recorder.add, hadd]
      cases outcome with
      | ok u =>
        dsimp only at hresults ⊢
        rw [hresults, h]
      | error e =>
        dsimp only at hresults ⊢
        rw [hresults, h]

end NativeCaptureSink

end StateWake.Integrations
