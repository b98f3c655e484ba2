import StateWake.Lifecycle.Verifiability

/-!
# Exports of a workspace

`workspace/integration.py:204–414` and `workspace/lifecycle.py:178–282`. An export writes its output
and then registers it; its deletion unlinks the output and then records the tombstone. What the
exporters write is given.
-/

namespace StateWake.Lifecycle

open StateWake.Base Text Utils Workspace

namespace ExportStore

/-! ### Exporting -/

/-- `record_export`, `workspace/sqlite_repository.py:601–644`. -/
def recordExport (exports : ExportStore) (item : WorkspaceExport) : Except PyError ExportStore := do
  bindTexts ([item.exportId, item.format, item.createdAt, item.queryDefinitionJson,
    item.disclosureMaxSensitivity, item.sourceSchemaVersion, item.outputPath] ++
    item.outputDigest.toList)
  require ⟨.workspaceRecordConflictError,
    lit "workspace export identity conflict: " ++ item.exportId⟩
    (exports.rows.get? item.exportId).isNone
  pure { exports with rows := exports.rows.set item.exportId item }

/-- What an exporter did: it raised before it replaced its output, or it replaced it. -/
inductive Written where
  | refused (e : PyError)
  | wrote (payload : ExportPayload)

/-- One export, `workspace/integration.py:204–414`. The output is replaced, then read back, and
registered where that succeeds. -/
def «export» (exports : ExportStore) (item : WorkspaceExport) (written : Written)
    (readBack : Except PyError Unit) : Except PyError Unit × ExportStore :=
  match written with
  | .refused e => (.error e, exports)
  | .wrote payload =>
    let left := { exports with payloads := exports.payloads.set item.outputPath payload }
    let registered : Except PyError ExportStore := do
      readBack
      left.recordExport { item with outputDigest := some payload.digest }
    match registered with
    | .error e => (.error e, left)
    | .ok exports => (.ok (), exports)

/-! ### Retention -/

/-- `get_export`. -/
def getExport (exports : ExportStore) (exportId : Text) : Except PyError WorkspaceExport := do
  bindTexts [exportId]
  orRaise ⟨.keyError, lit "workspace export not found: " ++ exportId⟩ (exports.rows.get? exportId)

/-- `apply_export_retention`, `workspace/lifecycle.py:178–213`. -/
def applyExportRetention (exports : ExportStore) (exportId : Text) (policy : DataLifecyclePolicy)
    (sensitivity : Text) (legalHold : Bool) (now : AwareDatetime) : Except PyError ExportStore := do
  let item ← exports.getExport exportId
  let created ← parseAware item.createdAt []
  let decision ← assessDataLifecycle (exportObjectId exportId) sensitivity created policy now
    legalHold
  bindTexts ([exportObjectId exportId, policy.policyId, sensitivity] ++
    decision.retainUntil.toList)
  let retention : WorkspaceRetention :=
    ⟨exportObjectId exportId, policy.policyId, sensitivity, decision.retainUntil, legalHold⟩
  pure { exports with retention := exports.retention.set (exportObjectId exportId) retention }

/-! ### Deletion -/

/-- The policy a stored requirement stands for, `workspace/lifecycle.py:233–250`. -/
def exportPolicy (item : WorkspaceExport) (retention : WorkspaceRetention) :
    Except PyError DataLifecyclePolicy := do
  let policy ← lifecyclePolicy retention.policyId none
  match retention.retainUntil with
  | none => pure policy
  | some text => do
    let created ← parseAware item.createdAt []
    let retainUntil ← parseRetainUntil text
    let start ← created.toUtc
    lifecyclePolicy retention.policyId (some (retentionDays start retainUntil))

/-- What the lifecycle decides before the output is looked at, `workspace/lifecycle.py:223–260`. -/
def admitExportDeletion (exports : ExportStore) (exportId : Text) (now : AwareDatetime) :
    Except PyError (WorkspaceExport × WorkspaceRetention × DataLifecycleDecision) := do
  let item ← exports.getExport exportId
  let retention ← orRaise ⟨.permissionError, lit "no durable retention policy is registered: " ++
    exportObjectId exportId⟩ (exports.retention.get? (exportObjectId exportId))
  let policy ← exportPolicy item retention
  let created ← parseAware item.createdAt []
  let decision ← assessDataLifecycle (exportObjectId exportId) retention.sensitivity created policy
    now retention.legalHold
  require ⟨.permissionError, lit "export deletion is blocked by lifecycle policy: " ++ exportId⟩
    decision.deletionAllowed
  pure (item, retention, decision)

/-- The checks of the output, `workspace/lifecycle.py:261–269`. -/
def checkOutput (managed : Text → Bool) (exports : ExportStore) (item : WorkspaceExport) :
    Except PyError Text := do
  require ⟨.permissionError,
    lit "export path is outside the workspace export root: " ++ item.outputPath⟩
    (managed item.outputPath)
  let digest ← orRaise ⟨.permissionError,
    lit "export has no persisted output digest: " ++ item.exportId⟩ item.outputDigest
  require ⟨.fileNotFoundError, lit "workspace export not found on disk: " ++ item.outputPath⟩
    ((exports.payloads.get? item.outputPath).any ExportPayload.isFile)
  pure digest

/-- `record_deletion` for an export. -/
def recordDeletion (exports : ExportStore) (d : DeletionRecord) : Except PyError ExportStore := do
  bindTexts [d.objectId, d.digest, d.sensitivity, d.deletedAt, d.policyId, d.reason]
  require ⟨.workspaceRecordConflictError,
    lit "workspace deletion identity conflict: " ++ d.objectId⟩
    (exports.deletions.get? d.objectId).isNone
  pure { exports with deletions := exports.deletions.set d.objectId d }

/-- The exports once the output of one is unlinked. -/
def unlinked (exports : ExportStore) (item : WorkspaceExport) : ExportStore :=
  { exports with payloads := exports.payloads.erase item.outputPath }

/-- What follows the unlinking, `workspace/lifecycle.py:271–281`. -/
def tombstone (exports : ExportStore) (exportId digest : Text) (retention : WorkspaceRetention)
    (now : AwareDatetime) (reason : Text) : Except PyError ExportStore := do
  let time ← now.toUtc
  let d ← DeletionRecord.create ⟨exportObjectId exportId, digest, retention.sensitivity,
    isoformat time, retention.policyId, reason, []⟩
  exports.recordDeletion d

/-- `delete_expired_export`, `workspace/lifecycle.py:215–282`. The output goes first, and what
raises after that leaves it gone. -/
def deleteExpiredExport (managed : Text → Bool) (exports : ExportStore) (exportId : Text)
    (now : AwareDatetime) (reason : Text) : Except PyError Unit × ExportStore :=
  match exports.admitExportDeletion exportId now with
  | .error e => (.error e, exports)
  | .ok (item, retention, _) =>
    match exports.checkOutput managed item with
    | .error e => (.error e, exports)
    | .ok digest =>
      match (exports.unlinked item).tombstone exportId digest retention now reason with
      | .error e => (.error e, exports.unlinked item)
      | .ok exports => (.ok (), exports)

/-! ### What a deletion comes to -/

/-- The lifecycle permits a deletion only under a policy with a name, for a known sensitivity and
at a time that can be read. -/
theorem admitExportDeletion_spec {exports : ExportStore} {exportId : Text} {now : AwareDatetime}
    {item : WorkspaceExport} {retention : WorkspaceRetention} {decision : DataLifecycleDecision}
    (h : exports.admitExportDeletion exportId now = .ok (item, retention, decision)) :
    SurrogateFree exportId ∧ exports.rows.get? exportId = some item ∧
      exports.retention.get? (exportObjectId exportId) = some retention ∧
      blank retention.policyId = false ∧
      (∃ level : Sensitivity, retention.sensitivity = level.text) ∧
      ∃ time, now.toUtc = .ok time := by
  simp only [admitExportDeletion, getExport, bind_eq_ok, orRaise_eq_ok, require_eq_ok,
    exists_const] at h
  obtain ⟨item', ⟨⟨⟩, hbind, hitem⟩, retention', hretention, policy, hpolicy, created, -, decision',
    hdecision, hallowed, h⟩ := h
  cases h
  have hnamed : blank retention.policyId = false := by
    rw [exportPolicy, bind_eq_ok] at hpolicy
    obtain ⟨policy', hpolicy', -⟩ := hpolicy
    rw [lifecyclePolicy] at hpolicy'
    split at hpolicy'
    · next hnamed => exact hnamed
    · cases hpolicy'
  refine ⟨bindTexts_eq_ok.mp hbind _ (List.mem_singleton_self _), hitem, hretention, hnamed, ?_⟩
  simp only [assessDataLifecycle, bind_eq_ok, require_eq_ok, exists_const] at hdecision
  obtain ⟨-, level, hlevel, hdecision⟩ := hdecision
  have htext : retention.sensitivity = level.text := by
    rw [Sensitivity.validate, orRaise_eq_ok] at hlevel
    have hfound := List.find?_some hlevel
    exact (of_decide_eq_true hfound).symm
  refine ⟨⟨level, htext⟩, ?_⟩
  split at hdecision
  · cases hdecision
    cases hallowed
  · simp only [bind_eq_ok] at hdecision
    obtain ⟨-, -, -, -, current, hcurrent, -⟩ := hdecision
    exact ⟨current, hcurrent⟩

/-- The output of an export is checked successfully where it is a file below the export root and
its digest is known. -/
theorem checkOutput_eq_ok {managed : Text → Bool} {exports : ExportStore} {item : WorkspaceExport}
    {digest : Text} : exports.checkOutput managed item = .ok digest ↔
      managed item.outputPath = true ∧ item.outputDigest = some digest ∧
        ∃ content, exports.payloads.get? item.outputPath = some (.file content) := by
  simp only [checkOutput, bind_eq_ok, require_eq_ok, orRaise_eq_ok, exists_const]
  constructor
  · rintro ⟨hmanaged, digest', hdigest, hfile, ⟨⟩⟩
    refine ⟨hmanaged, hdigest, ?_⟩
    cases hpayload : exports.payloads.get? item.outputPath with
    | none =>
      rw [hpayload] at hfile
      cases hfile
    | some payload =>
      rw [hpayload] at hfile
      cases payload with
      | file content => exact ⟨content, rfl⟩
      | dataset members => cases hfile
  · rintro ⟨hmanaged, hdigest, content, hcontent⟩
    exact ⟨hmanaged, digest, hdigest, by rw [hcontent]; rfl, rfl⟩

/-- The tombstone of an export. -/
def exportDeletion (exportId digest : Text) (retention : WorkspaceRetention) (time : Datetime)
    (reason : Text) : DeletionRecord :=
  ⟨exportObjectId exportId, digest, retention.sensitivity, isoformat time, retention.policyId,
    reason, []⟩

private theorem not_blank_exportObjectId (exportId : Text) :
    blank (exportObjectId exportId) = false := by
  rw [← Bool.not_eq_true, blank_iff]
  intro h
  have he : (0x65 : CodePoint) ∈ exportObjectId exportId := List.mem_append_left _ (by decide)
  exact absurd (h 0x65 he) (by decide)

/-- The tombstone of an export passes its checks where its digest is one and its reason says
something. -/
theorem create_exportDeletion {exportId digest reason : Text} {retention : WorkspaceRetention}
    {level : Sensitivity} (time : Datetime) (hnamed : blank retention.policyId = false)
    (hlevel : retention.sensitivity = level.text) {d : DeletionRecord} :
    DeletionRecord.create (exportDeletion exportId digest retention time reason) = .ok d ↔
      isSha256 digest = true ∧ blank reason = false ∧
        d = exportDeletion exportId digest retention time reason := by
  simp only [DeletionRecord.create, exportDeletion, bind_eq_ok, require_eq_ok, exists_const,
    not_blank_exportObjectId, not_blank_isoformat, hnamed, hlevel, Sensitivity.validate_text,
    Bool.not_false, Bool.true_and, Bool.and_true, Bool.not_eq_true', List.any_nil, true_and,
    Except.ok.injEq]
  constructor
  · rintro ⟨hreason, hdigest, -, -, ⟨⟩⟩
    exact ⟨hdigest, hreason, rfl⟩
  · rintro ⟨hdigest, hreason, rfl⟩
    exact ⟨hreason, hdigest, level, rfl, rfl⟩

/-- The tombstone of an export can be made and inserted exactly where there is none, its digest is
one and its reason says something and can be stored. -/
theorem tombstone_eq_ok (exports left : ExportStore) {exportId : Text} (digest reason : Text)
    {retention : WorkspaceRetention} {now : AwareDatetime} {time : Datetime} {level : Sensitivity}
    (hid : SurrogateFree exportId) (hnamed : blank retention.policyId = false)
    (hpolicy : SurrogateFree retention.policyId) (hlevel : retention.sensitivity = level.text)
    (htime : now.toUtc = .ok time) :
    exports.tombstone exportId digest retention now reason = .ok left ↔
      (isSha256 digest = true ∧ blank reason = false ∧ SurrogateFree reason ∧
        exports.deletions.get? (exportObjectId exportId) = none) ∧
      left = { exports with
        deletions := exports.deletions.set (exportObjectId exportId)
          (exportDeletion exportId digest retention time reason) } := by
  have hobject : SurrogateFree (exportObjectId exportId) :=
    surrogateFree_append (surrogateFree_lit _) hid
  have hsensitivity : SurrogateFree retention.sensitivity := by
    rw [hlevel]
    cases level <;> exact surrogateFree_lit _
  have htombstone : exports.tombstone exportId digest retention now reason = (do
      let d ← DeletionRecord.create (exportDeletion exportId digest retention time reason)
      exports.recordDeletion d) := by
    rw [tombstone, htime, ok_bind]
    rfl
  rw [htombstone]
  simp only [bind_eq_ok, create_exportDeletion time hnamed hlevel, recordDeletion, require_eq_ok,
    exists_const]
  constructor
  · rintro ⟨d, ⟨hdigest, hreason, rfl⟩, ⟨⟩, hbind, hnone, ⟨⟩⟩
    have hencodable : SurrogateFree reason :=
      bindTexts_eq_ok.mp hbind _ (by simp [exportDeletion])
    exact ⟨⟨hdigest, hreason, hencodable, Option.isNone_iff_eq_none.mp hnone⟩, rfl⟩
  · rintro ⟨⟨hdigest, hreason, hencodable, hnone⟩, rfl⟩
    refine ⟨_, ⟨hdigest, hreason, rfl⟩, (), ?_, Option.isNone_iff_eq_none.mpr hnone, rfl⟩
    simp only [bindTexts_eq_ok, exportDeletion, List.forall_mem_cons]
    exact ⟨hobject, surrogateFree_of_isSha256 hdigest, hsensitivity, surrogateFree_isoformat _,
      hpolicy, hencodable, List.forall_mem_nil _⟩

/-- A deletion comes to its effects: the lifecycle allows it, and the output is a file below the
export root with a known digest. -/
structure Due (managed : Text → Bool) (exports : ExportStore) (exportId : Text)
    (now : AwareDatetime) (item : WorkspaceExport) (digest : Text) : Prop where
  allowed : ∃ retention decision,
    exports.admitExportDeletion exportId now = .ok (item, retention, decision)
  checked : exports.checkOutput managed item = .ok digest

/-- A deletion is due for one export and digest. -/
theorem Due.unique {managed : Text → Bool} {exports : ExportStore} {exportId : Text}
    {now : AwareDatetime} {item item' : WorkspaceExport} {digest digest' : Text}
    (h : exports.Due managed exportId now item digest)
    (h' : exports.Due managed exportId now item' digest') : item = item' ∧ digest = digest' := by
  obtain ⟨⟨retention, decision, hallowed⟩, hchecked⟩ := h
  obtain ⟨⟨retention', decision', hallowed'⟩, hchecked'⟩ := h'
  rw [hallowed] at hallowed'
  cases hallowed'
  rw [hchecked] at hchecked'
  exact ⟨rfl, Except.ok.inj hchecked'⟩

/-- The tombstone of an export can be made and inserted. -/
structure Recordable (exports : ExportStore) (exportId digest reason : Text) : Prop where
  digest : isSha256 digest = true
  reasoned : blank reason = false ∧ SurrogateFree reason
  undeleted : exports.deletions.get? (exportObjectId exportId) = none

/-- What the deletion of an export comes to. -/
inductive DeletionOutcome (managed : Text → Bool) (exports : ExportStore) (exportId reason : Text)
    (now : AwareDatetime) : Except PyError Unit × ExportStore → Prop where
  | refused (e : PyError) (refuses : ∀ item digest, ¬exports.Due managed exportId now item digest) :
      DeletionOutcome managed exports exportId reason now (.error e, exports)
  | lost (e : PyError) (item : WorkspaceExport) (digest : Text)
      (due : exports.Due managed exportId now item digest)
      (unrecordable : ¬exports.Recordable exportId digest reason) :
      DeletionOutcome managed exports exportId reason now (.error e, exports.unlinked item)
  | deleted (item : WorkspaceExport) (digest : Text) (d : DeletionRecord)
      (due : exports.Due managed exportId now item digest)
      (recordable : exports.Recordable exportId digest reason)
      (object : d.objectId = exportObjectId exportId) (valid : DeletionRecord.create d = .ok d) :
      DeletionOutcome managed exports exportId reason now (.ok (),
        { exports.unlinked item with
          deletions := exports.deletions.set (exportObjectId exportId) d })

/-- Every deletion of an export comes to one of these. -/
theorem deleteExpiredExport_outcome {exports : ExportStore}
    (hencodable : ∀ objectId retention, exports.retention.get? objectId = some retention →
      SurrogateFree retention.policyId) (managed : Text → Bool) (exportId reason : Text)
    (now : AwareDatetime) : DeletionOutcome managed exports exportId reason now
      (exports.deleteExpiredExport managed exportId now reason) := by
  rw [deleteExpiredExport]
  cases hadmitted : exports.admitExportDeletion exportId now with
  | error e =>
    refine .refused e ?_
    rintro item digest ⟨⟨retention, decision, hok⟩, -⟩
    rw [hadmitted] at hok
    cases hok
  | ok admitted =>
    obtain ⟨item, retention, decision⟩ := admitted
    dsimp only
    cases hchecked : exports.checkOutput managed item with
    | error e =>
      refine .refused e ?_
      rintro item' digest ⟨⟨retention', decision', hok⟩, hdigest⟩
      rw [hadmitted] at hok
      cases hok
      rw [hchecked] at hdigest
      cases hdigest
    | ok digest =>
      obtain ⟨hid, hitem, hretention, hnamed, ⟨level, hlevel⟩, time, htime⟩ :=
        admitExportDeletion_spec hadmitted
      have hdue : exports.Due managed exportId now item digest :=
        ⟨⟨retention, decision, hadmitted⟩, hchecked⟩
      have hiff (left : ExportStore) := tombstone_eq_ok (exports.unlinked item) left digest reason
        hid hnamed (hencodable _ _ hretention) hlevel htime
      dsimp only
      cases hrecorded : (exports.unlinked item).tombstone exportId digest retention now reason with
      | error e =>
        refine .lost e item digest hdue fun hr ↦ ?_
        have hok := (hiff _).mpr ⟨⟨hr.digest, hr.reasoned.1, hr.reasoned.2, hr.undeleted⟩, rfl⟩
        rw [hrecorded] at hok
        cases hok
      | ok left =>
        obtain ⟨⟨hdigest, hreason, hreasoned, hnone⟩, rfl⟩ := (hiff _).mp hrecorded
        exact .deleted item digest _ hdue ⟨hdigest, ⟨hreason, hreasoned⟩, hnone⟩ rfl
          ((create_exportDeletion time hnamed hlevel).mpr ⟨hdigest, hreason, rfl⟩)

end ExportStore

end StateWake.Lifecycle
