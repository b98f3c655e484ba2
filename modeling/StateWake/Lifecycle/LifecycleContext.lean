import StateWake.Lifecycle.RetentionHistory

/-!
# Lifecycle contexts

`services/data_lifecycle_investigation_service.py`: a lifecycle context is bound to what a workspace
keeps of its object. A retention change is accepted without a look at tombstones, while the
investigation requires that the tombstone names the policy of the context and does not predate its
deadline.
-/

namespace StateWake.Lifecycle

open StateWake.Base Text Utils Workspace Calls

/-! ### Contexts -/

/-- The kinds of objects, `services/data_lifecycle_investigation_service.py:22`. -/
inductive ObjectKind where
  | workspaceRecord
  | workspaceExport
  deriving DecidableEq, Repr

/-- `RecordedDataLifecycleDecision`, `services/data_lifecycle_investigation_service.py:25–30`. -/
structure RecordedDataLifecycleDecision where
  evaluatedAt : AwareDatetime
  decision : DataLifecycleDecision

/-- `DataLifecycleContext`, `services/data_lifecycle_investigation_service.py:33–43`. -/
structure DataLifecycleContext where
  objectKind : ObjectKind
  objectId : Text
  sensitivity : Text
  createdAt : AwareDatetime
  legalHold : Bool
  policy : DataLifecyclePolicy
  recordedDecision : Option RecordedDataLifecycleDecision

/-- `ResolvedDataLifecycleContext`,
`services/data_lifecycle_investigation_service.py:46–54`. -/
structure ResolvedDataLifecycleContext where
  context : DataLifecycleContext
  retention : WorkspaceRetention
  deletion : Option DeletionRecord
  originalDigest : Option Text
  currentDecision : DataLifecycleDecision

/-- `_timestamp`, `services/data_lifecycle_investigation_service.py:117–126`. -/
def timestamp (value name : Text) : Except PyError AwareDatetime := do
  require ⟨.valueError, name ++ lit " must be a non-empty string"⟩ (!blank value)
  let _ ← orRaise ⟨.valueError, name ++ lit " must be an ISO timestamp"⟩ (fromisoformat value)
  parseAware value (name ++ lit " must be timezone-aware")

/-- What a workspace keeps of the object of a context: its creation time and its digest,
`services/data_lifecycle_investigation_service.py:319–341`. -/
def durableObject (context : DataLifecycleContext) (s : Workspace) (exports : ExportStore) :
    Except PyError (AwareDatetime × Option Text) :=
  match context.objectKind with
  | .workspaceRecord => do
    require ⟨.valueError, lit "record_id must not be blank when provided."⟩
      (!blank context.objectId)
    bindTexts [context.objectId]
    let row ← orRaise ⟨.valueError, lit "workspace lifecycle object does not exist"⟩
      (s.records.get? context.objectId)
    let record ← entryFromRow row
    require ⟨.valueError, lit "lifecycle context sensitivity disagrees with workspace record"⟩
      (record.row.sensitivity = context.sensitivity)
    pure (.ofUtc record.createdAt, some record.row.artifactDigest)
  | .workspaceExport => do
    let exportId := if (lit "export:").isPrefixOf context.objectId then
      context.objectId.drop 7 else context.objectId
    bindTexts [exportId]
    let item ← orRaise ⟨.valueError, lit "workspace lifecycle export does not exist"⟩
      (exports.rows.get? exportId)
    let created ← timestamp item.createdAt (lit "workspace export created_at")
    pure (created, item.outputDigest)

/-- The stored requirement of an object, `get_retention`. -/
def storedRetention (kind : ObjectKind) (s : Workspace) (exports : ExportStore) (objectId : Text) :
    Option WorkspaceRetention :=
  match kind with
  | .workspaceRecord => s.retention.get? objectId
  | .workspaceExport => exports.retention.get? objectId

/-- The stored tombstone of an object, `get_deletion`, with the checks of its constructor. -/
def storedDeletion (kind : ObjectKind) (s : Workspace) (exports : ExportStore) (objectId : Text) :
    Except PyError (Option DeletionRecord) :=
  let stored := match kind with
    | .workspaceRecord => s.deletions.get? objectId
    | .workspaceExport => exports.deletions.get? objectId
  match stored with
  | none => .ok none
  | some d => some <$> DeletionRecord.create { d with derivedFrom := [] }

/-- The checks of a tombstone, `services/data_lifecycle_investigation_service.py:372–387`. -/
def checkTombstone (context : DataLifecycleContext) (retention : WorkspaceRetention)
    (originalDigest : Option Text) (d : DeletionRecord) : Except PyError Unit := do
  require ⟨.valueError, lit "deletion tombstone object identity mismatch"⟩
    (d.objectId = context.objectId)
  require ⟨.valueError, lit "deletion tombstone policy mismatch"⟩
    (d.policyId = context.policy.policyId)
  require ⟨.valueError, lit "deletion tombstone sensitivity mismatch"⟩
    (d.sensitivity = context.sensitivity)
  require ⟨.valueError, lit "deletion tombstone digest does not bind the original object"⟩
    (originalDigest = some d.digest)
  let deletedAt ← timestamp d.deletedAt (lit "deletion deleted_at")
  match retention.retainUntil with
  | none => pure ()
  | some text => do
    let retainUntil ← timestamp text (lit "retention retain_until")
    let deleted ← deletedAt.toUtc
    let eligible ← retainUntil.toUtc
    require ⟨.valueError, lit "deletion tombstone predates retention eligibility"⟩
      (eligible.instant ≤ deleted.instant)

/-- `resolve_data_lifecycle_context`,
`services/data_lifecycle_investigation_service.py:304–395`. -/
def resolveDataLifecycleContext (context : DataLifecycleContext) (s : Workspace)
    (exports : ExportStore) (readOnly : Bool) (evaluatedAt : AwareDatetime) :
    Except PyError ResolvedDataLifecycleContext := do
  require ⟨.valueError,
    lit "data lifecycle investigation requires read-only workspace access"⟩ readOnly
  let (durableCreatedAt, originalDigest) ← durableObject context s exports
  let stated ← context.createdAt.toUtc
  let durable ← durableCreatedAt.toUtc
  require ⟨.valueError, lit "lifecycle context creation time disagrees with workspace state"⟩
    (stated = durable)
  bindTexts [context.objectId]
  let retention ← orRaise
    ⟨.valueError, lit "workspace lifecycle retention metadata is not recorded"⟩
    (storedRetention context.objectKind s exports context.objectId)
  require ⟨.valueError, lit "lifecycle policy identity disagrees with workspace retention"⟩
    (retention.policyId = context.policy.policyId)
  require ⟨.valueError, lit "lifecycle sensitivity disagrees with workspace retention"⟩
    (retention.sensitivity = context.sensitivity)
  require ⟨.valueError, lit "legal-hold state disagrees with workspace retention"⟩
    (retention.legalHold = context.legalHold)
  let currentDecision ← assessDataLifecycle context.objectId context.sensitivity
    context.createdAt context.policy evaluatedAt context.legalHold
  require ⟨.valueError, lit "retention deadline disagrees with configured lifecycle policy"⟩
    (retention.retainUntil = currentDecision.retainUntil)
  let deletion ← storedDeletion context.objectKind s exports context.objectId
  match deletion with
  | none => pure ()
  | some d => checkTombstone context retention originalDigest d
  pure ⟨context, retention, deletion, originalDigest, currentDecision⟩

/-! ### What explains a record -/

/-- A context of a record, made of its sensitivity and creation time and of the policy and the hold
that it was last given. -/
structure Describes (recordId : Text) (t : Tracked) (context : DataLifecycleContext) : Prop where
  kind : context.objectKind = .workspaceRecord
  object : context.objectId = recordId
  given : t.applied = some (context.policy, context.legalHold)
  made : ∃ row created, t.workspace.records.get? recordId = some row ∧
    row.createdAt = isoformat created ∧ context.sensitivity = row.sensitivity ∧
    context.createdAt.toUtc = .ok created

/-- The contexts of a record resolve. -/
def Explained (recordId : Text) (evaluatedAt : AwareDatetime) (t : Tracked) : Prop :=
  ∀ exports context, Describes recordId t context → ∃ resolved,
    resolveDataLifecycleContext context t.workspace exports true evaluatedAt = .ok resolved

/-- A tombstone of a record agrees with a policy: it names the policy, and the deadline that the
policy sets is not after the deletion. -/
def Agrees (s : Workspace) (recordId : Text) (policy : DataLifecyclePolicy) : Prop :=
  ∀ d, s.deletions.get? recordId = some d → d.policyId = policy.policyId ∧
    ∀ row created days until' deletedAt, s.records.get? recordId = some row →
      row.createdAt = isoformat created → policy.maxRetentionDays = some days →
      addDays created days = .ok until' → d.deletedAt = isoformat deletedAt →
      until'.instant ≤ deletedAt.instant

/-- A policy with a limit is evaluated at a time that has one in UTC. -/
def Evaluable (policy : DataLifecyclePolicy) (evaluatedAt : AwareDatetime) : Prop :=
  policy.maxRetentionDays ≠ none → ∃ current, evaluatedAt.toUtc = .ok current

/-- A retention change that a record accepts agrees with its tombstone. -/
def AcceptsAgreeing (recordId : Text) (evaluatedAt : AwareDatetime) (t : Tracked) :
    Operation → Prop
  | .applyRetention id policy legalHold now => id = recordId →
    ∀ s', t.workspace.applyRetention id policy legalHold now = .ok s' →
      Agrees t.workspace recordId policy ∧ Evaluable policy evaluatedAt
  | _ => True

/-- What a deletion leaves of a record. -/
structure Entombed (s : Workspace) (recordId : Text) (d : DeletionRecord) (row : RecordRow)
    (deletedAt : Datetime) : Prop where
  recorded : s.records.get? recordId = some row
  object : d.objectId = recordId
  digest : d.digest = row.artifactDigest
  sensitivity : d.sensitivity = row.sensitivity
  deleted : d.deletedAt = isoformat deletedAt
  valid : DeletionRecord.create { d with derivedFrom := [] } = .ok { d with derivedFrom := [] }

/-- The tables hold what the record was last given, and a tombstone as a deletion leaves it. -/
structure Traced (recordId : Text) (t : Tracked) : Prop where
  kept : Kept recordId t
  entombed : ∀ d, t.workspace.deletions.get? recordId = some d →
    ∃ row deletedAt, Entombed t.workspace recordId d row deletedAt

/-- What the record was last given agrees with its tombstone and can be evaluated. -/
def Settled (recordId : Text) (evaluatedAt : AwareDatetime) (t : Tracked) : Prop :=
  ∀ policy legalHold, t.applied = some (policy, legalHold) →
    Agrees t.workspace recordId policy ∧ Evaluable policy evaluatedAt

/-! ### Resolving a context -/

variable {recordId : Text} {t : Tracked} {context : DataLifecycleContext}
  {exports : ExportStore} {evaluatedAt : AwareDatetime} {governance : Option PrivacyGovernance}

/-- A written time is a timestamp. -/
@[simp] theorem timestamp_isoformat (u : Datetime) (name : Text) :
    timestamp (isoformat u) name = .ok (.ofUtc u) := by
  rw [timestamp, not_blank_isoformat, Bool.not_false, require_true, ok_bind,
    fromisoformat_isoformat, orRaise_some, ok_bind, parseAware_isoformat]

/-- The object of a record is found. -/
private theorem durableObject_of_describes (exports : ExportStore) (hk : Kept recordId t)
    (hd : Describes recordId t context) : ∃ row created,
      t.workspace.records.get? recordId = some row ∧ row.createdAt = isoformat created ∧
        context.sensitivity = row.sensitivity ∧ context.createdAt.toUtc = .ok created ∧
        durableObject context t.workspace exports =
          .ok (.ofUtc created, some row.artifactDigest) := by
  obtain ⟨row, created, hrow, hcreated, hsensitivity, htime⟩ := hd.made
  obtain ⟨entry, hentry, rfl, hwritten⟩ := requireRecord_of_sound hk.sound hrow
  obtain rfl : entry.createdAt = created := isoformat_injective (hwritten.symm.trans hcreated)
  refine ⟨entry.row, entry.createdAt, hrow, hcreated, hsensitivity, htime, ?_⟩
  simp only [requireRecord, bind_eq_ok, require_eq_ok, exists_const, hrow] at hentry
  obtain ⟨hblank, ⟨⟩, hbind, hread⟩ := hentry
  rw [durableObject, hd.kind, hd.object]
  dsimp only
  rw [hblank, require_true, ok_bind, hbind, ok_bind, hrow, orRaise_some, ok_bind, hread, ok_bind,
    decide_eq_true hsensitivity.symm, require_true, ok_bind]
  rfl

/-- A tombstone as a deletion leaves it passes the checks exactly if it agrees with the policy. -/
private theorem checkTombstone_iff {d : DeletionRecord} {row : RecordRow} {deletedAt : Datetime}
    {retainUntil : Option Text} {created : Datetime}
    (he : Entombed t.workspace recordId d row deletedAt) (hobject : context.objectId = recordId)
    (hsensitivity : context.sensitivity = row.sensitivity)
    (hcreated : row.createdAt = isoformat created)
    (hdeadline : deadlineText created context.policy = .ok retainUntil)
    (hstored : t.workspace.deletions.get? recordId = some d) :
    checkTombstone context ⟨recordId, context.policy.policyId, row.sensitivity, retainUntil,
        context.legalHold⟩ (some row.artifactDigest) { d with derivedFrom := [] } = .ok () ↔
      Agrees t.workspace recordId context.policy := by
  rw [checkTombstone]
  dsimp only
  rw [decide_eq_true (show d.objectId = context.objectId by rw [he.object, hobject]), require_true,
    ok_bind, require_bind_eq_ok, decide_eq_true_eq,
    decide_eq_true (show d.sensitivity = context.sensitivity by rw [he.sensitivity, hsensitivity]),
    require_true, ok_bind, decide_eq_true (show some row.artifactDigest = some d.digest by
      rw [he.digest]), require_true, ok_bind, he.deleted, timestamp_isoformat, ok_bind]
  constructor
  · rintro ⟨hpolicy, hchecked⟩ d' hd'
    rw [hstored] at hd'
    cases hd'
    refine ⟨hpolicy, ?_⟩
    intro row' created' days until' deletedAt' hrow' hcreated' hdays hadd hdeleted'
    rw [he.recorded] at hrow'
    cases hrow'
    obtain rfl : created' = created := isoformat_injective (hcreated'.symm.trans hcreated)
    obtain rfl : deletedAt' = deletedAt := isoformat_injective (hdeleted'.symm.trans he.deleted)
    rw [deadlineText, hdays] at hdeadline
    dsimp only at hdeadline
    rw [hadd, ok_bind] at hdeadline
    cases hdeadline
    dsimp only at hchecked
    rw [timestamp_isoformat, ok_bind, AwareDatetime.toUtc_ofUtc, ok_bind,
      AwareDatetime.toUtc_ofUtc, ok_bind, require_eq_ok, decide_eq_true_eq] at hchecked
    exact hchecked
  · intro hagrees
    obtain ⟨hpolicy, hlate⟩ := hagrees d hstored
    refine ⟨hpolicy, ?_⟩
    cases hdays : context.policy.maxRetentionDays with
    | none =>
      rw [deadlineText, hdays] at hdeadline
      cases hdeadline
      rfl
    | some days =>
      rw [deadlineText, hdays] at hdeadline
      dsimp only at hdeadline
      rw [bind_eq_ok] at hdeadline
      obtain ⟨until', hadd, hdeadline⟩ := hdeadline
      cases hdeadline
      dsimp only
      rw [timestamp_isoformat, ok_bind, AwareDatetime.toUtc_ofUtc, ok_bind,
        AwareDatetime.toUtc_ofUtc, ok_bind, require_eq_ok, decide_eq_true_eq]
      exact hlate row created days until' deletedAt he.recorded hcreated hdays hadd he.deleted

/-- The tombstone of a record is read, where there is one. -/
private theorem storedDeletion_of_traced (exports : ExportStore) (ht : Traced recordId t)
    (hd : Describes recordId t context) :
    (t.workspace.deletions.get? recordId = none ∧
      storedDeletion context.objectKind t.workspace exports context.objectId = .ok none) ∨
    ∃ d row deletedAt, t.workspace.deletions.get? recordId = some d ∧
      Entombed t.workspace recordId d row deletedAt ∧
      storedDeletion context.objectKind t.workspace exports context.objectId =
        .ok (some { d with derivedFrom := [] }) := by
  rw [hd.kind, hd.object]
  unfold storedDeletion
  dsimp only
  cases hstored : t.workspace.deletions.get? recordId with
  | none => exact .inl ⟨rfl, rfl⟩
  | some d =>
    obtain ⟨row, deletedAt, hentombed⟩ := ht.entombed d hstored
    refine .inr ⟨d, row, deletedAt, rfl, hentombed, ?_⟩
    dsimp only
    rw [hentombed.valid]
    rfl

/-- A context of a record resolves exactly if its policy agrees with the tombstone and can be
evaluated. -/
private theorem resolve_iff (ht : Traced recordId t) (hd : Describes recordId t context) :
    (∃ resolved, resolveDataLifecycleContext context t.workspace exports true evaluatedAt =
      .ok resolved) ↔
      Agrees t.workspace recordId context.policy ∧ Evaluable context.policy evaluatedAt := by
  obtain ⟨row, created, hrow, hcreated, hsensitivity, htime, hobject⟩ :=
    durableObject_of_describes exports ht.kept hd
  obtain ⟨row', created', retainUntil, hrequires⟩ := ht.kept.some _ _ hd.given
  obtain rfl : row' = row := Option.some.inj (hrequires.recorded.symm.trans hrow)
  obtain rfl : created' = created := isoformat_injective (hrequires.begun.symm.trans hcreated)
  have hsound := ht.kept.sound.records recordId row' hrow
  obtain ⟨level, hlevel⟩ := hsound.sensitivity
  have hbind : bindTexts [context.objectId] = .ok () := by
    rw [bindTexts_eq_ok, List.forall_mem_singleton, hd.object]
    exact surrogateFree_of_isSha256 hsound.id
  have hblank : blank context.objectId = false := by
    rw [hd.object]
    exact not_blank_of_isSha256 hsound.id
  have hretention : storedRetention context.objectKind t.workspace exports context.objectId =
      some ⟨recordId, context.policy.policyId, row'.sensitivity, retainUntil,
        context.legalHold⟩ := by
    rw [hd.kind, hd.object]
    exact hrequires.stored
  have hreads : resolveDataLifecycleContext context t.workspace exports true evaluatedAt =
      (do
        let currentDecision ← assessDataLifecycle context.objectId context.sensitivity
          context.createdAt context.policy evaluatedAt context.legalHold
        require ⟨.valueError, lit "retention deadline disagrees with configured lifecycle policy"⟩
          (retainUntil = currentDecision.retainUntil)
        let deletion ← storedDeletion context.objectKind t.workspace exports context.objectId
        match deletion with
        | none => pure ()
        | some d => checkTombstone context ⟨recordId, context.policy.policyId, row'.sensitivity,
            retainUntil, context.legalHold⟩ (some row'.artifactDigest) d
        pure ⟨context, ⟨recordId, context.policy.policyId, row'.sensitivity, retainUntil,
          context.legalHold⟩, deletion, some row'.artifactDigest, currentDecision⟩) := by
    rw [resolveDataLifecycleContext, require_true, ok_bind, hobject, ok_bind]
    dsimp only
    rw [htime, ok_bind, AwareDatetime.toUtc_ofUtc, ok_bind, decide_eq_true rfl, require_true,
      ok_bind, hbind, ok_bind, hretention, orRaise_some, ok_bind, decide_eq_true rfl, require_true,
      ok_bind, decide_eq_true hsensitivity.symm, require_true, ok_bind, decide_eq_true rfl,
      require_true, ok_bind]
  have hassess : (∃ d, assessDataLifecycle context.objectId context.sensitivity context.createdAt
      context.policy evaluatedAt context.legalHold = .ok d) ↔
        Evaluable context.policy evaluatedAt := by
    rw [hsensitivity, hlevel, exists_decision_iff hblank, Evaluable]
    constructor
    · intro hdated hlimited
      obtain ⟨days, hdays⟩ := Option.ne_none_iff_exists'.mp hlimited
      exact (hdated days hdays).clock
    · intro hevaluable days hdays
      obtain ⟨days', until', hdays', hadd, -⟩ : ∃ days' until', context.policy.maxRetentionDays =
          some days' ∧ addDays created' days' = .ok until' ∧ True := by
        have hdeadline := hrequires.deadline
        rw [deadlineText, Option.mem_def.mp hdays] at hdeadline
        dsimp only at hdeadline
        rw [bind_eq_ok] at hdeadline
        obtain ⟨until', hadd, -⟩ := hdeadline
        exact ⟨days, until', hdays, hadd, trivial⟩
      obtain rfl : days' = days := Option.some.inj (hdays'.symm.trans hdays)
      exact ⟨hevaluable (by rw [hdays']; exact Option.some_ne_none _), created', htime,
        exists_addDays_iff.mp ⟨until', hadd⟩⟩
  rw [hreads, ← hassess]
  constructor
  · rintro ⟨resolved, hresolved⟩
    simp only [bind_eq_ok, require_eq_ok, exists_const] at hresolved
    obtain ⟨decision, hdecision, -, deletion, hdeletion, hresolved⟩ := hresolved
    refine ⟨?_, decision, hdecision⟩
    rcases storedDeletion_of_traced exports ht hd with
      ⟨hnone, -⟩ | ⟨d, row, deletedAt, hstored, hentombed, hread⟩
    · intro d hsome
      rw [hnone] at hsome
      cases hsome
    · obtain rfl : row = row' := Option.some.inj (hentombed.recorded.symm.trans hrow)
      rw [hread] at hdeletion
      cases hdeletion
      dsimp only at hresolved
      rw [bind_eq_ok] at hresolved
      obtain ⟨⟨⟩, hchecked, -⟩ := hresolved
      exact (checkTombstone_iff hentombed hd.object hsensitivity hcreated hrequires.deadline
        hstored).mp hchecked
  · rintro ⟨hagrees, decision, hdecision⟩
    have hretain : retainUntil = decision.retainUntil :=
      Except.ok.inj (hrequires.deadline.symm.trans (retainUntil_of_assess htime hdecision))
    rw [hdecision, ok_bind, decide_eq_true hretain, require_true, ok_bind]
    rcases storedDeletion_of_traced exports ht hd with
      ⟨-, hread⟩ | ⟨d, row, deletedAt, hstored, hentombed, hread⟩
    · rw [hread]
      exact ⟨_, rfl⟩
    · obtain rfl : row = row' := Option.some.inj (hentombed.recorded.symm.trans hrow)
      have hchecked := (checkTombstone_iff hentombed hd.object hsensitivity hcreated
        hrequires.deadline hstored).mpr hagrees
      rw [hread, ok_bind]
      dsimp only
      rw [hchecked]
      exact ⟨_, rfl⟩

/-- The contexts of a record resolve exactly if what it was last given agrees with its tombstone and
can be evaluated. -/
theorem explained_iff (ht : Traced recordId t) :
    Explained recordId evaluatedAt t ↔ Settled recordId evaluatedAt t := by
  constructor
  · intro h policy legalHold hgiven
    obtain ⟨row, created, retainUntil, hrequires⟩ := ht.kept.some policy legalHold hgiven
    have hdescribes : Describes recordId t ⟨.workspaceRecord, recordId, row.sensitivity,
        .ofUtc created, legalHold, policy, none⟩ :=
      ⟨rfl, rfl, hgiven, row, created, hrequires.recorded, hrequires.begun, rfl,
        AwareDatetime.toUtc_ofUtc created⟩
    exact (resolve_iff ht hdescribes).mp (h ExportStore.empty _ hdescribes)
  · intro h exports context hdescribes
    exact (resolve_iff ht hdescribes).mpr (h _ _ hdescribes.given)

/-! ### What operations keep -/

/-- What an attempt at deletion leaves of tombstones: one of the record, or what there was. -/
private theorem deleteExpiredRecord_deletions {s : Workspace} (hs : s.Sound) (id reason : Text)
    (now : AwareDatetime) :
    (s.deleteExpiredRecord id now reason).2.deletions = s.deletions ∨
      ∃ d row current retention until', s.deletions.get? id = none ∧
        (s.deleteExpiredRecord id now reason).2.deletions = s.deletions.set id d ∧
        Entombed s id d row current ∧ s.retention.get? id = some retention ∧
        d.policyId = retention.policyId ∧ retention.retainUntil = some (isoformat until') ∧
        until'.instant ≤ current.instant := by
  cases hdelete : s.deleteExpiredRecord id now reason with
  | mk result s' =>
    unfold deleteExpiredRecord at hdelete
    split at hdelete
    · cases hdelete
      exact .inl rfl
    · next entry retention decision adapter hadmit =>
      obtain ⟨hrow, hret, -, until', current, huntil, hcurrent, hdue⟩ := admitDeletion_spec hs hadmit
      dsimp only at hdelete
      split at hdelete
      · cases hdelete
        exact .inl rfl
      · next deletion recorded hrecorded =>
        cases hdelete
        simp only [bind_eq_ok] at hrecorded
        obtain ⟨built, hbuilt, created, hcreate, after, hrecord, heq⟩ := hrecorded
        cases heq
        obtain ⟨hafter, hundeleted, -⟩ := recordDeletion_spec hrecord
        obtain ⟨-, -, -, hbuild, -⟩ := ContentAddressedArtifactStore.delete_eq_ok.mp
          (Prod.ext hbuilt rfl : _ = (Except.ok built, _))
        rw [buildDeletionRecord, hcurrent, ok_bind] at hbuild
        obtain ⟨hwritten, -⟩ := create_eq_ok hbuild
        have hcreated := (create_eq_ok hcreate).1
        rw [hwritten] at hcreated hcreate
        dsimp only at hcreated hcreate
        rw [hcreated] at hundeleted hafter hcreate
        refine .inr ⟨⟨id, entry.row.artifactDigest, entry.row.sensitivity, isoformat current,
          retention.policyId, reason, []⟩, entry.row, current, retention, until', hundeleted, ?_, ?_,
          hret, ?_, huntil, ?_⟩
        · rw [hafter]
        · exact ⟨hrow, rfl, rfl, rfl, rfl, hcreate⟩
        · rfl
        · rw [AwareDatetime.instant_toUtc hcurrent]
          exact hdue

/-- A tombstone stays as it was left while rows are kept. -/
private theorem Entombed.mono {s s' : Workspace} {d : DeletionRecord} {row : RecordRow}
    {deletedAt : Datetime} (h : Entombed s recordId d row deletedAt)
    (hrecords : ∀ row, s.records.get? recordId = some row → s'.records.get? recordId = some row) :
    Entombed s' recordId d row deletedAt :=
  ⟨hrecords row h.recorded, h.object, h.digest, h.sensitivity, h.deleted, h.valid⟩

/-- Agreement is about the tombstone and the row of the record. -/
private theorem agrees_congr {s s' : Workspace} {policy : DataLifecyclePolicy}
    (hdeletions : s'.deletions.get? recordId = s.deletions.get? recordId)
    (hrecords : s'.records.get? recordId = s.records.get? recordId) :
    Agrees s' recordId policy ↔ Agrees s recordId policy := by
  unfold Agrees
  rw [hdeletions, hrecords]

/-- An operation keeps the row of a record that has one. -/
private theorem records_apply {s : Workspace} (op : Operation) {row : RecordRow}
    (hrow : s.records.get? recordId = some row) :
    (apply governance s op).2.records.get? recordId = some row := by
  cases op with
  | ingestBytes content a => exact (ingestBytes_tables governance s content a).2 _ _ hrow
  | ingestFile path name content a =>
    cases content with
    | none => exact hrow
    | some content => exact (ingestBytes_tables governance s content _).2 _ _ hrow
  | applyRetention id policy legalHold now =>
    rw [apply]
    split
    · exact hrow
    · next s' h =>
      simp only [applyRetention, bind_eq_ok] at h
      obtain ⟨-, -, -, -, ⟨⟩, -, ⟨⟩⟩ := h
      exact hrow
  | deleteExpired id now reason =>
    rw [apply, (deleteExpiredRecord_tables s id now reason).1]
    exact hrow

/-- An operation that is no deletion keeps every tombstone. -/
private theorem deletions_apply {s : Workspace} {op : Operation}
    (hop : ∀ id now reason, op ≠ .deleteExpired id now reason) :
    (apply governance s op).2.deletions = s.deletions := by
  cases op with
  | ingestBytes content a => exact (ingestBytes_tables governance s content a).1
  | ingestFile path name content a =>
    cases content with
    | none => rfl
    | some content => exact (ingestBytes_tables governance s content _).1
  | applyRetention id policy legalHold now =>
    rw [apply]
    split
    · rfl
    · next s' h =>
      simp only [applyRetention, bind_eq_ok] at h
      obtain ⟨-, -, -, -, ⟨⟩, -, ⟨⟩⟩ := h
      rfl
  | deleteExpired id now reason => exact absurd rfl (hop id now reason)

theorem traced_untracked (recordId : Text) : Traced recordId untracked :=
  ⟨kept_untracked recordId, nofun⟩

/-- Every operation leaves tombstones as deletions do. -/
theorem track_traced (ht : Traced recordId t) (op : Operation) :
    Traced recordId (track governance recordId t op).2 := by
  refine ⟨track_kept ht.kept op, fun d hd ↦ ?_⟩
  have hrecords : ∀ row, t.workspace.records.get? recordId = some row →
      (apply governance t.workspace op).2.records.get? recordId = some row :=
    fun row hrow ↦ records_apply op hrow
  by_cases hop : ∃ id now reason, op = .deleteExpired id now reason
  · obtain ⟨id, now, reason, rfl⟩ := hop
    change (t.workspace.deleteExpiredRecord id now reason).2.deletions.get? recordId = some d at hd
    rcases deleteExpiredRecord_deletions ht.kept.sound id reason now with
      hsame | ⟨d', row, current, retention, until', -, hset, hentombed, -⟩
    · rw [hsame] at hd
      obtain ⟨row, deletedAt, hentombed⟩ := ht.entombed d hd
      exact ⟨row, deletedAt, hentombed.mono hrecords⟩
    · rw [hset, Dict.get?_set] at hd
      split at hd
      · next hid =>
        cases hd
        subst hid
        exact ⟨row, current, hentombed.mono hrecords⟩
      · obtain ⟨row, deletedAt, hentombed⟩ := ht.entombed d hd
        exact ⟨row, deletedAt, hentombed.mono hrecords⟩
  · have hdeletions : (apply governance t.workspace op).2.deletions = t.workspace.deletions :=
      deletions_apply fun id now reason heq ↦ hop ⟨id, now, reason, heq⟩
    change (apply governance t.workspace op).2.deletions.get? recordId = some d at hd
    rw [hdeletions] at hd
    obtain ⟨row, deletedAt, hentombed⟩ := ht.entombed d hd
    exact ⟨row, deletedAt, hentombed.mono hrecords⟩

/-- In a settled state an operation leaves a settled one exactly if a retention change that it makes
to the record agrees with the tombstone. -/
theorem settled_track_iff (ht : Traced recordId t) (hs : Settled recordId evaluatedAt t)
    (op : Operation) : Settled recordId evaluatedAt (track governance recordId t op).2 ↔
      AcceptsAgreeing recordId evaluatedAt t op := by
  -- what was last given stays while neither it nor the tombstone changes
  have hkeeps {s' : Workspace} (hdeletions : s'.deletions.get? recordId =
      t.workspace.deletions.get? recordId)
      (hrecords : ∀ row, t.workspace.records.get? recordId = some row →
        s'.records.get? recordId = some row) : Settled recordId evaluatedAt ⟨s', t.applied⟩ := by
    intro policy legalHold hgiven
    obtain ⟨hagrees, hevaluable⟩ := hs policy legalHold hgiven
    obtain ⟨row, created, retainUntil, hrequires⟩ := ht.kept.some policy legalHold hgiven
    refine ⟨(agrees_congr hdeletions ?_).mpr hagrees, hevaluable⟩
    rw [hrecords row hrequires.recorded, hrequires.recorded]
  have hrows (row : RecordRow) (hrow : t.workspace.records.get? recordId = some row) :
      (apply governance t.workspace op).2.records.get? recordId = some row := records_apply op hrow
  cases op with
  | ingestBytes content a =>
    have hdeletions : (apply governance t.workspace (.ingestBytes content a)).2.deletions =
        t.workspace.deletions := deletions_apply fun _ _ _ h ↦ by cases h
    exact iff_of_true (hkeeps (congrArg (fun d ↦ Dict.get? d recordId) hdeletions) hrows) trivial
  | ingestFile path name content a =>
    have hdeletions : (apply governance t.workspace (.ingestFile path name content a)).2.deletions =
        t.workspace.deletions := deletions_apply fun _ _ _ h ↦ by cases h
    exact iff_of_true (hkeeps (congrArg (fun d ↦ Dict.get? d recordId) hdeletions) hrows) trivial
  | applyRetention id policy legalHold now =>
    rw [track, apply, AcceptsAgreeing]
    cases happly : t.workspace.applyRetention id policy legalHold now with
    | error e => exact iff_of_true hs fun _ _ hok ↦ by cases hok
    | ok s' =>
      obtain ⟨row, created, retainUntil, -, hrest, -⟩ := applyRetention_spec ht.kept.sound happly
      have hsame (policy : DataLifecyclePolicy) :
          Agrees s' recordId policy ↔ Agrees t.workspace recordId policy := by
        rw [hrest]
        exact agrees_congr rfl rfl
      dsimp only [appliedAfter]
      by_cases hid : id = recordId
      · rw [if_pos hid]
        constructor
        · intro h _ s'' happly'
          cases happly'
          rw [← hsame]
          exact h policy legalHold rfl
        · intro h policy' legalHold' hgiven
          cases hgiven
          rw [hsame]
          exact h hid s' rfl
      · rw [if_neg hid]
        refine iff_of_true ?_ fun heq ↦ absurd heq hid
        intro policy' legalHold' hgiven
        rw [hsame]
        exact hs policy' legalHold' hgiven
  | deleteExpired id now reason =>
    refine iff_of_true ?_ trivial
    rcases deleteExpiredRecord_deletions ht.kept.sound id reason now with
      hsame | ⟨d, row, current, retention, until', -, hset, hentombed, hret, hpolicy, huntil, hdue⟩
    · exact hkeeps (congrArg (fun d ↦ Dict.get? d recordId) hsame) hrows
    · by_cases hid : recordId = id
      · subst hid
        intro policy legalHold hgiven
        obtain ⟨row', created, retainUntil, hrequires⟩ := ht.kept.some policy legalHold hgiven
        refine ⟨?_, (hs policy legalHold hgiven).2⟩
        rw [hrequires.stored] at hret
        cases hret
        intro d' hd'
        change (t.workspace.deleteExpiredRecord recordId now reason).2.deletions.get? recordId =
          some d' at hd'
        rw [hset, Dict.get?_set, if_pos rfl] at hd'
        cases hd'
        refine ⟨hpolicy, ?_⟩
        intro row'' created' days eligible deletedAt hrow hcreated hdays hadd hdeleted
        obtain rfl : row' = row'' :=
          Option.some.inj ((hrows row' hrequires.recorded).symm.trans hrow)
        obtain rfl : created' = created :=
          isoformat_injective (hcreated.symm.trans hrequires.begun)
        obtain rfl : deletedAt = current :=
          isoformat_injective (hdeleted.symm.trans hentombed.deleted)
        have hdeadline := hrequires.deadline
        rw [deadlineText, hdays] at hdeadline
        dsimp only at hdeadline
        rw [hadd, ok_bind] at hdeadline
        obtain rfl : eligible = until' := isoformat_injective
          (Option.some.inj ((Except.ok.inj hdeadline).trans huntil))
        exact hdue
      · apply hkeeps _ hrows
        change (t.workspace.deleteExpiredRecord id now reason).2.deletions.get? recordId = _
        rw [hset, Dict.get?_set, if_neg hid]

/-! ### Runs -/

/-- An operation leaves a record whose contexts resolve. -/
def StaysExplained (governance : Option PrivacyGovernance) (recordId : Text)
    (evaluatedAt : AwareDatetime) (t : Tracked) (op : Operation) : Prop :=
  Explained recordId evaluatedAt (track governance recordId t op).2

private theorem along_staysExplained_iff (governance : Option PrivacyGovernance) (recordId : Text)
    (evaluatedAt : AwareDatetime) (ops : List Operation) :
    Along (track governance recordId) (StaysExplained governance recordId evaluatedAt) untracked
        ops ↔
      Along (track governance recordId) (AcceptsAgreeing recordId evaluatedAt) untracked ops := by
  apply along_iff (J := fun t ↦ Traced recordId t ∧ Settled recordId evaluatedAt t)
  · rintro t op ⟨ht, hs⟩
    rw [StaysExplained, explained_iff (track_traced ht op), settled_track_iff ht hs op]
  · rintro t op ⟨ht, hs⟩ hexplained
    exact ⟨track_traced ht op, (explained_iff (track_traced ht op)).mp hexplained⟩
  · exact ⟨traced_untracked recordId, nofun⟩

/-- Along every run of a workspace the contexts of a record resolve after each operation exactly if
each retention change that the record accepts agrees with its tombstone, where it has one, and can
be evaluated: it names the policy of the tombstone and its deadline is not after the deletion. -/
theorem stays_explained_iff (governance : Option PrivacyGovernance) (recordId : Text)
    (evaluatedAt : AwareDatetime) (ops : List Operation) :
    Along (track governance recordId) (StaysExplained governance recordId evaluatedAt) untracked
        ops ↔
      Along (track governance recordId) (AcceptsAgreeing recordId evaluatedAt) untracked ops :=
  along_staysExplained_iff governance recordId evaluatedAt ops

/-! ### A change after a deletion -/

/-- The workspace of a tracked run. -/
private theorem workspace_run_track (t : Tracked) (ops : List Operation) :
    (run (track governance recordId) t ops).workspace =
      run (apply governance) t.workspace ops := by
  induction ops generalizing t with
  | nil => rfl
  | cons op ops ih => exact ih _

/-- Another policy than the one the report was deleted under. -/
private def laterPolicy : DataLifecyclePolicy :=
  ⟨lit "later", some 0, .restricted, .internal, .restricted, by decide⟩

/-- What the deletion of the report left: its tombstone names the first policy, and the second is
accepted. -/
private theorem after_deletion :
    ((run (apply none) Workspace.empty (reportDeleted.map Subtype.val)).deletions.get?
      reportRecord).map DeletionRecord.policyId = some (lit "default") ∧
    ((run (apply none) Workspace.empty (reportDeleted.map Subtype.val)).applyRetention reportRecord
      laterPolicy false (.ofUtc RetentionAdapter.epoch)).toBool = true := by
  decide +kernel

/-- After a deletion another policy is accepted, and its context does not resolve. -/
theorem not_stays_explained : ¬∀ governance recordId evaluatedAt ops,
    Along (track governance recordId) (StaysExplained governance recordId evaluatedAt) untracked
      ops := by
  intro h
  have hagrees := (along_staysExplained_iff none reportRecord (.ofUtc RetentionAdapter.epoch) _).mp
    (h none reportRecord (.ofUtc RetentionAdapter.epoch) (reportDeleted.map Subtype.val ++
      [.applyRetention reportRecord laterPolicy false (.ofUtc RetentionAdapter.epoch)]))
  have hlast := (along_append_singleton.mp hagrees).2
  obtain ⟨hpolicy, haccepted⟩ := after_deletion
  obtain ⟨s', hs'⟩ := exists_ok_of_toBool haccepted
  obtain ⟨d, hd, hdefault⟩ := Option.map_eq_some_iff.mp hpolicy
  have hworkspace : (run (track none reportRecord) untracked
      (reportDeleted.map Subtype.val)).workspace =
        run (apply none) Workspace.empty (reportDeleted.map Subtype.val) := workspace_run_track _ _
  have hlater := (hlast rfl s' (by rw [hworkspace]; exact hs')).1 d (by rw [hworkspace]; exact hd)
  rw [hdefault] at hlater
  exact absurd hlater.1 (by decide)

end StateWake.Lifecycle
