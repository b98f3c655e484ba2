import StateWake.Lifecycle.Deadlines
import StateWake.Lifecycle.Workspace

/-!
# Evidence that records share

Runs of a workspace. An artifact is shared by every record of equal bytes while retention is kept
for each record. A deletion takes place exactly when the record's own requirement permits it, and
it then takes the artifact of every record that shares it.
-/

namespace StateWake.Lifecycle.Workspace

open StateWake.Base Text Utils Calls

/-! ### What a workspace keeps true -/

/-- A row as ingestion writes it. -/
structure RecordSound (recordId : Text) (row : RecordRow) : Prop where
  id : isSha256 recordId = true
  artifact : isSha256 row.artifactDigest = true
  sensitivity : ∃ level : Sensitivity, row.sensitivity = level.text
  captured : ∃ t, row.capturedAt = isoformat t
  created : ∃ t, row.createdAt = isoformat t

/-- A requirement as retention writes it: the deadline counts days from the record's creation. -/
structure RetentionSound (records : Dict RecordRow) (recordId : Text)
    (retention : WorkspaceRetention) : Prop where
  recorded : ∃ row, records.get? recordId = some row
  governed : blank retention.policyId = false
  encodable : SurrogateFree retention.policyId
  deadline : ∀ text ∈ retention.retainUntil, ∃ row created days until',
    records.get? recordId = some row ∧ row.createdAt = isoformat created ∧
      addDays created days = .ok until' ∧ text = isoformat until'

/-- The tables are as the workspace's operations write them. -/
structure Sound (s : Workspace) : Prop where
  records : ∀ recordId row, s.records.get? recordId = some row → RecordSound recordId row
  retention : ∀ recordId retention, s.retention.get? recordId = some retention →
    RetentionSound s.records recordId retention

theorem sound_empty : empty.Sound := ⟨nofun, nofun⟩

/-- Requirements stay sound where no row changes. -/
theorem RetentionSound.mono {records records' : Dict RecordRow} {recordId : Text}
    {retention : WorkspaceRetention} (h : RetentionSound records recordId retention)
    (hkept : ∀ id row, records.get? id = some row → records'.get? id = some row) :
    RetentionSound records' recordId retention := by
  refine ⟨?_, h.governed, h.encodable, ?_⟩
  · obtain ⟨row, hrow⟩ := h.recorded
    exact ⟨row, hkept _ _ hrow⟩
  · intro text htext
    obtain ⟨row, created, days, until', hrow, hrest⟩ := h.deadline text htext
    exact ⟨row, created, days, until', hkept _ _ hrow, hrest⟩

/-! ### Ingestion -/

/-- Ingestion touches files, and leaves every row and adds at most one. -/
theorem indexRecord_spec {s s' : Workspace} {r : RecordRow}
    (h : s.indexRecord r = .ok s') : s'.files = s.files ∧ s'.retention = s.retention ∧
      s'.deletions = s.deletions ∧
      (s'.records = s.records ∨
        s.records.get? r.recordId = none ∧ s'.records = s.records.set r.recordId r) := by
  rw [indexRecord, bind_eq_ok] at h
  obtain ⟨-, -, h⟩ := h
  rw [bind_eq_ok] at h
  obtain ⟨runs, -, h⟩ := h
  cases hrow : s.records.get? r.recordId with
  | none =>
    rw [hrow] at h
    dsimp only at h
    rw [bind_eq_ok] at h
    obtain ⟨-, -, h⟩ := h
    cases h
    exact ⟨rfl, rfl, rfl, .inr ⟨rfl, rfl⟩⟩
  | some row =>
    rw [hrow] at h
    dsimp only at h
    rw [require_bind_eq_ok] at h
    cases h.2
    exact ⟨rfl, rfl, rfl, .inl rfl⟩

/-- A receipt carries a digest for its identity and one for its artifact. -/
theorem receiptFor_spec {governance : Option PrivacyGovernance} {content : Bytes}
    {a : IngestionArguments} {receipt : ExternalEvidenceReceipt}
    (h : EvidenceFiles.receiptFor governance content a = .ok receipt) :
    isSha256 receipt.receiptId = true ∧ isSha256 receipt.artifactDigest = true ∧
      ∃ level : Sensitivity, a.sensitivity = level.text := by
  rw [EvidenceFiles.receiptFor, bind_eq_ok] at h
  obtain ⟨level, hlevel, h⟩ := h
  rw [bind_eq_ok] at h
  obtain ⟨r, hr, h⟩ := h
  rw [bind_eq_ok] at h
  obtain ⟨-, -, h⟩ := h
  cases h
  refine ⟨?_, ?_, level, ?_⟩
  · simp only [ExternalEvidenceReceipt.create, bind_eq_ok, require_eq_ok, exists_const,
      ReceiptFields.computedReceiptId] at hr
    obtain ⟨-, -, -, -, -, -, -, -, -, -, -, -, receiptId, ⟨bytes, -, hid⟩, -, digest, -, -, hr⟩ :=
    hr
    cases hid
    cases hr
    exact isSha256_sha256 bytes
  · simp only [ExternalEvidenceReceipt.create, bind_eq_ok, require_eq_ok, exists_const] at hr
    obtain ⟨-, -, -, -, -, -, hdigest, -, -, -, -, -, receiptId, -, -, digest, -, -, hr⟩ := hr
    cases hr
    exact hdigest
  · rw [Sensitivity.validate, orRaise_eq_ok] at hlevel
    have htext := List.find?_some hlevel
    exact (of_decide_eq_true htext).symm

theorem ingestBytes_sound {governance : Option PrivacyGovernance} {s : Workspace}
    (hs : s.Sound) (content : Bytes) (a : IngestionArguments) :
    (s.ingestBytes governance content a).2.Sound := by
  unfold ingestBytes
  cases hingest : s.files.ingestBytes governance content a with
  | mk result files =>
    cases result with
    | error e => exact ⟨hs.records, hs.retention⟩
    | ok receipt =>
      dsimp only
      split
      · exact ⟨hs.records, hs.retention⟩
      · next s' hindexed =>
        rw [bind_eq_ok] at hindexed
        obtain ⟨row, hrow, hindexed⟩ := hindexed
        obtain ⟨-, hretention, -, hrecords⟩ := indexRecord_spec hindexed
        have hreceipt : EvidenceFiles.receiptFor governance content a = .ok receipt := by
          unfold EvidenceFiles.ingestBytes at hingest
          cases hfor : EvidenceFiles.receiptFor governance content a with
          | error e =>
            rw [hfor] at hingest
            cases hingest
          | ok r =>
            rw [hfor] at hingest
            dsimp only at hingest
            split at hingest
            · cases hingest
            · cases hingest
              rfl
        obtain ⟨hid, hdigest, hlevel⟩ := receiptFor_spec hreceipt
        simp only [indexRow, bind_eq_ok, require_eq_ok, exists_const] at hrow
        obtain ⟨-, -, -, captured, -, hrow⟩ := hrow
        cases hrow
        rcases hrecords with hrecords | ⟨hnew, hrecords⟩
        · constructor
          · rw [hrecords]
            exact hs.records
          · rw [hrecords, hretention]
            exact hs.retention
        · constructor
          · intro recordId row hget
            rw [hrecords, Dict.get?_set] at hget
            split at hget
            · next heq =>
              cases hget
              rw [heq]
              exact ⟨hid, hdigest, hlevel, ⟨captured, rfl⟩, ⟨captured, rfl⟩⟩
            · exact hs.records recordId row hget
          · intro recordId retention hget
            rw [hretention] at hget
            refine (hs.retention recordId retention hget).mono fun id row hrow ↦ ?_
            rw [hrecords, Dict.get?_set]
            split
            · next heq =>
              rw [heq] at hrow
              rw [show s.records.get? receipt.receiptId = none from hnew] at hrow
              cases hrow
            · exact hrow

/-! ### Retention -/

/-- A sound row is found under its identity. -/
theorem requireRecord_spec {s : Workspace} {recordId : Text}
    {entry : WorkspaceRecordIndexEntry} (h : s.requireRecord recordId = .ok entry) :
    s.records.get? recordId = some entry.row ∧
      parseDatetime entry.row.createdAt (lit "created_at") = .ok entry.createdAt := by
  simp only [requireRecord, bind_eq_ok, require_eq_ok, exists_const] at h
  obtain ⟨-, -, -, h⟩ := h
  cases hrow : s.records.get? recordId with
  | none =>
    rw [hrow] at h
    cases h
  | some row =>
    rw [hrow] at h
    simp only [entryFromRow, bind_eq_ok] at h
    obtain ⟨captured, -, created, hcreated, h⟩ := h
    cases h
    exact ⟨rfl, hcreated⟩

/-- The entry of a sound row. -/
theorem requireRecord_of_sound {s : Workspace} (hs : s.Sound) {recordId : Text}
    {row : RecordRow} (hrow : s.records.get? recordId = some row) : ∃ entry,
      s.requireRecord recordId = .ok entry ∧ entry.row = row ∧
        row.createdAt = isoformat entry.createdAt := by
  have hsound := hs.records recordId row hrow
  obtain ⟨captured, hcaptured⟩ := hsound.captured
  obtain ⟨created, hcreated⟩ := hsound.created
  refine ⟨⟨row, captured, created⟩, ?_, rfl, hcreated⟩
  have hbind : bindTexts [recordId] = .ok () := bindTexts_eq_ok.mpr fun t ht ↦ by
    rw [List.mem_singleton.mp ht]
    exact surrogateFree_of_isSha256 hsound.id
  rw [requireRecord, not_blank_of_isSha256 hsound.id, Bool.not_false, require_true, ok_bind, hbind,
    ok_bind, hrow]
  dsimp only
  rw [entryFromRow, hcaptured, parseDatetime_isoformat, ok_bind, hcreated,
    parseDatetime_isoformat, ok_bind]
  rfl

/-- A deadline counts days from the creation time, and the lifecycle permits a deletion from the
deadline on unless there is a hold. -/
private theorem assess_spec {objectId sensitivity : Text} {created : Datetime}
    {policy : DataLifecyclePolicy} {now : AwareDatetime} {legalHold : Bool}
    {decision : DataLifecycleDecision}
    (h : assessDataLifecycle objectId sensitivity (.ofUtc created) policy now legalHold =
      .ok decision) :
    (∀ text ∈ decision.retainUntil, ∃ days until', addDays created days = .ok until' ∧
      text = isoformat until') := by
  simp only [assessDataLifecycle, bind_eq_ok, require_eq_ok, exists_const] at h
  obtain ⟨-, level, -, h⟩ := h
  cases hdays : policy.maxRetentionDays with
  | none =>
    rw [hdays] at h
    cases h
    exact nofun
  | some days =>
    rw [hdays] at h
    simp only [AwareDatetime.toUtc_ofUtc, ok_bind, bind_eq_ok] at h
    obtain ⟨eligible, heligible, current, -, h⟩ := h
    rw [← Except.ok.inj h]
    intro text htext
    exact ⟨days, eligible, heligible, (Option.mem_some_iff.mp htext).symm⟩

theorem applyRetention_sound {s s' : Workspace} (hs : s.Sound) {recordId : Text}
    {policy : DataLifecyclePolicy} {legalHold : Bool} {now : AwareDatetime}
    (h : s.applyRetention recordId policy legalHold now = .ok s') : s'.Sound := by
  rw [applyRetention, bind_eq_ok] at h
  obtain ⟨entry, hentry, h⟩ := h
  rw [bind_eq_ok] at h
  obtain ⟨decision, hdecision, h⟩ := h
  rw [bind_eq_ok] at h
  obtain ⟨⟨⟩, hbind, h⟩ := h
  cases h
  obtain ⟨hrow, hcreated⟩ := requireRecord_spec hentry
  refine ⟨hs.records, fun id retention hget ↦ ?_⟩
  rw [Dict.get?_set] at hget
  split at hget
  · next heq =>
    cases hget
    rw [heq]
    refine ⟨⟨_, hrow⟩, policy.governed, bindTexts_eq_ok.mp hbind _ (by simp), fun text htext ↦ ?_⟩
    obtain ⟨days, until', hadd, htext⟩ := assess_spec hdecision text htext
    obtain ⟨created, heq⟩ := (hs.records recordId entry.row hrow).created
    rw [heq, parseDatetime_isoformat] at hcreated
    cases hcreated
    exact ⟨entry.row, entry.createdAt, days, until', hrow, heq, hadd, htext⟩
  · exact hs.retention id retention hget

/-! ### Deletion -/

theorem recordDeletion_spec {s s' : Workspace} {d : DeletionRecord}
    (h : s.recordDeletion d = .ok s') : s' = { s with deletions := s.deletions.set d.objectId d } ∧
      s.deletions.get? d.objectId = none ∧ SurrogateFree d.reason := by
  simp only [recordDeletion, bind_eq_ok, require_eq_ok, exists_const] at h
  obtain ⟨⟨⟩, hbind, hnone, h⟩ := h
  cases h
  exact ⟨rfl, Option.isNone_iff_eq_none.mp hnone, bindTexts_eq_ok.mp hbind _ (by simp)⟩

/-- A deletion changes no row and no requirement. -/
theorem deleteExpiredRecord_tables (s : Workspace) (recordId : Text) (now : AwareDatetime)
    (reason : Text) : (s.deleteExpiredRecord recordId now reason).2.records = s.records ∧
      (s.deleteExpiredRecord recordId now reason).2.retention = s.retention := by
  unfold deleteExpiredRecord
  split
  · exact ⟨rfl, rfl⟩
  · dsimp only
    split
    · exact ⟨rfl, rfl⟩
    · next hrecorded =>
      simp only [bind_eq_ok] at hrecorded
      obtain ⟨artifactDeletion, -, deletion, -, s', hs', heq⟩ := hrecorded
      cases heq
      rw [(recordDeletion_spec hs').1]
      exact ⟨rfl, rfl⟩

/-- The days of a stored deadline are those it was made with. -/
theorem retentionDays_addDays {created until' : Datetime} {days : Nat}
    (h : addDays created days = .ok until') : retentionDays created (.ofUtc until') = days := by
  rw [retentionDays, AwareDatetime.instant_ofUtc, instant_addDays h, add_sub_cancel_left,
    Int.mul_ediv_cancel _ (by decide), Int.toNat_natCast]

/-- The deletion of a record takes place: its requirement has a deadline that has passed and no
hold, its artifact is there, nothing was deleted under its identity, and the reason can be
stored. -/
structure Deletable (s : Workspace) (recordId : Text) (now : AwareDatetime) (reason : Text) :
    Prop where
  due : ∃ retention until', s.retention.get? recordId = some retention ∧
    retention.legalHold = false ∧ retention.retainUntil = some (isoformat until') ∧
    until'.instant ≤ now.instant
  stored : ∃ row content, s.records.get? recordId = some row ∧
    s.files.artifacts.get? row.artifactDigest = some content
  undeleted : s.deletions.get? recordId = none
  reasoned : blank reason = false ∧ SurrogateFree reason
  dated : ∃ current, now.toUtc = .ok current

/-- The lifecycle decision for a record with a stored requirement. -/
private theorem assess_stored {objectId : Text} {level : Sensitivity} {created : Datetime}
    {policy : DataLifecyclePolicy} {now : AwareDatetime} {legalHold : Bool}
    (hid : blank objectId = false) :
    (∃ decision, assessDataLifecycle objectId level.text (.ofUtc created) policy now legalHold =
      .ok decision ∧ decision.deletionAllowed = true) ↔
    ∃ days until' current, policy.maxRetentionDays = some days ∧
      addDays created days = .ok until' ∧ now.toUtc = .ok current ∧
      until'.instant ≤ current.instant ∧ legalHold = false := by
  simp only [assessDataLifecycle, hid, Bool.not_false, require_true, ok_bind,
    Sensitivity.validate_text]
  cases hdays : policy.maxRetentionDays with
  | none =>
    apply iff_of_false
    · rintro ⟨decision, hok, hallowed⟩
      cases hok
      cases hallowed
    · rintro ⟨days, -, -, hsome, -⟩
      cases hsome
  | some days =>
    simp only [AwareDatetime.toUtc_ofUtc, ok_bind, bind_eq_ok]
    constructor
    · rintro ⟨decision, ⟨eligible, heligible, current, hcurrent, hok⟩, hallowed⟩
      rw [← Except.ok.inj hok] at hallowed
      simp only [Bool.and_eq_true, decide_eq_true_eq, Bool.not_eq_true'] at hallowed
      exact ⟨days, eligible, current, rfl, heligible, hcurrent, hallowed⟩
    · rintro ⟨days, eligible, current, hsome, heligible, hcurrent, hdue, hfree⟩
      cases hsome
      exact ⟨_, ⟨eligible, heligible, current, hcurrent, rfl⟩, by simp [hdue, hfree]⟩

@[simp] theorem parseRetainUntil_isoformat (t : Datetime) :
    parseRetainUntil (isoformat t) = .ok (.ofUtc t) := by
  rw [parseRetainUntil, fromisoformat_isoformat, orRaise_some, ok_bind]
  dsimp only
  rw [orRaise_some, ok_bind, parseAware_isoformat]

section

variable {s : Workspace} {recordId : Text} {now : AwareDatetime}
  {entry : WorkspaceRecordIndexEntry} {retention : WorkspaceRetention} {until' : Datetime}

/-- The policy a stored deadline stands for permits a deletion from that deadline on. -/
theorem retentionPolicy_stored {days : Nat} (hp : blank retention.policyId = false)
    (hu : retention.retainUntil = some (isoformat until'))
    (hadd : addDays entry.createdAt days = .ok until') :
    retentionPolicy entry retention =
      .ok ⟨retention.policyId, some days, .restricted, .internal, .restricted, hp⟩ := by
  rw [retentionPolicy, lifecyclePolicy, dif_pos hp, ok_bind, hu]
  dsimp only
  rw [parseRetainUntil_isoformat, ok_bind, retentionDays_addDays hadd, lifecyclePolicy, dif_pos hp]

/-- The adapter of a deletion permits it from the record's deadline on, without a hold. -/
theorem retentionAdapter_stored (hd : blank entry.row.artifactDigest = false)
    (hp : blank retention.policyId = false)
    (hu : retention.retainUntil = some (isoformat until')) :
    ∃ adapter, retentionAdapter entry retention = .ok adapter ∧
      ∀ now, adapter.canDelete entry.row.artifactDigest now =
        (!retention.legalHold && decide (until'.instant ≤ now.instant)) := by
  rw [retentionAdapter, hu]
  dsimp only
  rw [parseRetainUntil_isoformat, ok_bind, dif_pos ⟨hd, hp⟩]
  refine ⟨_, rfl, fun now ↦ ?_⟩
  cases retention.legalHold <;>
    simp [RetentionAdapter.canDelete, RetentionAdapter.requireRetention, Dict.set]

/-- What the stored requirement of a record says of its entry. -/
private theorem deadline_of_sound (hs : s.Sound) (hentry : s.requireRecord recordId = .ok entry)
    (hret : s.retention.get? recordId = some retention) {text : Text}
    (hu : retention.retainUntil = some text) : ∃ days until',
      addDays entry.createdAt days = .ok until' ∧ text = isoformat until' := by
  obtain ⟨row, created, days, until', hrow, hcreated, hadd, htext⟩ :=
    (hs.retention _ _ hret).deadline text (by rw [hu]; rfl)
  obtain ⟨hrow', hparse⟩ := requireRecord_spec hentry
  rw [hrow'] at hrow
  cases hrow
  rw [hcreated, parseDatetime_isoformat] at hparse
  cases hparse
  exact ⟨days, until', hadd, htext⟩

/-- A deletion is admitted exactly from a stored deadline on, without a hold. -/
theorem admitDeletion_spec (hs : s.Sound) {decision : DataLifecycleDecision}
    {adapter : RetentionAdapter}
    (h : s.admitDeletion recordId now = .ok (entry, retention, decision, adapter)) :
    s.records.get? recordId = some entry.row ∧ s.retention.get? recordId = some retention ∧
      retention.legalHold = false ∧ ∃ until' current,
        retention.retainUntil = some (isoformat until') ∧ now.toUtc = .ok current ∧
        until'.instant ≤ now.instant := by
  simp only [admitDeletion, bind_eq_ok, require_eq_ok, exists_const, orRaise_eq_ok] at h
  obtain ⟨entry, hentry, retention, hret, policy, hpolicy, decision, hdecision, hallowed, adapter,
    -, h⟩ := h
  cases h
  have hrow := (requireRecord_spec hentry).1
  obtain ⟨level, hlevel⟩ := (hs.records _ _ hrow).sensitivity
  have hgoverned := (hs.retention _ _ hret).governed
  rw [hlevel] at hdecision
  obtain ⟨days, eligible, current, hdays, heligible, hcurrent, hdue, hfree⟩ :=
    (assess_stored (not_blank_of_isSha256 (hs.records _ _ hrow).id)).mp
      ⟨decision, hdecision, hallowed⟩
  rw [AwareDatetime.instant_toUtc hcurrent] at hdue
  cases hu : retention.retainUntil with
  | none =>
    rw [retentionPolicy, lifecyclePolicy, dif_pos hgoverned, ok_bind, hu] at hpolicy
    cases hpolicy
    cases hdays
  | some text =>
    obtain ⟨days', until', hadd, htext⟩ := deadline_of_sound hs hentry hret hu
    rw [htext] at hu
    rw [retentionPolicy_stored hgoverned hu hadd] at hpolicy
    cases hpolicy
    cases hdays
    rw [hadd] at heligible
    cases heligible
    exact ⟨hrow, hret, hfree, eligible, current, congrArg some htext, hcurrent, hdue⟩

theorem admitDeletion_of_due (hs : s.Sound) {row : RecordRow} {current : Datetime}
    (hrow : s.records.get? recordId = some row) (hret : s.retention.get? recordId = some retention)
    (hfree : retention.legalHold = false)
    (hu : retention.retainUntil = some (isoformat until')) (hcurrent : now.toUtc = .ok current)
    (hdue : until'.instant ≤ now.instant) : ∃ entry decision adapter,
      s.admitDeletion recordId now = .ok (entry, retention, decision, adapter) ∧ entry.row = row ∧
        adapter.canDelete row.artifactDigest now = true := by
  obtain ⟨entry, hentry, rfl, -⟩ := requireRecord_of_sound hs hrow
  have hrecord := hs.records _ _ hrow
  have hgoverned := (hs.retention _ _ hret).governed
  obtain ⟨level, hlevel⟩ := hrecord.sensitivity
  obtain ⟨days, eligible, hadd, htext⟩ := deadline_of_sound hs hentry hret hu
  have heligible : until' = eligible := by
    have h := parseAware_isoformat until' []
    rw [htext, parseAware_isoformat] at h
    cases h
    rfl
  rw [← heligible] at hadd
  obtain ⟨decision, hdecision, hallowed⟩ : ∃ decision, assessDataLifecycle recordId level.text
      (.ofUtc entry.createdAt)
      ⟨retention.policyId, some days, .restricted, .internal, .restricted, hgoverned⟩ now
      retention.legalHold = .ok decision ∧ decision.deletionAllowed = true := by
    rw [assess_stored (not_blank_of_isSha256 hrecord.id)]
    refine ⟨days, until', current, rfl, hadd, hcurrent, ?_, hfree⟩
    rw [AwareDatetime.instant_toUtc hcurrent]
    exact hdue
  obtain ⟨adapter, hadapter, hcan⟩ := retentionAdapter_stored
    (not_blank_of_isSha256 hrecord.artifact) hgoverned hu
  have hpermits : adapter.canDelete entry.row.artifactDigest now = true := by
    rw [hcan, hfree, decide_eq_true hdue]
    rfl
  refine ⟨entry, decision, adapter, ?_, rfl, hpermits⟩
  rw [admitDeletion, hentry, ok_bind, hret, orRaise_some, ok_bind,
    retentionPolicy_stored hgoverned hu hadd, ok_bind, hlevel, hdecision, ok_bind, hallowed,
    require_true, ok_bind, hadapter, ok_bind]
  rfl

end

/-- The record of a deletion carries what it was given. -/
theorem create_eq_ok {d r : DeletionRecord} (h : DeletionRecord.create d = .ok r) :
    r = d ∧ blank d.reason = false := by
  simp only [DeletionRecord.create, bind_eq_ok, require_eq_ok, exists_const, Bool.and_eq_true,
    Bool.not_eq_true'] at h
  obtain ⟨⟨⟨-, hreason⟩, -⟩, -, level, -, -, -, h⟩ := h
  cases h
  exact ⟨rfl, hreason⟩

theorem create_of_fields {objectId digest policyId reason : Text} {level : Sensitivity}
    {current : Datetime} (hid : isSha256 objectId = true) (hd : isSha256 digest = true)
    (hp : blank policyId = false) (hr : blank reason = false) :
    DeletionRecord.create
      ⟨objectId, digest, level.text, isoformat current, policyId, reason, []⟩ =
        .ok ⟨objectId, digest, level.text, isoformat current, policyId, reason, []⟩ := by
  simp only [DeletionRecord.create, not_blank_of_isSha256 hid, hp, hr, hd, not_blank_isoformat,
    Bool.not_false, Bool.and_self, require_true, ok_bind, Sensitivity.validate_text]
  rfl

/-- A deletion that succeeds met its conditions, took the artifact and left a tombstone. -/
theorem deleteExpiredRecord_spec {s s' : Workspace} (hs : s.Sound) {recordId reason : Text}
    {now : AwareDatetime} {result : DataLifecycleDecision × DeletionRecord}
    (h : s.deleteExpiredRecord recordId now reason = (.ok result, s')) :
    s.Deletable recordId now reason ∧ ∃ row, s.records.get? recordId = some row ∧
      s'.files.artifacts = s.files.artifacts.erase row.artifactDigest := by
  unfold deleteExpiredRecord at h
  split at h
  · cases h
  · next entry retention decision adapter hadmit =>
    obtain ⟨hrow, hret, hfree, until', current, hu, hcurrent, hdue⟩ := admitDeletion_spec hs hadmit
    cases hdelete : s.files.artifacts.delete entry.row.artifactDigest adapter now
        ⟨entry.row.sensitivity, retention.policyId, reason, []⟩ with
    | mk deleted artifacts =>
      rw [hdelete] at h
      dsimp only at h
      split at h
      · cases h
      · next deletion recorded hrecorded =>
        cases h
        simp only [bind_eq_ok] at hrecorded
        obtain ⟨artifactDeletion, hdeleted, created, hcreate, after, hrecord, heq⟩ := hrecorded
        cases heq
        rw [hdeleted] at hdelete
        obtain ⟨-, ⟨content, hstored⟩, -, hbuild, hartifacts⟩ :=
          ContentAddressedArtifactStore.delete_eq_ok.mp hdelete
        rw [buildDeletionRecord, bind_eq_ok] at hbuild
        obtain ⟨time, -, hbuild⟩ := hbuild
        obtain ⟨hwritten, hnamed⟩ := create_eq_ok hbuild
        obtain ⟨hcreated, -⟩ := create_eq_ok hcreate
        obtain ⟨hafter, hundeleted, hreason⟩ := recordDeletion_spec hrecord
        rw [hcreated] at hundeleted hreason
        rw [hwritten] at hreason
        refine ⟨⟨⟨retention, until', hret, hfree, hu, hdue⟩, ⟨entry.row, content, hrow, hstored⟩,
          hundeleted, ⟨hnamed, hreason⟩, ⟨current, hcurrent⟩⟩, entry.row, hrow, ?_⟩
        rw [hafter, ← hartifacts]

/-- A deletion whose conditions are met succeeds. -/
theorem deleteExpiredRecord_of_deletable {s : Workspace} (hs : s.Sound) {recordId reason : Text}
    {now : AwareDatetime} (h : s.Deletable recordId now reason) :
    ∃ result s', s.deleteExpiredRecord recordId now reason = (.ok result, s') := by
  obtain ⟨retention, until', hret, hfree, hu, hdue⟩ := h.due
  obtain ⟨row, content, hrow, hstored⟩ := h.stored
  obtain ⟨current, hcurrent⟩ := h.dated
  obtain ⟨hnamed, hencodable⟩ := h.reasoned
  have hrecord := hs.records _ _ hrow
  have hretention := hs.retention _ _ hret
  obtain ⟨level, hlevel⟩ := hrecord.sensitivity
  obtain ⟨entry, decision, adapter, hadmit, rfl, hcan⟩ :=
    admitDeletion_of_due hs hrow hret hfree hu hcurrent hdue
  have hbuild : buildDeletionRecord entry.row.artifactDigest entry.row.artifactDigest
      entry.row.sensitivity now retention.policyId reason [] =
        .ok ⟨entry.row.artifactDigest, entry.row.artifactDigest, level.text, isoformat current,
          retention.policyId, reason, []⟩ := by
    rw [buildDeletionRecord, hcurrent, ok_bind, hlevel]
    exact create_of_fields hrecord.artifact hrecord.artifact hretention.governed hnamed
  have hdelete : s.files.artifacts.delete entry.row.artifactDigest adapter now
      ⟨entry.row.sensitivity, retention.policyId, reason, []⟩ = _ :=
    ContentAddressedArtifactStore.delete_eq_ok.mpr
      ⟨hrecord.artifact, ⟨content, hstored⟩, hcan, hbuild, rfl⟩
  rw [deleteExpiredRecord, hadmit]
  dsimp only
  rw [hdelete]
  dsimp only
  rw [ok_bind, create_of_fields hrecord.id hrecord.artifact hretention.governed hnamed, ok_bind,
    recordDeletion, bindTexts_eq_ok.mpr, ok_bind]
  · rw [show s.deletions.get? recordId = none from h.undeleted]
    exact ⟨_, _, rfl⟩
  · have hlevelled : SurrogateFree level.text := by
      cases level <;> exact surrogateFree_lit _
    simp only [List.forall_mem_cons]
    exact ⟨surrogateFree_of_isSha256 hrecord.id, surrogateFree_of_isSha256 hrecord.artifact,
      hlevelled, surrogateFree_isoformat current, hretention.encodable, hencodable, nofun⟩

/-! ### Runs -/

/-- An operation on a workspace. -/
inductive Operation where
  | ingestBytes (content : Bytes) (a : IngestionArguments)
  | ingestFile (path name : Text) (content : Option Bytes) (a : IngestionArguments)
  | applyRetention (recordId : Text) (policy : DataLifecyclePolicy) (legalHold : Bool)
      (now : AwareDatetime)
  | deleteExpired (recordId : Text) (now : AwareDatetime) (reason : Text)

/-- One operation. -/
def apply (governance : Option PrivacyGovernance) (s : Workspace) :
    Operation → Except PyError Unit × Workspace
  | .ingestBytes content a => s.ingestBytes governance content a
  | .ingestFile path name content a => s.ingestFile governance path name content a
  | .applyRetention recordId policy legalHold now =>
    match s.applyRetention recordId policy legalHold now with
    | .error e => (.error e, s)
    | .ok s => (.ok (), s)
  | .deleteExpired recordId now reason =>
    ((s.deleteExpiredRecord recordId now reason).1.map fun _ ↦ (),
      (s.deleteExpiredRecord recordId now reason).2)

/-- The receipt and the artifact of an indexed record verify, `verify` at
`workspace/integration.py:123–125`. -/
def verifyRecord (s : Workspace) (recordId : Text) : Except PyError Unit := do
  let entry ← s.requireRecord recordId
  let receipt ← s.hydrate entry
  s.files.verify receipt

/-- Evidence that must be kept: no requirement is registered, there is a hold, or the deadline is
still ahead. -/
def MustKeep (s : Workspace) (recordId : Text) (now : AwareDatetime) : Prop :=
  ∀ retention, s.retention.get? recordId = some retention → retention.legalHold = true ∨
    ∀ text ∈ retention.retainUntil, ∀ deadline, parseRetainUntil text = .ok deadline →
      now.instant < deadline.instant

/-- Another record of equal bytes, not deleted, whose evidence must be kept. -/
structure Shares (s : Workspace) (recordId other : Text) (now : AwareDatetime) : Prop where
  ne : other ≠ recordId
  equal : ∃ row shared, s.records.get? recordId = some row ∧ s.records.get? other = some shared ∧
    shared.artifactDigest = row.artifactDigest
  undeleted : s.deletions.get? other = none
  kept : s.MustKeep other now

/-- A deletion that succeeds leaves the evidence that others must keep: the artifact is present
and the record verifies. -/
def KeepsShared (s : Workspace) : Operation → Prop
  | .deleteExpired recordId now reason =>
    ∀ result s', s.deleteExpiredRecord recordId now reason = (.ok result, s') →
      ∀ other shared, s.Shares recordId other now → s.records.get? other = some shared →
        s'.files.artifacts.get? shared.artifactDigest ≠ none ∧ s'.verifyRecord other = .ok ()
  | _ => True

/-- A deletion that takes place meets no other record of equal bytes that must be kept. -/
def Unshared (s : Workspace) : Operation → Prop
  | .deleteExpired recordId now reason =>
    s.Deletable recordId now reason → ∀ other, ¬s.Shares recordId other now
  | _ => True

variable {governance : Option PrivacyGovernance} {s : Workspace} {op : Operation}

/-- The tables stay as the operations write them. -/
theorem apply_sound (hs : s.Sound) : (apply governance s op).2.Sound := by
  cases op with
  | ingestBytes content a => exact ingestBytes_sound hs content a
  | ingestFile path name content a =>
    cases content with
    | none => exact hs
    | some content => exact ingestBytes_sound hs content _
  | applyRetention recordId policy legalHold now =>
    rw [apply]
    split
    · exact hs
    · next s' h => exact applyRetention_sound hs h
  | deleteExpired recordId now reason =>
    obtain ⟨hrecords, hretention⟩ := deleteExpiredRecord_tables s recordId now reason
    constructor
    · rw [apply, hrecords]
      exact hs.records
    · rw [apply, hrecords, hretention]
      exact hs.retention

/-- In a sound workspace a deletion leaves what others must keep exactly when, if it takes place,
nobody shares its artifact. -/
private theorem keepsShared_iff (hs : s.Sound) : KeepsShared s op ↔ Unshared s op := by
  cases op with
  | ingestBytes | ingestFile | applyRetention => exact Iff.rfl
  | deleteExpired recordId now reason =>
    constructor
    · intro hkeeps hdeletable other hshares
      obtain ⟨result, s', hdelete⟩ := deleteExpiredRecord_of_deletable hs hdeletable
      obtain ⟨-, row, hrow, hartifacts⟩ := deleteExpiredRecord_spec hs hdelete
      obtain ⟨row', shared, hrow', hshared, hequal⟩ := hshares.equal
      rw [hrow] at hrow'
      cases hrow'
      apply (hkeeps result s' hdelete other shared hshares hshared).1
      rw [hartifacts, hequal, Dict.get?_erase, if_pos rfl]
    · intro hunshared result s' hdelete other shared hshares
      have hdeletable := (deleteExpiredRecord_spec hs hdelete).1
      exact absurd hshares (hunshared hdeletable other)

private theorem along_keepsShared_iff (ops : List Operation) :
    Along (apply governance) KeepsShared empty ops ↔
      Along (apply governance) Unshared empty ops :=
  along_iff (J := Sound) (fun _ _ hs ↦ keepsShared_iff hs) (fun _ _ hs _ ↦ apply_sound hs)
    sound_empty ops

/-- Along every run, deletions leave the evidence that other records must keep exactly when no
deletion that takes place meets another record of equal bytes that must be kept. -/
theorem keeps_shared_evidence_iff (governance : Option PrivacyGovernance)
    (ops : List Operation) : Along (apply governance) KeepsShared empty ops ↔
      Along (apply governance) Unshared empty ops :=
  along_keepsShared_iff ops

/-! ### Two events with equal bytes -/

/-- An empty report of the event `event`. -/
private def emptyReport (event : String) : IngestionArguments :=
  ⟨lit "tool", lit "scanner", lit "report.json", .ofUtc RetentionAdapter.epoch, some (lit event),
    none, none, [], lit "internal"⟩

/-- The identity of the record of an event. -/
private def eventRecord (event : String) : Text :=
  sha256 (Utf8.ascii (lit "\x7b\x22producer_id\x22:\x22scanner\x22,\x22producer_type\x22:" ++
    lit "\x22tool\x22,\x22source_event_id\x22:\x22" ++ lit event ++ lit "\x22\x7d"))

/-- Nothing is retained for longer than a moment. -/
private def noRetention : DataLifecyclePolicy :=
  ⟨lit "default", some 0, .restricted, .internal, .restricted, .refl false⟩

/-- Two events with equal bytes, the second under hold. -/
private def sharedBytes : List Operation :=
  [.ingestBytes [] (emptyReport "1"), .ingestBytes [] (emptyReport "2"),
    .applyRetention (eventRecord "1") noRetention false (.ofUtc RetentionAdapter.epoch),
    .applyRetention (eventRecord "2") noRetention true (.ofUtc RetentionAdapter.epoch)]

private def deleteFirst : Operation :=
  .deleteExpired (eventRecord "1") (.ofUtc RetentionAdapter.epoch) (lit "retention expired")

private def deleteFirstFrom (s : Workspace) :=
  s.deleteExpiredRecord (eventRecord "1") (.ofUtc RetentionAdapter.epoch) (lit "retention expired")

/-- What the run left: the first record can be deleted, and the second has its artifact, no
tombstone and a hold. -/
private theorem after_sharedBytes :
    (deleteFirstFrom (run (apply none) empty sharedBytes)).1.toBool = true ∧
    eventRecord "2" ≠ eventRecord "1" ∧
    ((run (apply none) empty sharedBytes).records.get? (eventRecord "1")).map
      RecordRow.artifactDigest = some (sha256 []) ∧
    ((run (apply none) empty sharedBytes).records.get? (eventRecord "2")).map
      RecordRow.artifactDigest = some (sha256 []) ∧
    ((run (apply none) empty sharedBytes).deletions.get? (eventRecord "2")).isNone = true ∧
    ((run (apply none) empty sharedBytes).retention.get? (eventRecord "2")).map
      WorkspaceRetention.legalHold = some true := by
  decide +kernel

/-- After the first event's record is deleted, the bytes that the second must keep are gone. -/
theorem not_keeps_shared_evidence : ¬∀ governance ops,
    Along (apply governance) KeepsShared empty ops := by
  intro h
  have hops := (along_keepsShared_iff (sharedBytes ++ [deleteFirst])).mp (h none _)
  have hunshared := along_iff_forall_split.mp hops sharedBytes deleteFirst [] rfl
  have hsound : (run (apply none) empty sharedBytes).Sound := by
    apply Along.keeps (fun s op hs _ ↦ apply_sound hs) sound_empty
    exact along_of_forall (P := fun _ _ ↦ True) (fun _ _ ↦ trivial) _ _
  obtain ⟨hok, hne, hfirst, hsecond, hnone, hheld⟩ := after_sharedBytes
  cases hdelete : deleteFirstFrom (run (apply none) empty sharedBytes) with
  | mk result s' =>
    rw [hdelete] at hok
    cases result with
    | error e => cases hok
    | ok result =>
      have hdeletable := (deleteExpiredRecord_spec hsound hdelete).1
      refine hunshared hdeletable (eventRecord "2") ⟨hne, ?_, ?_, ?_⟩
      · obtain ⟨row, hrow, heq⟩ := Option.map_eq_some_iff.mp hfirst
        obtain ⟨shared, hshared, heq'⟩ := Option.map_eq_some_iff.mp hsecond
        exact ⟨row, shared, hrow, hshared, heq'.trans heq.symm⟩
      · exact Option.isNone_iff_eq_none.mp hnone
      · intro retention hget
        rw [hget] at hheld
        exact .inl (Option.some.inj hheld)

end StateWake.Lifecycle.Workspace
