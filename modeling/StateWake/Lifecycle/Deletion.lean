import StateWake.Lifecycle.RunIndex

/-!
# The effects of a deletion

`delete_expired_record`, `workspace/lifecycle.py:106–176`. The artifact is unlinked before the
tombstone is made and inserted, and what raises in between leaves neither.
-/

namespace StateWake.Lifecycle.Workspace

open StateWake.Base Text Utils

/-- A deletion comes to its effects: the requirement has a deadline that has passed and no hold,
the artifact is there, and the clock can be read. -/
structure Due (s : Workspace) (recordId : Text) (now : AwareDatetime) (row : RecordRow) : Prop where
  due : ∃ retention until', s.retention.get? recordId = some retention ∧
    retention.legalHold = false ∧ retention.retainUntil = some (isoformat until') ∧
    until'.instant ≤ now.instant
  recorded : s.records.get? recordId = some row
  stored : ∃ content, s.files.artifacts.get? row.artifactDigest = some content
  dated : ∃ current, now.toUtc = .ok current

/-- The tombstone of a deletion can be made and inserted: its reason says something and can be
stored, and there is no tombstone. -/
structure Recordable (s : Workspace) (recordId reason : Text) : Prop where
  undeleted : s.deletions.get? recordId = none
  reasoned : blank reason = false ∧ SurrogateFree reason

/-- The workspace once the artifact of a row is unlinked. -/
def unlinked (s : Workspace) (row : RecordRow) : Workspace :=
  { s with files := { s.files with artifacts := s.files.artifacts.erase row.artifactDigest } }

/-- What a deletion comes to. -/
inductive DeletionOutcome (s : Workspace) (recordId reason : Text) (now : AwareDatetime) :
    Except PyError (DataLifecycleDecision × DeletionRecord) × Workspace → Prop where
  | refused (e : PyError) (refuses : ∀ row, ¬s.Due recordId now row) :
      DeletionOutcome s recordId reason now (.error e, s)
  | lost (e : PyError) (row : RecordRow) (due : s.Due recordId now row)
      (unrecordable : ¬s.Recordable recordId reason) :
      DeletionOutcome s recordId reason now (.error e, s.unlinked row)
  | deleted (decision : DataLifecycleDecision) (d : DeletionRecord) (row : RecordRow)
      (due : s.Due recordId now row) (recordable : s.Recordable recordId reason)
      (object : d.objectId = recordId) (digest : d.digest = row.artifactDigest)
      (valid : DeletionRecord.create d = .ok d) :
      DeletionOutcome s recordId reason now (.ok (decision, d),
        { s.unlinked row with deletions := s.deletions.set recordId d })

/-- The conditions of a deletion that succeeds. -/
theorem deletable_of_due {s : Workspace} {recordId reason : Text} {now : AwareDatetime}
    {row : RecordRow} (hdue : s.Due recordId now row) (hr : s.Recordable recordId reason) :
    s.Deletable recordId now reason := by
  obtain ⟨content, hcontent⟩ := hdue.stored
  exact ⟨hdue.due, ⟨row, content, hdue.recorded, hcontent⟩, hr.undeleted, hr.reasoned, hdue.dated⟩

/-- The store gives an artifact up where the adapter permits it. -/
theorem delete_of_permitted {files : ContentAddressedArtifactStore} {digest : Text}
    {retention : RetentionAdapter} {now : AwareDatetime} {content : Bytes}
    (hdigest : isSha256 digest = true) (hstored : files.get? digest = some content)
    (hcan : retention.canDelete digest now = true)
    (d : ContentAddressedArtifactStore.Deletion) :
    files.delete digest retention now d =
      (buildDeletionRecord digest digest d.sensitivity now d.policyId d.reason d.derivedFrom,
        files.erase digest) := by
  rw [ContentAddressedArtifactStore.delete, ContentAddressedArtifactStore.pathFor, hdigest,
    require_true, ok_bind, hstored, orRaise_some, ok_bind, hcan, require_true]

/-- Without the artifact the store is left alone. -/
theorem delete_of_missing {files : ContentAddressedArtifactStore} {digest : Text}
    (retention : RetentionAdapter) (now : AwareDatetime) (hmissing : files.get? digest = none)
    (d : ContentAddressedArtifactStore.Deletion) :
    ∃ e, files.delete digest retention now d = (.error e, files) := by
  rw [ContentAddressedArtifactStore.delete, ContentAddressedArtifactStore.pathFor, hmissing]
  cases isSha256 digest with
  | false => exact ⟨_, rfl⟩
  | true => exact ⟨_, rfl⟩

/-- Every deletion comes to one of these. -/
theorem deleteExpiredRecord_outcome {s : Workspace} (hs : s.Sound) (recordId reason : Text)
    (now : AwareDatetime) :
    DeletionOutcome s recordId reason now (s.deleteExpiredRecord recordId now reason) := by
  cases hadmitted : s.admitDeletion recordId now with
  | error e =>
    rw [deleteExpiredRecord, hadmitted]
    refine .refused e fun row h ↦ ?_
    obtain ⟨retention, until', hret, hfree, hu, hdue⟩ := h.due
    obtain ⟨current, hcurrent⟩ := h.dated
    obtain ⟨entry, decision, adapter, hok, -⟩ :=
      admitDeletion_of_due hs h.recorded hret hfree hu hcurrent hdue
    rw [hadmitted] at hok
    cases hok
  | ok admitted =>
    obtain ⟨entry, retention, decision, adapter⟩ := admitted
    obtain ⟨hrow, hret, hfree, until', current, hu, hcurrent, hdue⟩ :=
      admitDeletion_spec hs hadmitted
    obtain ⟨entry', decision', adapter', hadmitted', hentry, hcan⟩ :=
      admitDeletion_of_due hs hrow hret hfree hu hcurrent hdue
    rw [hadmitted] at hadmitted'
    cases hadmitted'
    cases hstored : s.files.artifacts.get? entry.row.artifactDigest with
    | none =>
      obtain ⟨e, hdelete⟩ := delete_of_missing adapter now hstored
        ⟨entry.row.sensitivity, retention.policyId, reason, []⟩
      rw [deleteExpiredRecord, hadmitted]
      dsimp only
      rw [hdelete, error_bind]
      refine .refused e fun row h ↦ ?_
      obtain ⟨content, hcontent⟩ := h.stored
      have hrecorded := h.recorded
      rw [hrow] at hrecorded
      cases hrecorded
      rw [hstored] at hcontent
      cases hcontent
    | some content =>
      have hdueRow : s.Due recordId now entry.row :=
        ⟨⟨retention, until', hret, hfree, hu, hdue⟩, hrow, ⟨content, hstored⟩, current, hcurrent⟩
      have hdelete := delete_of_permitted (hs.records _ _ hrow).artifact hstored hcan
        ⟨entry.row.sensitivity, retention.policyId, reason, []⟩
      cases hresult : s.deleteExpiredRecord recordId now reason with
      | mk result after =>
        have hunfold := hresult
        rw [deleteExpiredRecord, hadmitted] at hunfold
        dsimp only at hunfold
        rw [hdelete] at hunfold
        dsimp only at hunfold
        split at hunfold
        · next e hrecorded =>
          cases hunfold
          refine .lost e entry.row hdueRow fun hr ↦ ?_
          obtain ⟨result, after, hok⟩ :=
            deleteExpiredRecord_of_deletable hs (deletable_of_due hdueRow hr)
          rw [hresult] at hok
          cases hok
        · next d recorded hrecorded =>
          cases hunfold
          simp only [bind_eq_ok] at hrecorded
          obtain ⟨built, hbuilt, d', hcreate, after, hinserted, heq⟩ := hrecorded
          cases heq
          obtain ⟨hafter, hundeleted, hencodable⟩ := recordDeletion_spec hinserted
          obtain ⟨hd, hreason⟩ := create_eq_ok hcreate
          rw [buildDeletionRecord, bind_eq_ok] at hbuilt
          obtain ⟨time, -, hbuilt⟩ := hbuilt
          obtain ⟨hwritten, hnamed⟩ := create_eq_ok hbuilt
          have hobject : d.objectId = recordId := by rw [hd]
          rw [hobject] at hundeleted hafter
          have hrecordable : s.Recordable recordId reason := by
            refine ⟨hundeleted, hnamed, ?_⟩
            rw [hd, hwritten] at hencodable
            exact hencodable
          rw [hafter]
          refine .deleted decision d entry.row hdueRow hrecordable hobject ?_ ?_
          · rw [hd, hwritten]
          · rw [← hd] at hcreate
            exact hcreate

end StateWake.Lifecycle.Workspace
