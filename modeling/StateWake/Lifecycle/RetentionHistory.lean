import StateWake.Base.Raising
import StateWake.Lifecycle.Verifiability

/-!
# The last requirement of a record

Runs of a workspace seen by one record: beside the workspace stands the policy and the hold that
`apply_retention` last gave the record. The stored deadline, the one a deletion rebuilds from whole
days and the one the adapter enforces are that of this policy.
-/

namespace StateWake.Lifecycle.Workspace

open StateWake.Base Text Utils Calls

/-! ### Tracking the last requirement -/

/-- A workspace, and the policy and the hold that a record was last given. -/
structure Tracked where
  workspace : Workspace
  applied : Option (DataLifecyclePolicy × Bool)

/-- What a record was last given after an operation. -/
def appliedAfter (recordId : Text) (applied : Option (DataLifecyclePolicy × Bool))
    (op : Operation) (result : Except PyError Unit) : Option (DataLifecyclePolicy × Bool) :=
  match op, result with
  | .applyRetention id policy legalHold _, .ok _ =>
    if id = recordId then some (policy, legalHold) else applied
  | _, _ => applied

/-- One operation. -/
def track (governance : Option PrivacyGovernance) (recordId : Text) (t : Tracked)
    (op : Operation) : Except PyError Unit × Tracked :=
  ((apply governance t.workspace op).1,
    ⟨(apply governance t.workspace op).2,
      appliedAfter recordId t.applied op (apply governance t.workspace op).1⟩)

/-- A new workspace. -/
def untracked : Tracked := ⟨empty, none⟩

/-- The stored form of the deadline that a policy sets, where it sets one. -/
def deadlineText (created : Datetime) (policy : DataLifecyclePolicy) :
    Except PyError (Option Text) :=
  match policy.maxRetentionDays with
  | none => .ok none
  | some days => do
    let until' ← addDays created days
    pure (some (isoformat until'))

/-- The stored requirement of a record is that of a policy and a hold. -/
structure Requires (s : Workspace) (recordId : Text) (policy : DataLifecyclePolicy)
    (legalHold : Bool) (row : RecordRow) (created : Datetime) (retainUntil : Option Text) :
    Prop where
  recorded : s.records.get? recordId = some row
  begun : row.createdAt = isoformat created
  deadline : deadlineText created policy = .ok retainUntil
  stored : s.retention.get? recordId =
    some ⟨recordId, policy.policyId, row.sensitivity, retainUntil, legalHold⟩

/-- The tables hold what the record was last given. -/
structure Kept (recordId : Text) (t : Tracked) : Prop where
  sound : t.workspace.Sound
  none : t.applied = none → t.workspace.retention.get? recordId = none
  some : ∀ policy legalHold, t.applied = some (policy, legalHold) →
    ∃ row created retainUntil,
      Requires t.workspace recordId policy legalHold row created retainUntil

theorem kept_untracked (recordId : Text) : Kept recordId untracked :=
  ⟨sound_empty, fun _ ↦ rfl, nofun⟩

variable {governance : Option PrivacyGovernance} {recordId : Text} {t : Tracked}

/-- A requirement stays that of its policy while no row and no requirement changes. -/
theorem Requires.mono {s s' : Workspace} {policy : DataLifecyclePolicy} {legalHold : Bool}
    {row : RecordRow} {created : Datetime} {retainUntil : Option Text}
    (h : Requires s recordId policy legalHold row created retainUntil)
    (hrecords : ∀ row, s.records.get? recordId = some row → s'.records.get? recordId = some row)
    (hretention : s'.retention.get? recordId = s.retention.get? recordId) :
    Requires s' recordId policy legalHold row created retainUntil :=
  ⟨hrecords row h.recorded, h.begun, h.deadline, hretention.trans h.stored⟩

/-- What a lifecycle decision says of the deadline is what the policy sets. -/
theorem retainUntil_of_assess {objectId sensitivity : Text} {createdAt : AwareDatetime}
    {created : Datetime} {policy : DataLifecyclePolicy} {now : AwareDatetime} {legalHold : Bool}
    {d : DataLifecycleDecision} (hcreated : createdAt.toUtc = .ok created)
    (h : assessDataLifecycle objectId sensitivity createdAt policy now legalHold = .ok d) :
    deadlineText created policy = .ok d.retainUntil := by
  simp only [assessDataLifecycle, bind_eq_ok, require_eq_ok, exists_const] at h
  obtain ⟨-, level, -, h⟩ := h
  rw [deadlineText]
  cases hdays : policy.maxRetentionDays with
  | none =>
    rw [hdays] at h
    cases h
    rfl
  | some days =>
    rw [hdays] at h
    simp only [hcreated, ok_bind, bind_eq_ok] at h
    obtain ⟨eligible, heligible, current, -, h⟩ := h
    rw [← Except.ok.inj h]
    dsimp only
    rw [heligible]
    rfl

/-- What a successful `apply_retention` leaves. -/
theorem applyRetention_spec {s s' : Workspace} {id : Text} {policy : DataLifecyclePolicy}
    {legalHold : Bool} {now : AwareDatetime} (hs : s.Sound)
    (h : s.applyRetention id policy legalHold now = .ok s') : ∃ row created retainUntil,
      Requires s' id policy legalHold row created retainUntil ∧
        s' = { s with retention := s'.retention } ∧
        ∀ other, other ≠ id → s'.retention.get? other = s.retention.get? other := by
  rw [applyRetention, bind_eq_ok] at h
  obtain ⟨entry, hentry, h⟩ := h
  rw [bind_eq_ok] at h
  obtain ⟨decision, hdecision, h⟩ := h
  rw [bind_eq_ok] at h
  obtain ⟨⟨⟩, -, h⟩ := h
  rw [← Except.ok.inj h]
  obtain ⟨hrow, hparse⟩ := requireRecord_spec hentry
  obtain ⟨created, hcreated⟩ := (hs.records id entry.row hrow).created
  rw [hcreated, parseDatetime_isoformat] at hparse
  cases hparse
  refine ⟨entry.row, entry.createdAt, decision.retainUntil,
    ⟨hrow, hcreated, retainUntil_of_assess (AwareDatetime.toUtc_ofUtc _) hdecision, ?_⟩, rfl, ?_⟩
  · rw [Dict.get?_set, if_pos rfl]
  · intro other hother
    rw [Dict.get?_set, if_neg hother]

/-- Ingestion changes no requirement. -/
theorem ingestBytes_retention (governance : Option PrivacyGovernance) (s : Workspace)
    (content : Bytes) (a : IngestionArguments) :
    (s.ingestBytes governance content a).2.retention = s.retention := by
  unfold ingestBytes
  split
  · rfl
  · dsimp only
    split
    · rfl
    · next s' h =>
      rw [bind_eq_ok] at h
      obtain ⟨r, -, h⟩ := h
      exact (indexRecord_spec h).2.1

/-- An operation other than `apply_retention` leaves what the record was given. -/
private theorem kept_of_tables (h : Kept recordId t) {s' : Workspace} (hsound : s'.Sound)
    (hrecords : ∀ row, t.workspace.records.get? recordId = some row →
      s'.records.get? recordId = some row)
    (hretention : s'.retention.get? recordId = t.workspace.retention.get? recordId) :
    Kept recordId ⟨s', t.applied⟩ := by
  refine ⟨hsound, fun hnone ↦ hretention.trans (h.none hnone), fun policy legalHold hsome ↦ ?_⟩
  obtain ⟨row, created, retainUntil, hrequires⟩ := h.some policy legalHold hsome
  exact ⟨row, created, retainUntil, hrequires.mono hrecords hretention⟩

/-- Every operation keeps what the record was last given. -/
theorem track_kept (h : Kept recordId t) (op : Operation) :
    Kept recordId (track governance recordId t op).2 := by
  have hsound : (apply governance t.workspace op).2.Sound := apply_sound h.sound
  cases op with
  | ingestBytes content a =>
    exact kept_of_tables h hsound
      ((ingestBytes_tables governance t.workspace content a).2 recordId)
      (congrArg (fun d ↦ Dict.get? d recordId)
        (ingestBytes_retention governance t.workspace content a))
  | ingestFile path name content a =>
    cases content with
    | none => exact h
    | some content =>
      exact kept_of_tables h hsound
        ((ingestBytes_tables governance t.workspace content _).2 recordId)
        (congrArg (fun d ↦ Dict.get? d recordId)
          (ingestBytes_retention governance t.workspace content _))
  | applyRetention id policy legalHold now =>
    rw [track, apply]
    cases happly : t.workspace.applyRetention id policy legalHold now with
    | error e => exact h
    | ok s' =>
      obtain ⟨row, created, retainUntil, hrequires, hrest, hothers⟩ :=
        applyRetention_spec h.sound happly
      have hsound' : s'.Sound := applyRetention_sound h.sound happly
      dsimp only [appliedAfter]
      by_cases hid : id = recordId
      · subst hid
        rw [if_pos rfl]
        refine ⟨hsound', by rintro ⟨⟩, fun policy' legalHold' hsome ↦ ?_⟩
        cases hsome
        exact ⟨row, created, retainUntil, hrequires⟩
      · rw [if_neg hid]
        apply kept_of_tables h hsound'
        · rw [hrest]
          exact fun _ hrow ↦ hrow
        · exact hothers recordId (Ne.symm hid)
  | deleteExpired id now reason =>
    obtain ⟨hrecords, hretention⟩ := deleteExpiredRecord_tables t.workspace id now reason
    apply kept_of_tables h hsound
    · intro row hrow
      rw [apply, hrecords]
      exact hrow
    · rw [apply, hretention]

/-- After every run the tables hold what the record was last given. -/
theorem kept_run (governance : Option PrivacyGovernance) (recordId : Text) (ops : List Operation) :
    Kept recordId (run (track governance recordId) untracked ops) := by
  have hsteps : Along (track governance recordId) (fun _ _ ↦ True) untracked ops :=
    along_of_forall (fun _ _ ↦ trivial) _ _
  exact hsteps.keeps (J := Kept recordId) (fun _ op h _ ↦ track_kept h op)
    (kept_untracked recordId)

/-! ### One deadline -/

/-- The deadline of a record is one in all its forms: it counts the policy's days from the creation,
a deletion rebuilds it from whole days, and the adapter enforces it. A deletion that succeeds comes
at or after it and meets no hold; one that does is not refused by retention. -/
structure Honoured (s : Workspace) (recordId : Text) (policy : DataLifecyclePolicy)
    (legalHold : Bool) (row : RecordRow) (created : Datetime) (retainUntil : Option Text) :
    Prop where
  requires : Requires s recordId policy legalHold row created retainUntil
  counted : ∀ text ∈ retainUntil, ∃ days until', policy.maxRetentionDays = some days ∧
    text = isoformat until' ∧ until'.instant = created.instant + days * microsPerDay
  rebuilt : ∃ entry rebuilt, s.requireRecord recordId = .ok entry ∧ entry.row = row ∧
    retentionPolicy entry ⟨recordId, policy.policyId, row.sensitivity, retainUntil, legalHold⟩ =
      .ok rebuilt ∧ deadlineText entry.createdAt rebuilt = .ok retainUntil ∧
    ∀ until', retainUntil = some (isoformat until') → ∃ adapter,
      retentionAdapter entry
        ⟨recordId, policy.policyId, row.sensitivity, retainUntil, legalHold⟩ = .ok adapter ∧
      ∀ now, adapter.canDelete row.artifactDigest now =
        (!legalHold && decide (until'.instant ≤ now.instant))
  deletes : ∀ now reason result s', s.deleteExpiredRecord recordId now reason = (.ok result, s') →
    legalHold = false ∧ ∃ until', retainUntil = some (isoformat until') ∧
      until'.instant ≤ now.instant
  unblocked : ∀ now reason until' e s', legalHold = false →
    retainUntil = some (isoformat until') → until'.instant ≤ now.instant →
      s.deleteExpiredRecord recordId now reason = (.error e, s') → e.kind ≠ .permissionError

section

variable {s : Workspace} {policy : DataLifecyclePolicy} {legalHold : Bool} {row : RecordRow}
  {created : Datetime} {retainUntil : Option Text} {now : AwareDatetime} {reason : Text}

/-- A deadline as it is stored counts the days of its policy. -/
private theorem counted_of_deadlineText (h : deadlineText created policy = .ok retainUntil) :
    ∀ text ∈ retainUntil, ∃ days until', policy.maxRetentionDays = some days ∧
      addDays created days = .ok until' ∧ text = isoformat until' := by
  rw [deadlineText] at h
  cases hdays : policy.maxRetentionDays with
  | none =>
    rw [hdays] at h
    cases h
    exact nofun
  | some days =>
    rw [hdays] at h
    dsimp only at h
    rw [bind_eq_ok] at h
    obtain ⟨until', hadd, h⟩ := h
    cases h
    intro text htext
    exact ⟨days, until', rfl, hadd, (Option.mem_some_iff.mp htext).symm⟩

/-- The policy that a deletion rebuilds sets the deadline again. -/
private theorem rebuilt_of_requires (hs : s.Sound)
    (h : Requires s recordId policy legalHold row created retainUntil) :
    ∃ entry rebuilt, s.requireRecord recordId = .ok entry ∧ entry.row = row ∧
      retentionPolicy entry ⟨recordId, policy.policyId, row.sensitivity, retainUntil, legalHold⟩ =
        .ok rebuilt ∧ deadlineText entry.createdAt rebuilt = .ok retainUntil := by
  obtain ⟨entry, hentry, rfl, hcreated⟩ := requireRecord_of_sound hs h.recorded
  obtain rfl : entry.createdAt = created := isoformat_injective (hcreated.symm.trans h.begun)
  cases hretain : retainUntil with
  | none =>
    refine ⟨entry, ⟨policy.policyId, none, .restricted, .internal, .restricted, policy.governed⟩,
      hentry, rfl, ?_, rfl⟩
    rw [retentionPolicy, lifecyclePolicy, dif_pos policy.governed]
    rfl
  | some text =>
    obtain ⟨days, until', -, hadd, rfl⟩ := counted_of_deadlineText h.deadline text hretain
    refine ⟨entry,
      ⟨policy.policyId, some days, .restricted, .internal, .restricted, policy.governed⟩,
      hentry, rfl, ?_, ?_⟩
    · exact @retentionPolicy_stored entry ⟨recordId, policy.policyId, _, _, legalHold⟩ until' days
        policy.governed rfl hadd
    · dsimp only [deadlineText]
      rw [hadd]
      rfl

/-- An error that is no refusal. -/
private def Other (kind : ErrorKind) : Prop := kind ≠ .permissionError

/-- A time that has none in UTC overflows. -/
private theorem toUtc_other (t : AwareDatetime) : RaisesOnly Other t.toUtc := by
  intro e h
  unfold AwareDatetime.toUtc at h
  dsimp only at h
  split at h
  · split at h
    · cases h
    · cases h
      intro hkind
      cases hkind
  · split at h
    · cases h
    · split at h
      · cases h
      · cases h
        intro hkind
        cases hkind

private theorem create_other (d : DeletionRecord) : RaisesOnly Other (DeletionRecord.create d) := by
  unfold DeletionRecord.create
  refine .bind (.require nofun) fun _ _ ↦ .bind (.require nofun) fun _ _ ↦
    .bind (.orRaise nofun) fun _ _ ↦ .bind (.require nofun) fun _ _ ↦
    .bind (.require nofun) fun _ _ ↦ .ok _

private theorem recordDeletion_other (s : Workspace) (d : DeletionRecord) :
    RaisesOnly Other (s.recordDeletion d) := by
  unfold recordDeletion
  exact .bind (.require nofun) fun _ _ ↦ .bind (.require nofun) fun _ _ ↦ .ok _

/-- A lifecycle decision is no refusal, and neither is what it raises. -/
private theorem assess_other (objectId sensitivity : Text) (createdAt : AwareDatetime)
    (policy : DataLifecyclePolicy) (now : AwareDatetime) (legalHold : Bool) :
    RaisesOnly Other
      (assessDataLifecycle objectId sensitivity createdAt policy now legalHold) := by
  unfold assessDataLifecycle
  refine .bind (.require nofun) fun _ _ ↦ .bind (.orRaise nofun) fun _ _ ↦ ?_
  dsimp only
  split
  · exact .ok _
  · refine .bind (toUtc_other _) fun _ _ ↦ .bind ?_ fun _ _ ↦ .bind (toUtc_other _) fun _ _ ↦ .ok _
    intro e he
    rw [Other, addDays_error he]
    nofun

/-- Where the requirement is met an attempt at deletion is not refused. -/
private theorem unblocked_of_requires (hs : s.Sound) {until' : Datetime}
    (h : Requires s recordId policy false row created (some (isoformat until')))
    (hdue : until'.instant ≤ now.instant) {e : PyError} {s' : Workspace}
    (hdelete : s.deleteExpiredRecord recordId now reason = (.error e, s')) : Other e.kind := by
  have hrecord := hs.records _ _ h.recorded
  cases hcurrent : now.toUtc with
  | error overflow =>
    -- the clock has no UTC time: the lifecycle decision raises
    obtain ⟨entry, rebuilt, hentry, hrow, hpolicy, hdeadline⟩ := rebuilt_of_requires hs h
    have hadmit : ∃ e, s.admitDeletion recordId now = .error e ∧ Other e.kind := by
      rw [admitDeletion, hentry, ok_bind, h.stored, orRaise_some, ok_bind, hpolicy, ok_bind]
      cases hassess : assessDataLifecycle recordId entry.row.sensitivity (.ofUtc entry.createdAt)
          rebuilt now false with
      | error e => exact ⟨e, rfl, assess_other _ _ _ _ _ _ e hassess⟩
      | ok d =>
        obtain ⟨days, -, hdays, -⟩ := counted_of_deadlineText hdeadline _ rfl
        obtain ⟨level, hlevel⟩ := hrecord.sensitivity
        rw [hrow, hlevel] at hassess
        obtain ⟨current, hclock⟩ := ((exists_decision_iff (not_blank_of_isSha256 hrecord.id)).mp
          ⟨d, hassess⟩ days hdays).clock
        rw [hcurrent] at hclock
        cases hclock
    obtain ⟨e', hadmit, hother⟩ := hadmit
    rw [deleteExpiredRecord, hadmit] at hdelete
    cases hdelete
    exact hother
  | ok current =>
    obtain ⟨entry, decision, adapter, hadmit, rfl, hcan⟩ :=
      admitDeletion_of_due hs h.recorded h.stored rfl rfl hcurrent hdue
    rw [deleteExpiredRecord, hadmit] at hdelete
    dsimp only at hdelete
    cases hstored : s.files.artifacts.get? entry.row.artifactDigest with
    | none =>
      rw [ContentAddressedArtifactStore.delete, ContentAddressedArtifactStore.pathFor,
        hrecord.artifact, require_true, ok_bind, hstored, orRaise_none, error_bind] at hdelete
      dsimp only at hdelete
      rw [error_bind] at hdelete
      cases hdelete
      intro hkind
      cases hkind
    | some content =>
      rw [delete_of_permitted hrecord.artifact hstored hcan] at hdelete
      dsimp only at hdelete
      split at hdelete
      · next e' hrecorded =>
        cases hdelete
        apply RaisesOnly.bind _ _ e hrecorded
        · exact .bind (toUtc_other _) fun _ _ ↦ create_other _
        · exact fun _ _ ↦ .bind (create_other _) fun _ _ ↦
            .bind (recordDeletion_other _ _) fun _ _ ↦ .ok _
      · cases hdelete

/-- What a record was last given is honoured. -/
private theorem honoured_of_requires (hs : s.Sound)
    (h : Requires s recordId policy legalHold row created retainUntil) :
    Honoured s recordId policy legalHold row created retainUntil := by
  refine ⟨h, ?_, ?_, ?_, ?_⟩
  · intro text htext
    obtain ⟨days, until', hdays, hadd, hwritten⟩ := counted_of_deadlineText h.deadline text htext
    exact ⟨days, until', hdays, hwritten, instant_addDays hadd⟩
  · obtain ⟨entry, rebuilt, hentry, hrow, hpolicy, hdeadline⟩ := rebuilt_of_requires hs h
    refine ⟨entry, rebuilt, hentry, hrow, hpolicy, hdeadline, fun until' huntil ↦ ?_⟩
    have hartifact := (hs.records _ _ h.recorded).artifact
    rw [← hrow] at hartifact
    obtain ⟨adapter, hadapter, hcan⟩ := @retentionAdapter_stored entry
      ⟨recordId, policy.policyId, row.sensitivity, retainUntil, legalHold⟩ until'
      (not_blank_of_isSha256 hartifact) policy.governed huntil
    rw [← hrow] at hadapter hcan ⊢
    exact ⟨adapter, hadapter, hcan⟩
  · intro now reason result s' hdelete
    obtain ⟨hdeletable, -⟩ := deleteExpiredRecord_spec hs hdelete
    obtain ⟨retention, until', hret, hfree, huntil, hdue⟩ := hdeletable.due
    rw [h.stored] at hret
    cases hret
    exact ⟨hfree, until', huntil, hdue⟩
  · rintro now reason until' e s' rfl rfl hdue hdelete
    exact unblocked_of_requires hs h hdue hdelete

end

/-- In every run of a workspace, a record that no retention was applied to is never deleted, and for
every other the requirement last applied is honoured to the instant: its stored deadline, the one a
deletion rebuilds and the one the adapter enforces coincide, a deletion succeeds only from then on
and without a hold, and is then not refused by retention. -/
theorem deadline_honoured (governance : Option PrivacyGovernance) (ops : List Operation)
    (recordId : Text) :
    match (run (track governance recordId) untracked ops).applied with
    | none => ∀ now reason, ((run (track governance recordId) untracked
        ops).workspace.deleteExpiredRecord recordId now reason).1.toBool = false
    | some (policy, legalHold) => ∃ row created retainUntil,
        Honoured (run (track governance recordId) untracked ops).workspace recordId policy
          legalHold row created retainUntil := by
  have hkept := kept_run governance recordId ops
  generalize run (track governance recordId) untracked ops = t at hkept
  cases happlied : t.applied with
  | none =>
    intro now reason
    cases hdelete : t.workspace.deleteExpiredRecord recordId now reason with
    | mk result s' =>
      cases result with
      | error e => rfl
      | ok result =>
        obtain ⟨retention, until', hret, -⟩ := (deleteExpiredRecord_spec hkept.sound hdelete).1.due
        rw [hkept.none happlied] at hret
        cases hret
  | some given =>
    obtain ⟨policy, legalHold⟩ := given
    obtain ⟨row, created, retainUntil, hrequires⟩ := hkept.some policy legalHold happlied
    exact ⟨row, created, retainUntil, honoured_of_requires hkept.sound hrequires⟩

end StateWake.Lifecycle.Workspace
