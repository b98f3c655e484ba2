import StateWake.Lifecycle.Verification

/-!
# Verifiability of a workspace of records

Runs of `ingest`, `apply_retention` and `delete_expired` in an opened workspace. Verification
finds no error after each call exactly when no call stores the bytes of a deleted record again,
and each deletion that unlinks an artifact can record it and takes nobody else's.
-/

namespace StateWake.Lifecycle

open StateWake.Base Text Utils Calls Workspace

/-! ### An opened workspace -/

/-- One operation in an opened workspace. -/
def work (governance : Option PrivacyGovernance) (root : WorkspaceRoot)
    (op : { op : Operation // op.Proper }) : Except PyError Unit × WorkspaceRoot :=
  ((apply governance root.content op).1,
    { root with content := (apply governance root.content op).2 })

/-- A written manifest passes. -/
theorem verifyManifest_manifestBytes {i : WorkspaceIdentity} (hi : WorkspaceRoot.Sound i)
    (version : PackageVersion) :
    ∃ content, manifestBytes i version = .ok content ∧ verifyManifest i (some content) = [] := by
  obtain ⟨content, text, members, hbytes, htext, hloads, hget⟩ :=
    WorkspaceRoot.loads_manifestBytes hi version
  refine ⟨content, hbytes, ?_⟩
  rw [verifyManifest, orRaise_some, ok_bind, htext, ok_bind, hloads]
  simp [hget, manifestMembers, Json.readback, manifestStyle]

/-- A folder that has no workspace yet can be opened, and is then an empty coherent workspace. -/
theorem opened_coherent (version : PackageVersion) (draw : Draw) :
    ∃ identity root,
      WorkspaceRoot.absent.openWorkspace version draw none = (.ok (some identity), root) ∧
        root.content = Workspace.empty ∧ Coherent identity root ExportStore.empty ∧
        root.identity? = some identity ∧
        root.database =
          some { createdDatabase with workspace := [metadataRow identity version] } := by
  obtain ⟨i, hcreate, hi⟩ := WorkspaceRoot.createIdentity_sound draw
  obtain ⟨content, hcontent, hmanifest⟩ := verifyManifest_manifestBytes hi version
  obtain ⟨content', hcontent', hread⟩ := WorkspaceRoot.readManifest_manifestBytes hi version
  rw [hcontent] at hcontent'
  cases hcontent'
  have hnamed : WorkspaceRoot.absent.initializeDirectories.ensureManifest version draw =
      .ok (i, { WorkspaceRoot.absent.initializeDirectories with manifest := some content }) := by
    rw [WorkspaceRoot.ensureManifest, show
      WorkspaceRoot.absent.initializeDirectories.manifest = none from rfl]
    dsimp only
    rw [hcreate, ok_bind, hcontent]
    rfl
  refine ⟨i, WorkspaceRoot.withRow { WorkspaceRoot.absent.initializeDirectories with
    manifest := some content } i version, ?_, rfl, ?_, ?_, rfl⟩
  · rw [WorkspaceRoot.openWorkspace]
    simp only [reduceCtorEq, if_false]
    rw [hnamed]
    dsimp only
    rw [WorkspaceRoot.completeOpening_of_rowless (.inl rfl) rfl hi]
    rfl
  · exact ⟨hmanifest, ⟨_, rfl, rfl, rfl, rfl⟩, rfl, sound_empty, filed_empty,
      ⟨List.nodup_nil, by rintro _ _ ⟨⟩⟩, by rintro _ ⟨⟩, ⟨List.nodup_nil, by rintro _ _ ⟨⟩⟩⟩
  · show (readManifest content).toOption = some i
    rw [hread]
    rfl

/-! ### What operations keep -/

variable {governance : Option PrivacyGovernance} {identity : WorkspaceIdentity}
  {root : WorkspaceRoot} {exports : ExportStore}

/-- Ingestion keeps tombstones and every row. -/
theorem ingestBytes_tables (governance : Option PrivacyGovernance) (s : Workspace) (content : Bytes)
    (a : IngestionArguments) :
    (s.ingestBytes governance content a).2.deletions = s.deletions ∧
      ∀ recordId row, s.records.get? recordId = some row →
        (s.ingestBytes governance content a).2.records.get? recordId = some row := by
  unfold ingestBytes
  split
  · exact ⟨rfl, fun _ _ hrow ↦ hrow⟩
  · dsimp only
    split
    · exact ⟨rfl, fun _ _ hrow ↦ hrow⟩
    · next s' h =>
      rw [bind_eq_ok] at h
      obtain ⟨r, -, h⟩ := h
      obtain ⟨-, -, hdeletions, hrecords⟩ := indexRecord_spec h
      refine ⟨hdeletions, fun recordId row hrow ↦ ?_⟩
      rcases hrecords with hrecords | ⟨hnew, hrecords⟩
      · rw [hrecords]
        exact hrow
      · rw [hrecords, Dict.get?_set]
        split
        · next hid =>
          rw [hid] at hrow
          cases hnew.symm.trans hrow
        · exact hrow

/-- Every operation keeps the tombstones of known records. -/
theorem apply_tombstones {s : Workspace} (hs : s.Sound) (ht : Tombstones (Recorded s) s.deletions)
    (op : Operation) : Tombstones (Recorded (apply governance s op).2)
      (apply governance s op).2.deletions := by
  have hingest (content : Bytes) (a : IngestionArguments) :
      Tombstones (Recorded (s.ingestBytes governance content a).2)
        (s.ingestBytes governance content a).2.deletions := by
    obtain ⟨hdeletions, hrecords⟩ := ingestBytes_tables governance s content a
    rw [hdeletions]
    refine ⟨ht.keys, fun objectId d hd ↦ ?_⟩
    obtain ⟨hid, hcreate, row, hrow⟩ := ht.named objectId d hd
    exact ⟨hid, hcreate, row, hrecords _ _ hrow⟩
  cases op with
  | ingestBytes content a => exact hingest content a
  | ingestFile path name content a =>
    cases content with
    | none => exact ht
    | some content => exact hingest content _
  | applyRetention recordId policy legalHold now =>
    rw [apply]
    split
    · exact ht
    · next s' h =>
      simp only [applyRetention, bind_eq_ok] at h
      obtain ⟨-, -, -, -, ⟨⟩, -, ⟨⟩⟩ := h
      exact ht
  | deleteExpired recordId now reason =>
    have houtcome := deleteExpiredRecord_outcome hs recordId reason now
    rw [apply]
    generalize s.deleteExpiredRecord recordId now reason = result at houtcome ⊢
    cases houtcome with
    | refused e refuses => exact ht
    | lost e row due unrecordable => exact ht
    | deleted decision d row due recordable object digest valid =>
      exact ht.set recordable.undeleted object valid ⟨row, due.recorded⟩

/-- Every proper operation keeps an opened workspace coherent. -/
theorem Coherent.work (hg : RedactsDicts governance) (h : Coherent identity root exports)
    (op : { op : Operation // op.Proper }) :
    Coherent identity (work governance root op).2 exports :=
  ⟨h.manifest, h.database, apply_foreignKeysHold h.foreignKeys op, apply_sound h.sound,
    apply_filed hg h.sound h.filed op.2, apply_tombstones h.sound h.tombstones op,
    h.exportRetention, h.exportTombstones⟩

/-! ### What verification then finds -/

/-- Every record of a workspace is intact. -/
def Intact (s : Workspace) : Prop :=
  ∀ recordId row, s.records.get? recordId = some row → RecordIntact s recordId row

/-- A call that gets past its checks does not store the bytes of a record that is deleted. A
deletion that unlinks an artifact can record it, and no other record without a tombstone has that
artifact. -/
def Harmless (governance : Option PrivacyGovernance) (s : Workspace) : Operation → Prop
  | .ingestBytes content a => StoresNoDeleted s (EvidenceFiles.receiptFor governance content a)
  | .ingestFile _ name content a => ∀ bytes ∈ content,
      StoresNoDeleted s (EvidenceFiles.receiptFor governance bytes { a with sourceRef := name })
  | .applyRetention .. => True
  | .deleteExpired recordId now reason => ∀ row, s.Due recordId now row →
      s.Recordable recordId reason ∧ ∀ other shared, other ≠ recordId →
        s.records.get? other = some shared → s.deletions.get? other = none →
          shared.artifactDigest ≠ row.artifactDigest
where
  /-- No deleted record has the artifact of the receipt. -/
  StoresNoDeleted (s : Workspace) (receipt : Except PyError ExternalEvidenceReceipt) : Prop :=
    ∀ r, receipt = .ok r → ∀ recordId row, s.records.get? recordId = some row →
      s.deletions.get? recordId ≠ none → row.artifactDigest ≠ r.artifactDigest

/-- Records stay intact where bytes are stored and their row added exactly when no deleted record
has the artifact. -/
theorem intact_stored_iff {s s' : Workspace} {content : Bytes} (hs : s.Filed) (hintact : Intact s)
    (ht : Tombstones (Recorded s) s.deletions)
    (hdeletions : s'.deletions = s.deletions)
    (hartifacts : s'.files.artifacts = (s.files.artifacts.put content).2)
    (hkept : ∀ recordId row, s.records.get? recordId = some row →
      s'.records.get? recordId = some row)
    (hnew : ∀ recordId row, s'.records.get? recordId = some row →
      s.records.get? recordId = some row ∨ s.records.get? recordId = none ∧
        ∃ stored, s'.files.artifacts.get? row.artifactDigest = some stored ∧
          (stored.length : Int) = row.artifactSize) :
    Intact s' ↔ ∀ recordId row, s.records.get? recordId = some row →
      s.deletions.get? recordId ≠ none → row.artifactDigest ≠ sha256 content := by
  obtain ⟨artifacts, stored, hput, hget, -, hcases⟩ := put_of_filed hs.artifacts content
  rw [hput] at hartifacts
  have hother : ∀ digest, digest ≠ sha256 content →
      artifacts.get? digest = s.files.artifacts.get? digest := by
    intro digest hne
    rcases hcases with ⟨-, heq⟩ | ⟨-, -, heq⟩
    · rw [heq]
    · rw [heq, Dict.get?_set, if_neg hne]
  have hgrown : ∀ digest bytes, s.files.artifacts.get? digest = some bytes →
      artifacts.get? digest = some bytes := by
    intro digest bytes hbytes
    rcases hcases with ⟨-, heq⟩ | ⟨hnone, -, heq⟩
    · rw [heq]
      exact hbytes
    · rw [hother digest]
      · exact hbytes
      · rintro rfl
        rw [hnone] at hbytes
        cases hbytes
  constructor
  · intro hintact' recordId row hrow hdeleted heq
    have h := hintact' recordId row (hkept _ _ hrow)
    obtain ⟨d, hd⟩ := Option.ne_none_iff_exists'.mp hdeleted
    rw [RecordIntact, hdeletions, hd] at h
    rw [hartifacts, heq, hget] at h
    cases h.2
  · intro hcond recordId row hrow
    rw [RecordIntact, hdeletions, hartifacts]
    rcases hnew recordId row hrow with hold | ⟨hnone, stored', hstored, hsize⟩
    · have h := hintact recordId row hold
      rw [RecordIntact] at h
      cases hd : s.deletions.get? recordId with
      | some d =>
        rw [hd] at h
        refine ⟨h.1, ?_⟩
        rw [hother _ (hcond recordId row hold (by rw [hd]; exact Option.some_ne_none d))]
        exact h.2
      | none =>
        rw [hd] at h
        obtain ⟨bytes, hbytes, hsize⟩ := h
        exact ⟨bytes, hgrown _ _ hbytes, hsize⟩
    · cases hd : s.deletions.get? recordId with
      | some d =>
        obtain ⟨-, -, row', hrow'⟩ := ht.named recordId d hd
        rw [hnone] at hrow'
        cases hrow'
      | none =>
        rw [hartifacts] at hstored
        exact ⟨stored', hstored, hsize⟩

/-- After a call that ingests, records are intact exactly when it stored no bytes of a deleted
one. -/
theorem intact_ingestBytes_iff {s : Workspace} (hg : RedactsDicts governance) (hs : s.Filed)
    (ht : Tombstones (Recorded s) s.deletions) (hintact : Intact s)
    (content : Bytes) {a : IngestionArguments} (ha : a.metadata.Distinct) :
    Intact (s.ingestBytes governance content a).2 ↔
      Harmless.StoresNoDeleted s (EvidenceFiles.receiptFor governance content a) := by
  cases hfor : EvidenceFiles.receiptFor governance content a with
  | error e =>
    rw [ingestBytes, EvidenceFiles.ingestBytes, hfor]
    refine iff_of_true hintact fun r hr ↦ ?_
    cases hr
  | ok receipt =>
    obtain ⟨⟨captured, h⟩, hdigest, hsize⟩ := received_of_receiptFor hg ha hfor
    obtain ⟨-, -, level, hlevel⟩ := receiptFor_spec hfor
    have hnone : Harmless.StoresNoDeleted s (.ok receipt) ↔ ∀ recordId row,
        s.records.get? recordId = some row → s.deletions.get? recordId ≠ none →
          row.artifactDigest ≠ sha256 content := by
      rw [← hdigest]
      constructor
      · exact fun hall ↦ hall receipt rfl
      · rintro hall r ⟨⟩
        exact hall
    have houtcome := ingestBytes_outcome hs h hfor hlevel hdigest hsize
    rw [hnone]
    generalize s.ingestBytes governance content a = result at houtcome ⊢
    cases houtcome with
    | raised e files conflicts stores untouched =>
      have hdeletions : ({ s with files } : Workspace).deletions = s.deletions := rfl
      apply intact_stored_iff hs hintact ht hdeletions stores.artifacts
      · exact fun _ _ hrow ↦ hrow
      · exact fun _ _ hrow ↦ .inl hrow
    | returned files s' agrees stores filed asserted indexed =>
      obtain ⟨hfiles, -, hdeletions, hrecords⟩ := indexRecord_spec indexed
      have hartifacts : s'.files.artifacts = (s.files.artifacts.put content).2 := by
        rw [hfiles]
        exact stores.artifacts
      apply intact_stored_iff hs hintact ht hdeletions hartifacts
      · intro recordId row hrow
        rcases hrecords with hrecords | ⟨hnew, hrecords⟩
        · rw [hrecords]
          exact hrow
        · rw [hrecords, Dict.get?_set]
          split
          · next hid =>
            rw [hid] at hrow
            cases hnew.symm.trans hrow
          · exact hrow
      · intro recordId row hrow
        rcases hrecords with hrecords | ⟨hnew, hrecords⟩
        · rw [hrecords] at hrow
          exact .inl hrow
        · rw [hrecords, Dict.get?_set] at hrow
          split at hrow
          · next hid =>
            cases hrow
            right
            rw [hid]
            refine ⟨hnew, ?_⟩
            simp only [EvidenceFiles.assertExistingArtifact, ContentAddressedArtifactStore.get,
              bind_eq_ok, require_eq_ok, orRaise_eq_ok] at asserted
            obtain ⟨stored, ⟨-, -, stored', hstored, -, -, ⟨⟩⟩, hsize⟩ := asserted
            rw [hfiles]
            exact ⟨stored, hstored, of_decide_eq_true hsize⟩
          · exact .inl hrow

/-- Once an artifact is unlinked and its record has a tombstone, records are intact exactly when
the others are without the artifact. -/
theorem intact_tombstoned_iff {s : Workspace} {recordId : Text} {row : RecordRow}
    (hrow : s.records.get? recordId = some row) {d : DeletionRecord}
    (hdigest : d.digest = row.artifactDigest) :
    Intact { s.unlinked row with deletions := s.deletions.set recordId d } ↔
      ∀ other shared, other ≠ recordId → s.records.get? other = some shared →
        RecordIntact (s.unlinked row) other shared := by
  have hother (other : Text) (shared : RecordRow) (hne : other ≠ recordId) : RecordIntact
      { s.unlinked row with deletions := s.deletions.set recordId d } other shared ↔
        RecordIntact (s.unlinked row) other shared := by
    rw [RecordIntact, RecordIntact, Dict.get?_set, if_neg hne]
    exact Iff.rfl
  constructor
  · intro hintact other shared hne hshared
    exact (hother other shared hne).mp (hintact other shared hshared)
  · intro hothers other shared hshared
    by_cases hid : other = recordId
    · replace hshared : s.records.get? other = some shared := hshared
      rw [hid, hrow] at hshared
      cases hshared
      rw [RecordIntact, Dict.get?_set, if_pos hid]
      refine ⟨hdigest, ?_⟩
      show (s.files.artifacts.erase row.artifactDigest).get? row.artifactDigest = none
      rw [Dict.get?_erase, if_pos rfl]
    · exact (hother other shared hid).mpr (hothers other shared hid hshared)

/-- Without an artifact a record is as intact as it was, unless it has that artifact and no
tombstone. -/
theorem recordIntact_unlinked_iff {s : Workspace} {row shared : RecordRow} {other : Text}
    (h : RecordIntact s other shared) : RecordIntact (s.unlinked row) other shared ↔
      (s.deletions.get? other = none → shared.artifactDigest ≠ row.artifactDigest) := by
  have herased : (s.unlinked row).files.artifacts.get? shared.artifactDigest =
      if shared.artifactDigest = row.artifactDigest then none
      else s.files.artifacts.get? shared.artifactDigest := Dict.get?_erase ..
  have hdeletions : (s.unlinked row).deletions = s.deletions := rfl
  rw [RecordIntact] at h ⊢
  rw [hdeletions, herased]
  cases hd : s.deletions.get? other with
  | some d =>
    rw [hd] at h
    exact iff_of_true ⟨h.1, by rw [h.2, ite_self]⟩ fun h ↦ by cases h
  | none =>
    rw [hd] at h
    obtain ⟨content, hcontent, hsize⟩ := h
    constructor
    · rintro ⟨content', hcontent', -⟩ - heq
      rw [if_pos heq] at hcontent'
      cases hcontent'
    · intro hne
      exact ⟨content, by rw [if_neg (hne rfl)]; exact hcontent, hsize⟩

/-- After a deletion, records are intact exactly when it was refused, or recorded without taking
the artifact of another record. -/
theorem intact_deleteExpired_iff {s : Workspace} (hsound : s.Sound) (hintact : Intact s)
    (recordId reason : Text) (now : AwareDatetime) :
    Intact (s.deleteExpiredRecord recordId now reason).2 ↔
      Harmless governance s (.deleteExpired recordId now reason) := by
  have houtcome := deleteExpiredRecord_outcome hsound recordId reason now
  generalize s.deleteExpiredRecord recordId now reason = result at houtcome ⊢
  cases houtcome with
  | refused e refuses => exact iff_of_true hintact fun row hdue ↦ absurd hdue (refuses row)
  | lost e row due unrecordable =>
    refine iff_of_false (fun hintact' ↦ ?_) fun hcond ↦ unrecordable (hcond row due).1
    have hbefore := hintact recordId row due.recorded
    have hafter := hintact' recordId row due.recorded
    obtain ⟨content, hcontent⟩ := due.stored
    have hne := (recordIntact_unlinked_iff hbefore).mp hafter
    cases hd : s.deletions.get? recordId with
    | some d =>
      rw [RecordIntact, hd] at hbefore
      cases hbefore.2.symm.trans hcontent
    | none => exact hne hd rfl
  | deleted decision d row due recordable object digest valid =>
    rw [intact_tombstoned_iff due.recorded digest]
    constructor
    · intro hothers row' due'
      have hrow' := due'.recorded
      rw [due.recorded] at hrow'
      cases hrow'
      refine ⟨recordable, fun other shared hne hshared ↦ ?_⟩
      exact (recordIntact_unlinked_iff (hintact other shared hshared)).mp
        (hothers other shared hne hshared)
    · intro hcond other shared hne hshared
      exact (recordIntact_unlinked_iff (hintact other shared hshared)).mpr
        ((hcond row due).2 other shared hne hshared)

/-- After an operation in a workspace of intact records, records are intact exactly when the
operation was harmless. -/
theorem intact_apply_iff {s : Workspace} (hg : RedactsDicts governance) (hsound : s.Sound)
    (hs : s.Filed) (ht : Tombstones (Recorded s) s.deletions) (hintact : Intact s)
    (op : { op : Operation // op.Proper }) :
    Intact (apply governance s op).2 ↔ Harmless governance s op := by
  obtain ⟨op, hop⟩ := op
  cases op with
  | ingestBytes content a => exact intact_ingestBytes_iff hg hs ht hintact content hop
  | ingestFile path name content a =>
    cases content with
    | none => exact iff_of_true hintact nofun
    | some content =>
      have h : Intact (s.ingestBytes governance content { a with sourceRef := name }).2 ↔ _ :=
        intact_ingestBytes_iff hg hs ht hintact content hop
      constructor
      · rintro hintact' _ ⟨⟩
        exact h.mp hintact'
      · exact fun hcond ↦ h.mpr (hcond content rfl)
  | applyRetention recordId policy legalHold now =>
    refine iff_of_true ?_ trivial
    show Intact (apply governance s (.applyRetention recordId policy legalHold now)).2
    rw [apply]
    split
    · exact hintact
    · next s' h =>
      simp only [applyRetention, bind_eq_ok] at h
      obtain ⟨-, -, -, -, ⟨⟩, -, ⟨⟩⟩ := h
      exact hintact
  | deleteExpired recordId now reason => exact intact_deleteExpired_iff hsound hintact ..

/-! ### Runs -/

/-- Verification after an operation finds no error. -/
def StaysVerifiable (governance : Option PrivacyGovernance) (managed : Text → Bool)
    (identity : WorkspaceIdentity) (root : WorkspaceRoot) (op : { op : Operation // op.Proper }) :
    Prop :=
  Verifies managed identity (work governance root op).2 ExportStore.empty

private theorem verifies_empty_iff (h : Coherent identity root ExportStore.empty)
    (managed : Text → Bool) :
    Verifies managed identity root ExportStore.empty ↔ Intact root.content := by
  rw [verifies_iff h managed]
  exact and_iff_left nofun

private theorem along_staysVerifiable_iff (hg : RedactsDicts governance) (managed : Text → Bool)
    (h : Coherent identity root ExportStore.empty) (hempty : root.content = Workspace.empty)
    (ops : List { op : Operation // op.Proper }) :
    Along (work governance) (StaysVerifiable governance managed identity) root ops ↔
      Along (work governance) (fun root op ↦ Harmless governance root.content op) root ops := by
  have hstep (root : WorkspaceRoot) (op : { op : Operation // op.Proper })
      (hroot : Coherent identity root ExportStore.empty ∧ Intact root.content) :
      StaysVerifiable governance managed identity root op ↔
        Intact (work governance root op).2.content :=
    verifies_empty_iff (hroot.1.work hg op) managed
  apply along_iff (J := fun root ↦ Coherent identity root ExportStore.empty ∧ Intact root.content)
  · intro root op hroot
    rw [hstep root op hroot]
    exact intact_apply_iff hg hroot.1.sound hroot.1.filed hroot.1.tombstones hroot.2 op
  · intro root op hroot hverifies
    exact ⟨hroot.1.work hg op, (hstep root op hroot).mp hverifies⟩
  · refine ⟨h, ?_⟩
    rw [hempty]
    exact nofun

/-- In every run in a new workspace, verification after each operation finds no error exactly when
each operation is harmless. -/
theorem stays_verifiable_iff (governance : Option PrivacyGovernance)
    (hg : RedactsDicts governance) (managed : Text → Bool) (version : PackageVersion)
    (draw : Draw) (hopened : WorkspaceRoot.absent.openWorkspace version draw none =
      (.ok (some identity), root)) (ops : List { op : Operation // op.Proper }) :
    Along (work governance) (StaysVerifiable governance managed identity) root ops ↔
      Along (work governance) (fun root op ↦ Harmless governance root.content op) root ops := by
  obtain ⟨identity', root', hopened', hempty, hcoherent, -⟩ := opened_coherent version draw
  rw [hopened] at hopened'
  cases hopened'
  exact along_staysVerifiable_iff hg managed hcoherent hempty ops

/-! ### Evidence that comes back -/

def someRelease : PackageVersion := ⟨lit "0.5.1", surrogateFree_lit _⟩

def firstDraw : Draw := ⟨0, RetentionAdapter.epoch⟩

private def blankArguments : IngestionArguments :=
  ⟨lit "tool", lit "scanner", lit "report.json", .ofUtc RetentionAdapter.epoch, some (lit "1"),
    none, none, [], lit "internal"⟩

private theorem distinct_blankArguments : blankArguments.metadata.Distinct := List.nodup_nil

/-- An empty report. -/
def blankReport : { op : Operation // op.Proper } :=
  ⟨.ingestBytes [] blankArguments, distinct_blankArguments⟩

/-- The identity of its record. -/
def reportRecord : Text :=
  sha256 (Utf8.ascii (lit "\x7b\x22producer_id\x22:\x22scanner\x22,\x22producer_type\x22:" ++
    lit "\x22tool\x22,\x22source_event_id\x22:\x221\x22\x7d"))

/-- The report is ingested and its retention runs out. -/
def reportExpired : List { op : Operation // op.Proper } :=
  [blankReport,
    ⟨.applyRetention reportRecord ⟨lit "default", some 0, .restricted, .internal, .restricted,
      .refl false⟩ false (.ofUtc RetentionAdapter.epoch), trivial⟩]

/-- The report is then deleted. -/
def reportDeleted : List { op : Operation // op.Proper } :=
  reportExpired ++ [⟨.deleteExpired reportRecord (.ofUtc RetentionAdapter.epoch)
    (lit "retention expired"), trivial⟩]

/-- An operation changes the evidence as it does in a workspace alone. -/
private theorem content_run_work (ops : List { op : Operation // op.Proper }) :
    (run (work none) root ops).content = run (applyProper none) root.content ops := by
  induction ops generalizing root with
  | nil => rfl
  | cons op ops ih => exact ih

/-- What the run left: the record with its tombstone, and the report passes its checks. -/
private theorem after_reportDeleted :
    ((run (applyProper none) Workspace.empty reportDeleted).records.get? reportRecord).map
      RecordRow.artifactDigest = some (sha256 []) ∧
    ((run (applyProper none) Workspace.empty reportDeleted).deletions.get? reportRecord).isSome =
      true ∧
    (EvidenceFiles.receiptFor none [] blankArguments).toBool = true := by
  decide +kernel

/-- The same evidence ingested again after its deletion leaves an artifact with a tombstone. -/
theorem not_stays_verifiable : ¬∀ governance, RedactsDicts governance →
    ∀ managed version draw identity root,
      WorkspaceRoot.absent.openWorkspace version draw none = (.ok (some identity), root) →
        ∀ ops, Along (work governance) (StaysVerifiable governance managed identity) root ops := by
  intro h
  obtain ⟨identity, root, hopened, hempty, hcoherent, -⟩ := opened_coherent someRelease firstDraw
  have hverifiable := h none redactsDicts_none (fun _ ↦ true) someRelease firstDraw identity root
    hopened (reportDeleted ++ [blankReport])
  have hharmless := (along_staysVerifiable_iff redactsDicts_none _ hcoherent hempty _).mp
    hverifiable
  have hagain := along_iff_forall_split.mp hharmless reportDeleted blankReport [] rfl
  rw [content_run_work, hempty] at hagain
  obtain ⟨hrow, hdeleted, hok⟩ := after_reportDeleted
  obtain ⟨row, hget, hdigest⟩ := Option.map_eq_some_iff.mp hrow
  obtain ⟨receipt, hreceipt⟩ := exists_ok_of_toBool hok
  have hsame := (received_of_receiptFor redactsDicts_none distinct_blankArguments hreceipt).2.1
  apply hagain receipt hreceipt reportRecord row hget
  · rw [Option.ne_none_iff_isSome]
    exact hdeleted
  · rw [hdigest, hsame]

/-- A run in which the same evidence is ingested twice. -/
theorem stays_verifiable_repeated : ∃ identity root, RedactsDicts none ∧
    WorkspaceRoot.absent.openWorkspace someRelease firstDraw none = (.ok (some identity), root) ∧
    (Along (work none) (StaysVerifiable none (fun _ ↦ true) identity) root
        [blankReport, blankReport] ↔
      Along (work none) (fun root op ↦ Harmless none root.content op) root
        [blankReport, blankReport]) := by
  obtain ⟨identity, root, hopened, -⟩ := opened_coherent someRelease firstDraw
  exact ⟨identity, root, redactsDicts_none, hopened,
    stays_verifiable_iff none redactsDicts_none _ someRelease firstDraw hopened _⟩

end StateWake.Lifecycle
