import StateWake.Base.DatetimeOrder
import StateWake.Lifecycle.ReceiptRoundTrip
import StateWake.Lifecycle.Deletion

/-!
# Ingestion into a workspace

`workspace/integration.py:66–121`. The artifact and the receipt are stored before the index
decides about conflicts, so a refused call can leave both behind. A call that returns leaves a
record that queries and verification accept.
-/

namespace StateWake.Lifecycle.Workspace

open StateWake.Base Text Utils Calls

/-! ### Files and rows -/

/-- The file of a receipt identity holds a receipt that ingestion made. -/
structure ReceiptFile (recordId text : Text) (r : ExternalEvidenceReceipt) (captured : Datetime) :
    Prop where
  received : Received r captured
  id : r.receiptId = recordId
  text : ∃ record, r.toDict = .ok record ∧
    text = Json.dumps Json.indented (.obj record) ++ [Lines.newline]

/-- The row of a receipt under a sensitivity and a policy. -/
def receiptRow (r : ExternalEvidenceReceipt) (captured : Datetime) (sensitivity policyId : Text) :
    RecordRow :=
  ⟨r.receiptId, r.receiptId, r.artifactDigest, r.artifactSize, r.producerId, r.producerType,
    r.producerVersion, r.sourceRef, r.sourceEventId, r.runId, isoformat captured, sensitivity,
    policyId, none, none, isoformat captured⟩

/-- Files and rows as ingestion writes them: each file holds a receipt of its identity, each row
is the row of the receipt in its file, and each artifact has its digest. -/
structure Filed (s : Workspace) : Prop where
  keys : s.records.Distinct
  receipts : ∀ recordId text, s.files.receipts.get? recordId = some text →
    ∃ r captured, ReceiptFile recordId text r captured
  records : ∀ recordId row, s.records.get? recordId = some row →
    ∃ text r captured sensitivity policyId, s.files.receipts.get? recordId = some text ∧
      ReceiptFile recordId text r captured ∧ row = receiptRow r captured sensitivity policyId
  artifacts : ∀ digest content, s.files.artifacts.get? digest = some content →
    sha256 content = digest

theorem filed_empty : empty.Filed := ⟨List.nodup_nil, nofun, nofun, nofun⟩

theorem ReceiptFile.parse {recordId text : Text} {r : ExternalEvidenceReceipt}
    {captured : Datetime} (h : ReceiptFile recordId text r captured) :
    JsonEvidenceReceiptStore.parse text = .ok (r.stored captured) := by
  obtain ⟨record, hrecord, rfl⟩ := h.text
  exact parse_written h.received.constructed hrecord

theorem get_of_file {files : JsonEvidenceReceiptStore} {recordId text : Text}
    {r : ExternalEvidenceReceipt} {captured : Datetime} (hget : files.get? recordId = some text)
    (h : ReceiptFile recordId text r captured) : JsonEvidenceReceiptStore.get files recordId =
      .ok (r.stored captured) := by
  rw [JsonEvidenceReceiptStore.get, hget, orRaise_some, ok_bind, h.parse]

/-- A filed row is hydrated from its file. -/
theorem hydrate_of_file {s : Workspace} {text : Text} {r : ExternalEvidenceReceipt}
    {captured created : Datetime} {row : RecordRow} {sensitivity policyId : Text}
    (hget : s.files.receipts.get? r.receiptId = some text)
    (h : ReceiptFile r.receiptId text r captured)
    (hrow : row = receiptRow r captured sensitivity policyId) :
    s.hydrate ⟨row, captured, created⟩ = .ok (r.stored captured) := by
  have hstored : (r.stored captured).capturedAt.toUtc = .ok captured := by
    rw [ExternalEvidenceReceipt.stored, ExternalEvidenceReceipt.storedFields,
      AwareDatetime.toUtc_ofUtc]
  rw [hydrate, hrow]
  simp only [receiptRow]
  rw [get_of_file hget h, ok_bind, hstored, ok_bind]
  simp [ExternalEvidenceReceipt.stored, ExternalEvidenceReceipt.storedFields]

/-- The entry of a filed row. -/
theorem entryFromRow_receiptRow (r : ExternalEvidenceReceipt) (captured : Datetime)
    (sensitivity policyId : Text) : entryFromRow (receiptRow r captured sensitivity policyId) =
      .ok ⟨receiptRow r captured sensitivity policyId, captured, captured⟩ := by
  simp only [entryFromRow, receiptRow, parseDatetime_isoformat, ok_bind]
  rfl

section

variable {s : Workspace}

/-- Every page of the query is answered. -/
theorem query_of_filed (hs : s.Filed) (limit offset : Nat) :
    ∃ records, s.query limit offset = .ok (records, s.records.length) := by
  have hlisted : ∀ row ∈ (s.orderedRows.drop offset).take limit,
      ∃ entry receipt, entryFromRow row = .ok entry ∧ s.hydrate entry = .ok receipt := by
    intro row hrow
    have hmem : row ∈ s.records.map Prod.snd :=
      (List.mem_insertionSort _).mp (List.mem_of_mem_drop (List.mem_of_mem_take hrow))
    obtain ⟨⟨recordId, row⟩, hrecord, rfl⟩ := List.mem_map.mp hmem
    obtain ⟨text, r, captured, sensitivity, policyId, hget, hfile, rfl⟩ :=
      hs.records recordId row ((Dict.get?_eq_some_iff hs.keys).mpr hrecord)
    rw [← hfile.id] at hget hfile
    exact ⟨_, _, entryFromRow_receiptRow .., hydrate_of_file hget hfile rfl⟩
  obtain ⟨entries, hentries⟩ := exists_mapM_eq_ok fun row hrow ↦
    (hlisted row hrow).imp fun _ h ↦ h.choose_spec.1
  have hhydrated : ∀ entry ∈ entries, ∃ record : WorkspaceRecord, (do
      let receipt ← s.hydrate entry
      pure (⟨entry, receipt⟩ : WorkspaceRecord)) = Except.ok record := by
    intro entry hentry
    obtain ⟨row, hrow, hread⟩ := (mem_of_mapM_eq_ok hentries).mp hentry
    obtain ⟨entry', receipt, hentry', hhydrate⟩ := hlisted row hrow
    rw [hread] at hentry'
    cases hentry'
    exact ⟨⟨entry, receipt⟩, by rw [hhydrate]; rfl⟩
  obtain ⟨records, hrecords⟩ := exists_mapM_eq_ok hhydrated
  refine ⟨records, ?_⟩
  rw [query, hentries, ok_bind, hrecords, ok_bind]
  rfl

end

/-! ### What a call meets -/

/-- Two receipts serialize to one record. -/
def SameRecord (a b : ExternalEvidenceReceipt) : Prop :=
  ∃ ra rb, a.toDict = .ok ra ∧ b.toDict = .ok rb ∧ ordered ra = ordered rb

/-- The policy a record is indexed under. -/
def policyIdOf (governance : Option PrivacyGovernance) : Text :=
  governance.elim (lit "default") PrivacyGovernance.evidencePolicyId

/-- Nothing the workspace holds disagrees with a receipt to be stored and indexed: neither an
artifact or a receipt file of its identities, nor its run, nor its row. -/
structure NoConflict (governance : Option PrivacyGovernance) (s : Workspace)
    (receipt : ExternalEvidenceReceipt) (sensitivity : Text) : Prop where
  artifact : ∀ content, s.files.artifacts.get? receipt.artifactDigest = some content →
    (content.length : Int) = receipt.artifactSize
  file : ∀ text, s.files.receipts.get? receipt.receiptId = some text →
    ∃ existing, JsonEvidenceReceiptStore.parse text = .ok existing ∧ SameRecord existing receipt
  policy : blank (policyIdOf governance) = false
  run : ∀ runId run, receipt.runId = some runId → s.runs.get? runId = some run →
    run.producerId = receipt.producerId ∧ run.producerType = receipt.producerType ∧
      run.producerVersion = receipt.producerVersion
  record : ∀ row, s.records.get? receipt.receiptId = some row →
    indexRow governance receipt sensitivity = .ok row
  encodable : s.records.get? receipt.receiptId = none → SurrogateFree (policyIdOf governance)

/-- What a redaction makes of a dictionary is a dictionary. -/
def RedactsDicts (governance : Option PrivacyGovernance) : Prop :=
  ∀ g ∈ governance, ∀ metadata : Dict Text, metadata.Distinct →
    (g.redactMetadata metadata).Distinct

theorem redactsDicts_none : RedactsDicts none := nofun

section

variable {governance : Option PrivacyGovernance} {content : Bytes} {a : IngestionArguments}
  {receipt : ExternalEvidenceReceipt}

/-- The receipt of a call is a received one, of the call's bytes. -/
theorem received_of_receiptFor (hg : RedactsDicts governance) (ha : a.metadata.Distinct)
    (h : EvidenceFiles.receiptFor governance content a = .ok receipt) :
    (∃ captured, Received receipt captured) ∧ receipt.artifactDigest = sha256 content ∧
      receipt.artifactSize = content.length := by
  have hmetadata : (governance.elim a.metadata fun g ↦ g.redactMetadata a.metadata).Distinct := by
    cases governance with
    | none => exact ha
    | some g => exact hg g rfl _ ha
  rw [EvidenceFiles.receiptFor, bind_eq_ok] at h
  obtain ⟨level, -, h⟩ := h
  rw [bind_eq_ok] at h
  obtain ⟨r, hr, h⟩ := h
  rw [bind_eq_ok] at h
  obtain ⟨⟨⟩, -, h⟩ := h
  cases h
  have hcreate := hr
  simp only [ExternalEvidenceReceipt.create, bind_eq_ok, require_eq_ok, exists_const] at hr
  obtain ⟨-, -, -, -, -, -, -, -, captured, hcaptured, -, -, receiptId, -, -, digest, -, -, hr⟩ :=
    hr
  cases hr
  exact ⟨⟨captured, hcreate, rfl, hmetadata, hcaptured⟩, rfl, rfl⟩

/-- Every text of a received receipt can be stored. -/
theorem encodable_of_received {captured : Datetime} (h : Received receipt captured) :
    SurrogateFree receipt.producerId ∧ SurrogateFree receipt.producerType ∧
      SurrogateFree receipt.sourceRef ∧ (∀ s ∈ receipt.producerVersion, SurrogateFree s) ∧
      (∀ s ∈ receipt.sourceEventId, SurrogateFree s) ∧ ∀ s ∈ receipt.runId, SurrogateFree s := by
  have hdigest := h.checked.digest
  simp only [ReceiptFields.computedDigest, bind_eq_ok] at hdigest
  obtain ⟨payload, hpayload, bytes, hbytes, -⟩ := hdigest
  have htexts := surrogateFree_of_canonicalBytes hbytes
  rw [ReceiptFields.payload, h.captured, ok_bind] at hpayload
  cases hpayload
  rw [Json.forall_texts_obj] at htexts
  have hstr (key : String) (s : Text) (hm : (lit key, Json.str s) ∈ receipt.identityPayload ++
      [(lit "captured_at", .str (isoformat captured)),
        (lit "receipt_id", .str receipt.receiptId)]) : SurrogateFree s :=
    (htexts _ hm).2 s (Json.mem_texts_str.mpr rfl)
  have hopt (key : String) (o : Option Text)
      (hm : (lit key, optionJson o) ∈ receipt.identityPayload ++
        [(lit "captured_at", .str (isoformat captured)),
          (lit "receipt_id", .str receipt.receiptId)]) : ∀ s ∈ o, SurrogateFree s :=
    fun s hs ↦ (htexts _ hm).2 s (mem_texts_optionJson.mpr (Option.mem_def.mp hs))
  refine ⟨hstr "producer_id" _ ?_, hstr "producer_type" _ ?_, hstr "source_ref" _ ?_,
    hopt "producer_version" _ ?_, hopt "source_event_id" _ ?_, hopt "run_id" _ ?_⟩ <;>
    simp [ReceiptFields.identityPayload]

/-! ### The files of a call -/

variable {s : Workspace} {files : EvidenceFiles}

/-- After its bytes are put, a digest has an artifact: the one it had, or the bytes. -/
theorem put_of_filed
    (hfiled : ∀ digest content, files.artifacts.get? digest = some content →
      sha256 content = digest) (content : Bytes) :
    ∃ artifacts stored, files.artifacts.put content = (.ok (sha256 content), artifacts) ∧
      artifacts.get? (sha256 content) = some stored ∧ sha256 stored = sha256 content ∧
      (files.artifacts.get? (sha256 content) = some stored ∧ artifacts = files.artifacts ∨
        files.artifacts.get? (sha256 content) = none ∧ stored = content ∧
          artifacts = files.artifacts.set (sha256 content) content) := by
  rw [ContentAddressedArtifactStore.put]
  cases hget : files.artifacts.get? (sha256 content) with
  | none =>
    refine ⟨_, content, rfl, ?_, rfl, .inr ⟨rfl, rfl, rfl⟩⟩
    rw [Dict.get?_set, if_pos rfl]
  | some stored =>
    have hsha := hfiled _ _ hget
    refine ⟨files.artifacts, stored, ?_, hget, hsha, .inl ⟨rfl, rfl⟩⟩
    simp only [ContentAddressedArtifactStore.checkIntegrity, hsha, decide_true, require_true,
      ok_bind]
    rfl

/-- An artifact of the digest is accepted exactly when it has the size. -/
theorem assertExistingArtifact_eq_ok {stored : Bytes}
    (hget : files.artifacts.get? receipt.artifactDigest = some stored)
    (hsha : sha256 stored = receipt.artifactDigest) :
    files.assertExistingArtifact receipt = .ok () ↔
      (stored.length : Int) = receipt.artifactSize := by
  rw [EvidenceFiles.assertExistingArtifact, ContentAddressedArtifactStore.get,
    ContentAddressedArtifactStore.pathFor, ← hsha, isSha256_sha256, require_true, ok_bind, hsha,
    hget, orRaise_some, ok_bind, ContentAddressedArtifactStore.checkIntegrity, hsha]
  simp

/-- A received receipt can be serialized. -/
theorem toDict_isOk {captured : Datetime} (h : Received receipt captured) :
    ∃ record, receipt.toDict = .ok record := by
  rw [ExternalEvidenceReceipt.toDict, ReceiptFields.payload, h.captured]
  exact ⟨_, rfl⟩

/-- A receipt is put where its identity is free, or holds the same record. -/
theorem put_receipt_eq_ok {captured : Datetime} (h : Received receipt captured)
    {receipts : JsonEvidenceReceiptStore} :
    files.receipts.put receipt = .ok receipts ↔
      (∀ text, files.receipts.get? receipt.receiptId = some text → ∃ existing,
        JsonEvidenceReceiptStore.parse text = .ok existing ∧ SameRecord existing receipt) ∧
      ∃ record, receipt.toDict = .ok record ∧ receipts =
        if (files.receipts.get? receipt.receiptId).isSome then files.receipts
        else files.receipts.set receipt.receiptId
          (Json.dumps Json.indented (.obj record) ++ [Lines.newline]) := by
  obtain ⟨record, hrecord⟩ := toDict_isOk h
  rw [JsonEvidenceReceiptStore.put, hrecord, ok_bind]
  cases hget : files.receipts.get? receipt.receiptId with
  | none =>
    simp only [reduceCtorEq, false_implies, implies_true, true_and, Option.isSome_none,
      Bool.false_eq_true, if_false]
    constructor
    · intro heq
      cases heq
      exact ⟨record, rfl, rfl⟩
    · rintro ⟨record', hrecord', rfl⟩
      cases hrecord'
      rfl
  | some text =>
    simp only [bind_eq_ok, require_eq_ok, decide_eq_true_eq, Option.some.injEq, forall_eq',
      Option.isSome_some, if_true, exists_const]
    constructor
    · rintro ⟨existing, hexisting, stored, hstored, hsame, heq⟩
      cases heq
      exact ⟨⟨existing, hexisting, stored, record, hstored, hrecord, hsame⟩, record, rfl, rfl⟩
    · rintro ⟨⟨existing, hexisting, stored, record', hstored, hrecord', hsame⟩, -, -, rfl⟩
      rw [hrecord] at hrecord'
      cases hrecord'
      exact ⟨existing, hexisting, stored, hstored, hsame, rfl⟩

/-! ### The index of a call -/

/-- The identity of a received receipt is a digest. -/
theorem isSha256_receiptId {captured : Datetime} (h : Received receipt captured) :
    isSha256 receipt.receiptId = true := by
  have hreceipt := h.checked.receiptId
  simp only [ReceiptFields.computedReceiptId, bind_eq_ok] at hreceipt
  obtain ⟨bytes, -, hreceipt⟩ := hreceipt
  rw [← Except.ok.inj hreceipt]
  exact isSha256_sha256 bytes

/-- The row of a received receipt, where the policy has a name. -/
theorem indexRow_eq_ok {captured : Datetime} (h : Received receipt captured) {level : Sensitivity}
    {row : RecordRow} : indexRow governance receipt level.text = .ok row ↔
      blank (policyIdOf governance) = false ∧
        row = receiptRow receipt captured level.text (policyIdOf governance) := by
  have hid := isSha256_receiptId h
  have hlevel : blank level.text = false := by cases level <;> decide
  rw [indexRow]
  simp only [not_blank_of_isSha256 hid, hlevel, h.captured, Bool.not_false, require_true, ok_bind]
  rw [require_bind_eq_ok, Bool.not_eq_true']
  exact and_congr_right fun _ ↦ ⟨fun heq ↦ (Except.ok.inj heq).symm, fun heq ↦ congrArg _ heq.symm⟩

/-- A run is observed where it is new or has the record's producer. -/
theorem ensureObservedRun_isOk_iff {runs : Dict RunRow} {runId : Text} {r : RecordRow} :
    (∃ runs', ensureObservedRun runs runId r = .ok runs') ↔
      ∀ run, runs.get? runId = some run → run.producerId = r.producerId ∧
        run.producerType = r.producerType ∧ run.producerVersion = r.producerVersion := by
  unfold ensureObservedRun
  cases hrun : runs.get? runId with
  | none => exact iff_of_true ⟨_, rfl⟩ nofun
  | some run =>
    simp only [require_bind_eq_ok, decide_eq_true_eq, Option.some.injEq, forall_eq']
    exact ⟨fun ⟨_, h, _⟩ ↦ h, fun h ↦ ⟨_, h, rfl⟩⟩

/-- The row of a received receipt is indexed exactly where its run and its row agree. -/
theorem indexRecord_isOk_iff {captured : Datetime} (h : Received receipt captured)
    (level : Sensitivity) (policyId : Text) :
    (∃ s', s.indexRecord (receiptRow receipt captured level.text policyId) = .ok s') ↔
      (∀ runId run, receipt.runId = some runId → s.runs.get? runId = some run →
        run.producerId = receipt.producerId ∧ run.producerType = receipt.producerType ∧
          run.producerVersion = receipt.producerVersion) ∧
      (∀ row, s.records.get? receipt.receiptId = some row →
        row = receiptRow receipt captured level.text policyId) ∧
      (s.records.get? receipt.receiptId = none → SurrogateFree policyId) := by
  have hid := isSha256_receiptId h
  obtain ⟨hproducer, htype, href, hversion, hevent, hrunId⟩ := encodable_of_received h
  have hlevel : SurrogateFree level.text := by cases level <;> exact surrogateFree_lit _
  have hbindId : bindTexts [receipt.receiptId] = .ok () := bindTexts_eq_ok.mpr fun t ht ↦ by
    rw [List.mem_singleton.mp ht]
    exact surrogateFree_of_isSha256 hid
  have hruns : (∃ runs, (receipt.runId.elim (.ok s.runs) fun runId ↦ do
      bindTexts ([runId, receipt.producerId, receipt.producerType] ++
        receipt.producerVersion.toList)
      ensureObservedRun s.runs runId (receiptRow receipt captured level.text policyId)) =
        .ok runs) ↔
      ∀ runId run, receipt.runId = some runId → s.runs.get? runId = some run →
        run.producerId = receipt.producerId ∧ run.producerType = receipt.producerType ∧
          run.producerVersion = receipt.producerVersion := by
    cases hr : receipt.runId with
    | none => exact iff_of_true ⟨_, rfl⟩ nofun
    | some runId =>
      have hbind : bindTexts ([runId, receipt.producerId, receipt.producerType] ++
          receipt.producerVersion.toList) = .ok () := by
        rw [bindTexts_eq_ok]
        simp only [List.mem_append, Option.mem_toList]
        rintro t (ht | ht)
        · simp only [List.mem_cons, List.not_mem_nil, or_false] at ht
          rcases ht with rfl | rfl | rfl
          · exact hrunId _ hr
          · exact hproducer
          · exact htype
        · exact hversion t ht
      rw [Option.elim_some, hbind, ok_bind, ensureObservedRun_isOk_iff]
      constructor
      · rintro hrun _ run ⟨⟩ hget
        exact hrun run hget
      · exact fun hrun run hget ↦ hrun runId run rfl hget
  have hinsert (hp : SurrogateFree policyId) : bindTexts ([receipt.receiptId,
      receipt.artifactDigest, receipt.producerId, receipt.producerType, receipt.sourceRef,
      level.text, policyId] ++ receipt.producerVersion.toList ++
      receipt.sourceEventId.toList ++ (none : Option Text).toList ++
      (none : Option Text).toList) = .ok () := by
    rw [bindTexts_eq_ok]
    simp only [List.mem_append, Option.mem_toList, Option.toList_none, List.not_mem_nil, or_false]
    rintro t ((ht | ht) | ht)
    · simp only [List.mem_cons, List.not_mem_nil, or_false] at ht
      rcases ht with rfl | rfl | rfl | rfl | rfl | rfl | rfl
      · exact surrogateFree_of_isSha256 hid
      · exact surrogateFree_of_isSha256 h.checked.artifactDigest
      · exact hproducer
      · exact htype
      · exact href
      · exact hlevel
      · exact hp
    · exact hversion t ht
    · exact hevent t ht
  rw [← hruns]
  simp only [indexRecord, receiptRow, hbindId, ok_bind]
  cases hrow : s.records.get? receipt.receiptId with
  | none =>
    simp only [reduceCtorEq, false_implies, implies_true, true_and, forall_const, bind_eq_ok]
    constructor
    · rintro ⟨s', runs, hruns, ⟨⟩, hbind, -⟩
      exact ⟨⟨runs, hruns⟩, bindTexts_eq_ok.mp hbind _ (by simp)⟩
    · rintro ⟨⟨runs, hruns⟩, hp⟩
      exact ⟨_, runs, hruns, ⟨⟩, hinsert hp, rfl⟩
  | some row =>
    simp only [Option.some.injEq, forall_eq', reduceCtorEq, false_implies, and_true, bind_eq_ok,
      require_eq_ok, exists_const]
    constructor
    · rintro ⟨s', runs, hruns, heq, -⟩
      exact ⟨⟨runs, hruns⟩, of_decide_eq_true heq⟩
    · rintro ⟨⟨runs, hruns⟩, heq⟩
      exact ⟨_, runs, hruns, decide_eq_true heq, rfl⟩

/-! ### A call -/

/-- The files after the files of a call were stored: its bytes are there, and its receipt may be. -/
structure StoresFiles (files files' : EvidenceFiles) (content : Bytes)
    (receipt : ExternalEvidenceReceipt) : Prop where
  artifacts : files'.artifacts = (files.artifacts.put content).2
  receipts : files'.receipts = files.receipts ∨
    files.receipts.get? receipt.receiptId = none ∧ ∃ record, receipt.toDict = .ok record ∧
      files'.receipts = files.receipts.set receipt.receiptId
        (Json.dumps Json.indented (.obj record) ++ [Lines.newline])

/-- Nothing is new about the files of a call: its bytes are stored already and, unless they are
bytes of another size, so is a receipt of its identity. -/
def Present (s : Workspace) (receipt : ExternalEvidenceReceipt) : Prop :=
  ∃ stored, s.files.artifacts.get? receipt.artifactDigest = some stored ∧
    ((stored.length : Int) = receipt.artifactSize →
      s.files.receipts.get? receipt.receiptId ≠ none)

/-- What a call that was not refused at once comes to: it returns, its files stored and its row
indexed, where nothing conflicts; else it raises with the index untouched, and the files are
untouched exactly where nothing is new about them. -/
inductive Outcome (governance : Option PrivacyGovernance) (s : Workspace) (content : Bytes)
    (receipt : ExternalEvidenceReceipt) (row : RecordRow) :
    Except PyError Unit × Workspace → Prop where
  | returned (files : EvidenceFiles) (s' : Workspace)
      (agrees : NoConflict governance s receipt row.sensitivity)
      (stores : StoresFiles s.files files content receipt)
      (filed : files.receipts.get? receipt.receiptId ≠ none)
      (asserted : files.assertExistingArtifact receipt = .ok ())
      (indexed : ({ s with files }).indexRecord row = .ok s') :
      Outcome governance s content receipt row (.ok (), s')
  | raised (e : PyError) (files : EvidenceFiles)
      (conflicts : ¬NoConflict governance s receipt row.sensitivity)
      (stores : StoresFiles s.files files content receipt)
      (untouched : files = s.files ↔ s.Present receipt) :
      Outcome governance s content receipt row (.error e, { s with files })

/-- Files with one more member differ. -/
private theorem set_ne_self {α : Type} {d : Dict α} {key : Text} {value : α}
    (h : d.get? key = none) : d.set key value ≠ d := by
  intro heq
  have hget := Dict.get?_set d key key value
  rw [heq, h, if_pos rfl] at hget
  cases hget

/-- Whether the files of a call that raised are untouched. -/
private theorem untouched_iff {artifacts : ContentAddressedArtifactStore} {stored : Bytes}
    {receipts : JsonEvidenceReceiptStore}
    (hdigest : receipt.artifactDigest = sha256 content)
    (hcases : s.files.artifacts.get? (sha256 content) = some stored ∧
        artifacts = s.files.artifacts ∨
      s.files.artifacts.get? (sha256 content) = none ∧ stored = content ∧
        artifacts = s.files.artifacts.set (sha256 content) content)
    (hreceipts : receipts = s.files.receipts ↔ ((stored.length : Int) = receipt.artifactSize →
      s.files.receipts.get? receipt.receiptId ≠ none)) :
    (⟨artifacts, receipts⟩ : EvidenceFiles) = s.files ↔ s.Present receipt := by
  rw [Present, hdigest]
  rcases hcases with ⟨hstored, rfl⟩ | ⟨hnone, -, rfl⟩
  · rw [hstored]
    simp only [Option.some.injEq, exists_eq_left', ← hreceipts]
    constructor
    · exact fun heq ↦ congrArg EvidenceFiles.receipts heq
    · rintro rfl
      rfl
  · rw [hnone]
    refine iff_of_false (fun heq ↦ ?_) nofun
    exact set_ne_self hnone (congrArg EvidenceFiles.artifacts heq)

theorem ingestBytes_outcome (hs : s.Filed) {captured : Datetime} (h : Received receipt captured)
    {level : Sensitivity} (hfor : EvidenceFiles.receiptFor governance content a = .ok receipt)
    (hlevel : a.sensitivity = level.text) (hdigest : receipt.artifactDigest = sha256 content)
    (hsize : receipt.artifactSize = content.length) :
    Outcome governance s content receipt
      (receiptRow receipt captured a.sensitivity (policyIdOf governance))
      (s.ingestBytes governance content a) := by
  obtain ⟨artifacts, stored, hput, hget, hsha, hcases⟩ := put_of_filed hs.artifacts content
  rw [ingestBytes, EvidenceFiles.ingestBytes, hfor]
  dsimp only
  rw [hput]
  dsimp only
  have hassert : EvidenceFiles.assertExistingArtifact ⟨artifacts, s.files.receipts⟩ receipt =
      .ok () ↔ (stored.length : Int) = receipt.artifactSize :=
    assertExistingArtifact_eq_ok (by rw [hdigest]; exact hget) (by rw [hdigest]; exact hsha)
  have hartifacts : artifacts = (s.files.artifacts.put content).2 := by rw [hput]
  by_cases hlength : (stored.length : Int) = receipt.artifactSize
  · rw [ok_bind, hassert.mpr hlength, ok_bind]
    cases hreceipts : JsonEvidenceReceiptStore.put s.files.receipts receipt with
    | error e =>
      dsimp only
      have hno : ∀ receipts, JsonEvidenceReceiptStore.put s.files.receipts receipt ≠ .ok receipts :=
        fun receipts hok ↦ absurd (hreceipts.symm.trans hok) nofun
      have hpresent : s.files.receipts.get? receipt.receiptId ≠ none := by
        intro hnone
        obtain ⟨record, hrecord⟩ := toDict_isOk h
        exact hno _ ((put_receipt_eq_ok h).mpr
          ⟨fun text htext ↦ absurd (hnone.symm.trans htext) nofun, record, hrecord, rfl⟩)
      refine .raised e ⟨artifacts, s.files.receipts⟩ ?_ ⟨hartifacts, .inl rfl⟩ ?_
      · intro hagrees
        obtain ⟨record, hrecord⟩ := toDict_isOk h
        exact hno _ ((put_receipt_eq_ok h).mpr
          ⟨hagrees.file, record, hrecord, rfl⟩)
      · exact untouched_iff hdigest hcases (iff_of_true rfl fun _ ↦ hpresent)
    | ok receipts =>
      dsimp only
      obtain ⟨hsame, record, hrecord, hwritten⟩ :=
        (put_receipt_eq_ok h).mp hreceipts
      have hstores : StoresFiles s.files ⟨artifacts, receipts⟩ content receipt := by
        refine ⟨hartifacts, ?_⟩
        by_cases hfile : s.files.receipts.get? receipt.receiptId = none
        · exact .inr ⟨hfile, record, hrecord, by rw [hwritten, hfile]; rfl⟩
        · exact .inl (by rw [hwritten, if_pos (Option.isSome_iff_ne_none.mpr hfile)])
      have hfiled : receipts.get? receipt.receiptId ≠ none := by
        rw [hwritten]
        by_cases hfile : s.files.receipts.get? receipt.receiptId = none
        · rw [hfile, if_neg (by simp), Dict.get?_set, if_pos rfl]
          exact nofun
        · rw [if_pos (Option.isSome_iff_ne_none.mpr hfile)]
          exact hfile
      have huntouched : (⟨artifacts, receipts⟩ : EvidenceFiles) = s.files ↔ s.Present receipt := by
        refine untouched_iff hdigest hcases ?_
        rw [hwritten]
        cases hfile : s.files.receipts.get? receipt.receiptId with
        | none =>
          refine iff_of_false (fun heq ↦ ?_) fun hne ↦ hne hlength rfl
          exact set_ne_self hfile heq
        | some text => exact iff_of_true rfl fun _ ↦ nofun
      have hrow {row : RecordRow} : indexRow governance receipt level.text = .ok row ↔
          blank (policyIdOf governance) = false ∧
            row = receiptRow receipt captured level.text (policyIdOf governance) :=
        indexRow_eq_ok h
      have hindex := indexRecord_isOk_iff (s := { s with files := ⟨artifacts, receipts⟩ }) h level
        (policyIdOf governance)
      have hartifact : ∀ content', s.files.artifacts.get? receipt.artifactDigest = some content' →
          (content'.length : Int) = receipt.artifactSize := by
        intro content' hcontent'
        rw [hdigest] at hcontent'
        rcases hcases with ⟨hstored, -⟩ | ⟨hnone, -⟩
        · rw [hstored] at hcontent'
          cases hcontent'
          exact hlength
        · rw [hnone] at hcontent'
          cases hcontent'
      rw [hlevel]
      cases hpolicy : blank (policyIdOf governance) with
      | true =>
        have hrefused : ∃ e, indexRow governance receipt level.text = .error e := by
          cases hx : indexRow governance receipt level.text with
          | error e => exact ⟨e, rfl⟩
          | ok row => exact absurd (hrow.mp hx).1 (by simp [hpolicy])
        obtain ⟨e, hrefused⟩ := hrefused
        rw [hrefused, error_bind]
        refine .raised e _ (fun hagrees ↦ ?_) hstores huntouched
        exact absurd hagrees.policy (by simp [hpolicy])
      | false =>
        rw [hrow.mpr ⟨hpolicy, rfl⟩, ok_bind]
        cases hx : ({ s with files := ⟨artifacts, receipts⟩ } : Workspace).indexRecord
            (receiptRow receipt captured level.text (policyIdOf governance)) with
        | error e =>
          refine .raised e _ (fun hagrees ↦ ?_) hstores huntouched
          obtain ⟨s', hs'⟩ := hindex.mpr ⟨hagrees.run,
            fun row hget ↦ (hrow.mp (hagrees.record row hget)).2, hagrees.encodable⟩
          rw [hx] at hs'
          cases hs'
        | ok s' =>
          obtain ⟨hruns, hrecords, hencodable⟩ := hindex.mp ⟨s', hx⟩
          exact .returned _ s' ⟨hartifact, hsame, hpolicy, hruns,
            fun row hget ↦ hrow.mpr ⟨hpolicy, hrecords row hget⟩, hencodable⟩ hstores hfiled
            (hassert.mpr hlength) hx
  · have herror : ∃ e, EvidenceFiles.assertExistingArtifact ⟨artifacts, s.files.receipts⟩ receipt =
        .error e := by
      cases hx : EvidenceFiles.assertExistingArtifact ⟨artifacts, s.files.receipts⟩ receipt with
      | error e => exact ⟨e, rfl⟩
      | ok u => exact absurd (hassert.mp hx) hlength
    obtain ⟨e, herror⟩ := herror
    rw [ok_bind, herror, error_bind]
    dsimp only
    refine .raised e ⟨artifacts, s.files.receipts⟩ ?_ ⟨hartifacts, .inl rfl⟩ ?_
    · intro hagrees
      rcases hcases with ⟨hstored, -⟩ | ⟨-, rfl, -⟩
      · exact hlength (hagrees.artifact stored (by rw [hdigest]; exact hstored))
      · exact hlength hsize.symm
    · exact untouched_iff hdigest hcases (iff_of_true rfl fun heq ↦ absurd heq hlength)

/-! ### What a call keeps -/

/-- Receipts of one record have one row. -/
theorem receiptRow_of_sameRecord {r r' : ExternalEvidenceReceipt} {captured captured' : Datetime}
    (h : Received r captured) (h' : Received r' captured') (hsame : SameRecord r r')
    (sensitivity policyId : Text) :
    receiptRow r captured sensitivity policyId = receiptRow r' captured' sensitivity policyId := by
  obtain ⟨record, record', hrecord, hrecord', heq⟩ := hsame
  have hget := get?_of_ordered_eq
    ((Json.writable_obj _).mp (writable_receipt h.constructed hrecord)).1
    ((Json.writable_obj _).mp (writable_receipt h'.constructed hrecord')).1 heq
  obtain ⟨-, -, -, htype, hid, hartifact, hsize, hcaptured, href, hevent, hversion, hrun, hreceipt,
    -⟩ := get?_record h.constructed hrecord
  obtain ⟨-, -, -, htype', hid', hartifact', hsize', hcaptured', href', hevent', hversion', hrun',
    hreceipt', -⟩ := get?_record h'.constructed hrecord'
  have hstr {key a b : Text} (ha : record.get? key = some (.str a))
      (hb : record'.get? key = some (.str b)) : a = b := by
    have hk := hget key
    rw [ha, hb] at hk
    cases hk
    rfl
  have hopt {key : Text} {a b : Option Text} (ha : record.get? key = some (optionJson a))
      (hb : record'.get? key = some (optionJson b)) : a = b := by
    have hk := hget key
    rw [ha, hb, Option.map_some, Option.map_some, sortKeys_optionJson, sortKeys_optionJson] at hk
    cases a <;> cases b <;> cases hk <;> rfl
  have hint : r.artifactSize = r'.artifactSize := by
    have hk := hget (lit "artifact_size")
    rw [hsize, hsize', Option.map_some, Option.map_some, Json.sortKeys_int,
      Json.sortKeys_int] at hk
    exact Json.int.inj (Option.some.inj hk)
  have htime := isoformat_injective (hstr hcaptured hcaptured')
  rw [receiptRow, receiptRow, hstr htype htype', hstr hid hid', hstr hartifact hartifact', hint,
    hstr href href', hopt hevent hevent', hopt hversion hversion', hopt hrun hrun',
    hstr hreceipt hreceipt', htime]

/-- A receipt read back is a received receipt, of the same record. -/
theorem received_stored {r : ExternalEvidenceReceipt} {captured : Datetime}
    (h : Received r captured) : SameRecord (r.stored captured) r := by
  obtain ⟨record, hrecord⟩ := toDict_isOk h
  exact ⟨record, record, by rw [toDict_stored h.constructed, hrecord], hrecord, rfl⟩

theorem SameRecord.trans {r r' r'' : ExternalEvidenceReceipt} (h : SameRecord r r')
    (h' : SameRecord r' r'') : SameRecord r r'' := by
  obtain ⟨a, b, ha, hb, hab⟩ := h
  obtain ⟨b', c, hb', hc, hbc⟩ := h'
  rw [hb] at hb'
  cases hb'
  exact ⟨a, c, ha, hc, hab.trans hbc⟩

theorem SameRecord.symm {r r' : ExternalEvidenceReceipt} (h : SameRecord r r') :
    SameRecord r' r := by
  obtain ⟨a, b, ha, hb, hab⟩ := h
  exact ⟨b, a, hb, ha, hab.symm⟩

variable {files : EvidenceFiles} {captured : Datetime}

/-- Stored files keep what rows and files hold. -/
theorem filed_of_storesFiles (hs : s.Filed) (h : Received receipt captured)
    (hstores : StoresFiles s.files files content receipt) :
    ({ s with files } : Workspace).Filed := by
  obtain ⟨artifacts, stored, hput, hget, hsha, hcases⟩ := put_of_filed hs.artifacts content
  have hartifacts : files.artifacts = artifacts := by rw [hstores.artifacts, hput]
  have hkept : ∀ recordId text, s.files.receipts.get? recordId = some text →
      files.receipts.get? recordId = some text := by
    intro recordId text htext
    rcases hstores.receipts with heq | ⟨hnone, record, -, heq⟩
    · rw [heq]
      exact htext
    · rw [heq, Dict.get?_set]
      split
      · next hid =>
        rw [hid, hnone] at htext
        cases htext
      · exact htext
  refine ⟨hs.keys, ?_, ?_, ?_⟩
  · intro recordId text htext
    rcases hstores.receipts with heq | ⟨hnone, record, hrecord, heq⟩
    · exact hs.receipts recordId text (heq ▸ htext)
    · rw [show ({ s with files } : Workspace).files.receipts = files.receipts from rfl, heq,
        Dict.get?_set] at htext
      split at htext
      · next hid =>
        cases htext
        exact ⟨receipt, captured, h, hid.symm, record, hrecord, rfl⟩
      · exact hs.receipts recordId text htext
  · intro recordId row hrow
    obtain ⟨text, r, captured', sensitivity, policyId, htext, hfile, heq⟩ :=
      hs.records recordId row hrow
    exact ⟨text, r, captured', sensitivity, policyId, hkept _ _ htext, hfile, heq⟩
  · intro digest stored' hget'
    rw [show ({ s with files } : Workspace).files.artifacts = files.artifacts from rfl,
      hartifacts] at hget'
    rcases hcases with ⟨-, heq⟩ | ⟨-, -, heq⟩
    · rw [heq] at hget'
      exact hs.artifacts digest stored' hget'
    · rw [heq, Dict.get?_set] at hget'
      split at hget'
      · next hd =>
        cases hget'
        exact hd.symm
      · exact hs.artifacts digest stored' hget'

/-- A call that returns leaves the file of its row. -/
theorem file_of_returned (hs : s.Filed) (h : Received receipt captured)
    (hagrees : ∀ text, s.files.receipts.get? receipt.receiptId = some text → ∃ existing,
      JsonEvidenceReceiptStore.parse text = .ok existing ∧ SameRecord existing receipt)
    (hstores : StoresFiles s.files files content receipt)
    (hfiled : files.receipts.get? receipt.receiptId ≠ none) :
    ∃ text r captured', files.receipts.get? receipt.receiptId = some text ∧
      ReceiptFile receipt.receiptId text r captured' ∧ SameRecord r receipt := by
  rcases hstores.receipts with heq | ⟨hnone, record, hrecord, heq⟩
  · obtain ⟨text, hget⟩ := Option.ne_none_iff_exists'.mp hfiled
    rw [heq] at hget
    obtain ⟨r, captured', hr⟩ := hs.receipts _ _ hget
    obtain ⟨existing, hparse, hsame⟩ := hagrees text hget
    rw [hr.parse] at hparse
    cases hparse
    exact ⟨text, r, captured', heq ▸ hget, hr, (received_stored hr.received).symm.trans hsame⟩
  · refine ⟨_, receipt, captured, ?_, ⟨h, rfl, record, hrecord, rfl⟩, record, record, hrecord,
      hrecord, rfl⟩
    rw [heq, Dict.get?_set, if_pos rfl]

/-- Indexing the row of a file keeps what rows and files hold. -/
theorem filed_of_indexRecord (hs : s.Filed) (h : Received receipt captured)
    {sensitivity policyId : Text} {s' : Workspace}
    (hfile : ∃ text r captured', s.files.receipts.get? receipt.receiptId = some text ∧
      ReceiptFile receipt.receiptId text r captured' ∧ SameRecord r receipt)
    (hindexed : s.indexRecord (receiptRow receipt captured sensitivity policyId) = .ok s') :
    s'.Filed := by
  obtain ⟨hfiles, -, -, hrecords⟩ := indexRecord_spec hindexed
  rcases hrecords with hrecords | ⟨hnew, hrecords⟩
  · exact ⟨hrecords ▸ hs.keys, hfiles ▸ hs.receipts, by rw [hrecords, hfiles]; exact hs.records,
      hfiles ▸ hs.artifacts⟩
  · refine ⟨?_, hfiles ▸ hs.receipts, ?_, hfiles ▸ hs.artifacts⟩
    · rw [hrecords, Dict.set_of_not_mem (Dict.get?_eq_none_iff.mp hnew), Dict.Distinct, Dict.keys,
        List.map_append, List.nodup_append]
      refine ⟨hs.keys, List.nodup_singleton _, ?_⟩
      intro key hkey key' hnewKey heq
      rw [List.map_singleton, List.mem_singleton] at hnewKey
      rw [heq, hnewKey] at hkey
      exact Dict.get?_eq_none_iff.mp hnew hkey
    · intro recordId row hrow
      rw [hrecords, Dict.get?_set] at hrow
      rw [hfiles]
      split at hrow
      · next hid =>
        cases hrow
        obtain ⟨text, r, captured', htext, hr, hsame⟩ := hfile
        rw [hid]
        exact ⟨text, r, captured', sensitivity, policyId, htext, hr,
          (receiptRow_of_sameRecord hr.received h hsame _ _).symm⟩
      · exact hs.records recordId row hrow

/-- The keys of the metadata of a call are distinct. -/
def Operation.Proper : Operation → Prop
  | .ingestBytes _ a => a.metadata.Distinct
  | .ingestFile _ _ _ a => a.metadata.Distinct
  | _ => True

theorem ingestBytes_filed (hg : RedactsDicts governance) (ha : a.metadata.Distinct)
    (hs : s.Filed) : (s.ingestBytes governance content a).2.Filed := by
  cases hfor : EvidenceFiles.receiptFor governance content a with
  | error e =>
    rw [ingestBytes, EvidenceFiles.ingestBytes, hfor]
    exact hs
  | ok receipt =>
    obtain ⟨⟨captured, h⟩, hdigest, hsize⟩ := received_of_receiptFor hg ha hfor
    obtain ⟨-, -, level, hlevel⟩ := receiptFor_spec hfor
    have houtcome := ingestBytes_outcome hs h hfor hlevel hdigest hsize
    generalize s.ingestBytes governance content a = result at houtcome ⊢
    cases houtcome with
    | returned files s' agrees stores filed asserted indexed =>
      exact filed_of_indexRecord (filed_of_storesFiles hs h stores) h
        (file_of_returned hs h agrees.file stores filed) indexed
    | raised e files conflicts stores untouched => exact filed_of_storesFiles hs h stores

/-- Every proper operation keeps what rows and files hold. -/
theorem apply_filed (hg : RedactsDicts governance) (hsound : s.Sound) (hs : s.Filed)
    {op : Operation} (hop : op.Proper) : (apply governance s op).2.Filed := by
  cases op with
  | ingestBytes content a => exact ingestBytes_filed hg hop hs
  | ingestFile path name content a =>
    cases content with
    | none => exact hs
    | some content => exact ingestBytes_filed hg hop hs
  | applyRetention recordId policy legalHold now =>
    rw [apply]
    split
    · exact hs
    · next s' h =>
      simp only [applyRetention, bind_eq_ok] at h
      obtain ⟨-, -, -, -, ⟨⟩, -, ⟨⟩⟩ := h
      exact ⟨hs.keys, hs.receipts, hs.records, hs.artifacts⟩
  | deleteExpired recordId now reason =>
    have hunlinked (row : RecordRow) (deletions : Dict DeletionRecord) :
        ({ s.unlinked row with deletions } : Workspace).Filed :=
      ⟨hs.keys, hs.receipts, hs.records, fun digest content hget ↦ by
        rw [unlinked, Dict.get?_erase] at hget
        split at hget
        · cases hget
        · exact hs.artifacts digest content hget⟩
    have houtcome := deleteExpiredRecord_outcome hsound recordId reason now
    rw [apply]
    generalize s.deleteExpiredRecord recordId now reason = result at houtcome ⊢
    cases houtcome with
    | refused e refuses => exact hs
    | lost e row due unrecordable => exact hunlinked row s.deletions
    | deleted decision d row due recordable object digest valid => exact hunlinked row _

/-! ### All or nothing -/

/-- A record of an identity that queries list and verification accepts. -/
structure Accepts (s : Workspace) (recordId : Text) : Prop where
  verified : s.verifyRecord recordId = .ok ()
  answered : ∀ limit offset, ∃ records, s.query limit offset = .ok (records, s.records.length)
  listed : ∃ records, s.query s.records.length 0 = .ok (records, s.records.length) ∧
    recordId ∈ records.map fun record ↦ record.entry.row.recordId

/-- A call that ingests. -/
def Operation.Ingests : Operation → Prop
  | .ingestBytes .. | .ingestFile .. => True
  | .applyRetention .. | .deleteExpired .. => False

/-- The bytes that a call ingests, with its arguments. -/
def Operation.ingested : Operation → Option (Bytes × IngestionArguments)
  | .ingestBytes content a => some (content, a)
  | .ingestFile _ name content a =>
    content.map fun content ↦ (content, { a with sourceRef := name })
  | .applyRetention .. | .deleteExpired .. => none

/-- A call that ingests raises with artifacts, receipts and the rows of records and runs as they
were, or returns with a record that queries and verification accept. -/
def AllOrNothing (governance : Option PrivacyGovernance) (s : Workspace) (op : Operation) : Prop :=
  op.Ingests →
    (∀ e s', apply governance s op = (.error e, s') →
      s'.files = s.files ∧ s'.records = s.records ∧ s'.runs = s.runs) ∧
    ∀ s', apply governance s op = (.ok (), s') → ∃ content a receipt,
      op.ingested = some (content, a) ∧
        EvidenceFiles.receiptFor governance content a = .ok receipt ∧ s'.Accepts receipt.receiptId

/-- A call that ingests is refused at once, meets no conflict, or has nothing new to store. -/
def Unconflicting (governance : Option PrivacyGovernance) (s : Workspace) (op : Operation) : Prop :=
  ∀ content a receipt, op.ingested = some (content, a) →
    EvidenceFiles.receiptFor governance content a = .ok receipt →
      s.NoConflict governance receipt a.sensitivity ∨ s.Present receipt

/-- An indexed row is in its table. -/
theorem get?_of_indexRecord {s s' : Workspace} {r : RecordRow} (h : s.indexRecord r = .ok s') :
    s'.records.get? r.recordId = some r := by
  rw [indexRecord, bind_eq_ok] at h
  obtain ⟨-, -, h⟩ := h
  rw [bind_eq_ok] at h
  obtain ⟨runs, -, h⟩ := h
  cases hrow : s.records.get? r.recordId with
  | none =>
    rw [hrow] at h
    dsimp only at h
    rw [bind_eq_ok] at h
    obtain ⟨-, -, h⟩ := h
    cases h
    rw [Dict.get?_set, if_pos rfl]
  | some row =>
    rw [hrow] at h
    dsimp only at h
    rw [require_bind_eq_ok] at h
    obtain ⟨heq, h⟩ := h
    cases h
    rw [hrow, of_decide_eq_true heq]

/-- A filed row with its artifact is accepted. -/
theorem accepts_of_filed (hsound : s.Sound) (hs : s.Filed) {sensitivity policyId : Text}
    (hrow : s.records.get? receipt.receiptId =
      some (receiptRow receipt captured sensitivity policyId))
    (hasserted : s.files.assertExistingArtifact receipt = .ok ()) :
    s.Accepts receipt.receiptId := by
  obtain ⟨text, r, captured', sensitivity', policyId', htext, hfile, heq⟩ := hs.records _ _ hrow
  refine ⟨?_, query_of_filed hs, ?_⟩
  · have hid := hfile.id
    have hread : s.requireRecord r.receiptId =
        entryFromRow (receiptRow receipt captured sensitivity policyId) := by
      rw [← hid] at hrow
      obtain ⟨entry, hentry, -, -⟩ := requireRecord_of_sound hsound hrow
      rw [hentry]
      rw [requireRecord, require_bind_eq_ok, bind_eq_ok] at hentry
      obtain ⟨-, -, -, hentry⟩ := hentry
      rw [hrow] at hentry
      exact hentry.symm
    have hasserted' : s.files.assertExistingArtifact (r.stored captured') = .ok () := by
      have hdigest : receipt.artifactDigest = r.artifactDigest :=
        congrArg RecordRow.artifactDigest heq
      have hsize : receipt.artifactSize = r.artifactSize := congrArg RecordRow.artifactSize heq
      simp only [EvidenceFiles.assertExistingArtifact, bind_eq_ok, require_eq_ok, hdigest,
        hsize] at hasserted ⊢
      exact hasserted
    rw [← hid] at htext hfile ⊢
    obtain ⟨record, hrecord⟩ := toDict_isOk hfile.received
    rw [verifyRecord, hread, heq, entryFromRow_receiptRow, ok_bind,
      hydrate_of_file htext hfile rfl, ok_bind, EvidenceFiles.verify, hasserted', ok_bind]
    have hget : JsonEvidenceReceiptStore.get s.files.receipts (r.stored captured').receiptId =
        .ok (r.stored captured') := get_of_file htext hfile
    rw [hget, ok_bind, toDict_stored hfile.received.constructed, hrecord, ok_bind, ok_bind, decide_eq_true rfl,
      require_true]
  · obtain ⟨records, hrecords⟩ := query_of_filed hs s.records.length 0
    refine ⟨records, hrecords, ?_⟩
    have hrows := (rows_query hrecords).1
    rw [List.drop_zero, List.take_of_length_le (by rw [length_orderedRows])] at hrows
    have hmem : receiptRow receipt captured sensitivity policyId ∈ s.orderedRows :=
      (List.mem_insertionSort _).mpr
        (List.mem_map.mpr ⟨_, Dict.mem_of_get? hrow, rfl⟩)
    rw [← hrows] at hmem
    obtain ⟨record, hrecord, hrow⟩ := List.mem_map.mp hmem
    exact List.mem_map.mpr ⟨record, hrecord, by rw [hrow]; rfl⟩

/-- A call that ingests is all or nothing exactly when it is refused at once, meets no conflict, or
has nothing new to store. -/
private theorem allOrNothing_ingestBytes_iff (hg : RedactsDicts governance)
    (ha : a.metadata.Distinct) (hsound : s.Sound) (hs : s.Filed) :
    ((∀ e s', s.ingestBytes governance content a = (.error e, s') →
        s'.files = s.files ∧ s'.records = s.records ∧ s'.runs = s.runs) ∧
      ∀ s', s.ingestBytes governance content a = (.ok (), s') → ∃ receipt,
        EvidenceFiles.receiptFor governance content a = .ok receipt ∧
          s'.Accepts receipt.receiptId) ↔
    ∀ receipt, EvidenceFiles.receiptFor governance content a = .ok receipt →
      s.NoConflict governance receipt a.sensitivity ∨ s.Present receipt := by
  cases hfor : EvidenceFiles.receiptFor governance content a with
  | error e =>
    rw [ingestBytes, EvidenceFiles.ingestBytes, hfor]
    refine iff_of_true ⟨?_, ?_⟩ ?_
    · intro e s' h
      cases h
      exact ⟨rfl, rfl, rfl⟩
    · intro s' h
      cases h
    · intro receipt h
      cases h
  | ok receipt =>
    obtain ⟨⟨captured, h⟩, hdigest, hsize⟩ := received_of_receiptFor hg ha hfor
    obtain ⟨-, -, level, hlevel⟩ := receiptFor_spec hfor
    have houtcome := ingestBytes_outcome hs h hfor hlevel hdigest hsize
    have hkept : (s.ingestBytes governance content a).2.Filed := ingestBytes_filed hg ha hs
    have hsound' : (s.ingestBytes governance content a).2.Sound :=
      ingestBytes_sound hsound content a
    generalize s.ingestBytes governance content a = result at houtcome hkept hsound' ⊢
    cases houtcome with
    | returned files s' agrees stores filed asserted indexed =>
      refine iff_of_true ⟨nofun, ?_⟩ ?_
      · intro s'' heq
        cases heq
        refine ⟨receipt, rfl, accepts_of_filed hsound' hkept (get?_of_indexRecord indexed) ?_⟩
        rw [(indexRecord_spec indexed).1]
        exact asserted
      · intro receipt' heq
        cases heq
        exact .inl agrees
    | raised e files conflicts stores untouched =>
      constructor
      · rintro ⟨hkeeps, -⟩ receipt' heq
        cases heq
        exact .inr (untouched.mp (hkeeps e _ rfl).1)
      · intro hcond
        refine ⟨?_, nofun⟩
        intro e' s' heq
        cases heq
        have hpresent := (hcond receipt rfl).resolve_left conflicts
        exact ⟨untouched.mpr hpresent, rfl, rfl⟩

private theorem allOrNothing_iff (hg : RedactsDicts governance) (hsound : s.Sound) (hs : s.Filed)
    {op : Operation} (hop : op.Proper) :
    AllOrNothing governance s op ↔ Unconflicting governance s op := by
  have hbytes (content : Bytes) (a : IngestionArguments) (ha : a.metadata.Distinct) :
      AllOrNothing governance s (.ingestBytes content a) ↔
        Unconflicting governance s (.ingestBytes content a) := by
    simp only [AllOrNothing, Unconflicting, Operation.Ingests, Operation.ingested, apply,
      true_implies, Option.some.injEq, Prod.mk.injEq, and_imp, exists_and_left, exists_eq_left',
      and_assoc]
    apply (allOrNothing_ingestBytes_iff hg ha hsound hs).trans
    constructor
    · rintro h _ _ receipt rfl rfl
      exact h receipt
    · intro h receipt
      exact h content a receipt rfl rfl
  cases op with
  | ingestBytes content a => exact hbytes content a hop
  | ingestFile path name content a =>
    cases content with
    | none =>
      refine iff_of_true (fun _ ↦ ⟨?_, ?_⟩) ?_
      · intro e s' h
        cases h
        exact ⟨rfl, rfl, rfl⟩
      · intro s' h
        cases h
      · intro content a receipt h
        cases h
    | some content => exact hbytes content { a with sourceRef := name } hop
  | applyRetention | deleteExpired =>
    refine iff_of_true False.elim ?_
    intro content a receipt h
    cases h

/-- One proper operation. -/
def applyProper (governance : Option PrivacyGovernance) (s : Workspace)
    (op : { op : Operation // op.Proper }) : Except PyError Unit × Workspace :=
  apply governance s op

private theorem along_allOrNothing_iff (hg : RedactsDicts governance)
    (ops : List { op : Operation // op.Proper }) :
    Along (applyProper governance) (fun s op ↦ AllOrNothing governance s op) empty ops ↔
      Along (applyProper governance) (fun s op ↦ Unconflicting governance s op) empty ops :=
  along_iff (J := fun s ↦ s.Sound ∧ s.Filed)
    (fun _ op hs ↦ allOrNothing_iff hg hs.1 hs.2 op.2)
    (fun _ op hs _ ↦ ⟨apply_sound hs.1, apply_filed hg hs.1 hs.2 op.2⟩) ⟨sound_empty, filed_empty⟩
    ops

end

/-- In every run, calls that ingest are all or nothing exactly when each is refused at once, meets
no conflict, or has nothing new to store. -/
theorem all_or_nothing_iff (governance : Option PrivacyGovernance) (hg : RedactsDicts governance)
    (ops : List { op : Operation // op.Proper }) :
    Along (applyProper governance) (fun s op ↦ AllOrNothing governance s op) empty ops ↔
      Along (applyProper governance) (fun s op ↦ Unconflicting governance s op) empty ops :=
  along_allOrNothing_iff hg ops

/-! ### A refused event -/

/-- A report of one event with the bytes `content`. -/
private def eventReport (content : Bytes) : { op : Operation // op.Proper } :=
  ⟨.ingestBytes content ⟨lit "tool", lit "scanner", lit "report.json",
    .ofUtc RetentionAdapter.epoch, some (lit "1"), none, none, [], lit "internal"⟩,
    List.nodup_nil⟩

/-- Two reports of one event with the same bytes are all or nothing. -/
theorem all_or_nothing_same_event : RedactsDicts none ∧
    (Along (applyProper none) (fun s op ↦ AllOrNothing none s op) empty
        [eventReport [], eventReport []] ↔
      Along (applyProper none) (fun s op ↦ Unconflicting none s op) empty
        [eventReport [], eventReport []]) :=
  ⟨redactsDicts_none, all_or_nothing_iff none redactsDicts_none _⟩

/-- The second report of an event, with other bytes, is refused, and its artifact is new. -/
private theorem second_report :
    (applyProper none (applyProper none empty (eventReport [])).2 (eventReport [0])).1.toBool =
      false ∧
    ((applyProper none empty (eventReport [])).2.files.artifacts.get? (sha256 [0])).isSome =
      false ∧
    ((applyProper none (applyProper none empty (eventReport [])).2
      (eventReport [0])).2.files.artifacts.get? (sha256 [0])).isSome = true := by
  decide +kernel

/-- Evidence that is refused leaves its artifact. -/
theorem not_all_or_nothing : ¬∀ governance (ops : List { op : Operation // op.Proper }),
    RedactsDicts governance →
      Along (applyProper governance) (fun s op ↦ AllOrNothing governance s op) empty ops := by
  intro h
  have hsecond := (h none [eventReport [], eventReport [0]] redactsDicts_none).2.1 trivial
  obtain ⟨hrefused, hbefore, hafter⟩ := second_report
  cases hresult :
    applyProper none (applyProper none empty (eventReport [])).2 (eventReport [0]) with
  | mk result s' =>
    rw [hresult] at hrefused hafter
    cases result with
    | ok u => cases hrefused
    | error e =>
      have hkept := (hsecond.1 e s' hresult).1
      rw [hkept, hbefore] at hafter
      cases hafter

end StateWake.Lifecycle.Workspace
