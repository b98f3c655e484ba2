import StateWake.Lifecycle.EvidenceReceipt

/-!
# Ingesting files

The keyword arguments of `adapters/evidence_ingestion.py` and its two entry points: `ingest_bytes`
with a provenance reference, of which `EvidenceFiles.ingestBytes` is the case without one, and
`ingest_file`, which forwards the arguments one by one.
-/

namespace StateWake.Lifecycle

open StateWake.Base Text Reliability

/-- `EvidenceIngestionFileKwargs`, `adapters/evidence_ingestion.py:25–48`. An argument that may be
left out is `none` where it is. -/
structure EvidenceIngestionFileKwargs where
  producerType : Text
  producerId : Text
  capturedAt : AwareDatetime
  sourceRef : Option Text
  producerVersion : Option Text
  sourceEventId : Option Text
  runId : Option Text
  metadata : Option (Dict Text)
  provenanceRef : Option EvidenceReference
  sensitivity : Option Text

namespace EvidenceIngestionFileKwargs

/-- `source_ref or path.name`. -/
def sourceName (kw : EvidenceIngestionFileKwargs) (name : Text) : Text :=
  (kw.sourceRef.filter fun s ↦ !s.isEmpty).getD name

/-- What `ingest_bytes` reads of these arguments with a source, but for the provenance reference:
`kwargs.get` with its defaults, `adapters/evidence_ingestion.py:166–190`. -/
def arguments (kw : EvidenceIngestionFileKwargs) (sourceRef : Text) : IngestionArguments where
  producerType := kw.producerType
  producerId := kw.producerId
  sourceRef
  capturedAt := kw.capturedAt
  sourceEventId := kw.sourceEventId
  producerVersion := kw.producerVersion
  runId := kw.runId
  metadata := kw.metadata.getD []
  sensitivity := kw.sensitivity.getD (lit "internal")

end EvidenceIngestionFileKwargs

namespace EvidenceFiles

/-- The receipt of bytes with a provenance reference, checked before anything is written,
`adapters/evidence_ingestion.py:166–206`. -/
def receiptWith (governance : Option PrivacyGovernance) (content : Bytes)
    (a : IngestionArguments) (provenanceRef : Option EvidenceReference) :
    Except PyError ExternalEvidenceReceipt := do
  let _ ← Sensitivity.validate a.sensitivity (lit "sensitivity")
  let metadata := governance.elim a.metadata fun g ↦ g.redactMetadata a.metadata
  let receipt ← ExternalEvidenceReceipt.create ⟨a.producerType, a.producerId, sha256 content,
    content.length, a.capturedAt, a.sourceRef, a.sourceEventId, a.producerVersion, a.runId,
    provenanceRef, metadata⟩ [] []
  let () ← governance.elim (.ok ()) fun g ↦ g.admitReceipt receipt a.sensitivity
  pure receipt

/-- The writes of `ingest_bytes` for a checked receipt, `adapters/evidence_ingestion.py:208–213`. -/
def storeReceipt (files : EvidenceFiles) (content : Bytes) (receipt : ExternalEvidenceReceipt) :
    Except PyError ExternalEvidenceReceipt × EvidenceFiles :=
  let (digest, artifacts) := files.artifacts.put content
  let stored := { files with artifacts }
  let checked : Except PyError JsonEvidenceReceiptStore := do
    let _ ← digest
    stored.assertExistingArtifact receipt
    stored.receipts.put receipt
  match checked with
  | .error e => (.error e, stored)
  | .ok receipts => (.ok receipt, { stored with receipts })

/-- `ingest_bytes`, `adapters/evidence_ingestion.py:162–214`, with every keyword argument. -/
def ingestBytesWith (governance : Option PrivacyGovernance) (files : EvidenceFiles)
    (content : Bytes) (a : IngestionArguments) (provenanceRef : Option EvidenceReference) :
    Except PyError ExternalEvidenceReceipt × EvidenceFiles :=
  match receiptWith governance content a provenanceRef with
  | .error e => (.error e, files)
  | .ok receipt => files.storeReceipt content receipt

/-- Without a provenance reference this is `ingestBytes`. -/
theorem ingestBytesWith_none (governance : Option PrivacyGovernance) (files : EvidenceFiles)
    (content : Bytes) (a : IngestionArguments) :
    files.ingestBytesWith governance content a none = files.ingestBytes governance content a := rfl

/-- `ingest_file`, `adapters/evidence_ingestion.py:216–236`, of a path with its name and the bytes
of the file it names, if it names one. -/
def ingestFile (governance : Option PrivacyGovernance) (files : EvidenceFiles) (path name : Text)
    (file : Option Bytes) (kw : EvidenceIngestionFileKwargs) :
    Except PyError ExternalEvidenceReceipt × EvidenceFiles :=
  match file with
  | none => (.error ⟨.fileNotFoundError, path⟩, files)
  | some content =>
    let sourceRef := kw.sourceName name
    let metadata := kw.metadata.getD []
    -- `provenance_ref` is not among the arguments forwarded
    files.ingestBytesWith governance content ⟨kw.producerType, kw.producerId, sourceRef,
      kw.capturedAt, kw.sourceEventId, kw.producerVersion, kw.runId, metadata,
      kw.sensitivity.getD (lit "internal")⟩ none

variable {governance : Option PrivacyGovernance} {name : Text} {content : Bytes}
  {kw : EvidenceIngestionFileKwargs}

theorem ingestFile_eq (governance : Option PrivacyGovernance) (files : EvidenceFiles)
    (path name : Text) (content : Bytes) (kw : EvidenceIngestionFileKwargs) :
    files.ingestFile governance path name (some content) kw =
      files.ingestBytesWith governance content (kw.arguments (kw.sourceName name)) none := rfl

/-- What a receipt says of the bytes and the reference it was made of. -/
theorem receiptWith_spec {a : IngestionArguments} {p : Option EvidenceReference}
    {r : ExternalEvidenceReceipt} (h : receiptWith governance content a p = .ok r) :
    r.provenanceRef = p ∧ r.artifactDigest = sha256 content ∧ r.artifactSize = content.length ∧
      ∃ u, r.capturedAt.toUtc = .ok u := by
  simp only [receiptWith, bind_eq_ok] at h
  obtain ⟨_, -, receipt, hreceipt, _, -, heq⟩ := h
  cases heq
  simp only [ExternalEvidenceReceipt.create, bind_eq_ok] at hreceipt
  obtain ⟨_, -, _, -, _, -, _, -, _, -, _, -, _, -, _, -, u, hu, _, -, _, -, _, -, _, -, _, -, _, -,
    heq⟩ := hreceipt
  cases heq
  exact ⟨rfl, rfl, rfl, u, hu⟩

/-- Empty stores take every receipt. -/
theorem storeReceipt_empty {a : IngestionArguments} {p : Option EvidenceReference}
    {r : ExternalEvidenceReceipt} (h : receiptWith governance content a p = .ok r) :
    (storeReceipt ⟨[], []⟩ content r).1 = .ok r := by
  obtain ⟨-, hdigest, hsize, u, hu⟩ := receiptWith_spec h
  have hput : ContentAddressedArtifactStore.put [] content =
      (.ok (sha256 content), [(sha256 content, content)]) := rfl
  have hget : assertExistingArtifact ⟨[(sha256 content, content)], []⟩ r = .ok () := by
    rw [assertExistingArtifact, ContentAddressedArtifactStore.get,
      ContentAddressedArtifactStore.pathFor, hdigest, isSha256_sha256, require_true, ok_bind,
      Dict.get?_cons, if_pos rfl, orRaise_some, ok_bind,
      ContentAddressedArtifactStore.checkIntegrity, hsize]
    simp
  have hrecord : ∃ record, r.toDict = .ok record := by
    rw [ExternalEvidenceReceipt.toDict, ReceiptFields.payload, hu]
    exact ⟨_, rfl⟩
  obtain ⟨record, hrecord⟩ := hrecord
  have hreceipts : JsonEvidenceReceiptStore.put [] r = .ok [(r.receiptId,
      Json.dumps Json.indented (.obj record) ++ [Lines.newline])] := by
    rw [JsonEvidenceReceiptStore.put, hrecord]
    rfl
  simp only [storeReceipt, hput, ok_bind, hget, hreceipts]

/-- Whether the two entry points agree on these arguments, whatever is stored. -/
def Agrees (governance : Option PrivacyGovernance) (name : Text) (content : Bytes)
    (kw : EvidenceIngestionFileKwargs) : Prop :=
  ∀ (files : EvidenceFiles) (path : Text),
    files.ingestFile governance path name (some content) kw =
      files.ingestBytesWith governance content (kw.arguments (kw.sourceName name)) kw.provenanceRef

/-- Both entry points refuse the arguments before anything is written, and for one reason. -/
def Refused (governance : Option PrivacyGovernance) (name : Text) (content : Bytes)
    (kw : EvidenceIngestionFileKwargs) : Prop :=
  ∃ e, receiptWith governance content (kw.arguments (kw.sourceName name)) none = .error e ∧
    receiptWith governance content (kw.arguments (kw.sourceName name)) kw.provenanceRef = .error e

/-- Where both make a receipt and agree, they make it of one reference. -/
theorem none_or_refused (h : Agrees governance name content kw) :
    kw.provenanceRef = none ∨ Refused governance name content kw := by
  have hempty := congrArg Prod.fst (h ⟨[], []⟩ [])
  rw [ingestFile_eq, ingestBytesWith, ingestBytesWith] at hempty
  cases hwithout : receiptWith governance content (kw.arguments (kw.sourceName name)) none with
  | error e =>
    cases hwith : receiptWith governance content (kw.arguments (kw.sourceName name))
        kw.provenanceRef with
    | error e' =>
      simp only [hwithout, hwith, Except.error.injEq] at hempty
      exact .inr ⟨e, hwithout, hempty ▸ hwith⟩
    | ok r' =>
      simp only [hwithout, hwith, storeReceipt_empty hwith, reduceCtorEq] at hempty
  | ok r =>
    cases hwith : receiptWith governance content (kw.arguments (kw.sourceName name))
        kw.provenanceRef with
    | error e' =>
      simp only [hwithout, hwith, storeReceipt_empty hwithout, reduceCtorEq] at hempty
    | ok r' =>
      simp only [hwithout, hwith, storeReceipt_empty hwithout, storeReceipt_empty hwith,
        Except.ok.injEq] at hempty
      left
      rw [← (receiptWith_spec hwith).1, ← hempty, (receiptWith_spec hwithout).1]

/-- The entry points agree exactly on arguments without a provenance reference and on those both
refuse alike: the reference is the one argument that is not forwarded. -/
theorem entry_points_agree_iff (governance : Option PrivacyGovernance) (name : Text)
    (content : Bytes) (kw : EvidenceIngestionFileKwargs) : Agrees governance name content kw ↔
      kw.provenanceRef = none ∨ Refused governance name content kw := by
  constructor
  · exact none_or_refused
  · intro h files path
    rw [ingestFile_eq]
    cases h with
    | inl hnone => rw [hnone]
    | inr hrefused =>
      obtain ⟨e, hwithout, hwith⟩ := hrefused
      rw [ingestBytesWith, ingestBytesWith, hwithout, hwith]

private theorem sample_named :
    ¬(blank (lit "provenance") = true ∨ blank (lit "graph") = true) := by
  decide

/-- Arguments that name where an artifact comes from. -/
def sampleKwargs : EvidenceIngestionFileKwargs where
  producerType := lit "pipeline"
  producerId := lit "producer"
  capturedAt := .ofUtc RetentionAdapter.epoch
  sourceRef := none
  producerVersion := none
  sourceEventId := none
  runId := none
  metadata := none
  provenanceRef := some ⟨lit "provenance", lit "graph", sha256 [], none, none, sample_named,
    isSha256_sha256_nil, EvidenceReference.unsourced, fun h ↦ absurd rfl h⟩
  sensitivity := none

/-- A file ingested with a provenance reference has another receipt than its bytes. -/
theorem not_entry_points_agree : ¬∀ governance name content kw,
    Agrees governance name content kw := by
  intro hall
  obtain hnone | hrefused := none_or_refused (hall none (lit "report.json") [] sampleKwargs)
  · exact nomatch hnone
  · obtain ⟨e, hwithout, -⟩ := hrefused
    have hmade : (receiptWith none []
        (sampleKwargs.arguments (sampleKwargs.sourceName (lit "report.json"))) none).toBool =
        true := by decide +kernel
    rw [hwithout] at hmade
    cases hmade

end EvidenceFiles

end StateWake.Lifecycle
