import StateWake.Lifecycle.ContentStore
import StateWake.Reliability.EvidenceChain

/-!
# Evidence receipts

`domain/evidence_receipt.py` and `adapters/evidence_ingestion.py`: a receipt for each artifact an
external producer supplied, its file, and the adapter that stores both.
-/

namespace StateWake.Lifecycle

open StateWake.Base Text Utils Reliability

/-! ### Receipts -/

/-- What a caller says about an artifact, with its digest and size. -/
structure ReceiptFields where
  producerType : Text
  producerId : Text
  artifactDigest : Text
  artifactSize : Int
  capturedAt : AwareDatetime
  sourceRef : Text
  sourceEventId : Option Text
  producerVersion : Option Text
  runId : Option Text
  provenanceRef : Option EvidenceReference
  metadata : Dict Text
  deriving DecidableEq

/-- `ExternalEvidenceReceipt`, `domain/evidence_receipt.py:54–73`. -/
structure ExternalEvidenceReceipt extends ReceiptFields where
  receiptId : Text
  digest : Text
  deriving DecidableEq

namespace ReceiptFields

/-- `identity_payload`, `domain/evidence_receipt.py:106–121`. -/
def identityPayload (f : ReceiptFields) : Dict Json :=
  [(lit "producer_type", .str f.producerType),
    (lit "producer_id", .str f.producerId),
    (lit "producer_version", optionJson f.producerVersion),
    (lit "source_ref", .str f.sourceRef),
    (lit "source_event_id", optionJson f.sourceEventId),
    (lit "artifact_digest", .str f.artifactDigest),
    (lit "artifact_size", .int f.artifactSize),
    (lit "run_id", optionJson f.runId),
    (lit "provenance_ref", f.provenanceRef.elim .null fun r ↦ .obj r.toDict),
    (lit "metadata", .obj (f.metadata.sorted.mapValues .str))]

/-- The members that identify the occurrence, `domain/evidence_receipt.py:129–137`. -/
def identity (f : ReceiptFields) : Dict Json :=
  match f.sourceEventId with
  | none => f.identityPayload
  | some event =>
    [(lit "producer_type", .str f.producerType),
      (lit "producer_id", .str f.producerId),
      (lit "source_event_id", .str event)]

/-- `computed_receipt_id`, `domain/evidence_receipt.py:123–138`. -/
def computedReceiptId (f : ReceiptFields) : Except PyError Text := do
  let content ← canonicalBytes f.identity
  pure (sha256 content)

/-- `payload`, `domain/evidence_receipt.py:140–146`. -/
def payload (f : ReceiptFields) (receiptId : Text) : Except PyError (Dict Json) := do
  let captured ← f.capturedAt.toUtc
  pure (f.identityPayload ++
    [(lit "captured_at", .str (isoformat captured)), (lit "receipt_id", .str receiptId)])

/-- `computed_digest`, `domain/evidence_receipt.py:148–150`. -/
def computedDigest (f : ReceiptFields) (receiptId : Text) : Except PyError Text := do
  let payload ← f.payload receiptId
  let content ← canonicalBytes payload
  pure (sha256 content)

end ReceiptFields

namespace ExternalEvidenceReceipt

/-- The constructor, `__post_init__` at `domain/evidence_receipt.py:75–104`. -/
def create (f : ReceiptFields) (receiptId digest : Text) :
    Except PyError ExternalEvidenceReceipt := do
  require ⟨.valueError, lit "producer_type must not be empty."⟩ (!blank f.producerType)
  require ⟨.valueError, lit "producer_id must not be empty."⟩ (!blank f.producerId)
  require ⟨.valueError, lit "source_ref must not be empty."⟩ (!blank f.sourceRef)
  require ⟨.valueError, lit "producer_version must not be blank when provided."⟩
    (f.producerVersion.all fun s ↦ !blank s)
  require ⟨.valueError, lit "source_event_id must not be blank when provided."⟩
    (f.sourceEventId.all fun s ↦ !blank s)
  require ⟨.valueError, lit "run_id must not be blank when provided."⟩
    (f.runId.all fun s ↦ !blank s)
  require ⟨.valueError, lit "artifact_digest must be lowercase SHA-256 hex."⟩
    (isSha256 f.artifactDigest)
  require ⟨.valueError, lit "artifact_size must be non-negative."⟩ (0 ≤ f.artifactSize)
  let _ ← f.capturedAt.toUtc
  require ⟨.valueError, lit "metadata keys must not be blank."⟩ (!f.metadata.keys.any blank)
  require ⟨.valueError, lit "provenance_ref must have kind 'provenance'."⟩
    (f.provenanceRef.all fun r ↦ r.kind = lit "provenance")
  let computedId ← f.computedReceiptId
  require ⟨.valueError, lit "receipt_id does not match receipt identity."⟩
    (receiptId.isEmpty || receiptId = computedId)
  let computedDigest ← f.computedDigest computedId
  require ⟨.valueError, lit "evidence receipt digest does not match record contents."⟩
    (digest.isEmpty || digest = computedDigest)
  pure { f with receiptId := computedId, digest := computedDigest }

/-- `to_dict`, `domain/evidence_receipt.py:152–158`. -/
def toDict (r : ExternalEvidenceReceipt) : Except PyError (Dict Json) := do
  let payload ← r.payload r.receiptId
  pure ([(lit "format_version", .str (lit "1"))] ++ payload ++ [(lit "digest", .str r.digest)])

end ExternalEvidenceReceipt

/-- `string_mapping`, `utils/json_support.py:75–79`. -/
def stringMapping (value : Json) (field : Text) : Except PyError (Dict Text) := do
  let members ← requireObject value field
  pure (members.mapValues Json.pyStr)

/-- The constructor of a reference that binds no receipt,
`domain/reliability_evidence.py:48–54`. -/
def evidenceReference (kind identity digest : Text) (source : Option Text) :
    Except PyError EvidenceReference :=
  if hn : ¬(blank kind = true ∨ blank identity = true) then
    if hd : isSha256 digest = true then
      if hs : ∀ s ∈ source, blank s = false then
        .ok ⟨kind, identity, digest, source, none, hn, hd, hs, fun h ↦ absurd rfl h⟩
      else valueError (lit "source must not be blank when provided.")
    else valueError (lit "digest must be lowercase SHA-256 hex.")
  else valueError (lit "evidence reference kind and identity must not be empty.")

namespace ExternalEvidenceReceipt

/-- The `provenance_ref` of a stored receipt, `domain/evidence_receipt.py:213–225`. -/
def provenanceOf (members : Dict Json) : Except PyError (Option EvidenceReference) :=
  match members.get? (lit "provenance_ref") with
  | none | some .null => .ok none
  | some value => do
    let reference ← requireObject value (lit "provenance_ref")
    let kind ← requiredText reference (lit "kind")
    let identity ← requiredText reference (lit "identity")
    let digest ← requiredText reference (lit "digest")
    some <$> evidenceReference kind identity digest (nullableText reference (lit "source"))

/-- `from_dict`, `domain/evidence_receipt.py:206–249`. -/
def fromDict (members : Dict Json) : Except PyError ExternalEvidenceReceipt := do
  require ⟨.valueError, lit "unsupported external evidence receipt format version."⟩
    ((nullableText members (lit "format_version")).all fun version ↦ version = lit "1")
  let metadata ← stringMapping ((members.get? (lit "metadata")).getD (.obj [])) (lit "metadata")
  let provenanceRef ← provenanceOf members
  let producerType ← requiredText members (lit "producer_type")
  let producerId ← requiredText members (lit "producer_id")
  let artifactDigest ← requiredText members (lit "artifact_digest")
  let size ← Json.index members (lit "artifact_size")
  let artifactSize ← requireInt size (lit "artifact_size")
  let captured ← requiredText members (lit "captured_at")
  let capturedAt ← parseDatetime captured (lit "captured_at")
  let sourceRef ← requiredText members (lit "source_ref")
  create ⟨producerType, producerId, artifactDigest, artifactSize, .ofUtc capturedAt, sourceRef,
      nullableText members (lit "source_event_id"), nullableText members (lit "producer_version"),
      nullableText members (lit "run_id"), provenanceRef, metadata⟩
    (optionalText members (lit "receipt_id")) (optionalText members (lit "digest"))

end ExternalEvidenceReceipt

/-! ### The receipt store -/

/-- `JsonEvidenceReceiptStore`, `adapters/evidence_ingestion.py:70–75`: the text of the file of
each receipt identity. -/
abbrev JsonEvidenceReceiptStore := Dict Text

namespace JsonEvidenceReceiptStore

/-- A receipt's file read back. -/
def parse (text : Text) : Except PyError ExternalEvidenceReceipt := do
  let value ← Json.loads text
  let members ← requireObject value (lit "receipt")
  ExternalEvidenceReceipt.fromDict members

/-- `put`, `adapters/evidence_ingestion.py:77–115`. -/
def put (files : JsonEvidenceReceiptStore) (r : ExternalEvidenceReceipt) :
    Except PyError JsonEvidenceReceiptStore := do
  let record ← r.toDict
  match files.get? r.receiptId with
  | none =>
    pure (files.set r.receiptId
      (Json.dumps Json.indented (.obj record) ++ [Lines.newline]))
  | some text => do
    let existing ← parse text
    let stored ← existing.toDict
    require ⟨.valueError, r.sourceEventId.elim
        (lit "receipt identity collision for " ++ r.receiptId ++ lit ".") fun event ↦
          lit "source_event_id conflict for " ++ r.producerId ++ lit ":" ++ event ++ lit "."⟩
      (ordered stored = ordered record)
    pure files

/-- `get`, `adapters/evidence_ingestion.py:117–124`. -/
def get (files : JsonEvidenceReceiptStore) (receiptId : Text) :
    Except PyError ExternalEvidenceReceipt := do
  let text ← orRaise ⟨.fileNotFoundError, lit "evidence receipt not found: " ++ receiptId⟩
    (files.get? receiptId)
  parse text

end JsonEvidenceReceiptStore

/-! ### Ingestion -/

/-- The arguments of `ingest_bytes`, `adapters/evidence_ingestion.py:28–49`. -/
structure IngestionArguments where
  producerType : Text
  producerId : Text
  sourceRef : Text
  capturedAt : AwareDatetime
  sourceEventId : Option Text
  producerVersion : Option Text
  runId : Option Text
  metadata : Dict Text
  sensitivity : Text

/-- What the ingestion adapter uses of a `PrivacyGovernanceRuntimeConfig`: the redaction of
metadata, and the admission of a receipt with its sensitivity. -/
structure PrivacyGovernance where
  redactMetadata : Dict Text → Dict Text
  admitReceipt : ExternalEvidenceReceipt → Text → Except PyError Unit
  evidencePolicyId : Text

/-- The files of the ingestion adapter. -/
structure EvidenceFiles where
  artifacts : ContentAddressedArtifactStore
  receipts : JsonEvidenceReceiptStore

namespace EvidenceFiles

/-- `_assert_existing_artifact`, `adapters/evidence_ingestion.py:232–240`. -/
def assertExistingArtifact (files : EvidenceFiles) (r : ExternalEvidenceReceipt) :
    Except PyError Unit := do
  let content ← files.artifacts.get r.artifactDigest
  require ⟨.valueError, lit "evidence artifact size mismatch for " ++ r.receiptId ++
      lit ": expected " ++ Json.intText r.artifactSize ++ lit ", got " ++
      Json.intText content.length⟩
    ((content.length : Int) = r.artifactSize)

/-- The receipt of bytes, checked before anything is written,
`adapters/evidence_ingestion.py:166–206`. -/
def receiptFor (governance : Option PrivacyGovernance) (content : Bytes)
    (a : IngestionArguments) : Except PyError ExternalEvidenceReceipt := do
  let _ ← Sensitivity.validate a.sensitivity (lit "sensitivity")
  let metadata := governance.elim a.metadata fun g ↦ g.redactMetadata a.metadata
  let receipt ← ExternalEvidenceReceipt.create ⟨a.producerType, a.producerId, sha256 content,
    content.length, a.capturedAt, a.sourceRef, a.sourceEventId, a.producerVersion, a.runId, none,
    metadata⟩ [] []
  let () ← governance.elim (.ok ()) fun g ↦ g.admitReceipt receipt a.sensitivity
  pure receipt

/-- `ingest_bytes`, `adapters/evidence_ingestion.py:161–214`. -/
def ingestBytes (governance : Option PrivacyGovernance) (files : EvidenceFiles) (content : Bytes)
    (a : IngestionArguments) : Except PyError ExternalEvidenceReceipt × EvidenceFiles :=
  match receiptFor governance content a with
  | .error e => (.error e, files)
  | .ok receipt =>
    let (digest, artifacts) := files.artifacts.put content
    let stored := { files with artifacts }
    let checked : Except PyError JsonEvidenceReceiptStore := do
      let _ ← digest
      stored.assertExistingArtifact receipt
      stored.receipts.put receipt
    match checked with
    | .error e => (.error e, stored)
    | .ok receipts => (.ok receipt, { stored with receipts })

/-- `verify`, `adapters/evidence_ingestion.py:223–230`. -/
def verify (files : EvidenceFiles) (r : ExternalEvidenceReceipt) : Except PyError Unit := do
  files.assertExistingArtifact r
  let persisted ← files.receipts.get r.receiptId
  let stored ← persisted.toDict
  let record ← r.toDict
  require ⟨.valueError, lit "persisted evidence receipt mismatch for " ++ r.receiptId ++ lit "."⟩
    (ordered stored = ordered record)

end EvidenceFiles

end StateWake.Lifecycle
