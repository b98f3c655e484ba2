import StateWake.Lifecycle.ReceiptStore
import StateWake.Reliability.ChainCodec

/-!
# Admission of external evidence

`services/evidence_admission_service.py`, `domain/evidence_admission.py` and the receipt binding of
`services/reliability_evidence_service.py`. Two services decide whether a receipt speaks for an
artifact and make the same reference of it. The admission service compares the identity of the
reference with the receipt; the constructor of an admission, which judges an admission read from
a file, does not.
-/

namespace StateWake.Lifecycle

open StateWake.Base Text Utils Reliability
open RetentionAdapter (epoch)

/-! ### Files -/

/-- A path and the bytes of the file there, if there is one. -/
structure FileAt where
  path : Text
  name : Text
  content : Option Bytes

namespace FileAt

/-- `path.read_bytes()`. -/
def read (file : FileAt) : Except PyError Bytes := orRaise ⟨.fileNotFoundError, []⟩ file.content

/-- `_file_digest`, `services/reliability_evidence_service.py:19–21`. -/
def digest (file : FileAt) : Except PyError Text := do
  let content ← file.read
  pure (sha256 content)

end FileAt

namespace ExternalEvidenceReceipt

/-- `receipt_reference`, `domain/evidence_receipt.py:160–164`. -/
def receiptReference (r : ExternalEvidenceReceipt) (source : Option Text) :
    Except PyError EvidenceReference :=
  EvidenceReference.create (lit "receipt") r.receiptId r.digest source none

/-- `==` of two receipts: the time as an instant, the metadata as a dictionary. -/
def equals (r r' : ExternalEvidenceReceipt) : Bool :=
  { r.toReceiptFields with capturedAt := r'.capturedAt, metadata := r'.metadata } =
      r'.toReceiptFields && r.capturedAt.instant = r'.capturedAt.instant &&
    r.metadata.sorted = r'.metadata.sorted && r.receiptId = r'.receiptId && r.digest = r'.digest

end ExternalEvidenceReceipt

/-! ### Admissions -/

/-- The fields of `ExternalEvidenceAdmission`, `domain/evidence_admission.py:24–36`. -/
structure ExternalEvidenceAdmissionFields where
  receiptId : Text
  receiptDigest : Text
  artifactDigest : Text
  artifactSize : Int
  producerType : Text
  producerId : Text
  sourceEventId : Option Text
  runId : Option Text
  evidenceReference : EvidenceReference
  deriving DecidableEq

namespace ExternalEvidenceAdmissionFields

/-- `__post_init__`, `domain/evidence_admission.py:38–75`. -/
def postInit (f : ExternalEvidenceAdmissionFields) : Except PyError Unit := do
  require ⟨.valueError, lit "receipt_id must not be empty."⟩ (!blank f.receiptId)
  require ⟨.valueError, lit "receipt_digest must not be empty."⟩ (!blank f.receiptDigest)
  require ⟨.valueError, lit "artifact_digest must not be empty."⟩ (!blank f.artifactDigest)
  require ⟨.valueError, lit "producer_type must not be empty."⟩ (!blank f.producerType)
  require ⟨.valueError, lit "producer_id must not be empty."⟩ (!blank f.producerId)
  require ⟨.valueError, lit "receipt_digest must be lowercase SHA-256 hex."⟩
    (isSha256 f.receiptDigest)
  require ⟨.valueError, lit "artifact_digest must be lowercase SHA-256 hex."⟩
    (isSha256 f.artifactDigest)
  require ⟨.valueError, lit "artifact_size must be non-negative."⟩ (0 ≤ f.artifactSize)
  require ⟨.valueError, lit "evidence_reference must have kind 'evidence'."⟩
    (f.evidenceReference.kind = lit "evidence")
  let receipt ← orRaise
    ⟨.valueError, lit "evidence_reference must retain its canonical receipt binding."⟩
    f.evidenceReference.receiptRef
  require ⟨.valueError, lit "evidence_reference receipt identity does not match admission."⟩
    (receipt.identity = f.receiptId)
  require ⟨.valueError, lit "evidence_reference receipt digest does not match admission."⟩
    (receipt.digest = f.receiptDigest)
  require ⟨.valueError, lit "evidence_reference artifact digest does not match admission."⟩
    (f.evidenceReference.digest = f.artifactDigest)

/-- `payload()`, `domain/evidence_admission.py:77–89`. -/
def payload (f : ExternalEvidenceAdmissionFields) : Dict Json :=
  [(lit "receipt_id", .str f.receiptId),
    (lit "receipt_digest", .str f.receiptDigest),
    (lit "artifact_digest", .str f.artifactDigest),
    (lit "artifact_size", .int f.artifactSize),
    (lit "producer_type", .str f.producerType),
    (lit "producer_id", .str f.producerId),
    (lit "source_event_id", optionJson f.sourceEventId),
    (lit "run_id", optionJson f.runId),
    (lit "evidence_reference", .obj f.evidenceReference.toDict)]

/-- `digest`, `domain/evidence_admission.py:91–94`. -/
def digest (f : ExternalEvidenceAdmissionFields) : Except PyError Text := do
  let content ← canonicalBytes f.payload
  pure (sha256 content)

/-- `to_dict()`, `domain/evidence_admission.py:96–98`. -/
def toDict (f : ExternalEvidenceAdmissionFields) : Except PyError (Dict Json) := do
  let digest ← f.digest
  pure (f.payload ++ [(lit "digest", .str digest)])

end ExternalEvidenceAdmissionFields

/-- `ExternalEvidenceAdmission`, `domain/evidence_admission.py:23–136`. -/
abbrev ExternalEvidenceAdmission := Accepted ExternalEvidenceAdmissionFields.postInit

namespace ExternalEvidenceAdmission

/-- The reference of an admission, `domain/evidence_admission.py:103–123`. -/
def referenceOf (members : Dict Json) : Except PyError EvidenceReference := do
  let rawRef ← orRaise ⟨.valueError, lit "evidence_reference must be an object."⟩
    ((members.get? (lit "evidence_reference")).bind Json.asObject)
  let rawReceipt ← orRaise ⟨.valueError, lit "evidence_reference.receipt_ref must be an object."⟩
    ((rawRef.get? (lit "receipt_ref")).bind Json.asObject)
  let receipt ← EvidenceReference.ofMembers rawReceipt none
  EvidenceReference.ofMembers rawRef (some receipt)

/-- `from_dict`, `domain/evidence_admission.py:100–136`. -/
def fromDict (members : Dict Json) : Except PyError ExternalEvidenceAdmission := do
  let evidenceReference ← referenceOf members
  let receiptId ← requiredText members (lit "receipt_id")
  let receiptDigest ← requiredText members (lit "receipt_digest")
  let artifactDigest ← requiredText members (lit "artifact_digest")
  let size ← Json.index members (lit "artifact_size")
  let artifactSize ← Utils.requireInt size (lit "artifact_size")
  let producerType ← requiredText members (lit "producer_type")
  let producerId ← requiredText members (lit "producer_id")
  let item ← construct ExternalEvidenceAdmissionFields.postInit
    { receiptId, receiptDigest, artifactDigest, artifactSize, producerType, producerId,
      sourceEventId := nullableText members (lit "source_event_id"),
      runId := nullableText members (lit "run_id"), evidenceReference }
  let supplied := optionalText members (lit "digest")
  if supplied ≠ [] then
    let digest ← item.val.digest
    require ⟨.valueError, lit "external evidence admission digest mismatch."⟩ (supplied = digest)
  pure item

end ExternalEvidenceAdmission

/-! ### Admitting -/

/-- The comparison with the persisted receipt, `services/evidence_admission_service.py:58–67`. -/
def checkPersisted (receipt : ExternalEvidenceReceipt) (receiptPath : FileAt) :
    Except PyError Unit := do
  let raw ← orRaise ⟨.fileNotFoundError,
    lit "external evidence receipt not found: " ++ receiptPath.path⟩ receiptPath.content
  let members ← loadObject raw (lit "payload")
  let persisted ← ExternalEvidenceReceipt.fromDict members
  require ⟨.valueError, lit "persisted external evidence receipt does not match adapter receipt"⟩
    (persisted.equals receipt)

/-- `admit_external_evidence`, `services/evidence_admission_service.py:21–102`. -/
def admitExternalEvidence (receipt : ExternalEvidenceReceipt) (artifactPath : FileAt)
    (receiptPath : Option FileAt) (expectedRunId expectedProducerType expectedProducerId :
      Option Text) : Except PyError ExternalEvidenceAdmission := do
  let content ← orRaise ⟨.fileNotFoundError,
    lit "external evidence artifact not found: " ++ artifactPath.path⟩ artifactPath.content
  require ⟨.valueError, lit "external evidence receipt artifact digest does not match artifact"⟩
    (sha256 content = receipt.artifactDigest)
  require ⟨.valueError, lit "external evidence receipt artifact size does not match artifact"⟩
    ((content.length : Int) = receipt.artifactSize)
  require ⟨.valueError, lit "external evidence receipt run_id does not match expected run"⟩
    (expectedRunId.all fun run ↦ receipt.runId = some run)
  require ⟨.valueError,
      lit "external evidence receipt producer_type does not match expected producer"⟩
    (expectedProducerType.all fun producer ↦ receipt.producerType = producer)
  require ⟨.valueError,
      lit "external evidence receipt producer_id does not match expected producer"⟩
    (expectedProducerId.all fun producer ↦ receipt.producerId = producer)
  receiptPath.elim (pure ()) (checkPersisted receipt)
  let receiptRef ← receipt.receiptReference (receiptPath.map FileAt.name)
  let evidenceRef ← EvidenceReference.create (lit "evidence") receipt.receiptId
    receipt.artifactDigest none (some receiptRef)
  require ⟨.valueError,
      lit "external evidence reference identity does not match canonical receipt identity"⟩
    (evidenceRef.identity = receipt.receiptId)
  require ⟨.valueError,
      lit "external evidence reference digest does not match canonical artifact digest"⟩
    (evidenceRef.digest = receipt.artifactDigest)
  require ⟨.valueError,
      lit "external evidence reference does not preserve canonical receipt binding"⟩
    (evidenceRef.receiptRef.map ReceiptReference.reference = some receiptRef)
  construct ExternalEvidenceAdmissionFields.postInit
    { receiptId := receipt.receiptId, receiptDigest := receipt.digest,
      artifactDigest := receipt.artifactDigest, artifactSize := receipt.artifactSize,
      producerType := receipt.producerType, producerId := receipt.producerId,
      sourceEventId := receipt.sourceEventId, runId := receipt.runId,
      evidenceReference := evidenceRef }

/-! ### Building a chain -/

/-- The arguments of `build_reliability_evidence_chain` without a default,
`services/reliability_evidence_service.py:63–86`, and the receipts; the others have theirs. -/
structure ChainArguments where
  runId : Text
  runPath : FileAt
  stateId : Text
  statePath : FileAt
  evidencePaths : List FileAt
  provenancePath : FileAt
  integrityProofPath : FileAt
  evidenceReceiptPaths : Dict FileAt

/-- `_ref`, `services/reliability_evidence_service.py:40–60`, of a path. -/
def refOf (kind identity : Text) (path : FileAt) (receiptRef : Option EvidenceReference) :
    Except PyError EvidenceReference := do
  let digest ← path.digest
  EvidenceReference.create kind identity digest (some path.name) receiptRef

namespace ChainArguments

variable (args : ChainArguments)

/-- The receipt of an artifact, `services/reliability_evidence_service.py:96`. -/
def receiptPath (path : FileAt) : Option FileAt :=
  args.evidenceReceiptPaths.get? path.path <|> args.evidenceReceiptPaths.get? path.name

/-- The provenance of a receipt, `services/reliability_evidence_service.py:112–118`. -/
def checkProvenance (receipt : ExternalEvidenceReceipt) (path : FileAt) : Except PyError Unit :=
  let mismatch : PyError := ⟨.valueError,
    lit "evidence receipt provenance does not match reliability provenance: " ++ path.path⟩
  match receipt.provenanceRef with
  | none => pure ()
  | some provenance => do
    require mismatch (provenance.identity = args.provenancePath.name)
    let digest ← args.provenancePath.digest
    require mismatch (provenance.digest = digest)

/-- The binding of a receipt to an artifact, `services/reliability_evidence_service.py:98–122`. -/
def bindReceipt (path receiptPath : FileAt) : Except PyError EvidenceReference := do
  let raw ← receiptPath.read
  let text ← Utf8.ofBytes raw
  let value ← Json.loads (Lines.translateNewlines text)
  let members ← orRaise ⟨.attributeError, []⟩ value.asObject
  let receipt ← ExternalEvidenceReceipt.fromDict members
  let content ← path.read
  require ⟨.valueError,
      lit "evidence receipt artifact digest does not match evidence source: " ++ path.path⟩
    (receipt.artifactDigest = sha256 content)
  require ⟨.valueError,
      lit "evidence receipt artifact size does not match evidence source: " ++ path.path⟩
    (receipt.artifactSize = (content.length : Int))
  let receiptRef ← receipt.receiptReference (some receiptPath.name)
  args.checkProvenance receipt path
  require ⟨.valueError, lit "evidence receipt run_id does not match reliability run: " ++ path.path⟩
    (receipt.runId.all fun run ↦ run = args.runId)
  pure receiptRef

/-- One evidence path: the receipt bound to it and the reference made of both,
`services/reliability_evidence_service.py:95–126`. -/
def bindEvidence (path : FileAt) :
    Except PyError (Option EvidenceReference × EvidenceReference) := do
  let receiptRef ← (args.receiptPath path).elim (pure none)
    fun receiptPath ↦ some <$> args.bindReceipt path receiptPath
  let evidenceRef ← refOf (lit "evidence") (receiptRef.elim path.name EvidenceReference.identity)
    path receiptRef
  pure (receiptRef, evidenceRef)

/-- One entry of `evidence_chain_identity`, `services/reliability_evidence_service.py:128–135`. -/
def chainIdentity (path : FileAt) (bound : Option EvidenceReference × EvidenceReference) : Json :=
  .obj [(lit "path", .str path.path),
    (lit "digest", .str bound.2.digest),
    (lit "receipt_id", optionJson (bound.1.map EvidenceReference.identity)),
    (lit "receipt_digest", optionJson (bound.1.map EvidenceReference.digest))]

/-- `build_reliability_evidence_chain`, `services/reliability_evidence_service.py:63–255`. -/
def buildReliabilityEvidenceChain : Except PyError ReliabilityEvidenceChain := do
  require ⟨.valueError, lit "verified chain requires evidence references."⟩
    (!args.evidencePaths.isEmpty)
  let sortedEvidence := args.evidencePaths.insertionSort fun p q ↦ p.path ≤ q.path
  let bound ← sortedEvidence.mapM args.bindEvidence
  let runDigest ← args.runPath.digest
  let stateDigest ← args.statePath.digest
  let provenanceDigest ← args.provenancePath.digest
  let integrityDigest ← args.integrityProofPath.digest
  let chainPayload : Dict Json :=
    [(lit "run_id", .str args.runId),
      (lit "run_digest", .str runDigest),
      (lit "state_id", .str args.stateId),
      (lit "state_digest", .str stateDigest),
      (lit "evidence", .arr (List.zipWith chainIdentity sortedEvidence bound)),
      (lit "provenance_digest", .str provenanceDigest),
      (lit "integrity_digest", .str integrityDigest)]
  let content ← Utf8.toBytes (Json.dumps Json.compact (.obj chainPayload))
  let run ← refOf (lit "run") args.runId args.runPath none
  let state ← refOf (lit "state") args.stateId args.statePath none
  let provenance ← refOf (lit "provenance") args.provenancePath.name args.provenancePath none
  let integrity ← refOf (lit "integrity") args.integrityProofPath.name args.integrityProofPath none
  ReliabilityEvidenceChain.create (sha256 content) run state (bound.map Prod.snd) provenance
    integrity (lit "verified") (lit "reliable") (lit "verified") none none none none none none
    (lit "accept") []

end ChainArguments

/-! ### References and admissions -/

/-- The constructor of a reference keeps its arguments. -/
theorem create_eq_ok {kind identity digest : Text} {source : Option Text}
    {receiptRef : Option EvidenceReference} {e : EvidenceReference} :
    EvidenceReference.create kind identity digest source receiptRef = .ok e ↔
      kind = e.kind ∧ identity = e.identity ∧ digest = e.digest ∧ source = e.source ∧
        receiptRef = e.receiptRef.map ReceiptReference.reference := by
  constructor
  · intro h
    rw [EvidenceReference.create] at h
    split at h
    · split at h
      · split at h
        · split at h
          · cases h
            exact ⟨rfl, rfl, rfl, rfl, rfl⟩
          · next receipt =>
            split at h
            · split at h
              · split at h
                · next hkind hnone =>
                  cases h
                  refine ⟨rfl, rfl, rfl, rfl, ?_⟩
                  obtain ⟨kind, identity, digest, source, receiptRef, hn, hd, hs, hb⟩ := receipt
                  cases hkind
                  cases hnone
                  rfl
                · cases h
              · cases h
            · cases h
        · cases h
      · cases h
    · cases h
  · rintro ⟨rfl, rfl, rfl, rfl, rfl⟩
    exact EvidenceReference.create_self e

namespace ExternalEvidenceAdmissionFields

variable {f : ExternalEvidenceAdmissionFields}

/-- The reference of an admission is that of its receipt and artifact. -/
structure Bound (f : ExternalEvidenceAdmissionFields) : Prop where
  identity : f.evidenceReference.identity = f.receiptId
  digest : f.evidenceReference.digest = f.artifactDigest
  receipt : ∃ r, f.evidenceReference.receiptRef = some r ∧ r.identity = f.receiptId ∧
    r.digest = f.receiptDigest

/-- The constructor checks all of the reference but its identity. -/
theorem bound_iff (h : f.postInit = .ok ()) :
    f.Bound ↔ f.evidenceReference.identity = f.receiptId := by
  constructor
  · exact Bound.identity
  · intro hidentity
    simp only [postInit, bind_eq_ok, require_eq_ok, decide_eq_true_eq, orRaise_eq_ok] at h
    obtain ⟨_, -, _, -, _, -, _, -, _, -, _, -, _, -, _, -, _, -, r, hr, _, hid, _, hdigest,
      hartifact⟩ := h
    exact ⟨hidentity, hartifact, r, hr, hid, hdigest⟩

end ExternalEvidenceAdmissionFields

/-! ### Reading an admission back -/

/-- The members of a reference construct it, with the receipt they were given. -/
private theorem ofMembers_toDict (e : EvidenceReference) :
    EvidenceReference.ofMembers e.toDict (e.receiptRef.map ReceiptReference.reference) =
      .ok e := by
  have hget : ∀ key v, (key, v) ∈ e.toDict → e.toDict.get? key = some v := fun key v hv ↦
    (Dict.get?_eq_some_iff e.writable_toDict.1).mpr hv
  rw [EvidenceReference.ofMembers,
    requiredText_of_get? (hget (lit "kind") (.str e.kind) (by simp [EvidenceReference.toDict])),
    ok_bind, requiredText_of_get? (hget (lit "identity") (.str e.identity)
      (by simp [EvidenceReference.toDict])),
    ok_bind, requiredText_of_get? (hget (lit "digest") (.str e.digest)
      (by simp [EvidenceReference.toDict])),
    ok_bind, nullableText_of_get? (hget (lit "source") (optionJson e.source)
      (by simp [EvidenceReference.toDict])), EvidenceReference.create_self]

namespace ExternalEvidenceAdmission

variable {f : ExternalEvidenceAdmissionFields} {record : Dict Json}

theorem writable_payload (f : ExternalEvidenceAdmissionFields) :
    Json.Writable (.obj f.payload) := by
  have href := f.evidenceReference.writable_toDict
  rw [ExternalEvidenceAdmissionFields.payload]
  generalize Json.obj f.evidenceReference.toDict = reference at href ⊢
  simp [Dict.Distinct, href]

/-- Fields have a record where UTF-8 can encode every text of their payload. -/
theorem exists_toDict_iff :
    (∃ record, f.toDict = .ok record) ↔ ∀ s ∈ Json.texts (.obj f.payload), SurrogateFree s := by
  rw [← canonicalBytes_isOk_iff (writable_payload f)]
  constructor
  · rintro ⟨record, hrecord⟩
    simp only [ExternalEvidenceAdmissionFields.toDict, ExternalEvidenceAdmissionFields.digest,
      bind_eq_ok] at hrecord
    obtain ⟨_, ⟨content, hcontent, -⟩, -⟩ := hrecord
    exact ⟨content, hcontent⟩
  · rintro ⟨content, hcontent⟩
    rw [ExternalEvidenceAdmissionFields.toDict, ExternalEvidenceAdmissionFields.digest, hcontent]
    exact ⟨_, rfl⟩

/-- `from_dict` of a record constructs the fields it was written from: their digest is not looked
at beyond its own comparison. -/
theorem fromDict_eq_construct {r : ReceiptReference} (hr : f.evidenceReference.receiptRef = some r)
    (h : f.toDict = .ok record) :
    fromDict record = construct ExternalEvidenceAdmissionFields.postInit f := by
  simp only [ExternalEvidenceAdmissionFields.toDict, bind_eq_ok] at h
  obtain ⟨digest, hdigest, heq⟩ := h
  cases heq
  have hdistinct : Dict.Distinct (f.payload ++ [(lit "digest", .str digest)]) := by
    simp [ExternalEvidenceAdmissionFields.payload, Dict.Distinct]
  have hget : ∀ key v, (key, v) ∈ f.payload ++ [(lit "digest", .str digest)] →
      Dict.get? (f.payload ++ [(lit "digest", .str digest)]) key = some v := fun key v hv ↦
    (Dict.get?_eq_some_iff hdistinct).mpr hv
  have htext : ∀ key s, (key, Json.str s) ∈ f.payload ++ [(lit "digest", .str digest)] →
      requiredText (f.payload ++ [(lit "digest", .str digest)]) key = .ok s :=
    fun key s hs ↦ requiredText_of_get? (hget key _ hs)
  have hreference : referenceOf (f.payload ++ [(lit "digest", .str digest)]) =
      .ok f.evidenceReference := by
    have hmembers := ofMembers_toDict f.evidenceReference
    have hnested : f.evidenceReference.toDict.get? (lit "receipt_ref") = some (.obj r.toDict) := by
      rw [Dict.get?_eq_some_iff f.evidenceReference.writable_toDict.1]
      simp [EvidenceReference.toDict, hr]
    rw [referenceOf, hget (lit "evidence_reference") (.obj f.evidenceReference.toDict)
      (by simp [ExternalEvidenceAdmissionFields.payload]), Option.bind_some, Json.asObject_obj,
      orRaise_some, ok_bind, hnested, Option.bind_some, Json.asObject_obj, orRaise_some, ok_bind]
    have hbound : EvidenceReference.ofMembers r.toDict none = .ok r.reference :=
      ofMembers_toDict r.reference
    rw [hbound, ok_bind, ← hmembers, hr]
    rfl
  rw [fromDict, hreference, ok_bind,
    htext (lit "receipt_id") f.receiptId (by simp [ExternalEvidenceAdmissionFields.payload]),
    ok_bind, htext (lit "receipt_digest") f.receiptDigest
      (by simp [ExternalEvidenceAdmissionFields.payload]),
    ok_bind, htext (lit "artifact_digest") f.artifactDigest
      (by simp [ExternalEvidenceAdmissionFields.payload]),
    ok_bind, Json.index, hget (lit "artifact_size") (.int f.artifactSize)
      (by simp [ExternalEvidenceAdmissionFields.payload]), orRaise_some, ok_bind, requireInt_int,
    ok_bind, htext (lit "producer_type") f.producerType
      (by simp [ExternalEvidenceAdmissionFields.payload]),
    ok_bind, htext (lit "producer_id") f.producerId
      (by simp [ExternalEvidenceAdmissionFields.payload]),
    ok_bind, nullableText_of_get? (hget (lit "source_event_id") (optionJson f.sourceEventId)
      (by simp [ExternalEvidenceAdmissionFields.payload])),
    nullableText_of_get? (hget (lit "run_id") (optionJson f.runId)
      (by simp [ExternalEvidenceAdmissionFields.payload])),
    optionalText_of_get? (hget (lit "digest") (.str digest) (by simp))]
  change (construct ExternalEvidenceAdmissionFields.postInit f >>= _) = _
  cases hitem : construct ExternalEvidenceAdmissionFields.postInit f with
  | error e => rfl
  | ok item =>
    have hval : item.val = f := construct_eq_ok.mp hitem
    rw [ok_bind, hval, hdigest]
    dsimp only
    split
    · rw [ok_bind, decide_eq_true rfl, require_true]
      rfl
    · rfl

/-- `from_dict` undoes `to_dict`. -/
theorem fromDict_toDict {a : ExternalEvidenceAdmission} (h : a.val.toDict = .ok record) :
    fromDict record = .ok a := by
  have hchecked := a.property
  simp only [ExternalEvidenceAdmissionFields.postInit, bind_eq_ok, orRaise_eq_ok] at hchecked
  obtain ⟨_, -, _, -, _, -, _, -, _, -, _, -, _, -, _, -, _, -, r, hr, -⟩ := hchecked
  rw [fromDict_eq_construct hr h, construct_val]

/-- `from_dict` takes the records of the fields the constructor takes. -/
theorem fromDict_isOk_iff (h : f.toDict = .ok record) :
    (∃ a, fromDict record = .ok a) ↔ f.postInit = .ok () := by
  constructor
  · rintro ⟨a, ha⟩
    cases hr : f.evidenceReference.receiptRef with
    | none =>
      simp only [ExternalEvidenceAdmissionFields.toDict, bind_eq_ok] at h
      obtain ⟨digest, -, heq⟩ := h
      cases heq
      have hdistinct : Dict.Distinct (f.payload ++ [(lit "digest", .str digest)]) := by
        simp [ExternalEvidenceAdmissionFields.payload, Dict.Distinct]
      have hget : Dict.get? (f.payload ++ [(lit "digest", .str digest)])
          (lit "evidence_reference") = some (.obj f.evidenceReference.toDict) :=
        (Dict.get?_eq_some_iff hdistinct).mpr
          (by simp [ExternalEvidenceAdmissionFields.payload])
      have hnested : f.evidenceReference.toDict.get? (lit "receipt_ref") = some .null := by
        rw [Dict.get?_eq_some_iff f.evidenceReference.writable_toDict.1]
        simp [EvidenceReference.toDict, hr]
      rw [fromDict, referenceOf, hget, Option.bind_some, Json.asObject_obj, orRaise_some, ok_bind,
        hnested] at ha
      cases ha
    | some r =>
      rw [fromDict_eq_construct hr h, construct_eq_ok] at ha
      rw [← ha]
      exact a.property
  · intro hchecked
    exact ⟨⟨f, hchecked⟩, fromDict_toDict (a := ⟨f, hchecked⟩) h⟩

end ExternalEvidenceAdmission

/-! ### What is admitted -/

section Admitted

variable {receipt persisted : ExternalEvidenceReceipt} {captured : Datetime}
  {artifactPath receiptPath : FileAt} {args : ChainArguments} {a f : ExternalEvidenceAdmission}

/-- An artifact and the persisted receipt of an admission. -/
structure Admitted (receipt : ExternalEvidenceReceipt) (artifactPath receiptPath : FileAt)
    (runId : Text) (a : ExternalEvidenceAdmission) : Prop where
  artifact : ∃ content, artifactPath.content = some content ∧
    sha256 content = receipt.artifactDigest ∧ (content.length : Int) = receipt.artifactSize
  run : receipt.runId = some runId
  persisted : checkPersisted receipt receiptPath = .ok ()
  reference : ∃ receiptRef, receipt.receiptReference (some receiptPath.name) = .ok receiptRef ∧
    EvidenceReference.create (lit "evidence") receipt.receiptId receipt.artifactDigest none
      (some receiptRef) = .ok a.val.evidenceReference
  fields : a.val = { a.val with
    receiptId := receipt.receiptId, receiptDigest := receipt.digest,
    artifactDigest := receipt.artifactDigest, artifactSize := receipt.artifactSize,
    producerType := receipt.producerType, producerId := receipt.producerId,
    sourceEventId := receipt.sourceEventId, runId := receipt.runId }

theorem admitExternalEvidence_eq_ok {runId : Text} :
    admitExternalEvidence receipt artifactPath (some receiptPath) (some runId) none none = .ok a ↔
      Admitted receipt artifactPath receiptPath runId a := by
  constructor
  · intro h
    simp only [admitExternalEvidence, bind_eq_ok, require_eq_ok, orRaise_eq_ok, decide_eq_true_eq,
      Option.all_some, Option.elim_some, Option.map_some, construct_eq_ok] at h
    obtain ⟨content, hcontent, _, hdigest, _, hsize, _, hrun, _, -, _, -, _, hpersisted, receiptRef,
      hreceipt, evidenceRef, hevidence, _, -, _, -, _, -, ha⟩ := h
    refine ⟨⟨content, hcontent, hdigest, hsize⟩, hrun, hpersisted, ⟨receiptRef, hreceipt, ?_⟩, ?_⟩
    · rw [ha]
      exact hevidence
    · rw [ha]
  · rintro ⟨⟨content, hcontent, hdigest, hsize⟩, hrun, hpersisted,
      ⟨receiptRef, hreceipt, hevidence⟩, hfields⟩
    obtain ⟨-, hidentity, hartifact, -, hbound⟩ := create_eq_ok.mp hevidence
    rw [admitExternalEvidence, hcontent, orRaise_some, ok_bind, decide_eq_true hdigest,
      require_true, ok_bind, decide_eq_true hsize, require_true, ok_bind, Option.all_some,
      decide_eq_true hrun, require_true, ok_bind, Option.all_none, require_true, ok_bind,
      Option.all_none, require_true, ok_bind, Option.elim_some, hpersisted, ok_bind,
      Option.map_some, hreceipt, ok_bind, hevidence, ok_bind, decide_eq_true hidentity.symm,
      require_true, ok_bind, decide_eq_true hartifact.symm, require_true, ok_bind, decide_eq_true
      hbound.symm, require_true, ok_bind, construct_eq_ok]
    exact hfields

/-- What is admitted refers to the receipt by its identity. -/
theorem Admitted.identity {runId : Text} (h : Admitted receipt artifactPath receiptPath runId a) :
    a.val.evidenceReference.identity = a.val.receiptId := by
  obtain ⟨receiptRef, -, hevidence⟩ := h.reference
  obtain ⟨-, hidentity, -⟩ := create_eq_ok.mp hevidence
  rw [← hidentity, h.fields]

/-- What the comparison with a persisted receipt says of the file. -/
theorem of_checkPersisted (h : checkPersisted receipt receiptPath = .ok ()) :
    ∃ raw text value members persisted, receiptPath.content = some raw ∧
      Utf8.ofBytes raw = .ok text ∧ Json.loads (Lines.translateNewlines text) = .ok value ∧
        value.asObject = some members ∧
          ExternalEvidenceReceipt.fromDict members = .ok persisted ∧
            persisted.equals receipt = true := by
  simp only [checkPersisted, bind_eq_ok, orRaise_eq_ok, require_eq_ok, loadObject] at h
  obtain ⟨raw, hraw, members, ⟨text, htext, hload⟩, persisted, hpersisted, hequals⟩ := h
  cases hvalue : Json.loads (Lines.translateNewlines text) with
  | error e =>
    rw [hvalue] at hload
    dsimp only at hload
    split at hload <;> cases hload
  | ok value =>
    rw [hvalue] at hload
    exact ⟨raw, text, value, members, persisted, hraw, htext, hvalue, orRaise_eq_ok.mp hload,
      hpersisted, hequals⟩

/-- Equal receipts say the same of an artifact. -/
theorem of_equals (h : persisted.equals receipt = true) :
    persisted.artifactDigest = receipt.artifactDigest ∧
      persisted.artifactSize = receipt.artifactSize ∧ persisted.runId = receipt.runId ∧
        persisted.provenanceRef = receipt.provenanceRef ∧ ∀ source,
          persisted.receiptReference source = receipt.receiptReference source := by
  simp only [ExternalEvidenceReceipt.equals, Bool.and_eq_true, decide_eq_true_eq] at h
  obtain ⟨⟨⟨⟨hfields, -⟩, -⟩, hid⟩, hdigest⟩ := h
  have hartifact := congrArg ReceiptFields.artifactDigest hfields
  have hsize := congrArg ReceiptFields.artifactSize hfields
  have hrun := congrArg ReceiptFields.runId hfields
  have hprovenance := congrArg ReceiptFields.provenanceRef hfields
  refine ⟨hartifact, hsize, hrun, hprovenance, ?_⟩
  intro source
  rw [ExternalEvidenceReceipt.receiptReference, ExternalEvidenceReceipt.receiptReference, hid,
    hdigest]

/-- The provenance file a receipt names, if it names one. -/
def ChainArguments.Provides (args : ChainArguments) (receipt : ExternalEvidenceReceipt) : Prop :=
  ∀ p ∈ receipt.provenanceRef, p.identity = args.provenancePath.name ∧
    args.provenancePath.content.map sha256 = some p.digest

theorem checkProvenance_eq_ok (h : args.Provides receipt) (path : FileAt) :
    args.checkProvenance receipt path = .ok () := by
  rw [ChainArguments.checkProvenance]
  cases hp : receipt.provenanceRef with
  | none => rfl
  | some p =>
    obtain ⟨hidentity, hdigest⟩ := h p hp
    obtain ⟨content, hcontent, hsha⟩ := Option.map_eq_some_iff.mp hdigest
    dsimp only
    rw [decide_eq_true hidentity, require_true, ok_bind, FileAt.digest, FileAt.read, hcontent,
      orRaise_some, ok_bind, hsha]
    change require _ _ = _
    rw [decide_eq_true rfl, require_true]

/-- The builder binds the receipt that was admitted. -/
theorem bindReceipt_of_admitted (h : Admitted receipt artifactPath receiptPath args.runId a)
    (hprovides : args.Provides receipt) :
    args.bindReceipt artifactPath receiptPath =
      receipt.receiptReference (some receiptPath.name) := by
  obtain ⟨raw, text, value, members, persisted, hraw, htext, hvalue, hobject, hpersisted,
    hequals⟩ := of_checkPersisted h.persisted
  obtain ⟨hdigest, hsize, hrun, hprovenance, hreference⟩ := of_equals hequals
  obtain ⟨content, hcontent, hsha, hlength⟩ := h.artifact
  obtain ⟨receiptRef, href, -⟩ := h.reference
  have hpersistedProvides : args.Provides persisted := by
    rw [ChainArguments.Provides, hprovenance]
    exact hprovides
  rw [ChainArguments.bindReceipt, FileAt.read, hraw, orRaise_some, ok_bind, htext, ok_bind, hvalue,
    ok_bind, hobject, orRaise_some, ok_bind, hpersisted, ok_bind, FileAt.read, hcontent,
    orRaise_some, ok_bind, decide_eq_true (hdigest.trans hsha.symm), require_true, ok_bind,
    decide_eq_true (hsize.trans hlength.symm), require_true, ok_bind, hreference, href, ok_bind,
    checkProvenance_eq_ok hpersistedProvides, ok_bind, hrun, h.run, Option.all_some,
    decide_eq_true rfl, require_true]
  rfl

/-- A file with a name a reference can carry. -/
def FileAt.Usable (file : FileAt) : Prop := (∃ c, file.content = some c) ∧ blank file.name = false

theorem FileAt.Usable.digest {file : FileAt} (h : file.Usable) : ∃ d, file.digest = .ok d := by
  obtain ⟨⟨content, hcontent⟩, -⟩ := h
  rw [FileAt.digest, FileAt.read, hcontent]
  exact ⟨sha256 content, rfl⟩

/-- The other arguments of a chain are such as a chain takes. -/
structure ChainArguments.Hosted (args : ChainArguments) : Prop where
  run : args.runPath.Usable
  state : args.statePath.Usable
  provenance : args.provenancePath.Usable
  integrity : args.integrityProofPath.Usable
  stateId : blank args.stateId = false

theorem refOf_of_usable {file : FileAt} (h : file.Usable) {kind identity : Text}
    (hkind : blank kind = false) (hidentity : blank identity = false) :
    ∃ e, refOf kind identity file none = .ok e ∧ e.kind = kind := by
  obtain ⟨⟨content, hcontent⟩, hname⟩ := h
  refine ⟨⟨kind, identity, sha256 content, some file.name, none, by simp [hkind, hidentity],
    isSha256_sha256 content, fun s hs ↦ Option.mem_some.mp hs ▸ hname, fun h ↦ absurd rfl h⟩,
    ?_, rfl⟩
  rw [refOf, FileAt.digest, FileAt.read, hcontent, orRaise_some, ok_bind, pure_bind]
  exact create_eq_ok.mpr ⟨rfl, rfl, rfl, rfl, rfl⟩

/-- A chain's reference to an artifact says what the admission's says. -/
structure SameReference (e e' : EvidenceReference) : Prop where
  kind : e.kind = e'.kind
  identity : e.identity = e'.identity
  digest : e.digest = e'.digest
  receiptRef : e.receiptRef = e'.receiptRef

theorem reference_injective {r r' : ReceiptReference} (h : r.reference = r'.reference) :
    r = r' := by
  obtain ⟨⟩ := r
  obtain ⟨⟩ := r'
  cases h
  rfl

/-- The builder makes the reference of an admission where the artifact has a name. -/
theorem bindEvidence_of_admitted (h : Admitted receipt artifactPath receiptPath args.runId a)
    (hprovides : args.Provides receipt) (hpath : args.receiptPath artifactPath = some receiptPath)
    {bound : Option EvidenceReference × EvidenceReference} :
    args.bindEvidence artifactPath = .ok bound ↔ blank artifactPath.name = false ∧
      bound.2.source = some artifactPath.name ∧ SameReference bound.2 a.val.evidenceReference ∧
        bound.1 = a.val.evidenceReference.receiptRef.map ReceiptReference.reference := by
  obtain ⟨content, hcontent, hsha, -⟩ := h.artifact
  obtain ⟨receiptRef, href, hevidence⟩ := h.reference
  obtain ⟨hkind, hidentity, hdigest, -, hreceipt⟩ := create_eq_ok.mp hevidence
  obtain ⟨-, hid, -⟩ := create_eq_ok.mp href
  have hbind : args.bindEvidence artifactPath = (do
      let evidenceRef ← EvidenceReference.create (lit "evidence") receipt.receiptId
        receipt.artifactDigest (some artifactPath.name) (some receiptRef)
      pure (some receiptRef, evidenceRef)) := by
    rw [ChainArguments.bindEvidence, hpath, Option.elim_some, bindReceipt_of_admitted h hprovides,
      href]
    change (refOf _ receiptRef.identity _ _ >>= _) = _
    rw [refOf, FileAt.digest, FileAt.read, hcontent, orRaise_some, ok_bind, ← hid]
    rw [hsha]
    rfl
  rw [hbind, bind_eq_ok]
  constructor
  · rintro ⟨e, he, heq⟩
    cases heq
    obtain ⟨hk, hi, hd, hs, hr⟩ := create_eq_ok.mp he
    refine ⟨e.sourced artifactPath.name (Option.mem_def.mpr hs.symm), hs.symm,
      ⟨hk.symm.trans hkind, hi.symm.trans hidentity, hd.symm.trans hdigest, ?_⟩, hreceipt⟩
    have hmap := hr.symm.trans hreceipt
    exact Option.map_injective (fun _ _ ↦ reference_injective) hmap
  · rintro ⟨-, hsource, ⟨hk, hi, hd, hr⟩, hfirst⟩
    refine ⟨bound.2, create_eq_ok.mpr ⟨hkind.trans hk.symm, hidentity.trans hi.symm,
      hdigest.trans hd.symm, hsource.symm, ?_⟩, ?_⟩
    · rw [hr]
      exact hreceipt
    · rw [hreceipt, ← hfirst]
      rfl

/-- An admission has a record where UTF-8 can encode the name of its receipt file. -/
theorem toDict_isOk_iff {runId : Text} (hc : Constructed receipt captured)
    (h : Admitted receipt artifactPath receiptPath runId a) :
    (∃ record, a.val.toDict = .ok record) ↔ SurrogateFree receiptPath.name := by
  have hreceipt := texts_toDict hc hc.toDict
  rw [Json.forall_texts_obj] at hreceipt
  simp only [ReceiptFields.identityPayload, List.mem_append, List.mem_cons, List.not_mem_nil,
    or_false, or_imp, forall_and, forall_eq, Json.mem_texts_str] at hreceipt
  obtain ⟨-, ⟨-, ⟨-, -, -, -, hevent, -, -, hrun, -⟩, -⟩, -⟩ := id hreceipt
  obtain ⟨receiptRef, href, hevidence⟩ := h.reference
  obtain ⟨hkind, hidentity, hdigest, hsource, hbound⟩ := create_eq_ok.mp hevidence
  obtain ⟨-, hid, hrd, hname, hunbound⟩ := create_eq_ok.mp href
  obtain ⟨r, hr, rfl⟩ := Option.map_eq_some_iff.mp hbound.symm
  have hdict : a.val.evidenceReference.toDict = [(lit "kind", .str (lit "evidence")),
      (lit "identity", .str receipt.receiptId), (lit "digest", .str receipt.artifactDigest),
      (lit "source", .null), (lit "receipt_ref", .obj [(lit "kind", .str (lit "receipt")),
        (lit "identity", .str receipt.receiptId), (lit "digest", .str receipt.digest),
        (lit "source", .str receiptPath.name), (lit "receipt_ref", .null)])] := by
    have hsourceJson : Json.str receiptPath.name = optionJson r.source := by
      rw [show r.source = some receiptPath.name from hname.symm]
      rfl
    rw [EvidenceReference.toDict, hr, ← hkind, ← hidentity, ← hdigest, ← hsource, hid, hrd,
      hsourceJson]
    rfl
  rw [ExternalEvidenceAdmission.exists_toDict_iff, ExternalEvidenceAdmissionFields.payload, hdict,
    h.fields]
  simp only [Json.forall_texts_obj, hreceipt, List.mem_cons, List.not_mem_nil, or_false, or_imp,
    forall_and, forall_eq, Json.mem_texts_str, surrogateFree_lit, Json.mem_texts_int,
    Json.mem_texts_null, false_implies, implies_true, and_true, true_and]
  exact ⟨fun hfree ↦ hfree.2.2, fun hfree ↦ ⟨hevent, hrun, hfree⟩⟩

/-- A verified chain is taken with references of the right kinds. -/
theorem create_accepted {chainId : Text} {run state provenance integrity : EvidenceReference}
    {evidence : List EvidenceReference} (hid : blank chainId = false) (hrun : run.kind = lit "run")
    (hstate : state.kind = lit "state") (hprovenance : provenance.kind = lit "provenance")
    (hintegrity : integrity.kind = lit "integrity") (hevidence : evidence ≠ []) :
    ∃ chain, ReliabilityEvidenceChain.create chainId run state evidence provenance integrity
      (lit "verified") (lit "reliable") (lit "verified") none none none none none none
      (lit "accept") [] = .ok chain ∧ chain.evidence = evidence := by
  let chain : ReliabilityEvidenceChain := ⟨chainId, run, state, evidence, provenance, integrity,
    .verified, .reliable, .verified, none, none, none, none, none, none, .accept, [], hid, hrun,
    hstate, hprovenance, hintegrity, nofun, nofun, nofun, hevidence, fun _ ↦ rfl,
    fun _ ↦ ⟨rfl, .inl rfl, .inl rfl⟩, nofun⟩
  exact ⟨chain, ReliabilityEvidenceChain.create_self chain, rfl⟩

/-- The builder makes a chain of an admitted artifact where that artifact has a name. -/
theorem build_isOk_iff (hhosted : args.Hosted)
    (hpaths : args.evidencePaths = [artifactPath]) (hrun : blank args.runId = false) 
    (h : Admitted receipt artifactPath receiptPath args.runId a)
    (hprovides : args.Provides receipt) (hpath : args.receiptPath artifactPath = some receiptPath) :
    (∃ chain e, args.buildReliabilityEvidenceChain = .ok chain ∧ chain.evidence = [e] ∧
      SameReference e a.val.evidenceReference) ↔ blank artifactPath.name = false := by
  constructor
  · rintro ⟨chain, e, hbuild, -⟩
    simp only [ChainArguments.buildReliabilityEvidenceChain, bind_eq_ok, hpaths,
      List.insertionSort_cons, List.insertionSort_nil, List.orderedInsert_nil,
      List.mapM_cons] at hbuild
    obtain ⟨_, -, _, ⟨bound, hbound, -⟩, -⟩ := hbuild
    exact ((bindEvidence_of_admitted h hprovides hpath).mp hbound).1
  · intro hnamed
    let e : EvidenceReference := { a.val.evidenceReference with
      source := some artifactPath.name, sourced := fun s hs ↦ Option.mem_some.mp hs ▸ hnamed }
    have hbind : args.bindEvidence artifactPath =
        .ok (e.receiptRef.map ReceiptReference.reference, e) :=
      (bindEvidence_of_admitted h hprovides hpath).mpr
        ⟨hnamed, rfl, ⟨rfl, rfl, rfl, rfl⟩, rfl⟩
    obtain ⟨run, hrunRef, hrunKind⟩ :=
      refOf_of_usable hhosted.run (show blank (lit "run") = false by decide) hrun
    obtain ⟨state, hstateRef, hstateKind⟩ :=
      refOf_of_usable hhosted.state (show blank (lit "state") = false by decide) hhosted.stateId
    obtain ⟨provenance, hprovenanceRef, hprovenanceKind⟩ := refOf_of_usable hhosted.provenance
      (show blank (lit "provenance") = false by decide) hhosted.provenance.2
    obtain ⟨integrity, hintegrityRef, hintegrityKind⟩ := refOf_of_usable hhosted.integrity
      (show blank (lit "integrity") = false by decide) hhosted.integrity.2
    obtain ⟨runDigest, hrunDigest⟩ := hhosted.run.digest
    obtain ⟨stateDigest, hstateDigest⟩ := hhosted.state.digest
    obtain ⟨provenanceDigest, hprovenanceDigest⟩ := hhosted.provenance.digest
    obtain ⟨integrityDigest, hintegrityDigest⟩ := hhosted.integrity.digest
    have hwritable : Json.Writable (.obj [(lit "run_id", .str args.runId),
        (lit "run_digest", .str runDigest), (lit "state_id", .str args.stateId),
        (lit "state_digest", .str stateDigest), (lit "evidence", .arr
          [ChainArguments.chainIdentity artifactPath
            (e.receiptRef.map ReceiptReference.reference, e)]),
        (lit "provenance_digest", .str provenanceDigest),
        (lit "integrity_digest", .str integrityDigest)]) := by
      simp [ChainArguments.chainIdentity, Dict.Distinct]
    obtain ⟨chain, hchain, hevidence⟩ := create_accepted (not_blank_of_isSha256 (isSha256_sha256
      (Utf8.ascii (Json.dumps Json.compact _)))) hrunKind hstateKind hprovenanceKind hintegrityKind
      (List.cons_ne_nil e [])
    refine ⟨chain, e, ?_, hevidence, ⟨rfl, rfl, rfl, rfl⟩⟩
    rw [ChainArguments.buildReliabilityEvidenceChain, hpaths]
    simp only [List.isEmpty_cons, Bool.not_false, require_true, List.insertionSort_cons,
      List.insertionSort_nil, List.orderedInsert_nil,
      List.mapM_cons, List.mapM_nil, hbind, hrunRef, hstateRef, hprovenanceRef, hintegrityRef,
      hrunDigest, hstateDigest, hprovenanceDigest, hintegrityDigest, ok_bind, pure_bind,
      List.zipWith_cons_cons, List.zipWith_nil_left]
    rw [Utf8.toBytes_of_isAscii (Json.isAscii_dumps rfl hwritable), ok_bind]
    exact hchain

/-- Admitting and building agree on an artifact, and the admission is what its record says. -/
structure Concordant (receipt : ExternalEvidenceReceipt) (artifactPath : FileAt)
    (args : ChainArguments) (a : ExternalEvidenceAdmission) : Prop where
  artifact : ∃ content, artifactPath.content = some content ∧
    sha256 content = receipt.artifactDigest ∧ (content.length : Int) = receipt.artifactSize
  restored : ∃ record, a.val.toDict = .ok record ∧
    ExternalEvidenceAdmission.fromDict record = .ok a
  built : ∃ chain e, args.buildReliabilityEvidenceChain = .ok chain ∧ chain.evidence = [e] ∧
    SameReference e a.val.evidenceReference

/-- Admitting and building agree where UTF-8 can encode the name of the receipt's file and the
artifact's is not blank. A record of an unbound reference is refused where the constructor refuses
something else of it or the identity of the reference is the receipt's: the identity is compared
by the service alone. -/
theorem admission_agrees_iff (hc : Constructed receipt captured)
    (ha : admitExternalEvidence receipt artifactPath (some receiptPath) (some args.runId) none
      none = .ok a) (hhosted : args.Hosted) (hpaths : args.evidencePaths = [artifactPath])
    (hpath : args.receiptPath artifactPath = some receiptPath) (hprovides : args.Provides receipt)
    {f : ExternalEvidenceAdmissionFields} {record : Dict Json} (hrecord : f.toDict = .ok record) :
    (Concordant receipt artifactPath args a ∧
      (¬f.Bound → ∃ e, ExternalEvidenceAdmission.fromDict record = .error e)) ↔
    SurrogateFree receiptPath.name ∧ blank artifactPath.name = false ∧
      (f.postInit = .ok () → f.evidenceReference.identity = f.receiptId) := by
  have h := admitExternalEvidence_eq_ok.mp ha
  have hrun : blank args.runId = false := by
    have hnamed := hc.checked.runId
    rw [h.run] at hnamed
    exact (Bool.not_eq_true' _).mp hnamed
  have hagrees : Concordant receipt artifactPath args a ↔
      SurrogateFree receiptPath.name ∧ blank artifactPath.name = false := by
    constructor
    · rintro ⟨-, ⟨written, hwritten, -⟩, hbuilt⟩
      exact ⟨(toDict_isOk_iff hc h).mp ⟨written, hwritten⟩,
        (build_isOk_iff hhosted hpaths hrun h hprovides hpath).mp hbuilt⟩
    · rintro ⟨hfree, hnamed⟩
      obtain ⟨written, hwritten⟩ := (toDict_isOk_iff hc h).mpr hfree
      exact ⟨h.artifact, ⟨written, hwritten, ExternalEvidenceAdmission.fromDict_toDict hwritten⟩,
        (build_isOk_iff hhosted hpaths hrun h hprovides hpath).mpr hnamed⟩
  have hrefused : (¬f.Bound → ∃ e, ExternalEvidenceAdmission.fromDict record = .error e) ↔
      (f.postInit = .ok () → f.evidenceReference.identity = f.receiptId) := by
    rw [← ExternalEvidenceAdmission.fromDict_isOk_iff hrecord]
    constructor
    · intro hrejected haccepted
      by_contra hidentity
      obtain ⟨e, he⟩ := hrejected fun hbound ↦ hidentity hbound.identity
      obtain ⟨b, hb⟩ := haccepted
      rw [hb] at he
      cases he
    · intro hidentity hunbound
      cases hread : ExternalEvidenceAdmission.fromDict record with
      | error e => exact ⟨e, rfl⟩
      | ok b =>
        have hchecked := (ExternalEvidenceAdmission.fromDict_isOk_iff hrecord).mp ⟨b, hread⟩
        exact absurd ((ExternalEvidenceAdmissionFields.bound_iff hchecked).mpr
          (hidentity ⟨b, hread⟩)) hunbound
  rw [hagrees, hrefused, and_assoc]

end Admitted

/-! ### An admission of another receipt's evidence -/

private def zeros : Text := List.replicate 64 0x30

private theorem isSha256_zeros : isSha256 zeros = true := by
  decide

/-- The receipt a forged reference binds. -/
private def boundReceipt : ReceiptReference :=
  ⟨lit "receipt", zeros, none, by decide, isSha256_zeros, nofun⟩

/-- A reference of one receipt's identity that binds another. -/
private def forgedReference : EvidenceReference :=
  ⟨lit "evidence", lit "other", zeros, none, some boundReceipt, by decide, isSha256_zeros, nofun,
    fun _ ↦ rfl⟩

/-- The fields of an admission whose reference has another identity. -/
private def forged : ExternalEvidenceAdmissionFields where
  receiptId := lit "receipt"
  receiptDigest := zeros
  artifactDigest := zeros
  artifactSize := 0
  producerType := lit "t"
  producerId := lit "p"
  sourceEventId := none
  runId := none
  evidenceReference := forgedReference

private theorem forged_postInit : forged.postInit = .ok () := by
  decide

/-- An admission read from its record names another receipt's evidence. -/
theorem not_unbound_rejected : ∃ (a : ExternalEvidenceAdmission) (record : Dict Json),
    a.val.evidenceReference.identity ≠ a.val.receiptId ∧ a.val.toDict = .ok record ∧
      ExternalEvidenceAdmission.fromDict record = .ok a := by
  obtain ⟨record, hrecord⟩ := ExternalEvidenceAdmission.exists_toDict_iff.mpr (show ∀ s ∈
      Json.texts (.obj forged.payload), SurrogateFree s by
    rw [Json.forall_texts_obj]
    simp [forged, forgedReference, boundReceipt, ExternalEvidenceAdmissionFields.payload,
      EvidenceReference.toDict, ReceiptReference.toDict, surrogateFree_of_isSha256 isSha256_zeros,
      or_imp, forall_and])
  exact ⟨⟨forged, forged_postInit⟩, record, by decide, hrecord,
    ExternalEvidenceAdmission.fromDict_toDict hrecord⟩

/-! ### An artifact both services take -/

/-- What an adapter said of an empty artifact. -/
private def occurrence : ReceiptFields where
  producerType := lit "t"
  producerId := lit "p"
  artifactDigest := sha256 []
  artifactSize := 0
  capturedAt := .ofUtc epoch
  sourceRef := lit "s"
  sourceEventId := none
  producerVersion := none
  runId := some (lit "r")
  provenanceRef := none
  metadata := []

private theorem exists_receipt : ∃ receipt : ExternalEvidenceReceipt,
    receipt.toReceiptFields = occurrence ∧ Constructed receipt epoch := by
  have hsha := isSha256_sha256 []
  have hmetadata : Dict.sorted ([] : Dict Text) = [] := rfl
  have hidentity : Json.Writable (.obj occurrence.identity) ∧
      ∀ s ∈ Json.texts (.obj occurrence.identity), SurrogateFree s := by
    constructor
    · simp [occurrence, ReceiptFields.identity, ReceiptFields.identityPayload, Dict.Distinct,
        Dict.mapValues, hmetadata]
    · rw [Json.forall_texts_obj]
      simp [occurrence, ReceiptFields.identity, ReceiptFields.identityPayload,
        surrogateFree_of_isSha256 hsha, Dict.mapValues, hmetadata, or_imp, forall_and]
  obtain ⟨content, hcontent⟩ := (canonicalBytes_isOk_iff hidentity.1).mpr hidentity.2
  have hpayload : ∃ payload, occurrence.payload (sha256 content) = .ok payload ∧
      Json.Writable (.obj payload) ∧ ∀ s ∈ Json.texts (.obj payload), SurrogateFree s := by
    refine ⟨occurrence.identityPayload ++ [(lit "captured_at", .str (isoformat epoch)),
      (lit "receipt_id", .str (sha256 content))], ?_, ?_, ?_⟩
    · rw [ReceiptFields.payload, show occurrence.capturedAt = .ofUtc epoch from rfl,
        AwareDatetime.toUtc_ofUtc]
      rfl
    · simp [occurrence, ReceiptFields.identityPayload, Dict.Distinct, Dict.mapValues, hmetadata]
    · rw [Json.forall_texts_obj]
      simp [occurrence, ReceiptFields.identityPayload, surrogateFree_of_isSha256 hsha,
        surrogateFree_isoformat, surrogateFree_of_isSha256 (isSha256_sha256 content),
        Dict.mapValues, hmetadata, or_imp, forall_and]
  obtain ⟨payload, hpayload, hwritable, hfree⟩ := hpayload
  obtain ⟨written, hwritten⟩ := (canonicalBytes_isOk_iff hwritable).mpr hfree
  have hreceiptId : occurrence.computedReceiptId = .ok (sha256 content) := by
    rw [ReceiptFields.computedReceiptId, hcontent]
    rfl
  have hdigest : occurrence.computedDigest (sha256 content) = .ok (sha256 written) := by
    rw [ReceiptFields.computedDigest, hpayload, ok_bind, hwritten]
    rfl
  refine ⟨{ occurrence with receiptId := sha256 content, digest := sha256 written }, rfl, ?_,
    List.nodup_nil, AwareDatetime.toUtc_ofUtc _⟩
  rw [ExternalEvidenceReceipt.create, hreceiptId, ok_bind, hdigest, ok_bind]
  simp [occurrence, hsha, AwareDatetime.toUtc_ofUtc]
  rfl

private def fileNamed (name : Text) (content : Bytes) : FileAt := ⟨name, name, some content⟩

private def oneArtifact (receiptFile : FileAt) : ChainArguments where
  runId := lit "r"
  runPath := fileNamed (lit "run.json") []
  stateId := lit "s"
  statePath := fileNamed (lit "state.json") []
  evidencePaths := [fileNamed (lit "a") []]
  provenancePath := fileNamed (lit "provenance.json") []
  integrityProofPath := fileNamed (lit "proof.json") []
  evidenceReceiptPaths := [(lit "a", receiptFile)]

/-- An artifact, its receipt as it was written, and the chain made of them. -/
theorem written_receipt_agrees : ∃ (receipt : ExternalEvidenceReceipt) (receiptFile : FileAt)
    (args : ChainArguments) (a : ExternalEvidenceAdmission),
    admitExternalEvidence receipt (fileNamed (lit "a") []) (some receiptFile) (some args.runId) none
      none = .ok a ∧ Concordant receipt (fileNamed (lit "a") []) args a := by
  obtain ⟨receipt, hfields, hconstructed⟩ := exists_receipt
  have hrecord := hconstructed.toDict
  have hwritable := writable_receipt hconstructed hrecord
  have hfree := texts_toDict hconstructed hrecord
  generalize [(lit "format_version", Json.str (lit "1"))] ++ (receipt.identityPayload ++
    [(lit "captured_at", .str (isoformat epoch)), (lit "receipt_id", .str receipt.receiptId)]) ++
    [(lit "digest", .str receipt.digest)] = record at hrecord hwritable hfree
  let receiptFile := fileNamed (lit "a.receipt.json")
    (Utf8.ascii (Json.dumps Json.compact (.obj record)))
  have hpersisted : checkPersisted receipt receiptFile = .ok () := by
    rw [checkPersisted, show receiptFile.content = some _ from rfl, orRaise_some, ok_bind,
      loadObject_dumps hwritable, ok_bind, fromDict_of_readsAs hconstructed hrecord
        (readsAs_readMembers _ hwritable fun s hs ↦ (hfree s hs).pairFree), ok_bind,
      require_eq_ok]
    simp [ExternalEvidenceReceipt.equals, ExternalEvidenceReceipt.stored,
      ExternalEvidenceReceipt.storedFields, hfields, occurrence]
  have hreceiptId : isSha256 receipt.receiptId = true := by
    obtain ⟨content, -, hid⟩ := bind_eq_ok.mp hconstructed.checked.receiptId
    rw [← Except.ok.inj hid]
    exact isSha256_sha256 content
  have hdigest : isSha256 receipt.digest = true := by
    obtain ⟨_, -, hid⟩ := bind_eq_ok.mp hconstructed.checked.digest
    obtain ⟨content, -, hid⟩ := bind_eq_ok.mp hid
    rw [← Except.ok.inj hid]
    exact isSha256_sha256 content
  let receiptRef : ReceiptReference := ⟨receipt.receiptId, receipt.digest,
    some (lit "a.receipt.json"), not_blank_of_isSha256 hreceiptId, hdigest, by
      intro s hs
      rw [← Option.mem_some.mp hs]
      decide⟩
  have hreceiptRef : receipt.receiptReference (some receiptFile.name) =
      .ok receiptRef.reference := create_eq_ok.mpr ⟨rfl, rfl, rfl, rfl, rfl⟩
  let evidenceRef : EvidenceReference := ⟨lit "evidence", receipt.receiptId, sha256 [], none,
    some receiptRef, by simp [not_blank_of_isSha256 hreceiptId]; decide, isSha256_sha256 [], nofun,
    fun _ ↦ rfl⟩
  have hevidenceRef : EvidenceReference.create (lit "evidence") receipt.receiptId (sha256 []) none
      (some receiptRef.reference) = .ok evidenceRef := create_eq_ok.mpr ⟨rfl, rfl, rfl, rfl, rfl⟩
  have htype : blank (lit "t") = false := by
    decide
  have hid : blank (lit "p") = false := by
    decide
  have hpost : ExternalEvidenceAdmissionFields.postInit
      { receiptId := receipt.receiptId, receiptDigest := receipt.digest,
        artifactDigest := sha256 [], artifactSize := 0, producerType := lit "t",
        producerId := lit "p", sourceEventId := none, runId := some (lit "r"),
        evidenceReference := evidenceRef } = .ok () := by
    simp [ExternalEvidenceAdmissionFields.postInit, evidenceRef, receiptRef, hdigest,
      isSha256_sha256, not_blank_of_isSha256 hreceiptId, not_blank_of_isSha256 hdigest,
      not_blank_of_isSha256 (isSha256_sha256 []), htype, hid]
  have hadmitted : Admitted receipt (fileNamed (lit "a") []) receiptFile (lit "r") ⟨_, hpost⟩ := by
    refine ⟨⟨[], rfl, ?_, ?_⟩, ?_, hpersisted, ⟨receiptRef.reference, hreceiptRef, ?_⟩, ?_⟩
    · rw [hfields, occurrence]
    · rw [hfields, occurrence]
      rfl
    · rw [hfields, occurrence]
    · rw [hfields, occurrence]
      exact hevidenceRef
    · rw [hfields, occurrence]
  have ha := admitExternalEvidence_eq_ok.mpr hadmitted
  have hrunRef : (oneArtifact receiptFile).receiptPath (fileNamed (lit "a") []) =
      some receiptFile := rfl
  have hhosted : (oneArtifact receiptFile).Hosted :=
    ⟨⟨⟨_, rfl⟩, rfl⟩, ⟨⟨_, rfl⟩, rfl⟩, ⟨⟨_, rfl⟩, rfl⟩, ⟨⟨_, rfl⟩, rfl⟩, rfl⟩
  have hprovides : (oneArtifact receiptFile).Provides receipt := by
    intro p hp
    rw [hfields] at hp
    cases hp
  refine ⟨receipt, receiptFile, oneArtifact receiptFile, _, ha, ?_⟩
  obtain ⟨record, hwritten⟩ := (toDict_isOk_iff hconstructed hadmitted).mpr (surrogateFree_lit _)
  exact ((admission_agrees_iff hconstructed ha hhosted rfl hrunRef hprovides hwritten).mpr
    ⟨surrogateFree_lit _, rfl, fun _ ↦ hadmitted.identity⟩).1

end StateWake.Lifecycle
