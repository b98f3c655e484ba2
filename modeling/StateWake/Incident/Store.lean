import StateWake.Base.Calls
import StateWake.Base.LineLog
import StateWake.Incident.Evidence

/-!
# The incident evidence store

`adapters/incident_evidence.py`. The store holds one hash-linked record a line. An append judges
its incident alone: any status may follow any other. What it writes is read back as the same
record, its times in UTC and the incident's digest filled in.
-/

namespace StateWake.Incident

open StateWake.Base Text Utils RegisterHistory

/-! ### Records -/

/-- `StoredIncidentRecord`, `adapters/incident_evidence.py:19–27`. -/
structure StoredIncidentRecord where
  sequence : Nat
  recordedAt : AwareDatetime
  incident : SecurityIncidentEvidence
  previousDigest : Option Text
  digest : Text
  deriving DecidableEq

namespace StoredIncidentRecord

/-- `unsigned_payload()`, `adapters/incident_evidence.py:29–36`. -/
def unsignedPayload (r : StoredIncidentRecord) : Except PyError (Dict Json) := do
  let recordedAt ← r.recordedAt.utcText
  let incident ← r.incident.val.toDict
  pure [(lit "sequence", .int r.sequence),
    (lit "recorded_at", .str recordedAt),
    (lit "incident", .obj incident),
    (lit "previous_digest", optionJson r.previousDigest)]

/-- `to_dict()`, `adapters/incident_evidence.py:38–42`. -/
def toDict (r : StoredIncidentRecord) : Except PyError (Dict Json) := do
  let payload ← r.unsignedPayload
  pure (payload ++ [(lit "digest", .str r.digest)])

/-- The digest of the canonical payload, `adapters/incident_evidence.py:50–53`. -/
def contentDigest (r : StoredIncidentRecord) : Except PyError Text := do
  let payload ← r.unsignedPayload
  let content ← Utf8.toBytes (Json.dumps Json.compact (.obj payload))
  pure (sha256 content)

/-- `verify`, `adapters/incident_evidence.py:44–55`. -/
def verify (r : StoredIncidentRecord) (expectedPrevious : Option Text) : Except PyError Unit := do
  require ⟨.valueError, lit "incident evidence storage chain is discontinuous"⟩
    (r.previousDigest = expectedPrevious)
  let incidentDigest ← r.incident.val.digest
  require ⟨.valueError, lit "security incident evidence digest mismatch"⟩
    (r.incident.val.incidentDigest = incidentDigest)
  let expected ← r.contentDigest
  require ⟨.valueError, lit "incident evidence storage digest mismatch"⟩ (r.digest = expected)

end StoredIncidentRecord

/-! ### Reading an incident -/

/-- `items(payload.get(key, []))`, `adapters/incident_evidence.py:253–257`. -/
def items (payload : Dict Json) (key : Text) : Except PyError (List Json) :=
  match payload.get? key with
  | none => .ok []
  | some value => orRaise ⟨.valueError, lit "incident collection must be an array"⟩ value.asList

/-- `evidence`, `adapters/incident_evidence.py:242–251`. -/
def evidence (value : Json) : Except PyError IncidentEvidenceReference := do
  let members ← orRaise ⟨.valueError, lit "evidence reference must be an object"⟩ value.asObject
  let kind ← requiredText members (lit "kind")
  let identity ← requiredText members (lit "identity")
  let digest ← requiredText members (lit "digest")
  construct _ ⟨kind, identity, digest, nullableText members (lit "source")⟩

/-- `tuple(evidence(value) for value in items(payload.get(key, [])))`. -/
def evidences (payload : Dict Json) (key : Text) :
    Except PyError (List IncidentEvidenceReference) := do
  let values ← items payload key
  values.mapM evidence

/-- `tuple(str(value) for value in items(payload.get(key, [])))`. -/
def itemTexts (payload : Dict Json) (key : Text) : Except PyError (List Text) := do
  let values ← items payload key
  pure (values.map Json.pyStr)

/-- A time the constructor requires to be aware, `domain/security_incident.py:46–49`. -/
def readTime (members : Dict Json) (key : Text) : Except PyError AwareDatetime := do
  let text ← requiredText members key
  parseAware text (key ++ lit " must be timezone-aware.")

/-- As `readTime`, where the member may be `None`. -/
def readOptionalTime (members : Dict Json) (key : Text) :
    Except PyError (Option AwareDatetime) :=
  match nullableText members key with
  | none => .ok none
  | some text => some <$> parseAware text (key ++ lit " must be timezone-aware.")

/-- A value of an enumeration by its text; the constructor raises where there is none. -/
def ofTable {α : Type} (values : List α) (text : α → Text) (message : Text → Text) (s : Text) :
    Except PyError α :=
  orRaise ⟨.valueError, message s⟩ (values.find? fun v ↦ decide (text v = s))

/-- `_validate_status`, `domain/security_incident.py:73–77`. -/
def incidentStatus : Text → Except PyError IncidentStatus :=
  ofTable [.detected, .preserved, .contained, .assessed, .recovered, .reverified]
    IncidentStatus.text fun s ↦ lit "unsupported incident status: " ++ s

/-- The check of `domain/security_incident.py:207–208`. -/
def recoveryStatus : Text → Except PyError RecoveryStatus :=
  ofTable [.planned, .applied, .failed] RecoveryStatus.text
    fun _ ↦ lit "unsupported recovery evidence status"

/-- The check of `domain/security_incident.py:237–238`. -/
def verificationStatus : Text → Except PyError VerificationStatus :=
  ofTable [.verified, .failed, .unknown] VerificationStatus.text
    fun _ ↦ lit "unsupported post-recovery verification status"

/-- One affected state, `adapters/incident_evidence.py:268–283`. -/
def affectedState (item : Json) : Except PyError AffectedTrustState := do
  let members ← orRaise ⟨.valueError, lit "affected state must be an object"⟩ item.asObject
  let stateId ← requiredText members (lit "state_id")
  let stateDigest ← requiredText members (lit "state_digest")
  let trustContext ← requiredText members (lit "trust_context")
  let affectedWindowStart ← readOptionalTime members (lit "affected_window_start")
  let affectedWindowEnd ← readOptionalTime members (lit "affected_window_end")
  construct _ { stateId, stateDigest, trustContext, affectedWindowStart, affectedWindowEnd }

/-- The key compromise of an object, `adapters/incident_evidence.py:288–303`. -/
def keyCompromise (members : Dict Json) : Except PyError KeyCompromiseImpact := do
  let keyIdentity ← requiredText members (lit "key_identity")
  let affectedKeyVersion ← requiredText members (lit "affected_key_version")
  let affectedAttestationIds ← itemTexts members (lit "affected_attestation_ids")
  let affectedEvidence ← evidences members (lit "affected_evidence")
  let exposureStart ← readTime members (lit "exposure_start")
  let exposureEnd ← readOptionalTime members (lit "exposure_end")
  construct _ { keyIdentity, affectedKeyVersion, affectedAttestationIds, affectedEvidence,
                exposureStart, exposureEnd }

/-- The recovery of an object, `adapters/incident_evidence.py:308–317`. -/
def recoveryEvidence (members : Dict Json) : Except PyError RecoveryEvidence := do
  let reference ← Json.index members (lit "evidence_ref")
  require ⟨.valueError, lit "recovery evidence_ref must be an object"⟩ reference.asObject.isSome
  let recoveryId ← requiredText members (lit "recovery_id")
  let evidenceRef ← evidence reference
  let actor ← requiredText members (lit "actor")
  let sourceIncidentId ← requiredText members (lit "source_incident_id")
  let written ← requiredText members (lit "status")
  let status ← recoveryStatus written
  construct _ { recoveryId, evidenceRef, actor, sourceIncidentId, status }

/-- The verification of an object, `adapters/incident_evidence.py:322–331`. -/
def postRecoveryVerification (members : Dict Json) : Except PyError PostRecoveryVerification := do
  let verificationId ← requiredText members (lit "verification_id")
  let evidenceRefs ← evidences members (lit "evidence_refs")
  let actor ← requiredText members (lit "actor")
  let written ← requiredText members (lit "status")
  let status ← verificationStatus written
  let performedAt ← readTime members (lit "performed_at")
  construct _ { verificationId, evidenceRefs, actor, status, performedAt }

/-- A part that is there when its member is an object, as in
`adapters/incident_evidence.py:285–287`. -/
def readOptional {α : Type} (read : Dict Json → Except PyError α) (payload : Dict Json)
    (key : Text) : Except PyError (Option α) :=
  match (payload.get? key).bind Json.asObject with
  | none => .ok none
  | some members => some <$> read members

/-- `_incident_from_dict`, `adapters/incident_evidence.py:238–354`. -/
def incidentFromDict (payload : Dict Json) : Except PyError SecurityIncidentEvidence := do
  let states ← items payload (lit "affected_states")
  let affectedStates ← states.mapM affectedState
  let keyCompromise ← readOptional keyCompromise payload (lit "key_compromise")
  let recovery ← readOptional recoveryEvidence payload (lit "recovery")
  let postRecovery ← readOptional postRecoveryVerification payload (lit "post_recovery")
  let incidentId ← requiredText payload (lit "incident_id")
  let eventId ← requiredText payload (lit "event_id")
  let detectedAt ← readTime payload (lit "detected_at")
  let actor ← requiredText payload (lit "actor")
  let category ← requiredText payload (lit "category")
  let written ← requiredText payload (lit "status")
  let status ← incidentStatus written
  let evidenceRefs ← evidences payload (lit "evidence_refs")
  let securityEventDigests ← itemTexts payload (lit "security_event_digests")
  let uncertainty ← itemTexts payload (lit "uncertainty")
  let incidentDigest ← requiredText payload (lit "incident_digest")
  construct _ { incidentId, eventId, detectedAt, actor, category, status, evidenceRefs,
                affectedStates, securityEventDigests, uncertainty, keyCompromise, recovery,
                postRecovery, incidentDigest }

/-! ### The store -/

/-- `_require_int`, `adapters/incident_evidence.py:230–235`. -/
def requireInt (payload : Dict Json) (field : Text) : Except PyError Nat :=
  match (payload.get? field).bind Json.asInt with
  | some (.ofNat n) => .ok n
  | _ => valueError (field ++ lit " must be a non-negative integer")

/-- One line after the records before it, `adapters/incident_evidence.py:164–189`. -/
def acceptLine (records : List StoredIncidentRecord) (line : Text) :
    Except PyError StoredIncidentRecord := do
  let value ← Json.loads line
  let payload ← orRaise ⟨.valueError, lit "incident evidence record must be an object"⟩
    value.asObject
  let written ← Json.index payload (lit "incident")
  let members ← orRaise ⟨.valueError, lit "incident must be an object"⟩ written.asObject
  require ⟨.valueError, lit "incident_digest is required"⟩
    (optionalText members (lit "incident_digest") ≠ [])
  require ⟨.valueError, lit "unsupported incident evidence format version"⟩
    (((members.get? (lit "format_version")).map Json.pyStr).getD (lit "1") = lit "1")
  let incident ← incidentFromDict members
  let time ← requiredText payload (lit "recorded_at")
  let recordedAt ← parseAware time (lit "recorded_at must be timezone-aware")
  let digest ← requiredText payload (lit "digest")
  let sequence ← requireInt payload (lit "sequence")
  let record : StoredIncidentRecord :=
    ⟨sequence, recordedAt, incident, nullableText payload (lit "previous_digest"), digest⟩
  record.verify (records.getLast?.map StoredIncidentRecord.digest)
  pure record

/-- One step of the loop, `adapters/incident_evidence.py:158–196`. -/
def parseLine (maxRecords : Option Int) (records : List StoredIncidentRecord) (number : Nat)
    (line : Text) : Except PyError (List StoredIncidentRecord) :=
  if ∃ bound ∈ maxRecords, bound ≤ records.length then
    .error ⟨.overflowError, lit "incident evidence record count exceeds read limit"⟩
  else
    match acceptLine records line with
    | .ok record =>
      if record.sequence = records.length then .ok (records ++ [record])
      else valueError (lit "incident evidence sequence is not contiguous")
    | .error e =>
      if e.kind.isRecordError then
        valueError (lit "invalid incident evidence record at line " ++ Decimal.decimal number ++
          lit ": " ++ e.message)
      else .error e

/-- `_parse_incident_records`, `adapters/incident_evidence.py:151–197`. -/
def parseIncidentRecords (lines : List Text) (maxRecords : Option Int) :
    Except PyError (List StoredIncidentRecord) := do
  require ⟨.valueError, lit "max_records must be positive when provided"⟩
    (maxRecords.all fun bound ↦ 0 < bound)
  LineLog.readLines (parseLine maxRecords) [] 1 lines

/-- `_read_unlocked`, `adapters/incident_evidence.py:112–117`. -/
def readUnlocked (file : Option Bytes) : Except PyError (List StoredIncidentRecord) :=
  match file with
  | none => .ok []
  | some raw => do
    let text ← Utf8.ofBytes raw
    parseIncidentRecords (Lines.fileLines text) none

/-- An incident handed to the store at a time of the system clock. -/
structure Call where
  incident : SecurityIncidentEvidence
  now : Datetime

/-- The record of an incident before its digest is known, `adapters/incident_evidence.py:73–79`. -/
def unsigned (records : List StoredIncidentRecord) (call : Call) : StoredIncidentRecord where
  sequence := records.length
  recordedAt := .ofUtc call.now
  incident := call.incident
  previousDigest := records.getLast?.map StoredIncidentRecord.digest
  digest := []

/-- The record with its digest, `adapters/incident_evidence.py:80–89`. -/
def withDigest (r : StoredIncidentRecord) : Except PyError StoredIncidentRecord := do
  let digest ← r.contentDigest
  pure { r with digest }

/-- The check of an append, `adapters/incident_evidence.py:69`. -/
def verifyOnAppend (incident : SecurityIncidentEvidence) : Except PyError Unit :=
  if incident.val.status = .reverified then incident.val.verifyForensicContinuity else .ok ()

/-- `append`, `adapters/incident_evidence.py:67–105`. -/
def append (file : Option Bytes) (call : Call) :
    Except PyError StoredIncidentRecord × Option Bytes :=
  let written : Except PyError (StoredIncidentRecord × Bytes) := do
    verifyOnAppend call.incident
    let records ← readUnlocked file
    let record ← withDigest (unsigned records call)
    let object ← record.toDict
    let payload ← Utf8.toBytes (Json.dumps Json.compact (.obj object) ++ [Lines.newline])
    pure (record, payload)
  match written with
  | .error e => (.error e, file)
  | .ok (record, payload) => (.ok record, some (file.getD [] ++ payload))

end StateWake.Incident
