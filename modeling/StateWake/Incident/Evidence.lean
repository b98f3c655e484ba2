import StateWake.Base.Datetime
import StateWake.Base.Sha256
import StateWake.Utils.JsonSupport

/-!
# Security incidents

`domain/security_incident.py`. An incident record is one observation of an incident: its status,
the evidence preserved for it and what recovery did. The incident's identity hashes the context
of its detection alone, so observations of any status share it. Timestamps are aware by type: the
source's `_validate_time` has nothing to refuse.
-/

namespace StateWake.Incident

open StateWake.Base Text Utils

/-! ### Statuses -/

/-- `IncidentStatus`, `domain/security_incident.py:13–20`. -/
inductive IncidentStatus where
  | detected
  | preserved
  | contained
  | assessed
  | recovered
  | reverified
  deriving DecidableEq, Repr

/-- The text of a status. -/
def IncidentStatus.text : IncidentStatus → Text
  | detected => lit "detected"
  | preserved => lit "preserved"
  | contained => lit "contained"
  | assessed => lit "assessed"
  | recovered => lit "recovered"
  | reverified => lit "reverified"

/-- `_STATUS_ORDER`, `domain/security_incident.py:23–30`, and `_STATUS_RANK`,
`presentation/incident_investigation.py:30`. -/
def IncidentStatus.rank : IncidentStatus → Nat
  | detected => 0
  | preserved => 1
  | contained => 2
  | assessed => 3
  | recovered => 4
  | reverified => 5

/-- The statuses of `RecoveryEvidence`, `domain/security_incident.py:200`. -/
inductive RecoveryStatus where
  | planned
  | applied
  | failed
  deriving DecidableEq, Repr

/-- The text of a recovery status. -/
def RecoveryStatus.text : RecoveryStatus → Text
  | planned => lit "planned"
  | applied => lit "applied"
  | failed => lit "failed"

/-- The statuses of `PostRecoveryVerification`, `domain/security_incident.py:230`. -/
inductive VerificationStatus where
  | verified
  | failed
  | unknown
  deriving DecidableEq, Repr

/-- The text of a verification status. -/
def VerificationStatus.text : VerificationStatus → Text
  | verified => lit "verified"
  | failed => lit "failed"
  | unknown => lit "unknown"

/-! ### Field checks -/

/-- `_digest`, `domain/security_incident.py:33–36`. -/
def requireDigest (name value : Text) : Except PyError Unit :=
  require ⟨.valueError, name ++ lit " must be lowercase SHA-256 hex."⟩ (isSha256 value)

/-- The check of a field that must say something, as in `domain/security_incident.py:56–62`. -/
def requireFilled (name value : Text) : Except PyError Unit :=
  require ⟨.valueError, name ++ lit " must not be empty."⟩ (!blank value)

/-- A time in UTC, or `None`. -/
def optionalTime : Option AwareDatetime → Except PyError Json
  | none => pure .null
  | some t => do
    let text ← t.utcText
    pure (.str text)

/-- The representation of a part, or `None`. -/
def optionalObject {α : Type} (toDict : α → Except PyError (Dict Json)) :
    Option α → Except PyError Json
  | none => pure .null
  | some a => do
    let members ← toDict a
    pure (.obj members)

/-! ### Evidence references -/

/-- The fields of `IncidentEvidenceReference`, `domain/security_incident.py:81–87`. -/
structure IncidentEvidenceReferenceFields where
  kind : Text
  identity : Text
  digest : Text
  source : Option Text
  deriving DecidableEq

namespace IncidentEvidenceReferenceFields

/-- `__post_init__`, `domain/security_incident.py:89–95`. -/
def postInit (f : IncidentEvidenceReferenceFields) : Except PyError Unit := do
  require ⟨.valueError, lit "evidence kind and identity must not be empty."⟩
    (!blank f.kind && !blank f.identity)
  requireDigest (lit "digest") f.digest
  require ⟨.valueError, lit "source must not be blank when provided."⟩
    (f.source.all fun s ↦ !blank s)

/-- `to_dict()`, `domain/security_incident.py:97–104`. -/
def toDict (f : IncidentEvidenceReferenceFields) : Dict Json :=
  [(lit "kind", .str f.kind),
    (lit "identity", .str f.identity),
    (lit "digest", .str f.digest),
    (lit "source", optionJson f.source)]

end IncidentEvidenceReferenceFields

/-- `IncidentEvidenceReference`, `domain/security_incident.py:80–104`. -/
abbrev IncidentEvidenceReference := Accepted IncidentEvidenceReferenceFields.postInit

/-- References as JSON. -/
def referencesJson (references : List IncidentEvidenceReference) : Json :=
  .arr (references.map fun r ↦ .obj r.val.toDict)

/-! ### Affected states -/

/-- The fields of `AffectedTrustState`, `domain/security_incident.py:108–115`. -/
structure AffectedTrustStateFields where
  stateId : Text
  stateDigest : Text
  trustContext : Text
  affectedWindowStart : Option AwareDatetime
  affectedWindowEnd : Option AwareDatetime
  deriving DecidableEq

namespace AffectedTrustStateFields

/-- `__post_init__`, `domain/security_incident.py:117–137`. -/
def postInit (f : AffectedTrustStateFields) : Except PyError Unit := do
  requireFilled (lit "state_id") f.stateId
  requireFilled (lit "trust_context") f.trustContext
  requireDigest (lit "state_digest") f.stateDigest
  require ⟨.valueError, lit "affected time window must have both endpoints."⟩
    (f.affectedWindowStart.isSome == f.affectedWindowEnd.isSome)
  require ⟨.valueError, lit "affected time window end precedes its start."⟩
    (f.affectedWindowStart.all fun start ↦ f.affectedWindowEnd.all fun stop ↦
      start.instant ≤ stop.instant)

/-- `to_dict()`, `domain/security_incident.py:139–151`. -/
def toDict (f : AffectedTrustStateFields) : Except PyError (Dict Json) := do
  let start ← optionalTime f.affectedWindowStart
  let stop ← optionalTime f.affectedWindowEnd
  pure [(lit "state_id", .str f.stateId),
    (lit "state_digest", .str f.stateDigest),
    (lit "trust_context", .str f.trustContext),
    (lit "affected_window_start", start),
    (lit "affected_window_end", stop)]

end AffectedTrustStateFields

/-- `AffectedTrustState`, `domain/security_incident.py:107–151`. -/
abbrev AffectedTrustState := Accepted AffectedTrustStateFields.postInit

/-! ### Key compromise -/

/-- The fields of `KeyCompromiseImpact`, `domain/security_incident.py:155–163`. -/
structure KeyCompromiseImpactFields where
  keyIdentity : Text
  affectedKeyVersion : Text
  affectedAttestationIds : List Text
  affectedEvidence : List IncidentEvidenceReference
  exposureStart : AwareDatetime
  exposureEnd : Option AwareDatetime
  deriving DecidableEq

namespace KeyCompromiseImpactFields

/-- `__post_init__`, `domain/security_incident.py:165–176`. -/
def postInit (f : KeyCompromiseImpactFields) : Except PyError Unit := do
  requireFilled (lit "key_identity") f.keyIdentity
  requireFilled (lit "affected_key_version") f.affectedKeyVersion
  require ⟨.valueError, lit "affected attestation IDs must not be blank."⟩
    (f.affectedAttestationIds.all fun id ↦ !blank id)
  require ⟨.valueError, lit "exposure_end precedes exposure_start."⟩
    (f.exposureEnd.all fun stop ↦ f.exposureStart.instant ≤ stop.instant)

/-- `to_dict()`, `domain/security_incident.py:178–189`. -/
def toDict (f : KeyCompromiseImpactFields) : Except PyError (Dict Json) := do
  let start ← f.exposureStart.utcText
  let stop ← optionalTime f.exposureEnd
  pure [(lit "key_identity", .str f.keyIdentity),
    (lit "affected_key_version", .str f.affectedKeyVersion),
    (lit "affected_attestation_ids", .arr (f.affectedAttestationIds.map .str)),
    (lit "affected_evidence", referencesJson f.affectedEvidence),
    (lit "exposure_start", .str start),
    (lit "exposure_end", stop)]

end KeyCompromiseImpactFields

/-- `KeyCompromiseImpact`, `domain/security_incident.py:154–189`. -/
abbrev KeyCompromiseImpact := Accepted KeyCompromiseImpactFields.postInit

/-! ### Recovery -/

/-- The fields of `RecoveryEvidence`, `domain/security_incident.py:193–200`. -/
structure RecoveryEvidenceFields where
  recoveryId : Text
  evidenceRef : IncidentEvidenceReference
  actor : Text
  sourceIncidentId : Text
  status : RecoveryStatus
  deriving DecidableEq

namespace RecoveryEvidenceFields

/-- `__post_init__`, `domain/security_incident.py:202–210`; the status is one of three by type. -/
def postInit (f : RecoveryEvidenceFields) : Except PyError Unit := do
  requireFilled (lit "recovery_id") f.recoveryId
  requireFilled (lit "actor") f.actor
  requireFilled (lit "source_incident_id") f.sourceIncidentId
  require ⟨.valueError, lit "applied recovery must reference its source incident"⟩
    (f.status != .applied || !blank f.sourceIncidentId)

/-- `to_dict()`, `domain/security_incident.py:212–220`. -/
def toDict (f : RecoveryEvidenceFields) : Dict Json :=
  [(lit "recovery_id", .str f.recoveryId),
    (lit "evidence_ref", .obj f.evidenceRef.val.toDict),
    (lit "actor", .str f.actor),
    (lit "source_incident_id", .str f.sourceIncidentId),
    (lit "status", .str f.status.text)]

end RecoveryEvidenceFields

/-- `RecoveryEvidence`, `domain/security_incident.py:192–220`. -/
abbrev RecoveryEvidence := Accepted RecoveryEvidenceFields.postInit

/-- The fields of `PostRecoveryVerification`, `domain/security_incident.py:224–231`. -/
structure PostRecoveryVerificationFields where
  verificationId : Text
  evidenceRefs : List IncidentEvidenceReference
  actor : Text
  status : VerificationStatus
  performedAt : AwareDatetime
  deriving DecidableEq

namespace PostRecoveryVerificationFields

/-- `__post_init__`, `domain/security_incident.py:233–241`; the status is one of three by type. -/
def postInit (f : PostRecoveryVerificationFields) : Except PyError Unit := do
  require ⟨.valueError, lit "verification_id and actor must not be empty."⟩
    (!blank f.verificationId && !blank f.actor)
  require ⟨.valueError, lit "post-recovery verification requires evidence refs"⟩
    (!f.evidenceRefs.isEmpty)

/-- `to_dict()`, `domain/security_incident.py:243–251`. -/
def toDict (f : PostRecoveryVerificationFields) : Except PyError (Dict Json) := do
  let performedAt ← f.performedAt.utcText
  pure [(lit "verification_id", .str f.verificationId),
    (lit "evidence_refs", referencesJson f.evidenceRefs),
    (lit "actor", .str f.actor),
    (lit "status", .str f.status.text),
    (lit "performed_at", .str performedAt)]

end PostRecoveryVerificationFields

/-- `PostRecoveryVerification`, `domain/security_incident.py:223–251`. -/
abbrev PostRecoveryVerification := Accepted PostRecoveryVerificationFields.postInit

/-! ### Incidents -/

/-- `derive_incident_id`, `domain/security_incident.py:52–70`. -/
def deriveIncidentId (eventId : Text) (detectedAt : AwareDatetime) (actor category : Text) :
    Except PyError Text := do
  requireFilled (lit "event_id") eventId
  requireFilled (lit "actor") actor
  requireFilled (lit "category") category
  let detected ← detectedAt.utcText
  let content ← canonicalBytes
    [(lit "event_id", .str eventId),
      (lit "detected_at", .str detected),
      (lit "actor", .str actor),
      (lit "category", .str category)]
  pure (sha256 content)

/-- The fields of `SecurityIncidentEvidence`, `domain/security_incident.py:255–271`. -/
structure SecurityIncidentEvidenceFields where
  incidentId : Text
  eventId : Text
  detectedAt : AwareDatetime
  actor : Text
  category : Text
  status : IncidentStatus
  evidenceRefs : List IncidentEvidenceReference
  affectedStates : List AffectedTrustState
  securityEventDigests : List Text
  uncertainty : List Text
  keyCompromise : Option KeyCompromiseImpact
  recovery : Option RecoveryEvidence
  postRecovery : Option PostRecoveryVerification
  incidentDigest : Text
  deriving DecidableEq

namespace SecurityIncidentEvidenceFields

/-- `payload()`, `domain/security_incident.py:320–340`. -/
def payload (f : SecurityIncidentEvidenceFields) : Except PyError (Dict Json) := do
  let detectedAt ← f.detectedAt.utcText
  let affectedStates ← f.affectedStates.mapM fun s ↦ s.val.toDict
  let keyCompromise ← optionalObject (fun k : KeyCompromiseImpact ↦ k.val.toDict) f.keyCompromise
  let recovery ← optionalObject (fun r : RecoveryEvidence ↦ pure r.val.toDict) f.recovery
  let postRecovery ← optionalObject (fun p : PostRecoveryVerification ↦ p.val.toDict)
    f.postRecovery
  pure [(lit "incident_id", .str f.incidentId),
    (lit "event_id", .str f.eventId),
    (lit "detected_at", .str detectedAt),
    (lit "actor", .str f.actor),
    (lit "category", .str f.category),
    (lit "status", .str f.status.text),
    (lit "evidence_refs", referencesJson f.evidenceRefs),
    (lit "affected_states", .arr (affectedStates.map .obj)),
    (lit "security_event_digests", .arr (f.securityEventDigests.map .str)),
    (lit "uncertainty", .arr (f.uncertainty.map .str)),
    (lit "key_compromise", keyCompromise),
    (lit "recovery", recovery),
    (lit "post_recovery", postRecovery)]

/-- `digest()`, `domain/security_incident.py:352–354`. -/
def digest (f : SecurityIncidentEvidenceFields) : Except PyError Text := do
  let payload ← f.payload
  let content ← canonicalBytes payload
  pure (sha256 content)

/-- `to_dict()`, `domain/security_incident.py:356–362`. -/
def toDict (f : SecurityIncidentEvidenceFields) : Except PyError (Dict Json) := do
  let payload ← f.payload
  let digest ← f.digest
  pure ((lit "format_version", .str (lit "1")) :: payload ++
    [(lit "incident_digest", .str digest)])

/-- The checks of `__post_init__` before its last, `domain/security_incident.py:273–316`. -/
def checkRecord (f : SecurityIncidentEvidenceFields) : Except PyError Unit := do
  requireFilled (lit "incident_id") f.incidentId
  requireFilled (lit "event_id") f.eventId
  requireFilled (lit "actor") f.actor
  requireFilled (lit "category") f.category
  require ⟨.valueError, lit "incident evidence must preserve at least one evidence ref"⟩
    (!f.evidenceRefs.isEmpty)
  require ⟨.valueError, lit "uncertainty entries must not be blank"⟩
    (f.uncertainty.all fun value ↦ !blank value)
  let expectedIdentity ← deriveIncidentId f.eventId f.detectedAt f.actor f.category
  require ⟨.valueError,
    lit "incident_id is not the deterministic identity of its event context"⟩
    (f.incidentId = expectedIdentity)
  f.securityEventDigests.forM (requireDigest (lit "security_event_digest"))
  require ⟨.valueError, lit "preservation state requires preserved evidence"⟩
    (f.status == .detected || !f.evidenceRefs.isEmpty)
  require ⟨.valueError, lit "recovered incident requires recovery evidence"⟩
    (f.status.rank < IncidentStatus.recovered.rank || f.recovery.isSome)
  require ⟨.valueError, lit "reverified incident requires post-recovery verification"⟩
    (f.status != .reverified || f.postRecovery.isSome)
  require ⟨.valueError, lit "reverified incident requires verified post-recovery evidence"⟩
    (f.status != .reverified || f.postRecovery.all fun p ↦ p.val.status == .verified)
  require ⟨.valueError, lit "recovery evidence must bind to this incident"⟩
    (f.recovery.all fun r ↦ r.val.sourceIncidentId = f.incidentId)

/-- `__post_init__`, `domain/security_incident.py:273–318`. -/
def postInit (f : SecurityIncidentEvidenceFields) : Except PyError Unit := do
  f.checkRecord
  if f.incidentDigest = [] then pure ()
  else do
    let digest ← f.digest
    require ⟨.valueError, lit "security incident evidence digest mismatch"⟩
      (f.incidentDigest = digest)

/-- `verify_forensic_continuity`, `domain/security_incident.py:364–379`. -/
def verifyForensicContinuity (f : SecurityIncidentEvidenceFields) : Except PyError Unit := do
  require ⟨.valueError, lit "forensic reconstruction requires a reverified incident"⟩
    (f.status = .reverified)
  let postRecovery ← orRaise
    ⟨.valueError, lit "post-recovery verification is missing or not verified"⟩
    (f.postRecovery.filter fun p ↦ p.val.status == .verified)
  let recovery ← orRaise ⟨.valueError, lit "applied recovery evidence is missing"⟩
    (f.recovery.filter fun r ↦ r.val.status == .applied)
  let referenced := f.evidenceRefs.map fun r ↦ r.val.identity
  require ⟨.valueError, lit "recovery evidence is outside the preserved incident set"⟩
    (recovery.val.evidenceRef.val.identity ∈ referenced)
  require ⟨.valueError, lit "post-recovery verification references evidence outside the " ++
      lit "preserved incident set"⟩
    (postRecovery.val.evidenceRefs.all fun r ↦ r.val.identity ∈ referenced)

end SecurityIncidentEvidenceFields

/-- `SecurityIncidentEvidence`, `domain/security_incident.py:254–379`: one observation of an
incident. -/
abbrev SecurityIncidentEvidence := Accepted SecurityIncidentEvidenceFields.postInit

/-- The identity of an incident is derived from its context. -/
theorem deriveIncidentId_of_accepted (i : SecurityIncidentEvidence) :
    deriveIncidentId i.val.eventId i.val.detectedAt i.val.actor i.val.category =
      .ok i.val.incidentId := by
  have hi := i.property
  simp only [SecurityIncidentEvidenceFields.postInit, SecurityIncidentEvidenceFields.checkRecord,
    bind_eq_ok] at hi
  obtain ⟨_, ⟨_, -, _, -, _, -, _, -, _, -, _, -, id, hid, _, heq, -⟩, -⟩ := hi
  rw [hid, of_decide_eq_true (require_eq_ok.mp heq)]

/-! ### The same records in UTC -/

@[simp] theorem optionalTime_inUtc (t : Option AwareDatetime) :
    optionalTime (t.map AwareDatetime.inUtc) = optionalTime t := by
  cases t with
  | none => rfl
  | some t => simp [optionalTime]

theorem optionalObject_map {α : Type} {toDict : α → Except PyError (Dict Json)} {g : α → α}
    (h : ∀ a, toDict (g a) = toDict a) (o : Option α) :
    optionalObject toDict (o.map g) = optionalObject toDict o := by
  cases o with
  | none => rfl
  | some a => rw [Option.map_some, optionalObject, optionalObject, h]

namespace AffectedTrustStateFields

/-- An affected state with its window in UTC. -/
def inUtc (f : AffectedTrustStateFields) : AffectedTrustStateFields :=
  { f with
    affectedWindowStart := f.affectedWindowStart.map .inUtc
    affectedWindowEnd := f.affectedWindowEnd.map .inUtc }

@[simp] theorem postInit_inUtc (f : AffectedTrustStateFields) : f.inUtc.postInit = f.postInit := by
  simp [postInit, inUtc, Option.all_map]

@[simp] theorem toDict_inUtc (f : AffectedTrustStateFields) : f.inUtc.toDict = f.toDict := by
  simp [toDict, inUtc]

end AffectedTrustStateFields

namespace KeyCompromiseImpactFields

/-- A key compromise with its exposure in UTC. -/
def inUtc (f : KeyCompromiseImpactFields) : KeyCompromiseImpactFields :=
  { f with
    exposureStart := f.exposureStart.inUtc
    exposureEnd := f.exposureEnd.map .inUtc }

@[simp] theorem postInit_inUtc (f : KeyCompromiseImpactFields) :
    f.inUtc.postInit = f.postInit := by
  simp [postInit, inUtc, Option.all_map]

@[simp] theorem toDict_inUtc (f : KeyCompromiseImpactFields) : f.inUtc.toDict = f.toDict := by
  simp [toDict, inUtc]

end KeyCompromiseImpactFields

namespace PostRecoveryVerificationFields

/-- A verification with its time in UTC. -/
def inUtc (f : PostRecoveryVerificationFields) : PostRecoveryVerificationFields :=
  { f with performedAt := f.performedAt.inUtc }

@[simp] theorem postInit_inUtc (f : PostRecoveryVerificationFields) :
    f.inUtc.postInit = f.postInit := rfl

@[simp] theorem toDict_inUtc (f : PostRecoveryVerificationFields) : f.inUtc.toDict = f.toDict := by
  simp [toDict, inUtc]

end PostRecoveryVerificationFields

/-- An affected state with its window in UTC. -/
def AffectedTrustState.inUtc (s : AffectedTrustState) : AffectedTrustState :=
  ⟨s.val.inUtc, s.val.postInit_inUtc.trans s.property⟩

/-- A key compromise with its exposure in UTC. -/
def KeyCompromiseImpact.inUtc (k : KeyCompromiseImpact) : KeyCompromiseImpact :=
  ⟨k.val.inUtc, k.val.postInit_inUtc.trans k.property⟩

/-- A verification with its time in UTC. -/
def PostRecoveryVerification.inUtc (p : PostRecoveryVerification) : PostRecoveryVerification :=
  ⟨p.val.inUtc, p.val.postInit_inUtc.trans p.property⟩

@[simp] theorem deriveIncidentId_inUtc (eventId : Text) (t : AwareDatetime)
    (actor category : Text) : deriveIncidentId eventId t.inUtc actor category =
      deriveIncidentId eventId t actor category := by
  rw [deriveIncidentId, AwareDatetime.utcText_inUtc, deriveIncidentId]

namespace SecurityIncidentEvidenceFields

/-- The fields the store gives back: every time in UTC, the digest filled in. -/
def observed (f : SecurityIncidentEvidenceFields) (digest : Text) :
    SecurityIncidentEvidenceFields :=
  { f with
    detectedAt := f.detectedAt.inUtc
    affectedStates := f.affectedStates.map AffectedTrustState.inUtc
    keyCompromise := f.keyCompromise.map KeyCompromiseImpact.inUtc
    postRecovery := f.postRecovery.map PostRecoveryVerification.inUtc
    incidentDigest := digest }

variable (f : SecurityIncidentEvidenceFields) (d : Text)

@[simp] theorem payload_observed : (f.observed d).payload = f.payload := by
  have hstates : (f.affectedStates.map AffectedTrustState.inUtc).mapM (fun s ↦ s.val.toDict) =
      f.affectedStates.mapM fun s ↦ s.val.toDict := by
    rw [List.mapM_map]
    exact mapM_congr fun s _ ↦ s.val.toDict_inUtc
  have hkey : optionalObject (fun k : KeyCompromiseImpact ↦ k.val.toDict)
      (f.keyCompromise.map KeyCompromiseImpact.inUtc) = _ :=
    optionalObject_map (fun k ↦ k.val.toDict_inUtc) f.keyCompromise
  have hpost : optionalObject (fun p : PostRecoveryVerification ↦ p.val.toDict)
      (f.postRecovery.map PostRecoveryVerification.inUtc) = _ :=
    optionalObject_map (fun p ↦ p.val.toDict_inUtc) f.postRecovery
  simp only [payload, observed, AwareDatetime.utcText_inUtc, hstates, hkey, hpost]

@[simp] theorem digest_observed : (f.observed d).digest = f.digest := by
  rw [digest, payload_observed, digest]

@[simp] theorem toDict_observed : (f.observed d).toDict = f.toDict := by
  rw [toDict, payload_observed, digest_observed, toDict]

@[simp] theorem checkRecord_observed : (f.observed d).checkRecord = f.checkRecord := by
  simp [checkRecord, observed, PostRecoveryVerification.inUtc,
    PostRecoveryVerificationFields.inUtc, Option.all_map]
  rfl

@[simp] theorem verifyForensicContinuity_observed :
    (f.observed d).verifyForensicContinuity = f.verifyForensicContinuity := by
  have hpost : (f.postRecovery.map PostRecoveryVerification.inUtc).filter
      (fun p ↦ p.val.status == .verified) =
      (f.postRecovery.filter fun p ↦ p.val.status == .verified).map
        PostRecoveryVerification.inUtc := by
    rw [Option.filter_map]
    rfl
  rw [verifyForensicContinuity, verifyForensicContinuity]
  dsimp only [observed]
  rw [hpost]
  cases f.postRecovery.filter fun p ↦ p.val.status == .verified <;> rfl

end SecurityIncidentEvidenceFields

end StateWake.Incident
