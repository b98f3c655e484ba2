import StateWake.Base.Datetime
import StateWake.Base.Sha256
import StateWake.Utils.JsonSupport

/-!
# Assurance decisions and operating exceptions

`domain/assurance_operations.py`: the policy that maps verified evidence to a bounded decision, the
exceptions made of one, and the strict decoders of both.
-/

namespace StateWake.Assurance

open StateWake.Base Text Utils

/-! ### Decisions -/

/-- `SecurityDecision`, `domain/assurance_operations.py:14–23`. -/
inductive SecurityDecision where
  | allow
  | allowWithLimitations
  | requireReverification
  | quarantine
  | reject
  | revokeTrust
  | recoveryRequired
  deriving DecidableEq

namespace SecurityDecision

/-- The value of a decision. -/
def text : SecurityDecision → Text
  | .allow => lit "ALLOW"
  | .allowWithLimitations => lit "ALLOW_WITH_LIMITATIONS"
  | .requireReverification => lit "REQUIRE_REVERIFICATION"
  | .quarantine => lit "QUARANTINE"
  | .reject => lit "REJECT"
  | .revokeTrust => lit "REVOKE_TRUST"
  | .recoveryRequired => lit "RECOVERY_REQUIRED"

/-- `SecurityDecision(value)`. -/
def ofText? (value : Text) : Option SecurityDecision :=
  [allow, allowWithLimitations, requireReverification, quarantine, reject, revokeTrust,
    recoveryRequired].find? fun d ↦ decide (d.text = value)

@[simp] theorem ofText?_text (d : SecurityDecision) : ofText? d.text = some d := by
  cases d <;> decide

theorem not_blank_text (d : SecurityDecision) : blank d.text = false := by
  cases d <;> decide

end SecurityDecision

/-- `_ALLOWED_VERIFICATION`, `domain/assurance_operations.py:26–34`. -/
def allowedVerification : List Text :=
  [lit "verified", lit "verified_with_limitations", lit "unverified", lit "invalid",
    lit "tampered", lit "incomplete", lit "trust_anchor_unavailable"]

/-- `_ALLOWED_STATES`, `domain/assurance_operations.py:35`. -/
def allowedStates : List Text :=
  [lit "unknown", lit "reliable", lit "degraded", lit "unreliable", lit "recovered"]

/-- The fields of an `AssuranceDecisionInput`, `domain/assurance_operations.py:53–63`. -/
structure AssuranceDecisionInputFields where
  subjectId : Text
  reliabilityState : Text
  verificationStatus : Text
  trustStatus : Text := lit "trusted"
  recoveryRequired : Bool := false
  evidenceReferences : List Text := []
  verificationResults : List Text := []
  residualRisk : List Text := []

/-- `__post_init__`, `domain/assurance_operations.py:65–84`. -/
def AssuranceDecisionInputFields.postInit (f : AssuranceDecisionInputFields) :
    Except PyError Unit := do
  require ⟨.valueError, lit "subject_id must not be empty."⟩ (!blank f.subjectId)
  require ⟨.valueError, lit "unsupported reliability state: " ++ f.reliabilityState⟩
    (f.reliabilityState ∈ allowedStates)
  require ⟨.valueError, lit "unsupported verification status: " ++ f.verificationStatus⟩
    (f.verificationStatus ∈ allowedVerification)
  require ⟨.valueError, lit "trust_status must not be empty."⟩ (!blank f.trustStatus)
  require ⟨.valueError, lit "at least one evidence reference is required."⟩
    (!f.evidenceReferences.isEmpty)
  require ⟨.valueError, lit "evidence references must not be blank."⟩
    (!f.evidenceReferences.any blank)
  require ⟨.valueError, lit "verification results must not be blank."⟩
    (!f.verificationResults.any blank)
  require ⟨.valueError, lit "residual risk entries must not be blank."⟩
    (!f.residualRisk.any blank)

/-- `AssuranceDecisionInput`, `domain/assurance_operations.py:52–84`. -/
abbrev AssuranceDecisionInput := Accepted AssuranceDecisionInputFields.postInit

/-- The fields of a decision but for its digest, `domain/assurance_operations.py:91–103`. -/
structure AssuranceDecisionFields where
  decision : SecurityDecision
  subjectId : Text
  policyId : Text
  policyVersion : Text
  evidenceReferences : List Text
  verificationResults : List Text
  rationale : List Text
  decisionContext : Text
  residualRisk : List Text
  generatedAt : Text
  sourceReliabilityState : Text
  sourceVerificationStatus : Text
  systemStateUnchanged : Bool := true

/-- `AssuranceDecision`, `domain/assurance_operations.py:87–151`. -/
structure AssuranceDecision extends AssuranceDecisionFields where
  digest : Text

/-- An array of texts. -/
def textArray (items : List Text) : Json := .arr (items.map .str)

namespace AssuranceDecisionFields

/-- `payload`, `domain/assurance_operations.py:127–143`. -/
def payload (f : AssuranceDecisionFields) : Dict Json :=
  [(lit "decision", .str f.decision.text),
    (lit "subject_id", .str f.subjectId),
    (lit "policy_id", .str f.policyId),
    (lit "policy_version", .str f.policyVersion),
    (lit "evidence_references", textArray f.evidenceReferences),
    (lit "verification_results", textArray f.verificationResults),
    (lit "rationale", textArray f.rationale),
    (lit "decision_context", .str f.decisionContext),
    (lit "residual_risk", textArray f.residualRisk),
    (lit "generated_at", .str f.generatedAt),
    (lit "source_reliability_state", .str f.sourceReliabilityState),
    (lit "source_verification_status", .str f.sourceVerificationStatus),
    (lit "system_state_unchanged", .bool f.systemStateUnchanged)]

/-- `computed_digest`, `domain/assurance_operations.py:145–147`. -/
def computedDigest (f : AssuranceDecisionFields) : Except PyError Text := do
  let content ← canonicalBytes f.payload
  pure (sha256 content)

/-- The checks of `__post_init__` before the digest, `domain/assurance_operations.py:108–121`. -/
def check (f : AssuranceDecisionFields) : Except PyError Unit := do
  require ⟨.valueError, lit "subject_id must not be empty."⟩ (!blank f.subjectId)
  require ⟨.valueError, lit "policy identity must not be empty."⟩
    (!(blank f.policyId || blank f.policyVersion))
  require ⟨.valueError, lit "decision requires evidence references."⟩
    (!f.evidenceReferences.isEmpty)
  require ⟨.valueError, lit "decision requires verification results."⟩
    (!f.verificationResults.isEmpty)
  require ⟨.valueError, lit "decision rationale must not be empty."⟩ (!f.rationale.isEmpty)
  require ⟨.valueError, lit "decision context must not be empty."⟩ (!blank f.decisionContext)
  require ⟨.valueError, lit "operational decision must not rewrite system state."⟩
    f.systemStateUnchanged

end AssuranceDecisionFields

namespace AssuranceDecision

/-- The constructor, `__post_init__` at `domain/assurance_operations.py:106–125`. -/
def create (f : AssuranceDecisionFields) (digest : Text) : Except PyError AssuranceDecision := do
  f.check
  let expected ← f.computedDigest
  require ⟨.valueError, lit "assurance decision digest mismatch."⟩
    (digest.isEmpty || digest = expected)
  pure { f with digest := expected }

/-- `to_dict`, `domain/assurance_operations.py:149–151`. -/
def toDict (d : AssuranceDecision) : Dict Json := d.payload ++ [(lit "digest", .str d.digest)]

end AssuranceDecision

/-! ### The policy -/

/-- The ten rules, `domain/assurance_operations.py:249–278`: the decision and the rule it is made
by. -/
def applyPolicy (inputs : AssuranceDecisionInputFields) : SecurityDecision × Text :=
  if inputs.trustStatus = lit "revoked" then (.revokeTrust, lit "trust-authority-revoked")
  else if inputs.recoveryRequired then (.recoveryRequired, lit "recovery-required")
  else if inputs.verificationStatus = lit "tampered" then
    (.quarantine, lit "portable-evidence-tampered")
  else if inputs.verificationStatus ∈ [lit "invalid", lit "incomplete"] then
    (.reject, lit "evidence-invalid-or-incomplete")
  else if inputs.verificationStatus ∈ [lit "unverified", lit "trust_anchor_unavailable"] then
    (.requireReverification, lit "verification-not-established")
  else if inputs.reliabilityState = lit "unreliable" then (.reject, lit "reliability-unacceptable")
  else if inputs.reliabilityState = lit "degraded" then
    (.allowWithLimitations, lit "reliability-degraded")
  else if inputs.verificationStatus = lit "verified_with_limitations" then
    (.allowWithLimitations, lit "verification-limitations-present")
  else if inputs.reliabilityState ∈ [lit "reliable", lit "recovered"] then
    (.allow, lit "verified-reliability-state")
  else (.requireReverification, lit "state-not-sufficiently-established")

/-- The decision of a policy at a time, `domain/assurance_operations.py:280–302`. -/
def decided (inputs : AssuranceDecisionInputFields) (policyId policyVersion when : Text) :
    AssuranceDecisionFields where
  decision := (applyPolicy inputs).1
  subjectId := inputs.subjectId
  policyId := policyId
  policyVersion := policyVersion
  evidenceReferences := inputs.evidenceReferences
  verificationResults := inputs.verificationResults
  rationale :=
    [lit "policy-rule:" ++ (applyPolicy inputs).2,
      lit "reliability-state:" ++ inputs.reliabilityState,
      lit "verification-status:" ++ inputs.verificationStatus,
      lit "trust-status:" ++ inputs.trustStatus]
  decisionContext := lit "evidence-backed assurance policy evaluation"
  residualRisk :=
    if inputs.residualRisk ≠ [] then inputs.residualRisk
    else if (applyPolicy inputs).1 = .allow then []
    else [(applyPolicy inputs).2]
  generatedAt := when
  sourceReliabilityState := inputs.reliabilityState
  sourceVerificationStatus := inputs.verificationStatus

/-- `evaluate_assurance_decision`, `domain/assurance_operations.py:237–302`, at the time it is given
or that of the clock. -/
def evaluateAssuranceDecision (inputs : AssuranceDecisionInput) (policyId policyVersion : Text)
    (generatedAt : AwareDatetime) : Except PyError AssuranceDecision := do
  require ⟨.valueError, lit "policy identity must not be empty."⟩
    (!(blank policyId || blank policyVersion))
  let when ← generatedAt.utcText
  AssuranceDecision.create (decided inputs.val policyId policyVersion when) []

/-! ### Exceptions -/

/-- The fields of an exception but for its digest, `domain/assurance_operations.py:158–169`. -/
structure AssuranceExceptionFields where
  exceptionId : Text
  subjectId : Text
  invariant : Text
  reasonOperationContinues : Text
  authorizedBy : Text
  expiresAt : Text
  compensatingControl : Text
  reverificationRequired : Text
  evidenceReferences : List Text
  createdAt : Text
  decisionDigest : Option Text := none
  systemStatePreserved : Bool := true

/-- `AssuranceException`, `domain/assurance_operations.py:154–234`. -/
structure AssuranceException extends AssuranceExceptionFields where
  digest : Text

namespace AssuranceExceptionFields

/-- `payload`, `domain/assurance_operations.py:207–226`. -/
def payload (f : AssuranceExceptionFields) : Dict Json :=
  [(lit "exception_id", .str f.exceptionId),
    (lit "subject_id", .str f.subjectId),
    (lit "invariant", .str f.invariant),
    (lit "reason_operation_continues", .str f.reasonOperationContinues),
    (lit "authorized_by", .str f.authorizedBy),
    (lit "expires_at", .str f.expiresAt),
    (lit "compensating_control", .str f.compensatingControl),
    (lit "reverification_required", .str f.reverificationRequired),
    (lit "evidence_references", textArray f.evidenceReferences),
    (lit "created_at", .str f.createdAt)] ++
  f.decisionDigest.toList.map (fun digest ↦ (lit "decision_digest", .str digest)) ++
  [(lit "system_state_preserved", .bool f.systemStatePreserved)]

/-- `computed_digest`, `domain/assurance_operations.py:228–230`. -/
def computedDigest (f : AssuranceExceptionFields) : Except PyError Text := do
  let content ← canonicalBytes f.payload
  pure (sha256 content)

/-- The texts that must not be blank, `domain/assurance_operations.py:174–184`. -/
def named (f : AssuranceExceptionFields) : List (Text × Text) :=
  [(lit "exception_id", f.exceptionId),
    (lit "subject_id", f.subjectId),
    (lit "invariant", f.invariant),
    (lit "reason_operation_continues", f.reasonOperationContinues),
    (lit "authorized_by", f.authorizedBy),
    (lit "expires_at", f.expiresAt),
    (lit "compensating_control", f.compensatingControl),
    (lit "reverification_required", f.reverificationRequired),
    (lit "created_at", f.createdAt)]

/-- The checks of the two times, `domain/assurance_operations.py:189–194`. -/
def checkTimes (f : AssuranceExceptionFields) : Except PyError Unit := do
  let created ← parseAware f.createdAt (lit "exception timestamps must be timezone-aware.")
  let expires ← parseAware f.expiresAt (lit "exception timestamps must be timezone-aware.")
  let expiry ← expires.toUtc
  let creation ← created.toUtc
  require ⟨.valueError, lit "exception expiry must be later than creation."⟩
    (creation.instant < expiry.instant)

/-- The checks of `__post_init__` before the digest, `domain/assurance_operations.py:174–201`. -/
def check (f : AssuranceExceptionFields) : Except PyError Unit := do
  f.named.forM fun (name, value) ↦
    require ⟨.valueError, name ++ lit " must not be empty."⟩ (!blank value)
  require ⟨.valueError, lit "exception requires evidence references."⟩
    (!f.evidenceReferences.isEmpty)
  f.checkTimes
  require ⟨.valueError, lit "decision_digest must be a lowercase sha256 digest."⟩
    (f.decisionDigest.all isSha256)
  require ⟨.valueError, lit "exception must preserve system assurance state."⟩
    f.systemStatePreserved

end AssuranceExceptionFields

namespace AssuranceException

/-- The constructor, `__post_init__` at `domain/assurance_operations.py:172–205`. -/
def create (f : AssuranceExceptionFields) (digest : Text) : Except PyError AssuranceException := do
  f.check
  let expected ← f.computedDigest
  require ⟨.valueError, lit "assurance exception digest mismatch."⟩
    (digest.isEmpty || digest = expected)
  pure { f with digest := expected }

/-- `to_dict`, `domain/assurance_operations.py:232–234`. -/
def toDict (e : AssuranceException) : Dict Json := e.payload ++ [(lit "digest", .str e.digest)]

end AssuranceException

/-- The arguments of an exception. -/
structure ExceptionArguments where
  exceptionId : Text
  reasonOperationContinues : Text
  authorizedBy : Text
  expiresAt : AwareDatetime
  compensatingControl : Text
  reverificationRequired : Text
  createdAt : AwareDatetime

/-- The decisions that an operating exception may be made of. -/
def permitsException : List SecurityDecision := [.allowWithLimitations, .requireReverification]

/-- The invariant of an exception. -/
def invariantOf (decision : SecurityDecision) : Text := lit "decision:" ++ decision.text

/-- `create_assurance_exception`, `domain/assurance_operations.py:305–336`, at the time it is given
or that of the clock. -/
def createAssuranceException (decision : AssuranceDecision) (a : ExceptionArguments) :
    Except PyError AssuranceException := do
  require ⟨.valueError,
    lit "operating exceptions are limited to non-clear assurance decisions."⟩
    (decision.decision ∈ permitsException)
  let expiresAt ← a.expiresAt.utcText
  let createdAt ← a.createdAt.utcText
  AssuranceException.create
    { exceptionId := a.exceptionId
      subjectId := decision.subjectId
      invariant := invariantOf decision.decision
      reasonOperationContinues := a.reasonOperationContinues
      authorizedBy := a.authorizedBy
      expiresAt := expiresAt
      compensatingControl := a.compensatingControl
      reverificationRequired := a.reverificationRequired
      evidenceReferences := decision.evidenceReferences
      createdAt := createdAt
      decisionDigest := some decision.digest } []

/-! ### Strict decoding -/

/-- `_strict_string`, `domain/assurance_operations.py:339–343`. -/
def strictString (members : Dict Json) (name : Text) : Except PyError Text :=
  match (members.get? name).bind Json.asText with
  | some s =>
    if blank s then valueError (name ++ lit " must be a non-empty string.") else .ok s
  | none => valueError (name ++ lit " must be a non-empty string.")

/-- `_strict_bool`, `domain/assurance_operations.py:346–350`. -/
def strictBool (members : Dict Json) (name : Text) : Except PyError Bool :=
  match members.get? name with
  | some (.bool b) => .ok b
  | _ => valueError (name ++ lit " must be a boolean.")

/-- `_strict_string_tuple`, `domain/assurance_operations.py:353–363`. -/
def strictStringTuple (members : Dict Json) (name : Text) (allowEmpty : Bool) :
    Except PyError (List Text) := do
  let invalid : PyError := ⟨.valueError, name ++ lit " must be an array of non-empty strings."⟩
  let items ← orRaise invalid ((members.get? name).bind Json.asList)
  let texts ← items.mapM fun item ↦ orRaise invalid (item.asText.filter fun s ↦ !blank s)
  require ⟨.valueError, name ++ lit " must not be empty."⟩ (allowEmpty || !items.isEmpty)
  pure texts

/-- `_require_keys`, `domain/assurance_operations.py:366–375`. -/
def requireKeys (members : Dict Json) (allowed required : List Text) (name : Text) :
    Except PyError Unit := do
  require ⟨.valueError, name ++ lit " contains unsupported fields"⟩
    (members.keys.all fun key ↦ key ∈ allowed)
  require ⟨.valueError, name ++ lit " is missing required fields"⟩
    (required.all fun key ↦ key ∈ members.keys)

/-- The keys of a persisted decision, `domain/assurance_operations.py:380–395`. -/
def decisionKeys : List Text :=
  [lit "decision", lit "subject_id", lit "policy_id", lit "policy_version",
    lit "evidence_references", lit "verification_results", lit "rationale", lit "decision_context",
    lit "residual_risk", lit "generated_at", lit "source_reliability_state",
    lit "source_verification_status", lit "system_state_unchanged", lit "digest"]

/-- `assurance_decision_from_dict`, `domain/assurance_operations.py:378–435`. -/
def assuranceDecisionFromDict (members : Dict Json) : Except PyError AssuranceDecision := do
  requireKeys members decisionKeys decisionKeys (lit "assurance decision")
  let generatedAt ← strictString members (lit "generated_at")
  let _ ← parseAware generatedAt (lit "generated_at must be timezone-aware.")
  let decisionText ← strictString members (lit "decision")
  let decision ← orRaise ⟨.valueError, lit "unsupported assurance decision"⟩
    (SecurityDecision.ofText? decisionText)
  let subjectId ← strictString members (lit "subject_id")
  let policyId ← strictString members (lit "policy_id")
  let policyVersion ← strictString members (lit "policy_version")
  let evidenceReferences ← strictStringTuple members (lit "evidence_references") false
  let verificationResults ← strictStringTuple members (lit "verification_results") false
  let rationale ← strictStringTuple members (lit "rationale") false
  let decisionContext ← strictString members (lit "decision_context")
  let residualRisk ← strictStringTuple members (lit "residual_risk") true
  let sourceReliabilityState ← strictString members (lit "source_reliability_state")
  let sourceVerificationStatus ← strictString members (lit "source_verification_status")
  let systemStateUnchanged ← strictBool members (lit "system_state_unchanged")
  let digest ← strictString members (lit "digest")
  AssuranceDecision.create
    { decision, subjectId, policyId, policyVersion, evidenceReferences, verificationResults,
      rationale, decisionContext, residualRisk, generatedAt, sourceReliabilityState,
      sourceVerificationStatus, systemStateUnchanged } digest

/-- The keys that a persisted exception must have, `domain/assurance_operations.py:440–453`. -/
def exceptionKeys : List Text :=
  [lit "exception_id", lit "subject_id", lit "invariant", lit "reason_operation_continues",
    lit "authorized_by", lit "expires_at", lit "compensating_control",
    lit "reverification_required", lit "evidence_references", lit "created_at",
    lit "system_state_preserved", lit "digest"]

/-- `decision_digest` of a persisted exception, `domain/assurance_operations.py:456–458`. -/
def decisionDigestOf (members : Dict Json) : Except PyError (Option Text) :=
  match members.get? (lit "decision_digest") with
  | none | some .null => .ok none
  | some (.str digest) => .ok (some digest)
  | some _ => valueError (lit "decision_digest must be a string when present.")

/-- `assurance_exception_from_dict`, `domain/assurance_operations.py:438–483`. -/
def assuranceExceptionFromDict (members : Dict Json) : Except PyError AssuranceException := do
  requireKeys members (exceptionKeys ++ [lit "decision_digest"]) exceptionKeys
    (lit "assurance exception")
  let decisionDigest ← decisionDigestOf members
  let exceptionId ← strictString members (lit "exception_id")
  let subjectId ← strictString members (lit "subject_id")
  let invariant ← strictString members (lit "invariant")
  let reasonOperationContinues ← strictString members (lit "reason_operation_continues")
  let authorizedBy ← strictString members (lit "authorized_by")
  let expiresAt ← strictString members (lit "expires_at")
  let compensatingControl ← strictString members (lit "compensating_control")
  let reverificationRequired ← strictString members (lit "reverification_required")
  let evidenceReferences ← strictStringTuple members (lit "evidence_references") false
  let createdAt ← strictString members (lit "created_at")
  let systemStatePreserved ← strictBool members (lit "system_state_preserved")
  let digest ← strictString members (lit "digest")
  AssuranceException.create
    { exceptionId, subjectId, invariant, reasonOperationContinues, authorizedBy, expiresAt,
      compensatingControl, reverificationRequired, evidenceReferences, createdAt, decisionDigest,
      systemStatePreserved } digest

end StateWake.Assurance
