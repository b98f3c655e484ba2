import StateWake.Claims.ClaimProfile

/-!
# The built-in claim profiles

`_profile` and `BUILTIN_CLAIM_PROFILES`, `services/reliability_claim_profile_service.py:271–398`;
the profile of release evidence stands with the evaluation.
-/

namespace StateWake.Claims

open StateWake.Base Text Utils Reliability Lifecycle

/-- The arguments of `_profile` that an evaluation reads, with its defaults,
`services/reliability_claim_profile_service.py:271–292`. -/
structure ProfileArguments where
  profileId : Text
  requiredAiContractTypes : List Text
  allowedDecisions : List Decision := [.accept, .review, .reject]
  conditions : List Text :=
    [lit "chain_verified", lit "reconciliation_verified", lit "decision_rationale_present"]
  caveats : List Text := []
  requiredEvidenceKinds : List Text :=
    [lit "run", lit "state", lit "provenance", lit "integrity"]
  requiredReconciliationStates : List ReconciliationState := [.verified, .recovered]
  requiredReliabilityStates : List ReliabilityState := [.reliable, .recovered]

/-- What the constructor of a profile checks, `domain/reliability_claim_profile.py:53–90`. -/
structure ProfileArguments.Checked (a : ProfileArguments) : Prop where
  named : blank a.profileId = false ∧ blank (lit "1") = false
  evidenced : a.requiredEvidenceKinds ≠ []
  decided : a.allowedDecisions ≠ []
  known : ReliabilityState.unknown ∉ a.requiredReliabilityStates
  distinctDecisions : a.allowedDecisions.Nodup
  distinctKinds : a.requiredEvidenceKinds.Nodup
  distinctContracts : a.requiredAiContractTypes.Nodup
  contracts : ∀ t ∈ a.requiredAiContractTypes, blank t = false
  stated : ∀ c ∈ a.caveats, blank c = false

/-- `_profile`, `services/reliability_claim_profile_service.py:271–306`. -/
def profile (a : ProfileArguments) (checked : a.Checked) : ReliabilityClaimProfile where
  profileId := a.profileId
  version := lit "1"
  requiredEvidenceKinds := a.requiredEvidenceKinds
  requiredVerificationConditions := a.conditions
  allowedDecisions := a.allowedDecisions
  requiredRationale := true
  requiredReconciliationStates := a.requiredReconciliationStates
  requiredReliabilityStates := a.requiredReliabilityStates
  requiredAiContractTypes := a.requiredAiContractTypes
  caveats := a.caveats
  named := checked.named
  evidenced := checked.evidenced
  decided := checked.decided
  known := checked.known
  distinctDecisions := checked.distinctDecisions
  distinctKinds := checked.distinctKinds
  distinctContracts := checked.distinctContracts
  contracts := checked.contracts
  stated := checked.stated

def ragAnswerVerified : ReliabilityClaimProfile :=
  profile
    { profileId := lit "rag_answer_verified.v1"
      requiredAiContractTypes :=
        [lit "prompt_evidence", lit "model_invocation", lit "retrieval_evidence"] }
    (by constructor <;> decide)

def toolActionAuthorized : ReliabilityClaimProfile :=
  profile
    { profileId := lit "tool_action_authorized.v1"
      requiredAiContractTypes := [lit "tool_call", lit "policy_evidence"] }
    (by constructor <;> decide)

def modelInvocationReconstructable : ReliabilityClaimProfile :=
  profile
    { profileId := lit "model_invocation_reconstructable.v1"
      requiredAiContractTypes := [lit "model_invocation", lit "runtime_trace"] }
    (by constructor <;> decide)

def humanApprovalRecorded : ReliabilityClaimProfile :=
  profile
    { profileId := lit "human_approval_recorded.v1"
      requiredAiContractTypes := [lit "human_approval"] }
    (by constructor <;> decide)

def incidentRecoveryVerified : ReliabilityClaimProfile :=
  profile
    { profileId := lit "incident_recovery_verified.v1"
      requiredAiContractTypes := [lit "runtime_trace"]
      conditions :=
        [lit "chain_verified", lit "reconciliation_verified", lit "recovery_present",
          lit "decision_rationale_present"]
      requiredEvidenceKinds :=
        [lit "run", lit "state", lit "provenance", lit "integrity", lit "recovery"] }
    (by constructor <;> decide)

def aiDecisionWithLimitations : ReliabilityClaimProfile :=
  profile
    { profileId := lit "ai_decision_with_limitations.v1"
      requiredAiContractTypes := [lit "policy_evidence", lit "evaluator_evidence"]
      allowedDecisions := [.review]
      caveats := [lit "Decision must travel with its caveats and residual risk."] }
    (by constructor <;> decide)

/-- The profile keeps the default conditions under states of its own. -/
def policyReverificationRequired : ReliabilityClaimProfile :=
  profile
    { profileId := lit "policy_reverification_required.v1"
      requiredAiContractTypes := [lit "policy_evidence"]
      allowedDecisions := [.review, .reject]
      requiredReconciliationStates := [.stale, .invalid, .missing]
      requiredReliabilityStates := [.degraded, .unreliable]
      caveats := [lit "Acceptance is blocked until policy evidence is reverified."] }
    (by constructor <;> decide)

/-- `BUILTIN_CLAIM_PROFILES`, `services/reliability_claim_profile_service.py:309–398`. -/
def builtinClaimProfiles : List ReliabilityClaimProfile :=
  [ragAnswerVerified, toolActionAuthorized, modelInvocationReconstructable, humanApprovalRecorded,
    incidentRecoveryVerified, releaseEvidenceComplete, aiDecisionWithLimitations,
    policyReverificationRequired]

/-- The contract types that a built-in profile requires. -/
def builtinRequirements : List Text :=
  builtinClaimProfiles.flatMap ReliabilityClaimProfile.requiredAiContractTypes

end StateWake.Claims
