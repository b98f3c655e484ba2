import StateWake.Lifecycle.Workspace
import StateWake.Reliability.Interleaved

/-!
# Claim profiles

`domain/reliability_claim_profile.py` and `services/reliability_claim_profile_service.py`: what
a profile requires of an evidence chain, and the decision that follows, from the chain alone and
against the content of a workspace. A positive decision says either that every condition holds or
that the profile carries caveats and allows a review.
-/

namespace StateWake.Claims

open StateWake.Base Text Utils Reliability Lifecycle

/-- `ReliabilityClaimProfile`, `domain/reliability_claim_profile.py:37–86`: what an evaluation
reads, with what the constructor checked of it. -/
structure ReliabilityClaimProfile where
  profileId : Text
  version : Text
  requiredEvidenceKinds : List Text
  requiredVerificationConditions : List Text
  allowedDecisions : List Decision
  requiredRationale : Bool
  requiredReconciliationStates : List ReconciliationState
  requiredReliabilityStates : List ReliabilityState
  requiredAiContractTypes : List Text
  caveats : List Text
  named : blank profileId = false ∧ blank version = false
  evidenced : requiredEvidenceKinds ≠ []
  decided : allowedDecisions ≠ []
  known : ReliabilityState.unknown ∉ requiredReliabilityStates
  distinctDecisions : allowedDecisions.Nodup
  distinctKinds : requiredEvidenceKinds.Nodup
  distinctContracts : requiredAiContractTypes.Nodup
  contracts : ∀ t ∈ requiredAiContractTypes, blank t = false
  stated : ∀ c ∈ caveats, blank c = false

/-- The roadmap decisions, `services/reliability_claim_profile_service.py:142–159`. -/
inductive ClaimDecision where
  | accepted
  | acceptedWithLimitations
  | requiresReverification
  | rejected
  deriving DecidableEq, Repr

/-- `ClaimProfileEvaluation`, `services/reliability_claim_profile_service.py:24–38`. Its passed
and failed requirements are the passed and failed conditions. -/
structure ClaimProfileEvaluation where
  profileId : Text
  profileVersion : Text
  satisfied : Bool
  passedConditions : List Text
  failedConditions : List Text
  allowedDecisions : List Decision
  decision : ClaimDecision
  missingEvidence : List Text
  caveats : List Text
  deriving DecidableEq

/-! ### References -/

/-- `_references`, `services/reliability_claim_profile_service.py:87–104`. -/
def references (chain : ReliabilityEvidenceChain) : List EvidenceReference :=
  [chain.run, chain.state] ++ chain.evidence ++ [chain.provenance, chain.integrity] ++
    [chain.reconciliationRef, chain.recoveryRef, chain.attestationRef, chain.decisionBasisRef,
      chain.comparisonRef, chain.reconciliationBindingRef].filterMap id

/-- `_has_kind`, `services/reliability_claim_profile_service.py:107–109`. -/
def hasKind (chain : ReliabilityEvidenceChain) (kind : Text) : Bool :=
  (references chain).any fun r ↦ r.kind = kind

/-- A name in a table of aliases, or the name itself. -/
def aliasIn (aliases : Dict Text) (name : Text) : Text := (aliases.get? name).getD name

/-- The aliases of a structural match, `services/reliability_claim_profile_service.py:120–125`. -/
def contractAliases : Dict Text :=
  [(lit "prompt_evidence", lit "prompt"), (lit "retrieval_evidence", lit "retrieval"),
    (lit "policy_evidence", lit "policy"), (lit "human_approval", lit "human_approval")]

/-- `_reference_matches_ai_contract`, `services/reliability_claim_profile_service.py:112–131`. -/
def referenceMatchesAiContract (r : EvidenceReference) (contractType : Text) : Bool :=
  (r.kind = lit "evidence" || r.kind = lit "ai-contract:" ++ contractType) &&
    [contractType, aliasIn contractAliases contractType].any fun name ↦
      (lit "ai-contract:" ++ name ++ lit ":").isPrefixOf r.identity &&
        decide ((lit "ai-contract:" ++ name ++ lit ":").length < r.identity.length)

/-- `_has_ai_contract`, `services/reliability_claim_profile_service.py:134–139`. -/
def hasAiContract (chain : ReliabilityEvidenceChain) (contractType : Text) : Bool :=
  (references chain).any fun r ↦ referenceMatchesAiContract r contractType

/-! ### Conditions and decisions -/

/-- The named conditions on a chain; no other condition holds,
`services/reliability_claim_profile_service.py:185–192`. -/
def verificationCondition (chain : ReliabilityEvidenceChain) (condition : Text) : Bool :=
  if condition = lit "chain_verified" then chain.verificationStatus = .verified
  else if condition = lit "reconciliation_verified" then chain.reconciliationState = .verified
  else if condition = lit "recovery_present" then chain.recoveryRef.isSome
  else if condition = lit "attestation_present" then chain.attestationRef.isSome
  else if condition = lit "decision_rationale_present" then !chain.decisionRationale.isEmpty
  else if condition = lit "decision_basis_present" then chain.decisionBasisRef.isSome
  else false

/-- A condition by its label. -/
abbrev Condition := Text × Bool

/-- The kinds a profile requires. -/
def kindConditions (chain : ReliabilityEvidenceChain) (profile : ReliabilityClaimProfile) :
    List Condition :=
  profile.requiredEvidenceKinds.map fun kind ↦ (lit "evidence-kind:" ++ kind, hasKind chain kind)

/-- The contracts a profile requires. -/
def contractConditions (chain : ReliabilityEvidenceChain) (profile : ReliabilityClaimProfile) :
    List Condition :=
  profile.requiredAiContractTypes.map fun contractType ↦
    (lit "ai-contract:" ++ contractType, hasAiContract chain contractType)

/-- The states and the rationale a profile requires,
`services/reliability_claim_profile_service.py:183–219`. -/
def stateConditions (chain : ReliabilityEvidenceChain) (profile : ReliabilityClaimProfile) :
    List Condition :=
  (profile.requiredVerificationConditions.map fun condition ↦
    (condition, verificationCondition chain condition)) ++
  (if profile.requiredReconciliationStates.isEmpty then [] else
    [(lit "reconciliation-state:" ++ chain.reconciliationState.text,
      decide (chain.reconciliationState ∈ profile.requiredReconciliationStates))]) ++
  (if profile.requiredReliabilityStates.isEmpty then [] else
    [(lit "reliability-state:" ++ chain.reliabilityState.text,
      decide (chain.reliabilityState ∈ profile.requiredReliabilityStates))]) ++
  (if profile.requiredRationale then
    [(lit "rationale-present", !chain.decisionRationale.isEmpty)] else [])

/-- The labels of the conditions that hold. -/
def passedOf (conditions : List Condition) : List Text :=
  (conditions.filter fun c ↦ c.2).map Prod.fst

/-- The labels of the conditions that fail. -/
def failedOf (conditions : List Condition) : List Text :=
  (conditions.filter fun c ↦ !c.2).map Prod.fst

/-- `_decision_for`, `services/reliability_claim_profile_service.py:142–159`. -/
def decisionFor (profile : ReliabilityClaimProfile) (failed : List Text)
    (chainDecisionAllowed : Bool) : ClaimDecision :=
  if failed.isEmpty && chainDecisionAllowed then
    if profile.profileId = lit "ai_decision_with_limitations.v1" then .acceptedWithLimitations
    else .accepted
  else if profile.profileId = lit "policy_reverification_required.v1" then .requiresReverification
  else if decide (Decision.review ∈ profile.allowedDecisions) && !profile.caveats.isEmpty then
    .acceptedWithLimitations
  else .rejected

/-- `evaluate_claim_profile`, `services/reliability_claim_profile_service.py:162–242`. -/
def evaluateClaimProfile (chain : ReliabilityEvidenceChain) (profile : ReliabilityClaimProfile) :
    ClaimProfileEvaluation :=
  let conditions := kindConditions chain profile ++ contractConditions chain profile ++
    stateConditions chain profile
  let allowed := decide (chain.decision ∈ profile.allowedDecisions)
  let failed := failedOf conditions ++
    if allowed then [] else [lit "decision:" ++ chain.decision.text]
  { profileId := profile.profileId
    profileVersion := profile.version
    satisfied := failed.isEmpty && allowed
    passedConditions := passedOf conditions
    failedConditions := failed
    allowedDecisions := profile.allowedDecisions
    decision := decisionFor profile failed allowed
    missingEvidence := (profile.requiredEvidenceKinds.filter fun kind ↦ !hasKind chain kind) ++
      failedOf (contractConditions chain profile)
    caveats := profile.caveats }

/-! ### Against the content of a workspace -/

/-- The aliases of a resolved contract, `services/reliability_claim_profile_service.py:507–512`. -/
def resolvedAliases : Dict Text :=
  [(lit "prompt_evidence", lit "prompt"), (lit "retrieval_evidence", lit "retrieval"),
    (lit "policy_evidence", lit "policy"), (lit "evaluator_evidence", lit "evaluator")]

/-- `value not in accepted` for a set of texts: values that have no hash raise. -/
def acceptedValue (accepted : List Text) : Option Json → Except PyError Bool
  | some (.str s) => .ok (decide (s ∈ accepted))
  | some (.arr _) => .error ⟨.typeError, lit "unhashable type: 'list'"⟩
  | some (.obj _) => .error ⟨.typeError, lit "unhashable type: 'dict'"⟩
  | _ => .ok false

/-- What the row and the receipt of a record say of a reference,
`services/reliability_claim_profile_service.py:520–532`. -/
def recordMatches (accepted : List Text) (r : EvidenceReference)
    (record : Workspace.WorkspaceRecord) : Bool :=
  record.receipt.producerType = lit "statewake-integration" &&
    record.receipt.metadata.get? (lit "evidence_id") = some r.identity &&
    record.receipt.artifactDigest = r.digest &&
    record.receipt.metadata.get? (lit "evidence_digest") = some r.digest &&
    (record.receipt.metadata.get? (lit "contract_type")).any fun contractType ↦
      decide (contractType ∈ accepted) &&
        record.receipt.sourceRef = lit "ai-contract:" ++ contractType ++ lit ":" ++ r.digest

/-- The payload that a record's verified artifact holds,
`services/reliability_claim_profile_service.py:533–537`. -/
def verifiedPayload (s : Workspace) (record : Workspace.WorkspaceRecord) :
    Except PyError (Bytes × Json) := do
  s.files.verify record.receipt
  let raw ← s.files.artifacts.get record.receipt.artifactDigest
  let text ← Utf8.ofBytes raw
  let payload ← Json.loads text
  pure (raw, payload)

/-- A record resolves a reference: its artifact verifies and holds the contract,
`services/reliability_claim_profile_service.py:519–547`. -/
def recordResolves (s : Workspace) (accepted : List Text) (r : EvidenceReference)
    (record : Workspace.WorkspaceRecord) : Except PyError Bool :=
  if recordMatches accepted r record then
    match verifiedPayload s record with
    | .error e =>
      if e.kind.isValueError || e.kind = .fileNotFoundError then .ok false else .error e
    | .ok (raw, payload) =>
      match payload.asObject with
      | none => .ok false
      | some members => do
        let typed ← acceptedValue accepted (members.get? (lit "contract_type"))
        pure (typed && (members.get? (lit "run_id")).getD .null = optionJson record.receipt.runId &&
          sha256 raw = r.digest)
  else .ok false

/-- Every record, page by page, `services/reliability_claim_profile_service.py:496–503`. There
are never more pages than records. -/
def readRecords (s : Workspace) : Nat → Nat → Except PyError (List Workspace.WorkspaceRecord)
  | 0, _ => .ok []
  | pages + 1, offset => do
    let (records, total) ← s.query 1000 offset
    if offset + records.length < total then do
      let rest ← readRecords s pages (offset + records.length)
      pure (records ++ rest)
    else pure records

/-- The pages leave no row out. -/
theorem rows_readRecords {s : Workspace} {pages offset : Nat}
    {records : List Workspace.WorkspaceRecord} (hpages : s.records.length < offset + pages)
    (h : readRecords s pages offset = .ok records) :
    (records.map fun r ↦ r.entry.row) = s.orderedRows.drop offset := by
  induction pages generalizing offset records with
  | zero =>
    cases h
    rw [List.drop_eq_nil_of_le (by rw [s.length_orderedRows]; omega)]
    rfl
  | succ pages ih =>
    rw [readRecords, bind_eq_ok] at h
    obtain ⟨⟨page, total⟩, hpage, h⟩ := h
    dsimp only at h
    obtain ⟨hrows, htotal⟩ := Workspace.rows_query hpage
    have hlength : page.length = min 1000 (s.records.length - offset) := by
      have := congrArg List.length hrows
      rwa [List.length_map, List.length_take, List.length_drop, s.length_orderedRows] at this
    split at h
    · next hmore =>
      rw [bind_eq_ok] at h
      obtain ⟨rest, hrest, h⟩ := h
      cases h
      rw [List.map_append, hrows, ih (by omega) hrest, ← List.drop_drop,
        show page.length = 1000 by omega, List.take_append_drop]
    · next hlast =>
      cases h
      rw [hrows, List.take_of_length_le]
      rw [List.length_drop, s.length_orderedRows]
      omega

/-- Whether a required contract is resolved, `services/reliability_claim_profile_service.py:505–550`. -/
def resolvedContract (chain : ReliabilityEvidenceChain) (s : Workspace)
    (records : List Workspace.WorkspaceRecord) (contractType : Text) : Except PyError Bool :=
  (references chain).anyM fun r ↦
    if referenceMatchesAiContract r contractType then
      records.anyM (recordResolves s [contractType, aliasIn resolvedAliases contractType] r)
    else .ok false

/-- The contracts that are not resolved. -/
def resolutionFailures (chain : ReliabilityEvidenceChain) (s : Workspace)
    (records : List Workspace.WorkspaceRecord) : List Text → Except PyError (List Text)
  | [] => .ok []
  | contractType :: contractTypes => do
    let resolved ← resolvedContract chain s records contractType
    let failures ← resolutionFailures chain s records contractTypes
    pure (if resolved then failures else (lit "resolved-ai-contract:" ++ contractType) :: failures)

/-- An evaluation with the contracts that the workspace does not hold,
`services/reliability_claim_profile_service.py:551–577`. -/
def withFailures (profile : ReliabilityClaimProfile) (chain : ReliabilityEvidenceChain)
    (structural : ClaimProfileEvaluation) (failures : List Text) : ClaimProfileEvaluation :=
  let failed := structural.failedConditions ++ failures
  { structural with
    satisfied := false
    passedConditions := structural.passedConditions.filter fun condition ↦
      !(lit "ai-contract:").isPrefixOf condition || decide (lit "resolved-" ++ condition ∉ failures)
    failedConditions := failed
    missingEvidence := structural.missingEvidence ++ failures
    decision := decisionFor profile failed (decide (chain.decision ∈ profile.allowedDecisions)) }

/-- `evaluate_claim_profile_with_workspace`,
`services/reliability_claim_profile_service.py:476–577`. -/
def evaluateClaimProfileWithWorkspace (chain : ReliabilityEvidenceChain)
    (profile : ReliabilityClaimProfile) (s : Workspace) :
    Except PyError ClaimProfileEvaluation :=
  if profile.requiredAiContractTypes.isEmpty then .ok (evaluateClaimProfile chain profile)
  else do
    let records ← readRecords s (s.records.length + 1) 0
    let failures ← resolutionFailures chain s records profile.requiredAiContractTypes
    pure (if failures.isEmpty then evaluateClaimProfile chain profile
      else withFailures profile chain (evaluateClaimProfile chain profile) failures)

/-! ### Positive decisions -/

/-- A decision is earned: `accepted` is given to satisfied evaluations only, and
`accepted_with_limitations` to these or under a profile that has caveats and allows a review. A
satisfied evaluation has no failed condition and no missing evidence. -/
structure Earned (profile : ReliabilityClaimProfile) (e : ClaimProfileEvaluation) : Prop where
  satisfied : e.satisfied = true → e.failedConditions = [] ∧ e.missingEvidence = []
  accepted : e.decision = .accepted ↔
    e.satisfied = true ∧ profile.profileId ≠ lit "ai_decision_with_limitations.v1"
  limited : e.decision = .acceptedWithLimitations ↔
    (e.satisfied = true ∧ profile.profileId = lit "ai_decision_with_limitations.v1") ∨
    (e.satisfied = false ∧ profile.profileId ≠ lit "policy_reverification_required.v1" ∧
      Decision.review ∈ profile.allowedDecisions ∧ profile.caveats ≠ [])

variable {profile : ReliabilityClaimProfile} {chain : ReliabilityEvidenceChain}

/-- The decision for a satisfied and for an unsatisfied evaluation. -/
private theorem decisionFor_earned {e : ClaimProfileEvaluation} {failed : List Text}
    {allowed : Bool} (hdecision : e.decision = decisionFor profile failed allowed)
    (hsatisfied : e.satisfied = (failed.isEmpty && allowed))
    (hmissing : e.satisfied = true → e.failedConditions = [] ∧ e.missingEvidence = []) :
    Earned profile e := by
  refine ⟨hmissing, ?_, ?_⟩
  · rw [hdecision, hsatisfied, decisionFor]
    cases failed.isEmpty && allowed with
    | true =>
      rw [if_pos rfl]
      by_cases hid : profile.profileId = lit "ai_decision_with_limitations.v1" <;> simp [hid]
    | false =>
      rw [if_neg Bool.false_ne_true]
      split
      · simp
      · split <;> simp
  · rw [hdecision, hsatisfied, decisionFor]
    cases failed.isEmpty && allowed with
    | true =>
      rw [if_pos rfl]
      by_cases hid : profile.profileId = lit "ai_decision_with_limitations.v1" <;> simp [hid]
    | false =>
      rw [if_neg Bool.false_ne_true]
      by_cases hid : profile.profileId = lit "policy_reverification_required.v1"
      · simp [hid]
      · rw [if_neg hid]
        by_cases hreview : Decision.review ∈ profile.allowedDecisions <;> simp [hid, hreview]

private theorem failedOf_append (c d : List Condition) :
    failedOf (c ++ d) = failedOf c ++ failedOf d := by
  rw [failedOf, List.filter_append, List.map_append]
  rfl

/-- A missing kind is a failed condition. -/
private theorem missing_kinds_of_failed_nil (h : failedOf (kindConditions chain profile) = []) :
    (profile.requiredEvidenceKinds.filter fun kind ↦ !hasKind chain kind) = [] := by
  rw [failedOf, List.map_eq_nil_iff, kindConditions, List.filter_map, List.map_eq_nil_iff] at h
  exact h

private theorem evaluateClaimProfile_earned (chain : ReliabilityEvidenceChain)
    (profile : ReliabilityClaimProfile) : Earned profile (evaluateClaimProfile chain profile) := by
  refine decisionFor_earned rfl rfl fun hsatisfied ↦ ?_
  have hfailed := List.isEmpty_iff.mp (Bool.and_eq_true_iff.mp hsatisfied).1
  refine ⟨hfailed, ?_⟩
  rw [List.append_eq_nil_iff, failedOf_append, failedOf_append, List.append_eq_nil_iff,
    List.append_eq_nil_iff] at hfailed
  obtain ⟨⟨⟨hkinds, hcontracts⟩, -⟩, -⟩ := hfailed
  exact List.append_eq_nil_iff.mpr ⟨missing_kinds_of_failed_nil hkinds, hcontracts⟩

private theorem withFailures_earned {failures : List Text} (h : failures ≠ [])
    (structural : ClaimProfileEvaluation) :
    Earned profile (withFailures profile chain structural failures) := by
  refine decisionFor_earned rfl ?_ nofun
  have hne : structural.failedConditions ++ failures ≠ [] := fun hnil ↦
    h (List.append_eq_nil_iff.mp hnil).2
  rw [List.isEmpty_eq_false_iff.mpr hne]
  rfl

/-- Both evaluations earn their decisions, for every chain, profile and workspace. -/
theorem positive_decisions_earned (chain : ReliabilityEvidenceChain)
    (profile : ReliabilityClaimProfile) : Earned profile (evaluateClaimProfile chain profile) ∧
      ∀ s e, evaluateClaimProfileWithWorkspace chain profile s = .ok e → Earned profile e := by
  refine ⟨evaluateClaimProfile_earned chain profile, fun s e h ↦ ?_⟩
  unfold evaluateClaimProfileWithWorkspace at h
  split at h
  · cases h
    exact evaluateClaimProfile_earned chain profile
  · simp only [bind_eq_ok] at h
    obtain ⟨records, -, failures, -, h⟩ := h
    rw [← Except.ok.inj h]
    split
    · exact evaluateClaimProfile_earned chain profile
    · next hfailures =>
      exact withFailures_earned (fun hnil ↦ hfailures (by rw [hnil]; rfl)) _

/-! ### A release without its contracts -/

/-- The built-in profile of release evidence,
`services/reliability_claim_profile_service.py:366–375`. -/
def releaseEvidenceComplete : ReliabilityClaimProfile where
  profileId := lit "release_evidence_complete.v1"
  version := lit "1"
  requiredEvidenceKinds := [lit "run", lit "state", lit "provenance", lit "integrity"]
  requiredVerificationConditions :=
    [lit "chain_verified", lit "reconciliation_verified", lit "decision_rationale_present"]
  allowedDecisions := [.accept, .review, .reject]
  requiredRationale := true
  requiredReconciliationStates := [.verified, .recovered]
  requiredReliabilityStates := [.reliable, .recovered]
  requiredAiContractTypes := [lit "policy_evidence", lit "human_approval"]
  caveats := [lit "Release authorization remains a separate human decision."]
  named := by decide
  evidenced := nofun
  decided := nofun
  known := by decide
  distinctDecisions := by decide
  distinctKinds := by decide
  distinctContracts := by decide
  contracts := by decide
  stated := by decide

/-- A positive decision without the evidence: the contracts the profile requires are missing. -/
theorem not_positive_satisfied : ¬∀ chain profile,
    (evaluateClaimProfile chain profile).decision = .accepted ∨
      (evaluateClaimProfile chain profile).decision = .acceptedWithLimitations →
    (evaluateClaimProfile chain profile).satisfied = true ∧
      (evaluateClaimProfile chain profile).failedConditions = [] ∧
      (evaluateClaimProfile chain profile).missingEvidence = [] := by
  intro h
  have hsatisfied := (h (Service.reviewChain []) releaseEvidenceComplete
    (.inr (by decide +kernel))).1
  exact absurd hsatisfied (by decide +kernel)

end StateWake.Claims
