import StateWake.Attestation.Verification
import StateWake.Claims.BuiltinProfiles
import StateWake.Reliability.ChainCodec

/-!
# Satisfying the built-in profiles

What a built-in profile asks of a chain, against what a chain can be and what the transition
service accepts. Two conditions speak of the reconciliation state: the condition
`reconciliation_verified`, which the profiles keep by default, and the states a profile names.
-/

namespace StateWake.Claims

open StateWake.Base Text Utils Reliability Service
open Attestation (EvidenceRoot verifySource verifyEvidenceChain)

variable {chain : ReliabilityEvidenceChain} {p : ReliabilityClaimProfile}

/-! ### Satisfied conditions -/

/-- Every condition of a satisfied evaluation holds. -/
theorem conditions_of_satisfied (h : (evaluateClaimProfile chain p).satisfied = true) :
    ∀ c ∈ stateConditions chain p, c.2 = true := by
  intro c hc
  by_contra hfails
  simp only [evaluateClaimProfile, Bool.and_eq_true, List.isEmpty_iff, List.append_eq_nil_iff,
    failedOf, List.map_eq_nil_iff, List.filter_eq_nil_iff] at h
  have hholds := h.1.1 c (List.mem_append_right _ hc)
  rw [Bool.not_eq_true] at hfails
  rw [hfails] at hholds
  exact hholds rfl

/-- The condition on the reconciliation state that the profiles keep. -/
theorem reconciled_of_satisfied (h : (evaluateClaimProfile chain p).satisfied = true)
    (hp : lit "reconciliation_verified" ∈ p.requiredVerificationConditions) :
    chain.reconciliationState = .verified := by
  have hmem : (lit "reconciliation_verified",
      verificationCondition chain (lit "reconciliation_verified")) ∈ stateConditions chain p := by
    rw [stateConditions, List.append_assoc, List.append_assoc]
    exact List.mem_append_left _ (List.mem_map.mpr ⟨_, hp, rfl⟩)
  have hholds := conditions_of_satisfied h _ hmem
  simpa [verificationCondition] using hholds

/-- The reconciliation states a profile names. -/
theorem reconciliationState_of_satisfied (h : (evaluateClaimProfile chain p).satisfied = true)
    (hp : p.requiredReconciliationStates ≠ []) :
    chain.reconciliationState ∈ p.requiredReconciliationStates := by
  have hmem : (lit "reconciliation-state:" ++ chain.reconciliationState.text,
      decide (chain.reconciliationState ∈ p.requiredReconciliationStates)) ∈
        stateConditions chain p := by
    simp [stateConditions, hp]
  exact of_decide_eq_true (conditions_of_satisfied h _ hmem)

/-! ### Chains that satisfy a profile -/

/-- An evidence folder with one empty file, the artifact of every reference. Nothing in it bears
out a receipt, a comparison, a binding, a decision basis or a recovery. -/
def folder : EvidenceRoot where
  source name := if name = lit "artifact" then .ok [] else .error ⟨.fileNotFoundError, name⟩
  receipts chain :=
    require ⟨.valueError, lit "no receipt"⟩ (chain.evidence.all fun r ↦ r.receiptRef.isNone)
  comparison _ := .error ⟨.fileNotFoundError, lit "comparison"⟩
  reconciliationBinding _ := .error ⟨.fileNotFoundError, lit "binding"⟩
  decisionBasis chain :=
    require ⟨.fileNotFoundError, lit "decision basis"⟩ chain.decisionBasisRef.isNone
  recovery _ := .error ⟨.fileNotFoundError, lit "recovery"⟩

/-- A chain verifies in the folder and satisfies a profile. -/
def Satisfies (chain : ReliabilityEvidenceChain) (p : ReliabilityClaimProfile) : Prop :=
  verifyEvidenceChain folder chain = .ok () ∧ (evaluateClaimProfile chain p).satisfied = true

/-- A profile has a chain that verifies and satisfies it. -/
def Satisfiable (p : ReliabilityClaimProfile) : Prop := ∃ chain, Satisfies chain p

/-- The digest of an empty file. -/
def emptyDigest : Text := lit "e3b0c44298fc1c149afbf4c8996fb92427ae41e4649b934ca495991b7852b855"

theorem sha256_nil : sha256 [] = emptyDigest := by decide +kernel

/-- A reference to the file of the folder. -/
def artifact (kind identity : Text) (named : ¬(blank kind = true ∨ blank identity = true)) :
    EvidenceReference where
  kind := kind
  identity := identity
  digest := emptyDigest
  source := some (lit "artifact")
  receiptRef := none
  named := named
  digested := by decide
  sourced := by decide
  bound := EvidenceReference.unbound kind

/-- The evidence of a contract that a profile requires. -/
def contractArtifact (contractType : Text) : EvidenceReference :=
  artifact (lit "evidence") (lit "ai-contract:" ++ contractType ++ lit ":run-1") (by
    rw [not_or, List.append_assoc, not_blank_append (by decide)]
    decide)

/-- A recovered chain in the given reconciliation state, with the evidence and a decision of a
profile. -/
def chainFor (p : ReliabilityClaimProfile) (reconciliationState : ReconciliationState)
    (reconciled : reconciliationState = .verified ∨ reconciliationState = .recovered) :
    ReliabilityEvidenceChain where
  chainId := lit "chain"
  run := artifact (lit "run") (lit "run-1") (by decide)
  state := artifact (lit "state") (lit "state-1") (by decide)
  evidence := artifact (lit "evidence") (lit "log") (by decide) ::
    p.requiredAiContractTypes.map contractArtifact
  provenance := artifact (lit "provenance") (lit "graph") (by decide)
  integrity := artifact (lit "integrity") (lit "proof") (by decide)
  verificationStatus := .verified
  reliabilityState := .recovered
  reconciliationState := reconciliationState
  reconciliationRef := none
  recoveryRef := some (artifact (lit "recovery") (lit "recovery-1") (by decide))
  attestationRef := none
  decisionBasisRef := none
  comparisonRef := none
  reconciliationBindingRef := none
  decision := if Decision.accept ∈ p.allowedDecisions then .accept else .review
  decisionRationale := [lit "checked"]
  named := by decide
  runKind := rfl
  stateKind := rfl
  provenanceKind := rfl
  integrityKind := rfl
  basisKind := nofun
  comparisonKind := nofun
  bindingKind := nofun
  evidenced := nofun
  reconciled _ := rfl
  accepts _ := ⟨rfl, reconciled, .inr rfl⟩
  rejects h := by split at h <;> cases h

/-- Every reference of the folder verifies. -/
theorem verifySource_artifact {kind identity : Text}
    (named : ¬(blank kind = true ∨ blank identity = true)) :
    verifySource folder (artifact kind identity named) = .ok () := by
  have hsource : folder.source (lit "artifact") = .ok [] := by simp [folder]
  rw [verifySource, artifact]
  dsimp only
  rw [hsource, ok_bind, sha256_nil, decide_eq_true rfl, require_true]

/-- The chain of a profile verifies. -/
theorem verifyEvidenceChain_chainFor (reconciliationState : ReconciliationState)
    (reconciled : reconciliationState = .verified ∨ reconciliationState = .recovered) :
    verifyEvidenceChain folder (chainFor p reconciliationState reconciled) = .ok () := by
  generalize hchain : chainFor p reconciliationState reconciled = chain
  have hsources : ∀ r ∈ [chain.run, chain.state] ++ chain.evidence ++
      [chain.provenance, chain.integrity] ++ chain.reconciliationRef.toList ++
      chain.recoveryRef.toList ++ chain.attestationRef.toList ++ chain.comparisonRef.toList,
      verifySource folder r = .ok () := by
    intro r hr
    obtain ⟨kind, identity, named, rfl⟩ :
        ∃ kind identity named, r = artifact kind identity named := by
      rw [← hchain] at hr
      simp only [chainFor, contractArtifact, List.mem_append, List.mem_cons, List.mem_map,
        Option.toList_none, Option.toList_some, List.not_mem_nil, or_false] at hr
      rcases hr with (((rfl | rfl) | rfl | ⟨_, -, rfl⟩) | rfl | rfl) | rfl
      all_goals exact ⟨_, _, _, rfl⟩
    exact verifySource_artifact named
  have hreceipts : folder.receipts chain = .ok () := by
    simp [← hchain, folder, chainFor, contractArtifact, artifact]
  rw [verifyEvidenceChain, forM_eq_ok.mpr hsources, ok_bind, hreceipts, ← hchain]
  rfl

/-- Every built-in profile but that of reverification is satisfied by its chain. -/
theorem satisfies_chainFor : ∀ p ∈ builtinClaimProfiles,
    p.profileId ≠ lit "policy_reverification_required.v1" →
      Satisfies (chainFor p .verified (.inl rfl)) p := by
  have hsatisfied : ∀ p ∈ builtinClaimProfiles,
      p.profileId ≠ lit "policy_reverification_required.v1" →
        (evaluateClaimProfile (chainFor p .verified (.inl rfl)) p).satisfied = true := by
    decide +kernel
  intro p hp hid
  exact ⟨verifyEvidenceChain_chainFor .verified (.inl rfl), hsatisfied p hp hid⟩

/-- A profile that wants the reconciliation verified, and its state to be another. -/
structure Contradictory (p : ReliabilityClaimProfile) : Prop where
  verified : lit "reconciliation_verified" ∈ p.requiredVerificationConditions
  named : p.requiredReconciliationStates ≠ []
  another : ReconciliationState.verified ∉ p.requiredReconciliationStates

/-- Nothing satisfies such a profile. -/
theorem Contradictory.not_satisfied (hp : Contradictory p) (chain : ReliabilityEvidenceChain) :
    (evaluateClaimProfile chain p).satisfied ≠ true := by
  intro h
  have hstate := reconciliationState_of_satisfied h hp.named
  rw [reconciled_of_satisfied h hp.verified] at hstate
  exact hp.another hstate

/-- The profile of reverification is one. -/
theorem contradictory_of_id : ∀ p ∈ builtinClaimProfiles,
    p.profileId = lit "policy_reverification_required.v1" → Contradictory p := by
  have h : ∀ p ∈ builtinClaimProfiles, p.profileId = lit "policy_reverification_required.v1" →
      lit "reconciliation_verified" ∈ p.requiredVerificationConditions ∧
        p.requiredReconciliationStates ≠ [] ∧
          ReconciliationState.verified ∉ p.requiredReconciliationStates := by
    decide
  intro p hp hid
  obtain ⟨hverified, hnamed, hanother⟩ := h p hp hid
  exact ⟨hverified, hnamed, hanother⟩

/-! ### Recovery -/

/-- The service goes on to record a recovery for the chain of a call, after the transitions it
read. -/
def AcceptsRecovery (call : Call) (transitions : List ReliabilityStateTransition) : Prop :=
  ∃ t, afterRead call transitions = .writing t ∧ t.toState = .recovered

/-- A chain carries the kinds, the contracts and the rationale that a profile names. -/
def Carries (chain : ReliabilityEvidenceChain) (p : ReliabilityClaimProfile) : Prop :=
  (∀ c ∈ kindConditions chain p ++ contractConditions chain p, c.2 = true) ∧
    (p.requiredRationale = true → chain.decisionRationale ≠ [])

/-- The conditions of a profile on the reliability state and on the reconciliation status of a
chain. -/
structure StatusesMet (chain : ReliabilityEvidenceChain) (p : ReliabilityClaimProfile) : Prop where
  reliability : p.requiredReliabilityStates = [] ∨
    chain.reliabilityState ∈ p.requiredReliabilityStates
  reconciliation : p.requiredReconciliationStates = [] ∨
    chain.reconciliationState ∈ p.requiredReconciliationStates
  reconciled : lit "reconciliation_verified" ∈ p.requiredVerificationConditions →
    verificationCondition chain (lit "reconciliation_verified") = true

/-- A recovery that the service records, with what the incident profile names, meets the profile's
conditions on states. -/
def RecoveryMeets (call : Call) (transitions : List ReliabilityStateTransition) : Prop :=
  AcceptsRecovery call transitions → Carries call.chain incidentRecoveryVerified →
    StatusesMet call.chain incidentRecoveryVerified

/-- The plan of a recovery has checked the reconciliation state. -/
theorem recovered_of_plan {call : Call} {current : ReliabilityStateSnapshot}
    {t : ReliabilityStateTransition} (h : plan call current = .ok t)
    (hrecovered : t.toState = .recovered) :
    call.chain.reliabilityState = .recovered ∧ call.chain.reconciliationState = .recovered := by
  have hstate : call.chain.reliabilityState = .recovered := by
    rw [← (plan_eq_ok h).2.2.1, hrecovered]
  simp only [plan, bind_eq_ok, requireRecovery, hstate, if_true, require_eq_ok] at h
  obtain ⟨-, -, -, -, -, -, -, -, -, ⟨-, -, hreference⟩, -⟩ := h
  rw [Bool.and_eq_true, decide_eq_true_eq] at hreference
  exact ⟨hstate, hreference.2⟩

/-- A recovery is recorded for a recovered chain whose reconciliation state is `recovered`. -/
theorem AcceptsRecovery.recovered {call : Call} {transitions : List ReliabilityStateTransition}
    (h : AcceptsRecovery call transitions) :
    call.chain.reliabilityState = .recovered ∧ call.chain.reconciliationState = .recovered := by
  obtain ⟨t, hafter, hrecovered⟩ := h
  rw [afterRead] at hafter
  cases hcurrent : currentReliabilityState call.subjectId transitions with
  | error e =>
    rw [hcurrent] at hafter
    cases hafter
  | ok current =>
    rw [hcurrent] at hafter
    dsimp only at hafter
    split at hafter
    · cases hafter
    · cases hplan : plan call current with
      | error e =>
        rw [hplan] at hafter
        cases hafter
      | ok planned =>
        rw [hplan] at hafter
        cases hafter
        exact recovered_of_plan hplan hrecovered

/-- So it meets every condition on states but that of a verified reconciliation. -/
theorem AcceptsRecovery.not_statusesMet {call : Call}
    {transitions : List ReliabilityStateTransition} (h : AcceptsRecovery call transitions) :
    ¬StatusesMet call.chain incidentRecoveryVerified := by
  intro hmet
  have hreconciled := hmet.reconciled (by decide)
  simp [verificationCondition, h.recovered.2] at hreconciled

/-- A failure of a subject. -/
def failure : ReliabilityStateTransition where
  transitionId := lit "t"
  subjectId := lit "s"
  fromState := .unknown
  toState := .unreliable
  occurredAt := Lifecycle.RetentionAdapter.epoch
  actor := lit "a"
  evidenceChainId := lit "failed"
  evidenceChainDigest := emptyDigest
  decision := .reject
  rationale := []
  previousTransitionDigest := []
  named := Attestation.named_firstReview
  allowed := by decide
  chainNamed := by decide
  chainDigest := by decide
  previousDigest := ReliabilityStateTransition.unpreceded
  decided := nofun
  accepts := by decide
  reviews := nofun
  rejects _ := rfl

/-- The recovery from it. -/
def recovery : Call where
  subjectId := lit "s"
  chain := chainFor incidentRecoveryVerified .recovered (.inr rfl)
  actor := lit "a"
  occurredAt := .ofUtc Lifecycle.RetentionAdapter.epoch
  rationale := []
  verification := none

/-- The failure has a digest, which is read with its state. -/
private theorem read_failure : ∃ digest, isSha256 digest = true ∧
    currentReliabilityState recovery.subjectId [failure] =
      .ok ⟨lit "s", .unreliable, some (lit "t"), some digest, some (lit "failed")⟩ := by
  have htexts : ∀ s ∈ Json.texts (.obj failure.payload), SurrogateFree s := by
    rw [Json.forall_texts_obj]
    simp [ReliabilityStateTransition.payload, failure, ReliabilityState.text, Decision.text,
      surrogateFree_isoformat, emptyDigest, surrogateFree_nil]
  obtain ⟨digest, hdigest⟩ := failure.computedDigest_isOk_iff.mpr htexts
  refine ⟨digest, ReliabilityStateTransition.isSha256_of_computedDigest hdigest, ?_⟩
  rw [currentReliabilityState, List.getLast?_singleton]
  dsimp only
  rw [hdigest]
  rfl

/-- The service records it, and its chain carries all that the profile names. -/
theorem acceptsRecovery_recovery : AcceptsRecovery recovery [failure] ∧
    Carries recovery.chain incidentRecoveryVerified := by
  constructor
  · obtain ⟨digest, hsha, hread⟩ := read_failure
    obtain ⟨chainDigest, hchain⟩ : ∃ d, recovery.chain.digest = .ok d := by
      apply ReliabilityEvidenceChain.exists_digest
      have hcontract : incidentRecoveryVerified.requiredAiContractTypes = [lit "runtime_trace"] := rfl
      have hdecision : Decision.accept ∈ incidentRecoveryVerified.allowedDecisions := by decide
      have hidentity : SurrogateFree (lit "ai-contract:" ++ (lit "runtime_trace" ++ lit ":run-1")) :=
        surrogateFree_append (surrogateFree_lit _)
          (surrogateFree_append (surrogateFree_lit _) (surrogateFree_lit _))
      rw [Json.forall_texts_obj]
      simp [ReliabilityEvidenceChain.payload, EvidenceReference.toDict, recovery, chainFor,
        artifact, contractArtifact, emptyDigest, optionJson, hcontract, hdecision, hidentity,
        VerificationStatus.text, ReliabilityState.text, ReconciliationState.text, Decision.text,
        or_imp, forall_and]
    obtain ⟨t, hplan, hstate, -⟩ := @exists_plan recovery ⟨lit "s", .unreliable,
        some (lit "t"), some digest, some (lit "failed")⟩ _ _ hchain (AwareDatetime.toUtc_ofUtc _)
      (surrogateFree_lit _) (surrogateFree_lit _) (.inr hsha) ⟨by decide, by decide⟩
      (show ReliabilityState.recovered ∈ ReliabilityState.unreliable.allowedTransitions by decide)
      (by decide) (by decide) (by decide) (by decide) rfl
    refine ⟨t, ?_, hstate⟩
    rw [afterRead, hread]
    simp [show retries recovery ⟨lit "s", .unreliable, some (lit "t"), some digest,
      some (lit "failed")⟩ = false from rfl, hplan]
  · refine ⟨?_, fun _ ↦ List.cons_ne_nil _ _⟩
    decide +kernel

/-- A built-in profile is satisfiable exactly if it is not that of reverification, and a recovery
that the service records never meets the conditions on states of the incident profile, even where
it carries all that the profile names. -/
theorem builtin_satisfiable_iff (p : {p // p ∈ builtinClaimProfiles}) (call : Call)
    (transitions : List ReliabilityStateTransition) :
    (Satisfiable p.val ↔ p.val.profileId ≠ lit "policy_reverification_required.v1") ∧
    (RecoveryMeets call transitions ↔
      ¬(AcceptsRecovery call transitions ∧ Carries call.chain incidentRecoveryVerified)) ∧
    ∃ call transitions, AcceptsRecovery call transitions ∧
      Carries call.chain incidentRecoveryVerified := by
  obtain ⟨p, hp⟩ := p
  refine ⟨?_, ?_, recovery, [failure], acceptsRecovery_recovery⟩
  · constructor
    · rintro ⟨chain, -, hsatisfied⟩ hid
      exact (contradictory_of_id p hp hid).not_satisfied chain hsatisfied
    · intro hid
      exact ⟨_, satisfies_chainFor p hp hid⟩
  · constructor
    · rintro hmeets ⟨haccepts, hcarries⟩
      exact haccepts.not_statusesMet (hmeets haccepts hcarries)
    · intro hnot haccepts hcarries
      exact (hnot ⟨haccepts, hcarries⟩).elim

/-- The profile of reverification has no chain that satisfies it. -/
theorem not_builtin_satisfiable : ¬((∀ p ∈ builtinClaimProfiles, Satisfiable p) ∧
    ∀ call transitions, RecoveryMeets call transitions) := by
  rintro ⟨hsatisfiable, -⟩
  have hmem : policyReverificationRequired ∈ builtinClaimProfiles := by simp [builtinClaimProfiles]
  obtain ⟨chain, -, hsatisfied⟩ := hsatisfiable _ hmem
  exact (contradictory_of_id _ hmem rfl).not_satisfied chain hsatisfied

end StateWake.Claims
