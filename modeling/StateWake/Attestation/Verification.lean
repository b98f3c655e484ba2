import StateWake.Attestation.Progress
import StateWake.Reliability.Jsonl

/-!
# Verifying an outcome

`services/reliability_outcome_verification_service.py` and
`verify_reliability_outcome_binding`. An attestation is compared with its evidence chain and with
the transition the state history holds under the attested identifier. What the referenced
artifacts under the evidence root must satisfy is given by `EvidenceRoot`.
-/

namespace StateWake.Attestation

open StateWake.Base Text Utils Reliability

/-! ### Evidence -/

/-- The files under an evidence root, as the services see them: the bytes a source name resolves
to, and whether the artifacts behind receipts, comparison, reconciliation binding, decision basis
and recovery bear the chain out. -/
structure EvidenceRoot where
  source : Text → Except PyError Bytes
  receipts : ReliabilityEvidenceChain → Except PyError Unit
  comparison : ReliabilityEvidenceChain → Except PyError Unit
  reconciliationBinding : ReliabilityEvidenceChain → Except PyError Unit
  decisionBasis : ReliabilityEvidenceChain → Except PyError Unit
  recovery : ReliabilityEvidenceChain → Except PyError Unit

/-- One referenced source, `services/reliability_evidence_service.py:354–367`. -/
def verifySource (root : EvidenceRoot) (reference : EvidenceReference) : Except PyError Unit :=
  match reference.source with
  | none => .ok ()
  | some source => do
    let content ← root.source source
    require ⟨.valueError, lit "reliability evidence source digest mismatch for " ++
      reference.identity ++ lit ": expected " ++ reference.digest ++ lit ", got " ++
        sha256 content⟩ (sha256 content = reference.digest)

/-- `verify_reliability_evidence_chain`, `services/reliability_evidence_service.py:337–424`. -/
def verifyEvidenceChain (root : EvidenceRoot) (chain : ReliabilityEvidenceChain) :
    Except PyError Unit := do
  forM ([chain.run, chain.state] ++ chain.evidence ++ [chain.provenance, chain.integrity] ++
    chain.reconciliationRef.toList ++ chain.recoveryRef.toList ++ chain.attestationRef.toList ++
    chain.comparisonRef.toList) (verifySource root)
  root.receipts chain
  if chain.comparisonRef.isSome then root.comparison chain
  if chain.reconciliationBindingRef.isSome then do
    require ⟨.valueError,
      lit "reconciliation binding requires both comparison and reconciliation references"⟩
      (chain.comparisonRef.isSome && chain.reconciliationRef.isSome)
    root.reconciliationBinding chain
  root.decisionBasis chain

/-! ### Bindings -/

/-- `verify_reliability_outcome_binding`, `services/reliability_attestation_service.py:129–161`. -/
def verifyOutcomeBinding (a : ReliabilityOutcomeAttestation) (chain : ReliabilityEvidenceChain)
    (transition : ReliabilityStateTransition) : Except PyError Unit := do
  let chainDigest ← chain.digest
  require ⟨.valueError, lit "attestation evidence-chain binding verification failed."⟩
    (a.evidenceChainId = chain.chainId ∧ a.evidenceChainDigest = chainDigest)
  let transitionDigest ← transition.computedDigest
  require ⟨.valueError,
    lit "attestation reliability-state transition binding verification failed."⟩
    (a.transitionId = transition.transitionId ∧ a.transitionDigest = transitionDigest)
  require ⟨.valueError, lit "attestation outcome binding verification failed."⟩
    (a.subjectId = transition.subjectId ∧ a.reliabilityState = transition.toState ∧
      a.decision = transition.decision)
  require ⟨.valueError,
    lit "attestation verification/reconciliation binding verification failed."⟩
    (a.verificationStatus = chain.verificationStatus ∧
      a.reconciliationState = chain.reconciliationState)
  let digest ← a.computedDigest
  require ⟨.valueError, lit "reliability outcome attestation digest verification failed."⟩
    (a.digest = digest)

/-- `_transition_for_attestation`, `services/reliability_outcome_verification_service.py:19–34`. -/
def transitionForAttestation (subjectId : Text) (a : ReliabilityOutcomeAttestation)
    (history : Option Bytes) : Except PyError ReliabilityStateTransition := do
  let transitions ← ((Jsonl.store true).read history (some subjectId)).1
  match transitions.filter fun t ↦ decide (t.transitionId = a.transitionId) with
  | [] => valueError (lit "reliability-state transition not found: " ++ a.transitionId)
  | [t] => pure t
  | _ => valueError (lit "reliability-state transition is not unique: " ++ a.transitionId)

/-! ### The report -/

/-- The checks made so far and what failed. -/
structure Tally where
  checks : List Text
  failures : List Text

/-- One `try` block: the checks it earns, or the failure its `except` clause records. -/
def Tally.attempt (t : Tally) (catches : ErrorKind → Bool) (earned : List Text)
    (body : Except PyError Unit) : Except PyError Tally :=
  match body with
  | .ok _ => .ok { t with checks := t.checks ++ earned }
  | .error e =>
    if catches e.kind then .ok { t with failures := t.failures ++ [e.message] } else .error e

/-- `except (FileNotFoundError, ValueError)` and `except (ValueError, OSError)`. -/
def catchesSource (k : ErrorKind) : Bool := k.isValueError || k == .fileNotFoundError

/-- `ReliabilityOutcomeVerificationReport`,
`domain/reliability_outcome_verification.py:34–42`. -/
structure ReliabilityOutcomeVerificationReport where
  attestationId : Text
  subjectId : Text
  verified : Bool
  checks : List Text
  failures : List Text

/-- `_CHECKS`, `domain/reliability_outcome_verification.py:11–22`. -/
def knownChecks : List Text :=
  [lit "attestation_integrity", lit "evidence_chain_integrity", lit "evidence_sources",
    lit "state_transition_integrity", lit "state_transition_binding", lit "outcome_semantics",
    lit "comparison_binding", lit "reconciliation_binding", lit "recovery_outcome_binding",
    lit "attestation_binding"]

/-- The constructor, `__post_init__` at `domain/reliability_outcome_verification.py:44–55`. -/
def ReliabilityOutcomeVerificationReport.create (r : ReliabilityOutcomeVerificationReport) :
    Except PyError ReliabilityOutcomeVerificationReport := do
  require ⟨.valueError, lit "attestation_id and subject_id must not be empty."⟩
    (!blank r.attestationId && !blank r.subjectId)
  require ⟨.valueError, lit "unsupported verification check."⟩
    (decide (∀ check ∈ r.checks, check ∈ knownChecks))
  require ⟨.valueError, lit "verification checks must be unique."⟩ (decide r.checks.Nodup)
  require ⟨.valueError, lit "verified report cannot contain failures."⟩
    (!(r.verified && !r.failures.isEmpty))
  require ⟨.valueError, lit "unverified report must contain failures."⟩
    (!(!r.verified && r.failures.isEmpty))
  pure r

/-- The transition against the attestation and the chain,
`services/reliability_outcome_verification_service.py:92–120`. -/
def verifySemantics (a : ReliabilityOutcomeAttestation) (chain : ReliabilityEvidenceChain)
    (subjectId : Text) (transition : ReliabilityStateTransition) : Except PyError Unit := do
  require ⟨.valueError, lit "subject binding mismatch"⟩
    (transition.subjectId = a.subjectId ∧ transition.subjectId = subjectId)
  require ⟨.valueError, lit "attested outcome does not match authoritative transition"⟩
    (transition.toState = a.reliabilityState ∧ transition.decision = a.decision)
  require ⟨.valueError, lit "authoritative transition decision/state semantics are invalid"⟩
    (expectedDecision transition.toState = some transition.decision)
  require ⟨.valueError, lit "recovered outcome lacks recovered reconciliation state"⟩
    (transition.toState = .recovered → chain.reconciliationState = .recovered)

/-- The checks the bindings of a chain call for beside the rest. -/
def bindingChecks (chain : ReliabilityEvidenceChain) : List Text :=
  (if chain.comparisonRef.isSome then [lit "comparison_binding"] else []) ++
    if chain.reconciliationBindingRef.isSome then [lit "reconciliation_binding"] else []

/-- The checks of a transition that was found,
`services/reliability_outcome_verification_service.py:90–137`. -/
def verifyTransition (root : EvidenceRoot) (a : ReliabilityOutcomeAttestation)
    (chain : ReliabilityEvidenceChain) (subjectId : Text)
    (transition : ReliabilityStateTransition) (t : Tally) : Except PyError Tally := do
  let semantics := verifySemantics a chain subjectId transition
  let t ← t.attempt ErrorKind.isValueError (lit "outcome_semantics" :: bindingChecks chain)
    semantics
  let t ← (if semantics.isOk && transition.toState = .recovered then
      t.attempt ErrorKind.isValueError [lit "recovery_outcome_binding"] (root.recovery chain)
    else .ok t)
  t.attempt ErrorKind.isValueError [lit "attestation_binding"]
    (verifyOutcomeBinding a chain transition)

/-- The checks a verified outcome has passed,
`services/reliability_outcome_verification_service.py:139–153`. -/
def expectedChecks (chain : ReliabilityEvidenceChain) : List Text :=
  [lit "attestation_integrity", lit "evidence_chain_integrity", lit "evidence_sources",
    lit "state_transition_integrity", lit "state_transition_binding", lit "outcome_semantics",
    lit "attestation_binding"] ++
    (if chain.reliabilityState = .recovered then [lit "recovery_outcome_binding"] else []) ++
      bindingChecks chain

/-- The attestation against the evidence chain,
`services/reliability_outcome_verification_service.py:58–66`. -/
def verifyEvidence (root : EvidenceRoot) (a : ReliabilityOutcomeAttestation)
    (chain : ReliabilityEvidenceChain) : Except PyError Unit := do
  let chainDigest ← chain.digest
  require ⟨.valueError, lit "attestation is not bound to the supplied evidence chain"⟩
    (a.evidenceChainId = chain.chainId ∧ a.evidenceChainDigest = chainDigest)
  verifyEvidenceChain root chain

/-- The transition against the digest the attestation and the chain give,
`services/reliability_outcome_verification_service.py:73–85`. -/
def verifyHistory (a : ReliabilityOutcomeAttestation) (chain : ReliabilityEvidenceChain)
    (transition : ReliabilityStateTransition) : Except PyError Unit := do
  let transitionDigest ← transition.computedDigest
  require ⟨.valueError, lit "attestation transition digest does not match authoritative history"⟩
    (transitionDigest = a.transitionDigest)
  let chainDigest ← chain.digest
  require ⟨.valueError, lit "authoritative transition is not bound to the supplied evidence chain"⟩
    (transition.evidenceChainId = chain.chainId ∧ transition.evidenceChainDigest = chainDigest)

/-- `verify_reliability_outcome`,
`services/reliability_outcome_verification_service.py:37–160`. The transition that was found is
checked further even where its digest or chain did not match. -/
def verifyReliabilityOutcome (root : EvidenceRoot) (a : ReliabilityOutcomeAttestation)
    (chain : ReliabilityEvidenceChain) (subjectId : Text) (history : Option Bytes) :
    Except PyError ReliabilityOutcomeVerificationReport := do
  let t : Tally :=
    ⟨[], if a.subjectId = subjectId then [] else [lit "subject binding mismatch"]⟩
  let integrity := do
    let digest ← a.computedDigest
    require ⟨.valueError, lit "attestation digest mismatch"⟩ (digest = a.digest)
  let t ← t.attempt ErrorKind.isValueError [lit "attestation_integrity"] integrity
  let t ← t.attempt catchesSource [lit "evidence_chain_integrity", lit "evidence_sources"]
    (verifyEvidence root a chain)
  let found := transitionForAttestation subjectId a history
  let t ← t.attempt catchesSource
    [lit "state_transition_integrity", lit "state_transition_binding"]
    (found >>= verifyHistory a chain)
  let t ← (match found with
    | .ok transition => verifyTransition root a chain subjectId transition t
    | .error _ => .ok t)
  let expected := expectedChecks chain
  ReliabilityOutcomeVerificationReport.create
    { attestationId := a.attestationId
      subjectId
      verified := t.failures.isEmpty && decide (t.checks ⊆ expected ∧ expected ⊆ t.checks)
      checks := t.checks
      failures := t.failures }

/-! ### What a verified report says -/

variable {root : EvidenceRoot} {a : ReliabilityOutcomeAttestation}
  {chain : ReliabilityEvidenceChain} {subjectId : Text} {history : Option Bytes}
  {transition : ReliabilityStateTransition} {t t' : Tally} {catches : ErrorKind → Bool}
  {earned : List Text} {body : Except PyError Unit}

/-- A block that leaves no failure found none and earned its checks. -/
theorem attempt_clean (h : t.attempt catches earned body = .ok t') (hclean : t'.failures = []) :
    t.failures = [] ∧ body = .ok () ∧ t'.checks = t.checks ++ earned := by
  cases body with
  | ok u =>
    cases h
    exact ⟨hclean, rfl, rfl⟩
  | error e =>
    rw [Tally.attempt] at h
    split at h
    · cases h
      simp at hclean
    · cases h

@[simp] theorem attempt_ok (t : Tally) (catches : ErrorKind → Bool) (earned : List Text) :
    t.attempt catches earned (.ok ()) = .ok ⟨t.checks ++ earned, t.failures⟩ := rfl

/-- A transition that carries the outcome an attestation states, on the evidence of a chain. -/
structure Carries (a : ReliabilityOutcomeAttestation) (chain : ReliabilityEvidenceChain)
    (transition : ReliabilityStateTransition) : Prop where
  digest : transition.computedDigest = .ok a.transitionDigest
  chainId : transition.evidenceChainId = chain.chainId
  chainDigest : chain.digest = .ok transition.evidenceChainDigest
  subject : transition.subjectId = a.subjectId
  state : transition.toState = a.reliabilityState
  decision : transition.decision = a.decision

/-- All that the verification compares. -/
structure Consistent (root : EvidenceRoot) (a : ReliabilityOutcomeAttestation)
    (chain : ReliabilityEvidenceChain) (subjectId : Text) (history : Option Bytes) : Prop where
  subject : a.subjectId = subjectId
  chainId : a.evidenceChainId = chain.chainId
  chainDigest : chain.digest = .ok a.evidenceChainDigest
  evidence : verifyEvidenceChain root chain = .ok ()
  transition : ∃ transition, transitionForAttestation subjectId a history = .ok transition ∧
    Carries a chain transition
  verification : a.verificationStatus = chain.verificationStatus
  reconciliation : a.reconciliationState = chain.reconciliationState
  recovered : a.reliabilityState = .recovered ↔ chain.reliabilityState = .recovered
  recovery : a.reliabilityState = .recovered → root.recovery chain = .ok ()

/-- The transition found has the attested identifier. -/
theorem transitionForAttestation_eq_ok
    (h : transitionForAttestation subjectId a history = .ok transition) :
    ∃ ts, ((Jsonl.store true).read history (some subjectId)).1 = .ok ts ∧
      (ts.filter fun t ↦ decide (t.transitionId = a.transitionId)) = [transition] := by
  obtain ⟨ts, hread, h⟩ := bind_eq_ok.mp h
  refine ⟨ts, hread, ?_⟩
  split at h
  · cases h
  · next hfilter =>
    cases h
    exact hfilter
  · cases h

theorem transitionId_eq (h : transitionForAttestation subjectId a history = .ok transition) :
    transition.transitionId = a.transitionId := by
  obtain ⟨ts, -, hfilter⟩ := transitionForAttestation_eq_ok h
  have hmem : transition ∈ ts.filter fun t ↦ decide (t.transitionId = a.transitionId) := by
    rw [hfilter]
    exact List.mem_singleton_self _
  simpa using (List.mem_filter.mp hmem).2

private theorem verifySemantics_eq_ok :
    verifySemantics a chain subjectId transition = .ok () ↔
      (transition.subjectId = a.subjectId ∧ transition.subjectId = subjectId) ∧
        (transition.toState = a.reliabilityState ∧ transition.decision = a.decision) ∧
          expectedDecision transition.toState = some transition.decision ∧
            (transition.toState = .recovered → chain.reconciliationState = .recovered) := by
  simp only [verifySemantics, require_bind_eq_ok, require_eq_ok, decide_eq_true_eq]

private theorem verifyOutcomeBinding_eq_ok :
    verifyOutcomeBinding a chain transition = .ok () ↔
      (a.evidenceChainId = chain.chainId ∧ chain.digest = .ok a.evidenceChainDigest) ∧
        (a.transitionId = transition.transitionId ∧
          transition.computedDigest = .ok a.transitionDigest) ∧
          (a.subjectId = transition.subjectId ∧ a.reliabilityState = transition.toState ∧
            a.decision = transition.decision) ∧
            a.verificationStatus = chain.verificationStatus ∧
              a.reconciliationState = chain.reconciliationState := by
  simp only [verifyOutcomeBinding, require_eq_ok, decide_eq_true_eq, bind_eq_ok,
    a.computedDigest_eq]
  constructor
  · rintro ⟨d, hd, -, ⟨hid, rfl⟩, d', hd', -, ⟨htid, rfl⟩, -, houtcome, -, hstatus, -⟩
    exact ⟨⟨hid, hd⟩, ⟨htid, hd'⟩, houtcome, hstatus⟩
  · rintro ⟨⟨hid, hd⟩, ⟨htid, hd'⟩, houtcome, hstatus⟩
    exact ⟨_, hd, (), ⟨hid, rfl⟩, _, hd', (), ⟨htid, rfl⟩, (), houtcome, (), hstatus, _, rfl, rfl⟩

private theorem verifyEvidence_eq_ok : verifyEvidence root a chain = .ok () ↔
    (a.evidenceChainId = chain.chainId ∧ chain.digest = .ok a.evidenceChainDigest) ∧
      verifyEvidenceChain root chain = .ok () := by
  simp only [verifyEvidence, require_eq_ok, decide_eq_true_eq, bind_eq_ok]
  constructor
  · rintro ⟨d, hd, -, ⟨hid, rfl⟩, hsources⟩
    exact ⟨⟨hid, hd⟩, hsources⟩
  · rintro ⟨⟨hid, hd⟩, hsources⟩
    exact ⟨_, hd, (), ⟨hid, rfl⟩, hsources⟩

private theorem verifyHistory_eq_ok : verifyHistory a chain transition = .ok () ↔
    transition.computedDigest = .ok a.transitionDigest ∧
      transition.evidenceChainId = chain.chainId ∧
        chain.digest = .ok transition.evidenceChainDigest := by
  simp only [verifyHistory, require_eq_ok, decide_eq_true_eq, bind_eq_ok]
  constructor
  · rintro ⟨d, hd, -, rfl, d', hd', hid, rfl⟩
    exact ⟨hd, hid, hd'⟩
  · rintro ⟨hd, hid, hd'⟩
    exact ⟨_, hd, (), rfl, _, hd', hid, rfl⟩

/-- What checking a transition leaves when nothing fails. -/
private theorem verifyTransition_clean
    (h : verifyTransition root a chain subjectId transition t = .ok t') (hclean : t'.failures = []) :
    t.failures = [] ∧ verifySemantics a chain subjectId transition = .ok () ∧
      (transition.toState = .recovered → root.recovery chain = .ok ()) ∧
        verifyOutcomeBinding a chain transition = .ok () ∧
          t'.checks = t.checks ++ (lit "outcome_semantics" :: bindingChecks chain) ++
            (if transition.toState = .recovered then [lit "recovery_outcome_binding"] else []) ++
              [lit "attestation_binding"] := by
  obtain ⟨t₁, hfirst, h⟩ := bind_eq_ok.mp h
  obtain ⟨t₂, hsecond, h⟩ := bind_eq_ok.mp h
  obtain ⟨hclean₂, hbinding, hchecks⟩ := attempt_clean h hclean
  by_cases hsemantics : verifySemantics a chain subjectId transition = .ok ()
  · rw [hsemantics, attempt_ok] at hfirst
    cases hfirst
    by_cases hrecovered : transition.toState = .recovered
    · rw [hsemantics, if_pos (by simp [hrecovered, Except.isOk, Except.toBool])] at hsecond
      obtain ⟨hclean₁, hrecovery, hchecks₂⟩ := attempt_clean hsecond hclean₂
      refine ⟨hclean₁, hsemantics, fun _ ↦ hrecovery, hbinding, ?_⟩
      rw [hchecks, hchecks₂, if_pos hrecovered]
    · rw [if_neg (by simp [hrecovered])] at hsecond
      cases hsecond
      refine ⟨hclean₂, hsemantics, fun hr ↦ absurd hr hrecovered, hbinding, ?_⟩
      rw [hchecks, if_neg hrecovered, List.append_nil]
  · exfalso
    have hdirty : t₁.failures ≠ [] := fun hclean₁ ↦ hsemantics (attempt_clean hfirst hclean₁).2.1
    rw [if_neg] at hsecond
    · cases hsecond
      exact hdirty hclean₂
    · cases hs : verifySemantics a chain subjectId transition with
      | ok u => exact absurd hs hsemantics
      | error e => simp [Except.isOk, Except.toBool]

/-- Whether a verification reports the outcome as verified. -/
def Verified (root : EvidenceRoot) (a : ReliabilityOutcomeAttestation)
    (chain : ReliabilityEvidenceChain) (subjectId : Text) (history : Option Bytes) : Prop :=
  ∃ report, verifyReliabilityOutcome root a chain subjectId history = .ok report ∧
    report.verified = true

private theorem create_eq_ok {r r' : ReliabilityOutcomeVerificationReport}
    (h : r.create = .ok r') : r' = r := by
  simp only [ReliabilityOutcomeVerificationReport.create, bind_eq_ok] at h
  obtain ⟨-, -, -, -, -, -, -, -, -, -, h⟩ := h
  exact (Except.ok.inj h).symm

private theorem recovery_not_mem_bindingChecks (chain : ReliabilityEvidenceChain) :
    lit "recovery_outcome_binding" ∉ bindingChecks chain := by
  rw [bindingChecks]
  split <;> split <;> decide

/-- A verified outcome has passed every comparison. -/
theorem consistent_of_verified (h : Verified root a chain subjectId history) :
    Consistent root a chain subjectId history := by
  obtain ⟨report, hreport, hverified⟩ := h
  obtain ⟨t₁, hintegrity, hreport⟩ := bind_eq_ok.mp hreport
  obtain ⟨t₂, hevidence, hreport⟩ := bind_eq_ok.mp hreport
  obtain ⟨t₃, hhistory, hreport⟩ := bind_eq_ok.mp hreport
  obtain ⟨t₄, htransition, hreport⟩ := bind_eq_ok.mp hreport
  rw [create_eq_ok hreport] at hverified
  simp only [Bool.and_eq_true, List.isEmpty_iff, decide_eq_true_eq] at hverified
  obtain ⟨hclean, hwithin, hall⟩ := hverified
  cases hfound : transitionForAttestation subjectId a history with
  | error e =>
    rw [hfound] at hhistory htransition
    cases htransition
    obtain ⟨-, hbody, -⟩ := attempt_clean hhistory hclean
    cases hbody
  | ok transition =>
    rw [hfound] at hhistory htransition
    obtain ⟨hclean₃, hsemantics, hrecovery, hbinding, hchecks⟩ :=
      verifyTransition_clean htransition hclean
    obtain ⟨hclean₂, hbody₃, hchecks₃⟩ := attempt_clean hhistory hclean₃
    obtain ⟨hclean₁, hbody₂, hchecks₂⟩ := attempt_clean hevidence hclean₂
    obtain ⟨hsubject, -, hchecks₁⟩ := attempt_clean hintegrity hclean₁
    obtain ⟨⟨hid, hdigest⟩, hsources⟩ := verifyEvidence_eq_ok.mp hbody₂
    obtain ⟨htdigest, htid, htchain⟩ := verifyHistory_eq_ok.mp hbody₃
    obtain ⟨⟨htsubject, -⟩, ⟨hstate, hdecision⟩, -, -⟩ := verifySemantics_eq_ok.mp hsemantics
    obtain ⟨-, -, -, hverification, hreconciliation⟩ := verifyOutcomeBinding_eq_ok.mp hbinding
    rw [hchecks, hchecks₃, hchecks₂, hchecks₁] at hwithin hall
    have hunbound := recovery_not_mem_bindingChecks chain
    have hrecovered : transition.toState = .recovered ↔ chain.reliabilityState = .recovered := by
      constructor
      · intro hr
        rw [if_pos hr] at hwithin
        have hmem := hwithin (show lit "recovery_outcome_binding" ∈ _ by simp)
        by_contra hc
        rw [expectedChecks, if_neg hc] at hmem
        simp [hunbound] at hmem
      · intro hr
        rw [expectedChecks, if_pos hr] at hall
        have hmem := hall (show lit "recovery_outcome_binding" ∈ _ by simp)
        by_contra hc
        rw [if_neg hc] at hmem
        simp [hunbound] at hmem
    have hsame : a.subjectId = subjectId := by
      by_contra hne
      rw [if_neg hne] at hsubject
      cases hsubject
    exact
      { subject := hsame
        chainId := hid
        chainDigest := hdigest
        evidence := hsources
        transition := ⟨transition, hfound, htdigest, htid, htchain, htsubject, hstate, hdecision⟩
        verification := hverification
        reconciliation := hreconciliation
        recovered := hstate ▸ hrecovered
        recovery := hstate ▸ hrecovery }

/-- The checks earned when nothing fails, in their order. -/
private def earnedChecks (chain : ReliabilityEvidenceChain) (recovered : Bool) : List Text :=
  [lit "attestation_integrity", lit "evidence_chain_integrity", lit "evidence_sources",
    lit "state_transition_integrity", lit "state_transition_binding"] ++
    (lit "outcome_semantics" :: bindingChecks chain) ++
      (if recovered then [lit "recovery_outcome_binding"] else []) ++ [lit "attestation_binding"]

private theorem earnedChecks_spec (chain : ReliabilityEvidenceChain) :
    earnedChecks chain (decide (chain.reliabilityState = .recovered)) ⊆ expectedChecks chain ∧
      expectedChecks chain ⊆ earnedChecks chain (decide (chain.reliabilityState = .recovered)) := by
  rw [earnedChecks, expectedChecks, bindingChecks]
  by_cases hr : chain.reliabilityState = .recovered
  · rw [decide_eq_true hr, if_pos hr]
    cases chain.comparisonRef.isSome <;> cases chain.reconciliationBindingRef.isSome <;> decide
  · rw [decide_eq_false hr, if_neg hr]
    cases chain.comparisonRef.isSome <;> cases chain.reconciliationBindingRef.isSome <;> decide

private theorem earnedChecks_known (chain : ReliabilityEvidenceChain) (recovered : Bool) :
    (∀ check ∈ earnedChecks chain recovered, check ∈ knownChecks) ∧
      (earnedChecks chain recovered).Nodup := by
  rw [earnedChecks, bindingChecks]
  cases chain.comparisonRef.isSome <;> cases chain.reconciliationBindingRef.isSome <;>
    cases recovered <;> decide

/-- An outcome that passes every comparison is verified. -/
theorem verified_of_consistent (h : Consistent root a chain subjectId history) :
    Verified root a chain subjectId history := by
  obtain ⟨transition, hfound, hcarries⟩ := h.transition
  have hevidence : verifyEvidence root a chain = .ok () :=
    verifyEvidence_eq_ok.mpr ⟨⟨h.chainId, h.chainDigest⟩, h.evidence⟩
  have hhistory : verifyHistory a chain transition = .ok () :=
    verifyHistory_eq_ok.mpr ⟨hcarries.digest, hcarries.chainId, hcarries.chainDigest⟩
  have hreconciled : transition.toState = .recovered → chain.reconciliationState = .recovered := by
    intro hr
    rw [hcarries.state] at hr
    rw [← h.reconciliation]
    exact a.lawful.recovers hr
  have hsemantics : verifySemantics a chain subjectId transition = .ok () :=
    verifySemantics_eq_ok.mpr ⟨⟨hcarries.subject, hcarries.subject.trans h.subject⟩,
      ⟨hcarries.state, hcarries.decision⟩, expectedDecision_of_transition transition, hreconciled⟩
  have hbinding : verifyOutcomeBinding a chain transition = .ok () :=
    verifyOutcomeBinding_eq_ok.mpr ⟨⟨h.chainId, h.chainDigest⟩,
      ⟨(transitionId_eq hfound).symm, hcarries.digest⟩,
      ⟨hcarries.subject.symm, hcarries.state.symm, hcarries.decision.symm⟩, h.verification,
      h.reconciliation⟩
  have htransition : ∀ t : Tally, verifyTransition root a chain subjectId transition t =
      .ok ⟨t.checks ++ (lit "outcome_semantics" :: bindingChecks chain) ++
        (if decide (chain.reliabilityState = .recovered) then [lit "recovery_outcome_binding"]
          else []) ++ [lit "attestation_binding"], t.failures⟩ := by
    intro t
    have hrecovered : transition.toState = .recovered ↔ chain.reliabilityState = .recovered := by
      rw [hcarries.state]
      exact h.recovered
    rw [verifyTransition, hsemantics, hbinding]
    by_cases hr : chain.reliabilityState = .recovered
    · have hrecovery := h.recovery (h.recovered.mpr hr)
      simp [hrecovered.mpr hr, hr, hrecovery, Except.isOk, Except.toBool]
    · have hr' := mt hrecovered.mp hr
      simp [hr', hr]
  have hintegrity : (do
      let digest ← a.computedDigest
      require ⟨.valueError, lit "attestation digest mismatch"⟩ (digest = a.digest)) = .ok () := by
    rw [a.computedDigest_eq, ok_bind, decide_eq_true rfl, require_true]
  have hearned := earnedChecks_spec chain
  obtain ⟨hknown, hunique⟩ := earnedChecks_known chain
    (decide (chain.reliabilityState = .recovered))
  have hnamed : blank subjectId = false := h.subject ▸ a.lawful.named.2.1
  refine ⟨⟨a.attestationId, subjectId, true,
    earnedChecks chain (decide (chain.reliabilityState = .recovered)), []⟩, ?_, rfl⟩
  rw [verifyReliabilityOutcome]
  dsimp only
  rw [hintegrity, attempt_ok, ok_bind, hevidence, attempt_ok, ok_bind, hfound, ok_bind, hhistory,
    attempt_ok, ok_bind]
  dsimp only
  rw [htransition, ok_bind, if_pos h.subject]
  change ReliabilityOutcomeVerificationReport.create ⟨a.attestationId, subjectId,
    true && decide (earnedChecks chain (decide (chain.reliabilityState = .recovered)) ⊆
        expectedChecks chain ∧
      expectedChecks chain ⊆ earnedChecks chain (decide (chain.reliabilityState = .recovered))),
    earnedChecks chain (decide (chain.reliabilityState = .recovered)), []⟩ = _
  rw [decide_eq_true hearned, ReliabilityOutcomeVerificationReport.create]
  dsimp only
  rw [decide_eq_true hknown, decide_eq_true hunique, a.lawful.named.1, hnamed]
  rfl

/-! ### The evidence's own outcome -/

/-- The evidence verifies, the history holds exactly one transition with the attested identifier
and digest, bound to the evidence, and the attested outcome is that of both. -/
structure Sound (root : EvidenceRoot) (a : ReliabilityOutcomeAttestation)
    (chain : ReliabilityEvidenceChain) (subjectId : Text) (history : Option Bytes) : Prop where
  evidence : verifyEvidenceChain root chain = .ok ()
  transition : ∃ ts transition,
    ((Jsonl.store true).read history (some subjectId)).1 = .ok ts ∧
      (ts.filter fun t ↦ decide (t.transitionId = a.transitionId)) = [transition] ∧
        Carries a chain transition
  state : a.reliabilityState = chain.reliabilityState
  decision : a.decision = chain.decision

/-- A verified report says what it should exactly when some comparison fails or the attested
outcome is the chain's: the state and decision of the chain are not compared. -/
theorem sound_iff (root : EvidenceRoot) (a : ReliabilityOutcomeAttestation)
    (chain : ReliabilityEvidenceChain) (subjectId : Text) (history : Option Bytes) :
    (Verified root a chain subjectId history → Sound root a chain subjectId history) ↔
      (Consistent root a chain subjectId history →
        a.reliabilityState = chain.reliabilityState ∧ a.decision = chain.decision) := by
  constructor
  · intro hsound hconsistent
    have h := hsound (verified_of_consistent hconsistent)
    exact ⟨h.state, h.decision⟩
  · intro hmatch hverified
    have hconsistent := consistent_of_verified hverified
    obtain ⟨hstate, hdecision⟩ := hmatch hconsistent
    obtain ⟨transition, hfound, hcarries⟩ := hconsistent.transition
    obtain ⟨ts, hread, hfilter⟩ := transitionForAttestation_eq_ok hfound
    exact ⟨hconsistent.evidence, ⟨ts, transition, hread, hfilter, hcarries⟩, hstate, hdecision⟩

/-! ### An outcome the chain does not have -/

/-- A chain that accepts its run as reliable. -/
def acceptedChain : ReliabilityEvidenceChain :=
  { Service.reviewChain [] with
    reliabilityState := .reliable
    decision := .accept
    accepts := fun _ ↦ ⟨rfl, .inl rfl, .inl rfl⟩
    rejects := nofun }

/-- Its digest. -/
def acceptedDigest : Text := acceptedChain.digest.toOption.getD []

theorem digest_acceptedChain : acceptedChain.digest = .ok acceptedDigest :=
  digest_of_toBool (by decide +kernel)

/-- A transition to another state that is bound to the chain. -/
def contraryReview : ReliabilityStateTransition :=
  { firstReview with
    evidenceChainDigest := acceptedDigest
    chainDigest := ReliabilityEvidenceChain.isSha256_of_digest digest_acceptedChain }

private theorem encodable_contraryReview : contraryReview.Encodable :=
  (ReliabilityStateTransition.encodable_iff_surrogateFree _).mpr ⟨surrogateFree_lit _,
    surrogateFree_lit _, surrogateFree_lit _, surrogateFree_lit _, nofun⟩

/-- The outcome of that transition. -/
def contraryOutcome : Outcome :=
  ⟨lit "i", lit "s", lit "0001-01-01T00:00:00+00:00", lit "a", lit "c", acceptedDigest, lit "t",
    contraryReview.digestText, .degraded, .review, .verified, .verified, [], none, []⟩

/-- Its attestation. -/
def contraryAttestation : ReliabilityOutcomeAttestation where
  toOutcome := contraryOutcome
  lawful :=
    { chainDigested := contraryReview.chainDigest
      transitionDigested := encodable_contraryReview.isSha256
      linked := .inl rfl
      named := by decide
      known := nofun
      decided := nofun
      verified := rfl
      reconciled := .inl rfl
      expected := rfl
      recovers := nofun }
  encodable := by
    apply (Outcome.computedDigest_isOk_iff _).mpr
    refine ⟨nofun, ?_⟩
    simp only [Outcome.contents, List.forall_mem_append, List.forall_mem_cons, List.not_mem_nil,
      IsEmpty.forall_iff, implies_true, and_true, Option.mem_toList]
    exact ⟨⟨⟨surrogateFree_lit _, surrogateFree_lit _, surrogateFree_lit _, surrogateFree_lit _,
      surrogateFree_lit _, surrogateFree_of_isSha256 contraryReview.chainDigest,
      surrogateFree_lit _, surrogateFree_of_isSha256 encodable_contraryReview.isSha256⟩, nofun⟩,
      nofun⟩

/-- A root whose artifacts bear everything out. -/
def bareRoot : EvidenceRoot :=
  ⟨fun _ ↦ .error ⟨.fileNotFoundError, []⟩, fun _ ↦ .ok (), fun _ ↦ .ok (), fun _ ↦ .ok (),
    fun _ ↦ .ok (), fun _ ↦ .ok ()⟩

/-- Not every verified outcome is the evidence's own: a chain that accepts the run as reliable
and a transition that puts it under review verify together. -/
theorem not_sound_always :
    ¬∀ (root : EvidenceRoot) (a : ReliabilityOutcomeAttestation)
      (chain : ReliabilityEvidenceChain) (subjectId : Text) (history : Option Bytes),
      Verified root a chain subjectId history → Sound root a chain subjectId history := by
  intro hall
  have haccepts : accepts [] contraryReview = some [contraryReview] :=
    accepts_of_extends encodable_contraryReview (by decide) ⟨rfl, nofun⟩
  have hfile : Jsonl.Represents (some (Jsonl.encode [contraryReview])) [contraryReview] := rfl
  have hread : ((Jsonl.store true).read (some (Jsonl.encode [contraryReview])) (some (lit "s"))).1 =
      .ok [contraryReview] := by
    rw [Jsonl.store_read, Jsonl.readUnlocked_represents (valid_nil.accepts haccepts) hfile]
    rfl
  have hfound : transitionForAttestation (lit "s") contraryAttestation
      (some (Jsonl.encode [contraryReview])) = .ok contraryReview := by
    rw [transitionForAttestation, hread]
    rfl
  have hconsistent : Consistent bareRoot contraryAttestation acceptedChain (lit "s")
      (some (Jsonl.encode [contraryReview])) :=
    { subject := rfl
      chainId := rfl
      chainDigest := digest_acceptedChain
      evidence := rfl
      transition := ⟨contraryReview, hfound, encodable_contraryReview.computedDigest, rfl,
        digest_acceptedChain, rfl, rfl, rfl⟩
      verification := rfl
      reconciliation := rfl
      recovered := by decide
      recovery := nofun }
  exact nomatch (hall _ _ _ _ _ (verified_of_consistent hconsistent)).state

end StateWake.Attestation
