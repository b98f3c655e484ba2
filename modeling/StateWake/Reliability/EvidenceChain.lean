import StateWake.Reliability.Transition

/-!
# Reliability-evidence chains

`domain/reliability_evidence.py`. References and chains exist only when their constructors
accepted them, so what the constructors check are fields. The digest covers every field.
-/

namespace StateWake.Reliability

open StateWake.Base Text Utils

/-- A reference of kind `receipt`, the only kind a reference can bind to,
`domain/reliability_evidence.py:33–63`. -/
@[ext]
structure ReceiptReference where
  identity : Text
  digest : Text
  source : Option Text
  named : blank identity = false
  digested : isSha256 digest = true
  sourced : ∀ s ∈ source, blank s = false

instance : DecidableEq ReceiptReference := fun _ _ ↦ decidable_of_iff' _ ReceiptReference.ext_iff

/-- `EvidenceReference`, `domain/reliability_evidence.py:33–63`. -/
structure EvidenceReference where
  kind : Text
  identity : Text
  digest : Text
  source : Option Text
  receiptRef : Option ReceiptReference
  named : ¬(blank kind = true ∨ blank identity = true)
  digested : isSha256 digest = true
  sourced : ∀ s ∈ source, blank s = false
  bound : receiptRef ≠ none → kind = lit "evidence"
  deriving DecidableEq

namespace ReceiptReference

/-- `to_dict()`, `domain/reliability_evidence.py:65–75`. -/
def toDict (r : ReceiptReference) : Dict Json :=
  [(lit "kind", .str (lit "receipt")),
    (lit "identity", .str r.identity),
    (lit "digest", .str r.digest),
    (lit "source", optionJson r.source),
    (lit "receipt_ref", .null)]

end ReceiptReference

namespace EvidenceReference

/-- A reference need not name a source. -/
theorem unsourced : ∀ s ∈ (none : Option Text), blank s = false := nofun

/-- A reference of any kind may stand without a receipt. -/
theorem unbound (kind : Text) : (none : Option ReceiptReference) ≠ none → kind = lit "evidence" :=
  fun h ↦ absurd rfl h

/-- `to_dict()`, `domain/reliability_evidence.py:65–75`. -/
def toDict (r : EvidenceReference) : Dict Json :=
  [(lit "kind", .str r.kind),
    (lit "identity", .str r.identity),
    (lit "digest", .str r.digest),
    (lit "source", optionJson r.source),
    (lit "receipt_ref", r.receiptRef.elim .null fun receipt ↦ .obj receipt.toDict)]

end EvidenceReference

/-- `_VERIFICATION`, `domain/reliability_evidence.py:14`. -/
inductive VerificationStatus where
  | unverified
  | verified
  | failed
  deriving DecidableEq, Repr

/-- `_RECONCILIATION`, `domain/reliability_evidence.py:16`. -/
inductive ReconciliationState where
  | pending
  | verified
  | stale
  | missing
  | invalid
  | recovered
  deriving DecidableEq, Repr

/-- The name a verification status is stored under. -/
def VerificationStatus.text : VerificationStatus → Text
  | unverified => lit "unverified"
  | verified => lit "verified"
  | failed => lit "failed"

/-- The name a reconciliation state is stored under. -/
def ReconciliationState.text : ReconciliationState → Text
  | pending => lit "pending"
  | verified => lit "verified"
  | stale => lit "stale"
  | missing => lit "missing"
  | invalid => lit "invalid"
  | recovered => lit "recovered"

/-- The verification status a name denotes. -/
def VerificationStatus.ofText? (s : Text) : Option VerificationStatus :=
  if s = lit "unverified" then some unverified
  else if s = lit "verified" then some verified
  else if s = lit "failed" then some failed
  else none

/-- The reconciliation state a name denotes. -/
def ReconciliationState.ofText? (s : Text) : Option ReconciliationState :=
  if s = lit "pending" then some pending
  else if s = lit "verified" then some verified
  else if s = lit "stale" then some stale
  else if s = lit "missing" then some missing
  else if s = lit "invalid" then some invalid
  else if s = lit "recovered" then some recovered
  else none

@[simp] theorem VerificationStatus.ofText?_text (s : VerificationStatus) :
    ofText? s.text = some s := by
  cases s <;> simp [ofText?, text]

@[simp] theorem ReconciliationState.ofText?_text (s : ReconciliationState) :
    ofText? s.text = some s := by
  cases s <;> simp [ofText?, text]

/-- `ReliabilityEvidenceChain`, `domain/reliability_evidence.py:78–171`, with what its
constructor checked. -/
structure ReliabilityEvidenceChain where
  chainId : Text
  run : EvidenceReference
  state : EvidenceReference
  evidence : List EvidenceReference
  provenance : EvidenceReference
  integrity : EvidenceReference
  verificationStatus : VerificationStatus
  reliabilityState : ReliabilityState
  reconciliationState : ReconciliationState
  reconciliationRef : Option EvidenceReference
  recoveryRef : Option EvidenceReference
  attestationRef : Option EvidenceReference
  decisionBasisRef : Option EvidenceReference
  comparisonRef : Option EvidenceReference
  reconciliationBindingRef : Option EvidenceReference
  decision : Decision
  decisionRationale : List Text
  named : blank chainId = false
  runKind : run.kind = lit "run"
  stateKind : state.kind = lit "state"
  provenanceKind : provenance.kind = lit "provenance"
  integrityKind : integrity.kind = lit "integrity"
  basisKind : ∀ r ∈ decisionBasisRef, r.kind = lit "decision-basis" ∨ r.kind = lit "policy"
  comparisonKind : ∀ r ∈ comparisonRef, r.kind = lit "comparison"
  bindingKind : ∀ r ∈ reconciliationBindingRef, r.kind = lit "reconciliation-binding"
  evidenced : evidence ≠ []
  reconciled : reconciliationState = .verified → verificationStatus = .verified
  accepts : decision = .accept → verificationStatus = .verified ∧
    (reconciliationState = .verified ∨ reconciliationState = .recovered) ∧
      (reliabilityState = .reliable ∨ reliabilityState = .recovered)
  rejects : decision = .reject → reliabilityState = .unreliable ∨ reliabilityState = .degraded

namespace ReliabilityEvidenceChain

/-! A chain need not refer to a basis, to a comparison or to a binding, and one under review
asks for neither an acceptance nor a failure. -/

theorem baseless : ∀ r ∈ (none : Option EvidenceReference),
    r.kind = lit "decision-basis" ∨ r.kind = lit "policy" := nofun

theorem uncompared : ∀ r ∈ (none : Option EvidenceReference), r.kind = lit "comparison" := nofun

theorem unreconciled : ∀ r ∈ (none : Option EvidenceReference),
    r.kind = lit "reconciliation-binding" := nofun

/-- `payload()`, `domain/reliability_evidence.py:173–207`. -/
def payload (chain : ReliabilityEvidenceChain) : Dict Json :=
  let optional := fun r : Option EvidenceReference ↦ r.elim Json.null fun r ↦ .obj r.toDict
  [(lit "chain_id", .str chain.chainId),
    (lit "run", .obj chain.run.toDict),
    (lit "state", .obj chain.state.toDict),
    (lit "evidence", .arr (chain.evidence.map fun r ↦ .obj r.toDict)),
    (lit "provenance", .obj chain.provenance.toDict),
    (lit "integrity", .obj chain.integrity.toDict),
    (lit "verification_status", .str chain.verificationStatus.text),
    (lit "reliability_state", .str chain.reliabilityState.text),
    (lit "reconciliation_state", .str chain.reconciliationState.text),
    (lit "reconciliation_ref", optional chain.reconciliationRef),
    (lit "recovery_ref", optional chain.recoveryRef),
    (lit "attestation_ref", optional chain.attestationRef),
    (lit "decision_basis_ref", optional chain.decisionBasisRef),
    (lit "comparison_ref", optional chain.comparisonRef),
    (lit "reconciliation_binding_ref", optional chain.reconciliationBindingRef),
    (lit "decision", .str chain.decision.text),
    (lit "decision_rationale", .arr (chain.decisionRationale.map .str))]

/-- `digest()`, `domain/reliability_evidence.py:209–211`: raises on a text UTF-8 cannot
encode. -/
def digest (chain : ReliabilityEvidenceChain) : Except PyError Text := do
  let content ← Utf8.toBytes (Json.dumps Json.canonical (.obj chain.payload))
  pure (sha256 content)

/-- A digest is in digest form. -/
theorem isSha256_of_digest {chain : ReliabilityEvidenceChain} {d : Text}
    (h : chain.digest = .ok d) : isSha256 d = true := by
  simp only [digest, bind_eq_ok] at h
  obtain ⟨content, -, hd⟩ := h
  cases hd
  exact isSha256_sha256 content

end ReliabilityEvidenceChain
end StateWake.Reliability
