import StateWake.Attestation.Store
import StateWake.Trust.AttestationTrust

/-!
# The attestation service

`services/reliability_attestation_service.py`. A call builds an attestation on the tip it reads
and appends it; a signed call also signs it, authenticates the trust state and binds both. The
signature library is the parameter `ed25519` and the external signer the parameter `provider`.
-/

namespace StateWake.Attestation

open StateWake.Base Text Utils Reliability Trust

/-! ### Building -/

/-- The evidence and the transition a call attests, and who attests them when. -/
structure Request where
  chain : ReliabilityEvidenceChain
  transition : ReliabilityStateTransition
  actor : Text
  occurredAt : Option AwareDatetime

/-- `occurred_at or datetime.now(UTC)` in UTC, `services/reliability_attestation_service.py:87`. -/
def Request.when (r : Request) (now : Datetime) : Except PyError Text := do
  let utc ← (r.occurredAt.getD (.ofUtc now)).toUtc
  pure (isoformat utc)

/-- `_stable_id`, `services/reliability_attestation_service.py:46–63`. -/
def stableId (subjectId : Text) (chain : ReliabilityEvidenceChain)
    (transition : ReliabilityStateTransition) (occurredAt : Text) : Except PyError Text := do
  let chainDigest ← chain.digest
  let transitionDigest ← transition.computedDigest
  let content ← Utf8.toBytes (Json.dumps Json.compact (.obj
    [(lit "subject_id", .str subjectId),
      (lit "evidence_chain_digest", .str chainDigest),
      (lit "transition_digest", .str transitionDigest),
      (lit "decision", .str chain.decision.text),
      (lit "reliability_state", .str transition.toState.text),
      (lit "occurred_at", .str occurredAt)]))
  pure (sha256 content)

/-- `_build_reliability_outcome_attestation`,
`services/reliability_attestation_service.py:66–105`, on the snapshot it reads. -/
def build (r : Request) (now : Datetime) (signingKeyId : Option Text) (file : Option Bytes) :
    Except PyError ReliabilityOutcomeAttestation := do
  let chain := r.chain
  let transition := r.transition
  require ⟨.valueError,
    lit "reliability state transition is not bound to the supplied evidence chain."⟩
    (transition.evidenceChainId = chain.chainId)
  let chainDigest ← chain.digest
  require ⟨.valueError, lit ("reliability state transition evidence-chain digest does not match " ++
    "the supplied chain.")⟩ (transition.evidenceChainDigest = chainDigest)
  require ⟨.valueError, lit "transition subject_id must not be empty."⟩
    (!blank transition.subjectId)
  let when' ← r.when now
  let s ← Store.readSnapshotUnlocked file
  let attestationId ← stableId transition.subjectId chain transition when'
  let transitionDigest ← transition.computedDigest
  ReliabilityOutcomeAttestation.create
    { attestationId
      subjectId := transition.subjectId
      occurredAt := when'
      actor := r.actor
      evidenceChainId := chain.chainId
      evidenceChainDigest := chainDigest
      transitionId := transition.transitionId
      transitionDigest
      reliabilityState := transition.toState
      decision := transition.decision
      verificationStatus := chain.verificationStatus
      reconciliationState := chain.reconciliationState
      decisionRationale :=
        if transition.rationale = [] then chain.decisionRationale else transition.rationale
      signingKeyId
      previousDigest := s.tipDigest }
    []

/-- `attest_reliability_outcome`, `services/reliability_attestation_service.py:108–126`. -/
def attest (r : Request) (signingKeyId : Option Text) (now : Datetime) (file : Option Bytes) :
    Except PyError ReliabilityOutcomeAttestation × Option Bytes :=
  match build r now signingKeyId file with
  | .error e => (.error e, file)
  | .ok a => Store.append file a

/-! ### Envelopes -/

/-- `create_signed_reliability_outcome_envelope`,
`services/reliability_attestation_service.py:182–195`. -/
def createEnvelope (a : ReliabilityOutcomeAttestation) (keyId : Text) (signature : Bytes) :
    Except PyError SignedReliabilityOutcomeEnvelope := do
  let content ← strictBytes a.toDict
  SignedReliabilityOutcomeEnvelope.create (lit "Ed25519") keyId a.toDict (sha256 content)
    (Base64.encode signature)

/-- `attestation_signing_key_status`, `domain/attestation_trust.py:313–325`. -/
def signingKeyStatus (state : SignedAttestationTrustState) (keyId : Text) :
    Except PyError AttestationTrustAnchor :=
  match state.anchor? keyId with
  | none => valueError (lit "attestation signing key is not trusted: " ++ keyId)
  | some anchor =>
    if anchor.status = .active then .ok anchor
    else valueError (lit "attestation signing key " ++ keyId ++ lit " is " ++ anchor.status.text ++
      (match anchor.supersededBy with
        | none | some [] => []
        | some successor => lit " by " ++ successor) ++ lit ".")

section Signatures

variable (ed25519 : Bytes → Bytes → Bytes → Bool)

/-- The key an envelope is verified with,
`services/reliability_attestation_service.py:207–219`. -/
def verificationKey (keys : Dict Bytes) (trustState : Option SignedAttestationTrustState)
    (keyId : Text) : Except PyError Bytes :=
  match trustState with
  | some state => do
    let anchor ← signingKeyStatus state keyId
    require ⟨.valueError, lit "attestation trust key mismatch for " ++ anchor.keyId ++ lit "."⟩
      (keys.get? anchor.keyId = some anchor.publicKey)
    pure anchor.publicKey
  | none => orRaise ⟨.valueError, lit "unknown reliability attestation signing key: " ++ keyId⟩
      (keys.get? keyId)

/-- `verify_signed_reliability_outcome_envelope`,
`services/reliability_attestation_service.py:198–234`. -/
def verifyEnvelope (e : SignedReliabilityOutcomeEnvelope) (keys : Dict Bytes)
    (trustState : Option SignedAttestationTrustState) :
    Except PyError ReliabilityOutcomeAttestation := do
  let publicKey ← verificationKey keys trustState e.keyId
  let signature ← orRaise ⟨.valueError, []⟩ (Base64.decode e.signature)
  let content ← e.payloadBytes
  require ⟨.valueError, lit "reliability outcome attestation signature verification failed."⟩
    (ed25519 publicKey content signature)
  let a ← ReliabilityOutcomeAttestation.fromDict e.attestation
  require ⟨.valueError,
    lit "signed reliability envelope key does not match attestation signing_key_id."⟩
    (a.signingKeyId = some e.keyId)
  pure a

/-- `{anchor.key_id: anchor.public_key for anchor in trust_state.anchors}`. -/
def anchorKeys (state : SignedAttestationTrustState) : Dict Bytes :=
  state.anchors.map fun a ↦ (a.keyId, a.publicKey)

/-! ### Trust contexts -/

/-- `build_reliability_attestation_trust_context`,
`services/reliability_attestation_service.py:237–286`, under the default artifact identifiers. -/
def buildTrustContext (e : SignedReliabilityOutcomeEnvelope) (state : SignedAttestationTrustState)
    (authorities : Dict Bytes) : Except PyError ReliabilityAttestationTrustContext := do
  let _ ← state.verify ed25519 authorities
  let a ← verifyEnvelope ed25519 e (anchorKeys state) (some state)
  let anchor ← signingKeyStatus state e.keyId
  let authorityKey ← orRaise ⟨.valueError,
    lit "attestation trust-state authority key is absent from the authority store"⟩
    (authorities.get? state.authorityKeyId)
  let stateDigest ← state.digest
  let content ← strictBytes e.toDict
  ReliabilityAttestationTrustContext.create (lit "1")
    { envelopeArtifactId := lit "attestation-envelope:" ++ a.attestationId
      envelopeDigest := sha256 content
      attestationId := a.attestationId
      attestationDigest := a.digest
      signingKeyId := e.keyId
      signingKeyDigest := sha256 anchor.publicKey
      trustStateArtifactId := lit "attestation-trust-state:" ++ Json.intText state.version ++
        lit ":" ++ stateDigest
      trustStateDigest := stateDigest
      trustStateVersion := state.version
      authorityStoreArtifactId := lit "attestation-authority:" ++ state.authorityKeyId
      authorityKeyId := state.authorityKeyId
      authorityKeyDigest := sha256 authorityKey }

/-- `verify_reliability_attestation_trust_context`,
`services/reliability_attestation_service.py:289–322`. -/
def verifyTrustContext (b : SignedReliabilityOutcomeBinding) (state : SignedAttestationTrustState)
    (authorities : Dict Bytes) : Except PyError ReliabilityOutcomeAttestation := do
  let context := b.trustContext
  require ⟨.valueError, lit "signed attestation trust-state version mismatch"⟩
    (state.version = context.trustStateVersion)
  let stateDigest ← state.digest
  require ⟨.valueError, lit "signed attestation trust-state digest mismatch"⟩
    (stateDigest = context.trustStateDigest)
  require ⟨.valueError, lit "signed attestation authority identity mismatch"⟩
    (state.authorityKeyId = context.authorityKeyId)
  let authorityKey ← orRaise ⟨.valueError,
    lit "signed attestation authority key is absent from the authority store"⟩
    (authorities.get? context.authorityKeyId)
  require ⟨.valueError, lit "signed attestation authority key digest mismatch"⟩
    (sha256 authorityKey = context.authorityKeyDigest)
  let _ ← state.verify ed25519 authorities
  let anchor ← signingKeyStatus state context.signingKeyId
  require ⟨.valueError, lit "signed attestation signing key digest mismatch"⟩
    (sha256 anchor.publicKey = context.signingKeyDigest)
  verifyEnvelope ed25519 b.envelope (anchorKeys state) (some state)

/-- One state of the search, `services/reliability_attestation_service.py:334–342`. -/
def resolveStep (context : ReliabilityAttestationTrustContext)
    (resolved : Option SignedAttestationTrustState) (state : SignedAttestationTrustState) :
    Except PyError (Option SignedAttestationTrustState) := do
  let digest ← state.digest
  if state.version = context.trustStateVersion ∧ digest = context.trustStateDigest then do
    require ⟨.valueError,
      lit "conflicting attestation trust states share the signed binding identity"⟩
      (decide (∀ earlier ∈ resolved, earlier.toDict = state.toDict))
    pure (some state)
  else pure resolved

/-- `resolve_reliability_attestation_trust_state`,
`services/reliability_attestation_service.py:325–347`. -/
def resolveTrustState (b : SignedReliabilityOutcomeBinding)
    (states : List SignedAttestationTrustState) : Except PyError SignedAttestationTrustState := do
  let resolved ← states.foldlM (resolveStep b.trustContext) none
  orRaise ⟨.valueError,
    lit "signed attestation trust state is unavailable for recorded version/digest"⟩ resolved

/-- `verify_persisted_signed_reliability_outcome`,
`services/reliability_attestation_service.py:350–387`. -/
def verifyPersisted (a : ReliabilityOutcomeAttestation) (file : Option Bytes)
    (states : List SignedAttestationTrustState) (authorities : Dict Bytes) :
    Except PyError SignedReliabilityOutcomeBinding := do
  let s ← Store.readSnapshotUnlocked file
  let found := s.bindings.filter fun b ↦ decide (b.attestation.attestationId = a.attestationId)
  match found with
  | [] => valueError (lit "canonical signed attestation binding not found: " ++ a.attestationId)
  | [b] => do
    require ⟨.valueError, lit ("canonical signed attestation binding does not match the supplied " ++
      "attestation")⟩ (b.attestation = a)
    let state ← resolveTrustState b states
    let verified ← verifyTrustContext ed25519 b state authorities
    require ⟨.valueError, lit "verified signed attestation identity/content mismatch"⟩
      (verified = a)
    pure b
  | _ => valueError (lit "multiple signed attestation bindings found: " ++ a.attestationId)

/-! ### Recording -/

/-- The binding a recording builds, `services/reliability_attestation_service.py:398–403`. -/
def bindEnvelope (e : SignedReliabilityOutcomeEnvelope) (state : SignedAttestationTrustState)
    (authorities : Dict Bytes) : Except PyError SignedReliabilityOutcomeBinding := do
  let context ← buildTrustContext ed25519 e state authorities
  SignedReliabilityOutcomeBinding.create e context

/-- `record_signed_reliability_outcome`,
`services/reliability_attestation_service.py:390–404`. -/
def recordSigned (e : SignedReliabilityOutcomeEnvelope) (state : SignedAttestationTrustState)
    (authorities : Dict Bytes) (file : Option Bytes) :
    Except PyError SignedReliabilityOutcomeBinding × Option Bytes :=
  match bindEnvelope ed25519 e state authorities with
  | .error e => (.error e, file)
  | .ok b => Store.appendSigned file b

/-- `SigningKeyReference`, `domain/key_management.py:10–34`, with what its constructor checked.
The algorithm is always `Ed25519`. -/
structure SigningKeyReference where
  keyId : Text
  provider : Text
  version : Option Text
  publicKeyDigest : Option Text
  named : ¬(blank keyId = true ∨ blank provider = true)
  digested : ∀ d ∈ publicKeyDigest, isSha256 d = true

variable (provider : SigningKeyReference → Bytes → Except PyError Bytes)

/-- `ExternalSigningAdapter.sign`, `adapters/key_management.py:32–37`. -/
def sign (key : SigningKeyReference) (payload : Bytes) : Except PyError Bytes := do
  let signature ← provider key payload
  require ⟨.valueError, lit "external signing provider must return non-empty bytes."⟩
    (!signature.isEmpty)
  pure signature

/-- The envelope `sign_and_record_reliability_outcome` records,
`services/reliability_attestation_service.py:417–440`. -/
def signedEnvelope (a : ReliabilityOutcomeAttestation) (key : SigningKeyReference)
    (state : SignedAttestationTrustState) (authorities : Dict Bytes) :
    Except PyError SignedReliabilityOutcomeEnvelope := do
  require ⟨.valueError, lit ("attestation signing_key_id does not match the external signing key " ++
    "reference")⟩ (a.signingKeyId = some key.keyId)
  let _ ← state.verify ed25519 authorities
  let anchor ← signingKeyStatus state key.keyId
  require ⟨.valueError, lit "external signing key digest does not match trust-state anchor"⟩
    (decide (∀ d ∈ key.publicKeyDigest, d = sha256 anchor.publicKey))
  let placeholder ← createEnvelope a key.keyId (Utf8.ascii (lit "placeholder"))
  let content ← placeholder.payloadBytes
  let signature ← sign provider key content
  createEnvelope a key.keyId signature

/-- `sign_and_record_reliability_outcome`,
`services/reliability_attestation_service.py:407–446`. -/
def signAndRecord (a : ReliabilityOutcomeAttestation) (key : SigningKeyReference)
    (state : SignedAttestationTrustState) (authorities : Dict Bytes) (file : Option Bytes) :
    Except PyError SignedReliabilityOutcomeBinding × Option Bytes :=
  match signedEnvelope ed25519 provider a key state authorities with
  | .error e => (.error e, file)
  | .ok envelope => recordSigned ed25519 envelope state authorities file

/-- `attest_signed_reliability_outcome`,
`services/reliability_attestation_service.py:449–477`. -/
def attestSigned (r : Request) (key : SigningKeyReference) (state : SignedAttestationTrustState)
    (authorities : Dict Bytes) (now : Datetime) (file : Option Bytes) :
    Except PyError SignedReliabilityOutcomeBinding × Option Bytes :=
  match build r now (some key.keyId) file with
  | .error e => (.error e, file)
  | .ok a => signAndRecord ed25519 provider a key state authorities file

end Signatures

end StateWake.Attestation
