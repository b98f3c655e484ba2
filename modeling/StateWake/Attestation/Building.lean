import StateWake.Attestation.Calls

/-!
# Building an attestation

An attestation is built of what the request says at a time and of the tip of the store. Built
again at the same time, it differs in the tip alone.
-/

namespace StateWake.Attestation

open StateWake.Base Text Utils RegisterHistory Reliability Trust Store

/-! ### Contents without the place in the chain -/

private theorem text_injective_state : Function.Injective ReliabilityState.text := fun s t h ↦ by
  have hs := ReliabilityState.ofText?_text s
  rw [h, ReliabilityState.ofText?_text] at hs
  exact (Option.some.inj hs).symm

private theorem text_injective_decision : Function.Injective Decision.text := fun s t h ↦ by
  have hs := Decision.ofText?_text s
  rw [h, Decision.ofText?_text] at hs
  exact (Option.some.inj hs).symm

private theorem text_injective_verification : Function.Injective VerificationStatus.text :=
  fun s t h ↦ by
    have hs := VerificationStatus.ofText?_text s
    rw [h, VerificationStatus.ofText?_text] at hs
    exact (Option.some.inj hs).symm

private theorem text_injective_reconciliation : Function.Injective ReconciliationState.text :=
  fun s t h ↦ by
    have hs := ReconciliationState.ofText?_text s
    rw [h, ReconciliationState.ofText?_text] at hs
    exact (Option.some.inj hs).symm

variable {ed25519 : Bytes → Bytes → Bytes → Bool}
  {provider : SigningKeyReference → Bytes → Except PyError Bytes} {file file' : Option Bytes}
  {h : List Entry} {a c : ReliabilityOutcomeAttestation} {b : SignedReliabilityOutcomeBinding}

/-- The unsigned append compares everything but the place in the chain. -/
theorem unchained_eq_iff : unchained a = unchained c ↔
    a.toOutcome.relinked [] = c.toOutcome.relinked [] := by
  have hunchained : ∀ o : Outcome, o.payload.erase (lit "previous_digest") =
      [(lit "attestation_id", .str o.attestationId), (lit "subject_id", .str o.subjectId),
        (lit "occurred_at", .str o.occurredAt), (lit "actor", .str o.actor),
        (lit "evidence_chain_id", .str o.evidenceChainId),
        (lit "evidence_chain_digest", .str o.evidenceChainDigest),
        (lit "transition_id", .str o.transitionId),
        (lit "transition_digest", .str o.transitionDigest),
        (lit "reliability_state", .str o.reliabilityState.text),
        (lit "decision", .str o.decision.text),
        (lit "verification_status", .str o.verificationStatus.text),
        (lit "reconciliation_state", .str o.reconciliationState.text),
        (lit "decision_rationale", .arr (o.decisionRationale.map .str)),
        (lit "signing_key_id", optionJson o.signingKeyId)] := by
    intro o
    simp [Outcome.payload, Dict.erase]
  have hstr : Function.Injective Json.str := fun _ _ ↦ Json.str.inj
  obtain ⟨o, -, -⟩ := a
  obtain ⟨p, -, -⟩ := c
  cases o
  cases p
  simp only [unchained, hunchained, Outcome.relinked, List.cons.injEq, Prod.mk.injEq, true_and,
    Json.str.injEq, Json.arr.injEq, and_true, Outcome.mk.injEq,
    (List.map_injective_iff.mpr hstr).eq_iff, text_injective_state.eq_iff,
    text_injective_decision.eq_iff, text_injective_verification.eq_iff,
    text_injective_reconciliation.eq_iff, optionJson_injective.eq_iff]

/-- An attestation can be built on any tip. -/
theorem create_relinked (a : ReliabilityOutcomeAttestation) {tip : Text}
    (htip : tip = [] ∨ isSha256 tip = true) :
    ∃ c, ReliabilityOutcomeAttestation.create (a.toOutcome.relinked tip) [] = .ok c ∧
      c.toOutcome = a.toOutcome.relinked tip := by
  have hlawful : (a.toOutcome.relinked tip).Lawful := { a.lawful with linked := htip }
  have hfree : SurrogateFree tip := by
    rcases htip with rfl | htip
    · exact nofun
    · exact surrogateFree_of_isSha256 htip
  have hdigest : ∃ d, (a.toOutcome.relinked tip).computedDigest = .ok d :=
    (Outcome.computedDigest_isOk_iff _).mpr
      ⟨hfree, ((Outcome.computedDigest_isOk_iff _).mp a.encodable).2⟩
  exact ⟨⟨_, hlawful, hdigest⟩, ReliabilityOutcomeAttestation.create_self
    ⟨_, hlawful, hdigest⟩ (.inl rfl), rfl⟩

/-! ### Building again -/

/-- What a request says at a time, apart from the tip it is built on. -/
def outline (r : Request) (signingKeyId : Option Text) (occurredAt : Text) :
    Except PyError Outcome := do
  let chain := r.chain
  let transition := r.transition
  require ⟨.valueError,
    lit "reliability state transition is not bound to the supplied evidence chain."⟩
    (transition.evidenceChainId = chain.chainId)
  let chainDigest ← chain.digest
  require ⟨.valueError, lit ("reliability state transition evidence-chain digest does not match " ++
    "the supplied chain.")⟩ (transition.evidenceChainDigest = chainDigest)
  require ⟨.valueError, lit "transition subject_id must not be empty."⟩
    (!blank transition.subjectId)
  let attestationId ← stableId transition.subjectId chain transition occurredAt
  let transitionDigest ← transition.computedDigest
  pure
    { attestationId
      subjectId := transition.subjectId
      occurredAt
      actor := r.actor
      evidenceChainId := chain.chainId
      evidenceChainDigest := chainDigest
      transitionId := transition.transitionId
      transitionDigest
      reliabilityState := transition.toState
      decision := transition.decision
      verificationStatus := chain.verificationStatus
      reconciliationState := chain.reconciliationState
      decisionRationale :=
        if transition.rationale = [] then chain.decisionRationale else transition.rationale
      signingKeyId
      previousDigest := [] }

variable {r : Request} {now later : Datetime} {signingKeyId : Option Text}

/-- An attestation is built of the request's outline and the tip. -/
theorem build_eq_ok : build r now signingKeyId file = .ok a ↔
    ∃ occurredAt s o, r.when now = .ok occurredAt ∧ readSnapshotUnlocked file = .ok s ∧
      outline r signingKeyId occurredAt = .ok o ∧
        ReliabilityOutcomeAttestation.create (o.relinked s.tipDigest) [] = .ok a := by
  simp only [build, outline, bind_eq_ok]
  constructor
  · rintro ⟨u, hchain, d, hd, u', hbound, u'', hnamed, w, hw, s, hs, id, hid, t, ht, hcreate⟩
    exact ⟨w, s, _, hw, hs, ⟨u, hchain, d, hd, u', hbound, u'', hnamed, id, hid, t, ht, rfl⟩,
      hcreate⟩
  · rintro ⟨w, s, o, hw, hs, ⟨u, hchain, d, hd, u', hbound, u'', hnamed, id, hid, t, ht, ho⟩,
      hcreate⟩
    cases ho
    exact ⟨u, hchain, d, hd, u', hbound, u'', hnamed, w, hw, s, hs, id, hid, t, ht, hcreate⟩

theorem occurredAt_of_outline {occurredAt : Text} {o : Outcome}
    (ho : outline r signingKeyId occurredAt = .ok o) : o.occurredAt = occurredAt := by
  simp only [outline, bind_eq_ok] at ho
  obtain ⟨_, -, d, -, _, -, _, -, id, -, t, -, ho⟩ := ho
  cases ho
  rfl

/-- A built attestation carries the request's time and the tip. -/
theorem build_spec (hr : Represents file h) (hb : build r now signingKeyId file = .ok a) :
    r.when now = .ok a.occurredAt ∧ a.previousDigest = (after h).tipDigest := by
  obtain ⟨w, s, o, hw, hs, ho, hcreate⟩ := build_eq_ok.mp hb
  rw [readSnapshotUnlocked_represents hr] at hs
  cases hs
  rw [(ReliabilityOutcomeAttestation.create_eq_ok hcreate).1, hw]
  exact ⟨congrArg Except.ok (occurredAt_of_outline ho).symm, rfl⟩

theorem tipDigest_form (s : Snapshot) : s.tipDigest = [] ∨ isSha256 s.tipDigest = true := by
  rw [Snapshot.tipDigest]
  cases s.records.getLast? with
  | none => exact .inl rfl
  | some c => exact .inr c.isSha256_digest

/-- At the same time a request is built again, on the tip of the moment. -/
theorem build_again (hb : build r now signingKeyId file = .ok a)
    (hwhen : r.when now = r.when later) (hr : Represents file' h) :
    ∃ c, build r later signingKeyId file' = .ok c ∧
      c.toOutcome = a.toOutcome.relinked (after h).tipDigest := by
  obtain ⟨w, s, o, hw, -, ho, hcreate⟩ := build_eq_ok.mp hb
  have ha := (ReliabilityOutcomeAttestation.create_eq_ok hcreate).1
  obtain ⟨c, hc, hcontent⟩ := create_relinked a (tipDigest_form (after h))
  refine ⟨c, build_eq_ok.mpr ⟨w, after h, o, hwhen ▸ hw, readSnapshotUnlocked_represents hr, ho, ?_⟩,
    hcontent⟩
  rwa [ha] at hc

end StateWake.Attestation
