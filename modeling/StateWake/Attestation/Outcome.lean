import StateWake.Reliability.EvidenceChain

/-!
# Reliability-outcome attestations

`domain/reliability_attestation.py`. An attestation exists only when its constructor accepted
it; the constructor also computes the digest, so every text of an attestation can be encoded.
The persisted form carries a format marker that enters neither the payload nor the digest.
-/

namespace StateWake.Attestation

open StateWake.Base Text Utils Reliability

/-- The fields of an attestation but the digest, `domain/reliability_attestation.py:33–47`. -/
structure Outcome where
  attestationId : Text
  subjectId : Text
  occurredAt : Text
  actor : Text
  evidenceChainId : Text
  evidenceChainDigest : Text
  transitionId : Text
  transitionDigest : Text
  reliabilityState : ReliabilityState
  decision : Decision
  verificationStatus : VerificationStatus
  reconciliationState : ReconciliationState
  decisionRationale : List Text
  signingKeyId : Option Text
  previousDigest : Text
  deriving DecidableEq

/-- The decision an outcome calls for, `domain/reliability_attestation.py:80–85`. -/
def expectedDecision : ReliabilityState → Option Decision
  | .reliable | .recovered => some .accept
  | .degraded => some .review
  | .unreliable => some .reject
  | .unknown => none

namespace Outcome

/-- `payload()`, `domain/reliability_attestation.py:103–121`. -/
def payload (o : Outcome) : Dict Json :=
  [(lit "attestation_id", .str o.attestationId),
    (lit "subject_id", .str o.subjectId),
    (lit "occurred_at", .str o.occurredAt),
    (lit "actor", .str o.actor),
    (lit "evidence_chain_id", .str o.evidenceChainId),
    (lit "evidence_chain_digest", .str o.evidenceChainDigest),
    (lit "transition_id", .str o.transitionId),
    (lit "transition_digest", .str o.transitionDigest),
    (lit "reliability_state", .str o.reliabilityState.text),
    (lit "decision", .str o.decision.text),
    (lit "verification_status", .str o.verificationStatus.text),
    (lit "reconciliation_state", .str o.reconciliationState.text),
    (lit "decision_rationale", .arr (o.decisionRationale.map .str)),
    (lit "signing_key_id", optionJson o.signingKeyId),
    (lit "previous_digest", .str o.previousDigest)]

/-- `computed_digest()`, `domain/reliability_attestation.py:123–125`. -/
def computedDigest (o : Outcome) : Except PyError Text := do
  let content ← canonicalBytes o.payload
  pure (sha256 content)

/-- What the constructor raises before it computes the digest,
`domain/reliability_attestation.py:52–98`. -/
def defect? (o : Outcome) : Option Text :=
  if isSha256 o.evidenceChainDigest = false then
    some (lit "evidence_chain_digest must be lowercase SHA-256 hex.")
  else if isSha256 o.transitionDigest = false then
    some (lit "transition_digest must be lowercase SHA-256 hex.")
  else if o.previousDigest ≠ [] ∧ isSha256 o.previousDigest = false then
    some (lit "previous_digest must be lowercase SHA-256 hex.")
  else if blank o.attestationId = true ∨ blank o.subjectId = true ∨ blank o.actor = true then
    some (lit "attestation_id, subject_id, and actor must not be empty.")
  else if o.reliabilityState = .unknown then
    some (lit "unsupported attested reliability state.")
  else if o.decision = .undecided then
    some (lit "decision must be accept, review, or reject.")
  else if o.verificationStatus ≠ .verified then
    some (lit "reliability outcome attestation requires verified evidence.")
  else if o.reconciliationState ≠ .verified ∧ o.reconciliationState ≠ .recovered then
    some (lit ("reliability outcome attestation requires verified or recovered " ++
      "reconciliation state."))
  else if expectedDecision o.reliabilityState ≠ some o.decision then
    some (lit "decision '" ++ o.decision.text ++ lit "' does not match reliability state '" ++
      o.reliabilityState.text ++ lit "'.")
  else if o.reliabilityState = .recovered ∧ o.reconciliationState ≠ .recovered then
    some (lit "recovered reliability outcome requires recovered reconciliation state.")
  else none

/-- What the constructor checks. -/
structure Lawful (o : Outcome) : Prop where
  chainDigested : isSha256 o.evidenceChainDigest = true
  transitionDigested : isSha256 o.transitionDigest = true
  linked : o.previousDigest = [] ∨ isSha256 o.previousDigest = true
  named : blank o.attestationId = false ∧ blank o.subjectId = false ∧ blank o.actor = false
  known : o.reliabilityState ≠ .unknown
  decided : o.decision ≠ .undecided
  verified : o.verificationStatus = .verified
  reconciled : o.reconciliationState = .verified ∨ o.reconciliationState = .recovered
  expected : expectedDecision o.reliabilityState = some o.decision
  recovers : o.reliabilityState = .recovered → o.reconciliationState = .recovered

private theorem guard_eq_none {p : Prop} [Decidable p] {message : Text} {rest : Option Text} :
    (if p then some message else rest) = none ↔ ¬p ∧ rest = none := by
  by_cases h : p
  · rw [if_pos h]
    exact iff_of_false (Option.some_ne_none _) fun hn ↦ hn.1 h
  · rw [if_neg h]
    exact ⟨fun hr ↦ ⟨h, hr⟩, And.right⟩

theorem defect?_eq_none_iff {o : Outcome} : o.defect? = none ↔ o.Lawful := by
  simp only [defect?, guard_eq_none, Bool.not_eq_false, not_and, not_or, Bool.not_eq_true,
    not_not, and_true]
  constructor
  · rintro ⟨hchain, htransition, hlinked, hnamed, hknown, hdecided, hverified, hreconciled,
      hexpected, hrecovers⟩
    have hlinked' : o.previousDigest = [] ∨ isSha256 o.previousDigest = true := by
      by_cases hn : o.previousDigest = []
      · exact .inl hn
      · exact .inr (hlinked hn)
    have hreconciled' : o.reconciliationState = .verified ∨
        o.reconciliationState = .recovered := by
      by_cases hr : o.reconciliationState = .verified
      · exact .inl hr
      · exact .inr (hreconciled hr)
    exact ⟨hchain, htransition, hlinked', hnamed, hknown, hdecided, hverified, hreconciled',
      hexpected, hrecovers⟩
  · intro h
    exact ⟨h.chainDigested, h.transitionDigested, h.linked.resolve_left, h.named, h.known,
      h.decided, h.verified, h.reconciled.resolve_left, h.expected, h.recovers⟩

/-- The texts of an outcome but the place in the chain and names of the program's own. -/
def contents (o : Outcome) : List Text :=
  [o.attestationId, o.subjectId, o.occurredAt, o.actor, o.evidenceChainId, o.evidenceChainDigest,
    o.transitionId, o.transitionDigest] ++ o.decisionRationale ++ o.signingKeyId.toList

theorem writable_payload (o : Outcome) : Json.Writable (.obj o.payload) := by
  simp [payload, Dict.Distinct]

private theorem mem_texts_payload {o : Outcome} {t : Text}
    (ht : t ∈ Json.texts (.obj o.payload)) :
    SurrogateFree t ∨ t = o.previousDigest ∨ t ∈ o.contents := by
  have hstate : SurrogateFree o.reliabilityState.text := by
    cases o.reliabilityState <;> exact surrogateFree_lit _
  have hdecision : SurrogateFree o.decision.text := by
    cases o.decision <;> exact surrogateFree_lit _
  have hverification : SurrogateFree o.verificationStatus.text := by
    cases o.verificationStatus <;> exact surrogateFree_lit _
  have hreconciliation : SurrogateFree o.reconciliationState.text := by
    cases o.reconciliationState <;> exact surrogateFree_lit _
  obtain ⟨m, hm, ht⟩ := Json.mem_texts_obj.mp ht
  simp only [payload, List.mem_cons, List.not_mem_nil, or_false] at hm
  rcases ht with rfl | ht
  · left
    rcases hm with rfl | rfl | rfl | rfl | rfl | rfl | rfl | rfl | rfl | rfl | rfl | rfl | rfl |
      rfl | rfl <;> exact surrogateFree_lit _
  · rcases hm with rfl | rfl | rfl | rfl | rfl | rfl | rfl | rfl | rfl | rfl | rfl | rfl | rfl |
      rfl | rfl
    all_goals try
      rw [Json.mem_texts_str] at ht
      subst ht
      first
        | exact .inl ‹_›
        | exact .inr (.inl rfl)
        | exact .inr (.inr (List.mem_append_left _ (List.mem_append_left _ (by simp))))
    · obtain ⟨v, hv, ht⟩ := Json.mem_texts_arr.mp ht
      obtain ⟨r, hr, rfl⟩ := List.mem_map.mp hv
      rw [Json.mem_texts_str.mp ht]
      exact .inr (.inr (List.mem_append_left _ (List.mem_append_right _ hr)))
    · exact .inr (.inr (List.mem_append_right _ (Option.mem_toList.mpr
        (mem_texts_optionJson.mp ht))))

/-- An outcome has a digest exactly when its texts can be encoded. -/
theorem computedDigest_isOk_iff (o : Outcome) :
    (∃ digest, o.computedDigest = .ok digest) ↔
      SurrogateFree o.previousDigest ∧ ∀ t ∈ o.contents, SurrogateFree t := by
  have hok : (∃ digest, o.computedDigest = .ok digest) ↔
      ∃ content, canonicalBytes o.payload = .ok content := by
    constructor
    · rintro ⟨digest, h⟩
      obtain ⟨content, hcontent, -⟩ := bind_eq_ok.mp h
      exact ⟨content, hcontent⟩
    · rintro ⟨content, hcontent⟩
      exact ⟨sha256 content, by rw [computedDigest, hcontent]; rfl⟩
  rw [hok, canonicalBytes_isOk_iff o.writable_payload]
  constructor
  · intro h
    have hmember : ∀ m ∈ o.payload, ∀ t ∈ Json.texts m.2, SurrogateFree t := fun m hm t ht ↦
      h t (Json.mem_texts_obj.mpr ⟨m, hm, .inr ht⟩)
    simp only [payload, List.forall_mem_cons, List.not_mem_nil, IsEmpty.forall_iff, implies_true,
      and_true, Json.mem_texts_str, forall_eq, Json.mem_texts_arr, List.mem_map,
      exists_exists_and_eq_and, exists_eq_right', mem_texts_optionJson] at hmember
    obtain ⟨hid, hsubject, hoccurred, hactor, hchain, hchainDigest, htransition,
      htransitionDigest, -, -, -, -, hrationale, hkey, hprevious⟩ := hmember
    refine ⟨hprevious, ?_⟩
    simp only [contents, List.forall_mem_append, List.forall_mem_cons, List.not_mem_nil,
      IsEmpty.forall_iff, implies_true, and_true, Option.mem_toList]
    exact ⟨⟨⟨hid, hsubject, hoccurred, hactor, hchain, hchainDigest, htransition,
      htransitionDigest⟩, hrationale⟩, hkey⟩
  · rintro ⟨hprevious, hcontents⟩ t ht
    rcases mem_texts_payload ht with hfree | rfl | ht
    · exact hfree
    · exact hprevious
    · exact hcontents t ht

/-- An outcome at another place in the chain. -/
def relinked (o : Outcome) (previousDigest : Text) : Outcome :=
  { o with previousDigest := previousDigest }

@[simp] theorem contents_relinked (o : Outcome) (tip : Text) :
    (o.relinked tip).contents = o.contents := rfl

end Outcome

/-- `ReliabilityOutcomeAttestation`, `domain/reliability_attestation.py:29–101`, with what its
constructor checked. -/
structure ReliabilityOutcomeAttestation extends Outcome where
  lawful : toOutcome.Lawful
  encodable : ∃ digest, toOutcome.computedDigest = .ok digest
  deriving DecidableEq

namespace ReliabilityOutcomeAttestation

/-- The digest the constructor stores, `domain/reliability_attestation.py:99–101`. -/
def digest (a : ReliabilityOutcomeAttestation) : Text :=
  a.computedDigest.toOption.getD []

/-- The constructor, `__post_init__` at `domain/reliability_attestation.py:50–101`. -/
def create (o : Outcome) (digest : Text) : Except PyError ReliabilityOutcomeAttestation :=
  match lawful : o.defect? with
  | some message => valueError message
  | none =>
    match encodable : o.computedDigest with
    | .error e => .error e
    | .ok computed =>
      if digest = [] ∨ digest = computed then
        .ok ⟨o, Outcome.defect?_eq_none_iff.mp lawful, computed, encodable⟩
      else valueError (lit "reliability outcome attestation digest mismatch.")

theorem computedDigest_eq (a : ReliabilityOutcomeAttestation) :
    a.computedDigest = .ok a.digest := by
  obtain ⟨digest, h⟩ := a.encodable
  rw [ReliabilityOutcomeAttestation.digest, h]
  rfl

/-- An attestation passes its own constructor, with its digest or without one. -/
theorem create_self (a : ReliabilityOutcomeAttestation) {digest : Text}
    (hd : digest = [] ∨ digest = a.digest) : create a.toOutcome digest = .ok a := by
  unfold create
  split
  · next message hm =>
    rw [Outcome.defect?_eq_none_iff.mpr a.lawful] at hm
    cases hm
  · split
    · next e he =>
      rw [a.computedDigest_eq] at he
      cases he
    · next computed hc =>
      rw [a.computedDigest_eq] at hc
      cases hc
      rw [if_pos hd]

/-- The constructor keeps its arguments. -/
theorem create_eq_ok {o : Outcome} {digest : Text} {a : ReliabilityOutcomeAttestation}
    (h : create o digest = .ok a) : a.toOutcome = o ∧ (digest = [] ∨ digest = a.digest) := by
  unfold create at h
  split at h
  · cases h
  · split at h
    · cases h
    · next computed hc =>
      split at h
      · next hd =>
        cases h
        refine ⟨rfl, ?_⟩
        rwa [ReliabilityOutcomeAttestation.digest, hc]
      · cases h

/-- Equal fields make equal attestations. -/
theorem toOutcome_injective : Function.Injective toOutcome := fun a b h ↦ by
  cases a
  cases b
  cases h
  rfl

theorem isSha256_digest (a : ReliabilityOutcomeAttestation) : isSha256 a.digest = true := by
  obtain ⟨content, -, hd⟩ := bind_eq_ok.mp a.computedDigest_eq
  rw [← Except.ok.inj hd]
  exact isSha256_sha256 content

theorem digest_ne_nil (a : ReliabilityOutcomeAttestation) : a.digest ≠ [] := by
  intro h
  have hform := a.isSha256_digest
  rw [h] at hform
  cases hform

/-- `to_dict()`, `domain/reliability_attestation.py:127–133`. -/
def toDict (a : ReliabilityOutcomeAttestation) : Dict Json :=
  (lit "format_version", .str (lit "1")) :: a.payload ++ [(lit "digest", .str a.digest)]

/-- `from_dict`, `domain/reliability_attestation.py:135–167`. A name outside an enumeration is
read as a member the constructor refuses with the same message. -/
def fromDict (members : Dict Json) : Except PyError ReliabilityOutcomeAttestation := do
  require ⟨.valueError, lit "unsupported reliability outcome attestation format version."⟩
    (decide (∀ version ∈ nullableText members (lit "format_version"), version = lit "1"))
  let attestationId ← requiredText members (lit "attestation_id")
  let subjectId ← requiredText members (lit "subject_id")
  let occurredAt ← requiredText members (lit "occurred_at")
  let actor ← requiredText members (lit "actor")
  let evidenceChainId ← requiredText members (lit "evidence_chain_id")
  let evidenceChainDigest ← requiredText members (lit "evidence_chain_digest")
  let transitionId ← requiredText members (lit "transition_id")
  let transitionDigest ← requiredText members (lit "transition_digest")
  let reliabilityState ← requiredText members (lit "reliability_state")
  let decision ← requiredText members (lit "decision")
  let verificationStatus ← requiredText members (lit "verification_status")
  let reconciliationState ← requiredText members (lit "reconciliation_state")
  let decisionRationale ← stringSequence
    ((members.get? (lit "decision_rationale")).getD (.arr [])) (lit "decision_rationale")
  create
    { attestationId, subjectId, occurredAt, actor, evidenceChainId, evidenceChainDigest,
      transitionId, transitionDigest, decisionRationale
      reliabilityState := (ReliabilityState.ofText? reliabilityState).getD .unknown
      decision := (Decision.ofText? decision).getD .undecided
      verificationStatus := (VerificationStatus.ofText? verificationStatus).getD .unverified
      reconciliationState := (ReconciliationState.ofText? reconciliationState).getD .pending
      signingKeyId := nullableText members (lit "signing_key_id")
      previousDigest := optionalText members (lit "previous_digest") }
    (optionalText members (lit "digest"))

theorem writable_toDict (a : ReliabilityOutcomeAttestation) : Json.Writable (.obj a.toDict) := by
  simp [toDict, Outcome.payload, Dict.Distinct]

/-- Every text of an attestation can be encoded. -/
theorem surrogateFree_texts (a : ReliabilityOutcomeAttestation) :
    ∀ t ∈ Json.texts (.obj a.toDict), SurrogateFree t := by
  obtain ⟨content, hcontent, -⟩ := bind_eq_ok.mp a.computedDigest_eq
  have hpayload := (canonicalBytes_isOk_iff a.toOutcome.writable_payload).mp ⟨content, hcontent⟩
  intro t ht
  rw [toDict, Json.mem_texts_obj] at ht
  obtain ⟨m, hm, ht⟩ := ht
  rw [List.cons_append, List.mem_cons, List.mem_append, List.mem_singleton] at hm
  rcases hm with rfl | hm | rfl
  · rcases ht with rfl | ht
    · exact surrogateFree_lit _
    · rw [Json.mem_texts_str.mp ht]
      exact surrogateFree_lit _
  · exact hpayload t (Json.mem_texts_obj.mpr ⟨m, hm, ht⟩)
  · rcases ht with rfl | ht
    · exact surrogateFree_lit _
    · rw [Json.mem_texts_str.mp ht]
      exact surrogateFree_of_isSha256 a.isSha256_digest

/-- Members that read as a written attestation give it back. -/
theorem fromDict_of_readsAs {members : Dict Json} {a : ReliabilityOutcomeAttestation}
    (h : ReadsAs members a.toDict) : fromDict members = .ok a := by
  have hversion : nullableText members (lit "format_version") = some (lit "1") :=
    h.nullableText (lit "format_version") (some (lit "1")) (by simp [toDict, optionJson])
  have hrationale : members.get? (lit "decision_rationale") =
      some (.arr (a.decisionRationale.map .str)) := by
    rw [h (lit "decision_rationale") (.arr (a.decisionRationale.map .str))
      (by simp [toDict, Outcome.payload]), Json.sortKeys_arr, List.map_map]
    rfl
  have hprevious : optionalText members (lit "previous_digest") = a.previousDigest :=
    optionalText_of_get? (h (lit "previous_digest") (.str a.previousDigest)
      (by simp [toDict, Outcome.payload]))
  have hdigest : optionalText members (lit "digest") = a.digest :=
    optionalText_of_get? (h (lit "digest") (.str a.digest) (by simp [toDict, Outcome.payload]))
  have htext : ∀ (key value : Text), a.toDict.get? key = some (.str value) →
      requiredText members key = .ok value := h.requiredText
  rw [fromDict, hversion, hrationale, hprevious, hdigest,
    htext (lit "attestation_id") a.attestationId (by simp [toDict, Outcome.payload]),
    htext (lit "subject_id") a.subjectId (by simp [toDict, Outcome.payload]),
    htext (lit "occurred_at") a.occurredAt (by simp [toDict, Outcome.payload]),
    htext (lit "actor") a.actor (by simp [toDict, Outcome.payload]),
    htext (lit "evidence_chain_id") a.evidenceChainId (by simp [toDict, Outcome.payload]),
    htext (lit "evidence_chain_digest") a.evidenceChainDigest (by simp [toDict, Outcome.payload]),
    htext (lit "transition_id") a.transitionId (by simp [toDict, Outcome.payload]),
    htext (lit "transition_digest") a.transitionDigest (by simp [toDict, Outcome.payload]),
    htext (lit "reliability_state") a.reliabilityState.text (by simp [toDict, Outcome.payload]),
    htext (lit "decision") a.decision.text (by simp [toDict, Outcome.payload]),
    htext (lit "verification_status") a.verificationStatus.text
      (by simp [toDict, Outcome.payload]),
    htext (lit "reconciliation_state") a.reconciliationState.text
      (by simp [toDict, Outcome.payload]),
    h.nullableText (lit "signing_key_id") a.signingKeyId (by simp [toDict, Outcome.payload])]
  simp only [Option.mem_def, Option.some.injEq, forall_eq', decide_true, require_true, ok_bind,
    Option.getD_some, stringSequence_texts, ReliabilityState.ofText?_text, Decision.ofText?_text,
    VerificationStatus.ofText?_text, ReconciliationState.ofText?_text]
  exact a.create_self (.inr rfl)

end ReliabilityOutcomeAttestation
end StateWake.Attestation
