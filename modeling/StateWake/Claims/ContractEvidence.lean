import StateWake.Claims.AIContracts
import StateWake.Claims.BuiltinProfiles

/-!
# Contracts as the evidence a profile requires

A built-in profile names the contract types it requires; a captured contract serves the
requirement that names its own type. Three tables of aliases decide about it: one of the match of a
reference, one of the resolution in a workspace, and one of the kinds references are made with.
-/

namespace StateWake.Claims

open StateWake.Base Text Utils Reliability Lifecycle

/-- The contract types that a requirement names: a requirement for evidence of a role names the
type of the role. -/
def evidenceRoles : Dict Text :=
  [(lit "prompt_evidence", lit "prompt"), (lit "retrieval_evidence", lit "retrieval"),
    (lit "policy_evidence", lit "policy"), (lit "evaluator_evidence", lit "evaluator")]

/-- The requirement names the contract type. -/
def Names (requirement contractType : Text) : Prop :=
  namedIn evidenceRoles requirement = contractType

instance (requirement contractType : Text) : Decidable (Names requirement contractType) :=
  inferInstanceAs (Decidable (_ = _))

/-- The contract types a match accepts for a requirement. -/
def structuralTypes (requirement : Text) : List Text :=
  [requirement, aliasIn contractAliases requirement]

/-- The contract types that a resolution in a workspace accepts for a requirement. -/
def workspaceTypes (requirement : Text) : List Text :=
  [requirement, aliasIn resolvedAliases requirement]

/-- A reference of kind `evidence` to an item. -/
def IsOf (item : EvidenceItem) (reference : EvidenceReference) : Prop :=
  reference.kind = lit "evidence" ∧ reference.identity = item.evidenceId ∧
    some reference.digest = item.digest

/-- The references of kind `evidence` to a contract's item are accepted for the requirement exactly
where it names the contract's type. -/
def ItemServes (c : AIContract) (requirement : Text) : Prop :=
  ∃ item, c.toEvidenceItem = .ok item ∧ (∃ reference, IsOf item reference) ∧
    ∀ reference, IsOf item reference →
      (referenceMatchesAiContract reference requirement = true ↔ Names requirement c.contractType)

/-- So is the reference that is made of the captured contract. -/
def CaptureServes (c : AIContract) (requirement : Text) : Prop :=
  ∃ result reference, captureContract c = .ok result ∧
    profileEvidenceReference result = .ok reference ∧
    (referenceMatchesAiContract reference requirement = true ↔ Names requirement c.contractType)

/-- A contract serves the requirements of the built-in profiles that name its type and no others,
and both evaluations accept the same types. -/
def Serves (c : AIContract) (requirement : Text) : Prop :=
  (requirement ∈ builtinRequirements → ItemServes c requirement ∧ CaptureServes c requirement) ∧
    ∀ contractType, contractType ∈ structuralTypes requirement ↔
      contractType ∈ workspaceTypes requirement

/-! ### Identities -/

/-- Prefixes that end with the first colon are equal. -/
theorem eq_of_colonless {name name' rest rest' : Text} (h : 0x3A ∉ name) (h' : 0x3A ∉ name')
    (heq : name ++ 0x3A :: rest = name' ++ 0x3A :: rest') : name = name' := by
  have hwhile (s t : Text) (hs : 0x3A ∉ s) : (s ++ 0x3A :: t).takeWhile (· ≠ 0x3A) = s := by
    rw [List.takeWhile_append_of_pos]
    · simp
    · intro c hc
      simp only [ne_eq, decide_not, Bool.not_eq_true', decide_eq_false_iff_not]
      rintro rfl
      exact hs hc
  rw [← hwhile name rest h, heq, hwhile name' rest' h']

/-- The prefix of a name is one of the identities of the type of that name, and of no other. -/
theorem isPrefixOf_identity {name contractType : Text} (rest : Text) (hn : 0x3A ∉ name)
    (hc : 0x3A ∉ contractType) :
    (identityPrefix name).isPrefixOf (identityPrefix contractType ++ rest) = true ↔
      name = contractType := by
  have hcolon : lit ":" = [0x3A] := rfl
  rw [List.isPrefixOf_iff_prefix, identityPrefix, identityPrefix, List.append_assoc,
    List.append_assoc, List.append_assoc, List.prefix_append_right_inj, hcolon]
  constructor
  · rintro ⟨t, ht⟩
    rw [List.append_assoc] at ht
    exact eq_of_colonless hn hc ht
  · rintro rfl
    exact ⟨rest, by rw [List.append_assoc]⟩

/-- A reference with an identity of a contract type is accepted for a requirement without a colon
that accepts the type, where its kind is. -/
theorem referenceMatchesAiContract_iff {reference : EvidenceReference}
    {contractType requirement rest : Text} (hc : 0x3A ∉ contractType)
    (hr : ∀ name ∈ structuralTypes requirement, 0x3A ∉ name) (hrest : rest ≠ [])
    (hidentity : reference.identity = identityPrefix contractType ++ rest) :
    referenceMatchesAiContract reference requirement = true ↔
      (reference.kind = lit "evidence" ∨ reference.kind = lit "ai-contract:" ++ requirement) ∧
        contractType ∈ structuralTypes requirement := by
  have hlength : 0 < rest.length := List.length_pos_iff.mpr hrest
  rw [referenceMatchesAiContract, Bool.and_eq_true, Bool.or_eq_true, decide_eq_true_eq,
    decide_eq_true_eq, List.any_eq_true]
  apply and_congr_right
  intro _
  constructor
  · rintro ⟨name, hname, hmatch⟩
    rw [Bool.and_eq_true, hidentity] at hmatch
    obtain rfl := (isPrefixOf_identity rest (hr name hname) hc).mp hmatch.1
    exact hname
  · intro hmem
    refine ⟨contractType, hmem, ?_⟩
    rw [Bool.and_eq_true, hidentity]
    refine ⟨(isPrefixOf_identity rest hc hc).mpr rfl, ?_⟩
    simp only [identityPrefix, decide_eq_true_eq, List.length_append]
    omega

/-! ### Captured contracts -/

/-- What follows the prefix in the identity of an item. -/
def identityRest (runId digest : Text) : Text := runId ++ lit ":" ++ digest.take 16

theorem identityRest_ne_nil (runId digest : Text) : identityRest runId digest ≠ [] := by
  simp [identityRest, lit]

/-- The item of a constructed contract has an identity of the contract's type, and the digest of
its payload. -/
theorem exists_item (c : ValidContract) : ∃ item payload, c.val.toDict = .ok payload ∧
    c.val.toEvidenceItem = .ok item ∧ item.digest = some (contractDigest payload) ∧
    item.evidenceId = identityPrefix c.val.contractType ++
      identityRest c.val.head.runId (contractDigest payload) ∧
    item.metadata.get? (lit "contract_type") = some c.val.contractType := by
  obtain ⟨payload, hpayload⟩ := exists_toDict c
  have hnamed : blank (identityPrefix c.val.contractType ++ c.val.head.runId ++ lit ":" ++
      (contractDigest payload).take 16) = false := by
    rw [identityPrefix, List.append_assoc, List.append_assoc, List.append_assoc, List.append_assoc]
    exact not_blank_append (by decide) _
  have hsourced : blank (lit "statewake.ai_contracts." ++ c.val.contractType) = false :=
    not_blank_append (by decide) _
  let metadata : Dict Text := [(lit "contract_type", c.val.contractType),
    (lit "producer_id", c.val.head.producerId), (lit "run_id", c.val.head.runId)]
  refine ⟨⟨_, _, some (contractDigest payload), none, metadata, lit "internal", hnamed, hsourced,
    by simp, by decide⟩, payload, hpayload, ?_, rfl, ?_, ?_⟩
  · rw [AIContract.toEvidenceItem, hpayload, ok_bind, evidenceItemFromPayload, EvidenceItem.create,
      dif_pos hnamed, dif_pos hsourced, dif_pos (by simp), dif_pos (by decide)]
  · simp only [identityRest, List.append_assoc]
  · simp [metadata]

/-- The names of the contract types. -/
def contractTypes : List Text :=
  [lit "evaluator", lit "human_approval", lit "human_approval_revocation", lit "model_invocation",
    lit "observation", lit "policy", lit "prompt", lit "retrieval", lit "runtime_trace",
    lit "tool_call"]

theorem contractType_mem (c : AIContract) : c.contractType ∈ contractTypes := by
  cases c <;> simp [AIContract.contractType, contractTypes]

/-- No contract type, and nothing a built-in requirement accepts, has a colon. -/
theorem colonless : (∀ contractType ∈ contractTypes, 0x3A ∉ contractType) ∧
    ∀ requirement ∈ builtinRequirements, ∀ name ∈ structuralTypes requirement, 0x3A ∉ name := by
  decide

/-- The types that a match accepts are those the requirement names, but for evaluators. -/
theorem mem_structuralTypes : ∀ requirement ∈ builtinRequirements,
    requirement ≠ lit "evaluator_evidence" → ∀ contractType ∈ contractTypes,
      (contractType ∈ structuralTypes requirement ↔ Names requirement contractType) := by
  decide

/-- The kind of a captured contract's reference is that of a requirement which names the type, but
for evaluators and for the requirement of policy evidence. -/
theorem profileKind_iff : ∀ requirement ∈ builtinRequirements,
    requirement ≠ lit "evaluator_evidence" → ∀ contractType ∈ contractTypes,
      ¬(contractType = lit "policy" ∧ requirement = lit "policy_evidence") →
      (Names requirement contractType ↔
        (namedIn profileKinds contractType = requirement ∧
          contractType ∈ structuralTypes requirement)) := by
  decide

/-- The two evaluations accept the same types for every requirement but that of evaluator
evidence, where only the workspace knows the alias. -/
theorem structuralTypes_iff (requirement : Text) :
    (∀ contractType, contractType ∈ structuralTypes requirement ↔
      contractType ∈ workspaceTypes requirement) ↔ requirement ≠ lit "evaluator_evidence" := by
  constructor
  · rintro h rfl
    exact absurd ((h (lit "evaluator")).mpr (by decide)) (by decide)
  · intro hr contractType
    by_cases hhuman : requirement = lit "human_approval"
    · subst hhuman
      simp [structuralTypes, workspaceTypes, aliasIn, contractAliases, resolvedAliases]
    · have halias : aliasIn contractAliases requirement = aliasIn resolvedAliases requirement := by
        simp [aliasIn, contractAliases, resolvedAliases, Dict.get?_cons, hr, hhuman]
      rw [structuralTypes, workspaceTypes, halias]

/-- The references to an item are accepted as they should be, but for evaluator evidence. -/
theorem itemServes (c : ValidContract) {requirement : Text}
    (hrequired : requirement ∈ builtinRequirements) (hr : requirement ≠ lit "evaluator_evidence") :
    ItemServes c.val requirement := by
  obtain ⟨item, payload, -, hitem, hdigest, hidentity, -⟩ := exists_item c
  have hmem := contractType_mem c.val
  refine ⟨item, hitem, ⟨⟨lit "evidence", item.evidenceId, contractDigest payload, none, none, ?_,
    isSha256_sha256 _, EvidenceReference.unsourced, fun _ ↦ rfl⟩, rfl, rfl, hdigest.symm⟩, ?_⟩
  · rw [item.named]
    decide
  · rintro reference ⟨hkind, hid, -⟩
    rw [referenceMatchesAiContract_iff (colonless.1 _ hmem) (colonless.2 _ hrequired)
      (identityRest_ne_nil _ _) (hid.trans hidentity),
      mem_structuralTypes _ hrequired hr _ hmem]
    exact and_iff_right (.inl hkind)

/-- A constructed contract is captured, and its reference is accepted for what its kind names. -/
theorem exists_capture (c : ValidContract) : ∃ result reference,
    captureContract c.val = .ok result ∧ profileEvidenceReference result = .ok reference ∧
    ∀ requirement ∈ builtinRequirements,
      (referenceMatchesAiContract reference requirement = true ↔
        namedIn profileKinds c.val.contractType = requirement ∧
          c.val.contractType ∈ structuralTypes requirement) := by
  obtain ⟨item, payload, hpayload, hitem, hdigest, hidentity, htype⟩ := exists_item c
  have hmem := contractType_mem c.val
  have hnamed : ¬(blank (lit "ai-contract:" ++ namedIn profileKinds c.val.contractType) = true ∨
      blank item.evidenceId = true) := by
    rw [not_or, Bool.not_eq_true, Bool.not_eq_true]
    exact ⟨not_blank_append (by decide) _, item.named⟩
  have hdigested : isSha256 (contractDigest payload) = true := isSha256_sha256 _
  have hsourced : ∀ s ∈ some item.source, blank s = false := by
    intro s hs
    rw [← Option.some.inj hs]
    exact item.sourced
  refine ⟨⟨c.val, payload, item⟩, ⟨_, _, _, some item.source, none, hnamed, hdigested, hsourced,
    fun h ↦ absurd rfl h⟩, ?_, ?_, ?_⟩
  · rw [captureContract, hpayload, ok_bind, hitem]
    rfl
  · have hreference : ContractCaptureResult.referenceDigest ⟨c.val, payload, item⟩ =
        .ok (contractDigest payload) := by
      have hlength : (contractDigest payload).length = 64 := length_sha256 _
      rw [ContractCaptureResult.referenceDigest, hdigest]
      dsimp only
      rw [if_neg]
      intro hempty
      rw [List.isEmpty_iff.mp hempty] at hlength
      cases hlength
    rw [profileEvidenceReference, hreference, ok_bind]
    dsimp only
    rw [htype, Option.getD_some, evidenceReference, dif_pos hnamed, dif_pos hdigested,
      dif_pos hsourced]
  · intro requirement hrequired
    rw [referenceMatchesAiContract_iff (colonless.1 _ hmem) (colonless.2 _ hrequired)
      (identityRest_ne_nil _ _) hidentity]
    apply and_congr_left
    intro _
    rw [List.append_cancel_left_eq]
    apply or_iff_right
    simp [lit]

/-- A built-in requirement is served by the contracts whose type it names and by no others, alike in
both evaluations, exactly if it is not that of evaluator evidence, nor that of policy evidence met
with a policy contract. -/
theorem serves_iff (c : ValidContract) (requirement : Text) : Serves c.val requirement ↔
    requirement ≠ lit "evaluator_evidence" ∧
      ¬(c.val.contractType = lit "policy" ∧ requirement = lit "policy_evidence") := by
  obtain ⟨result, reference, hcapture, hreference, hmatches⟩ := exists_capture c
  constructor
  · rintro ⟨hserves, htypes⟩
    refine ⟨(structuralTypes_iff requirement).mp htypes, ?_⟩
    rintro ⟨hpolicy, rfl⟩
    obtain ⟨-, result', reference', hcapture', hreference', hmatch⟩ := hserves (by decide)
    rw [hcapture] at hcapture'
    cases hcapture'
    rw [hreference] at hreference'
    cases hreference'
    rw [hmatches _ (by decide), hpolicy] at hmatch
    exact absurd hmatch (by decide)
  · rintro ⟨hr, hpolicy⟩
    refine ⟨fun hrequired ↦
        ⟨itemServes c hrequired hr, result, reference, hcapture, hreference, ?_⟩,
      (structuralTypes_iff requirement).mpr hr⟩
    rw [hmatches requirement hrequired]
    exact (profileKind_iff _ hrequired hr _ (contractType_mem c.val) hpolicy).symm

/-- An evaluation of accuracy on a test set. -/
def accuracyEvaluation : ValidContract where
  val := .evaluator
    { contractVersion := lit "1"
      producerId := lit "evaluator"
      runId := lit "run-1"
      evaluatorId := lit "accuracy"
      evaluatorVersion := lit "1"
      metricVersion := lit "1"
      metricValues := [(lit "accuracy", .int 1)]
      thresholds := [(lit "accuracy", .int 1)]
      datasetIdentity := lit "test"
      evaluatorLimitations := lit "one run"
      capturedAt := .ofUtc RetentionAdapter.epoch
      metadata := none }
  property := by decide +kernel

/-- Its item is not accepted as the evaluator evidence that a profile requires. -/
theorem not_serves : ¬∀ (c : ValidContract) (requirement : Text), Serves c.val requirement := by
  intro h
  obtain ⟨item, hitem, ⟨reference, hof⟩, haccepted⟩ :=
    ((h accuracyEvaluation (lit "evaluator_evidence")).1 (by decide)).1
  obtain ⟨item', payload, -, hitem', -, hidentity, -⟩ := exists_item accuracyEvaluation
  cases hitem.symm.trans hitem'
  have hmem := contractType_mem accuracyEvaluation.val
  have haccept := haccepted reference hof
  rw [referenceMatchesAiContract_iff (colonless.1 _ hmem) (colonless.2 _ (by decide))
    (identityRest_ne_nil _ _) (hof.2.1.trans hidentity)] at haccept
  exact absurd (haccept.mpr (by decide)).2 (by decide)

end StateWake.Claims
