import StateWake.Utils.JsonSupport

/-!
# Verification reports

`ReliabilityVerificationReport`, `domain/reliability_verification_report.py`: the checks of its
constructor, its payload and its digest, and the check of `reports/validation.py`.
-/

namespace StateWake.Reports

open StateWake.Base Text Utils

/-- The fields of `ReliabilityVerificationReport`,
`domain/reliability_verification_report.py:24–53`. -/
structure ReportFields where
  formatVersion : Text
  claim : Text
  decision : Text
  profileId : Text
  profileVersion : Text
  verified : Bool
  evidenceIncluded : List Text
  evidenceOmitted : List Text
  checksPassed : List Text
  checksFailed : List Text
  sourceIdentities : List Text
  rationale : List Text
  caveats : List Text
  recoveryStatus : Text
  verifierVersion : Text
  generatedAt : Text
  candidateIdentity : Text
  candidateDigest : Text
  reportType : Text
  evidenceMissing : List Text
  checksUnrun : List Text
  checksUnknown : List Text
  residualRisks : List Text
  humanDecisionsRequired : List Text
  allowedUse : List Text
  prohibitedUse : List Text
  machineReadableAppendix : List Text
  artifactDigests : List Text
  profileEvaluationDigest : Option Text
  approvalStatus : Text

namespace ReportFields

/-- `__post_init__`, `domain/reliability_verification_report.py:54–101`. -/
def postInit (r : ReportFields) : Except PyError Unit := do
  require ⟨.valueError, lit "unsupported reliability verification report format version."⟩
    (r.formatVersion = lit "1")
  require ⟨.valueError, lit "claim and profile identity must not be empty."⟩
    (!(blank r.claim || blank r.profileId || blank r.profileVersion))
  require ⟨.valueError, lit "candidate identity and digest must not be empty."⟩
    (!(blank r.candidateIdentity || blank r.candidateDigest))
  require ⟨.valueError, lit "verified report cannot contain failed checks."⟩
    (!r.verified || r.checksFailed.isEmpty)
  require ⟨.valueError, lit "verified report cannot contain missing evidence."⟩
    (!r.verified || r.evidenceMissing.isEmpty)
  require ⟨.valueError, lit "verified report cannot contain unknown checks."⟩
    (!r.verified || r.checksUnknown.isEmpty)
  require ⟨.valueError, lit "verified report cannot contain unrun checks."⟩
    (!r.verified || r.checksUnrun.isEmpty)
  require ⟨.valueError, lit ("unverified report must contain failed, missing, unrun, unknown, " ++
      "or omitted evidence.")⟩
    (r.verified || !(r.checksFailed.isEmpty && r.evidenceMissing.isEmpty && r.checksUnrun.isEmpty &&
      r.checksUnknown.isEmpty && r.evidenceOmitted.isEmpty))
  let blocked := r.checksFailed ++ r.checksUnrun ++ r.checksUnknown
  require ⟨.valueError, lit "a check cannot be both passed and blocked."⟩
    (r.checksPassed.all fun check ↦ !blocked.contains check)
  require ⟨.valueError, lit "unsupported approval_status."⟩ (r.approvalStatus ∈
    [lit "not-approval", lit "requires-human-approval", lit "approved"])
  require ⟨.valueError, lit "approved reports must identify the human decision scope."⟩
    (!(decide (r.approvalStatus = lit "approved") && r.humanDecisionsRequired.isEmpty))

/-- `payload`, `domain/reliability_verification_report.py:103–136`. -/
def payload (r : ReportFields) : Dict Json :=
  let texts := fun items : List Text ↦ Json.arr (items.map .str)
  [(lit "format_version", .str r.formatVersion),
    (lit "candidate_identity", .str r.candidateIdentity),
    (lit "candidate_digest", .str r.candidateDigest),
    (lit "report_type", .str r.reportType),
    (lit "claim", .str r.claim),
    (lit "decision", .str r.decision),
    (lit "approval_status", .str r.approvalStatus),
    (lit "profile_id", .str r.profileId),
    (lit "profile_version", .str r.profileVersion),
    (lit "profile_evaluation_digest", optionJson r.profileEvaluationDigest),
    (lit "verified", .bool r.verified),
    (lit "evidence_included", texts r.evidenceIncluded),
    (lit "evidence_omitted", texts r.evidenceOmitted),
    (lit "evidence_missing", texts r.evidenceMissing),
    (lit "checks_passed", texts r.checksPassed),
    (lit "checks_failed", texts r.checksFailed),
    (lit "checks_unrun", texts r.checksUnrun),
    (lit "checks_unknown", texts r.checksUnknown),
    (lit "source_identities", texts r.sourceIdentities),
    (lit "artifact_digests", texts r.artifactDigests),
    (lit "rationale", texts r.rationale),
    (lit "caveats", texts r.caveats),
    (lit "residual_risks", texts r.residualRisks),
    (lit "allowed_use", texts r.allowedUse),
    (lit "prohibited_use", texts r.prohibitedUse),
    (lit "human_decisions_required", texts r.humanDecisionsRequired),
    (lit "recovery_status", .str r.recoveryStatus),
    (lit "machine_readable_appendix", texts r.machineReadableAppendix),
    (lit "verifier_version", .str r.verifierVersion),
    (lit "generated_at", .str r.generatedAt)]

/-- `digest`, `domain/reliability_verification_report.py:138–148`. -/
def digest (r : ReportFields) : Except PyError Text := do
  let content ← canonicalBytes r.payload
  pure (sha256 content)

theorem writable_payload (r : ReportFields) : Json.Writable (.obj r.payload) := by
  rw [Json.writable_obj]
  constructor
  · simp [payload, Dict.Distinct]
  · have hoptional : Json.Writable (optionJson r.profileEvaluationDigest) := by
      cases r.profileEvaluationDigest <;> simp [optionJson]
    simp [payload, hoptional]

/-- A report has a digest exactly when UTF-8 can encode every text of it. -/
theorem digest_isOk_iff (r : ReportFields) : (∃ d, r.digest = .ok d) ↔
    ∀ s ∈ Json.texts (.obj r.payload), SurrogateFree s := by
  rw [← canonicalBytes_isOk_iff r.writable_payload]
  constructor
  · rintro ⟨d, h⟩
    obtain ⟨content, hcontent, -⟩ := bind_eq_ok.mp h
    exact ⟨content, hcontent⟩
  · rintro ⟨content, hcontent⟩
    exact ⟨sha256 content, by rw [digest, hcontent]; rfl⟩

end ReportFields

/-- `ReliabilityVerificationReport`: fields the constructor accepted. -/
abbrev ReliabilityVerificationReport := Accepted ReportFields.postInit

/-- `validate_report`, `reports/validation.py:10–21`. -/
def validateReport (r : ReliabilityVerificationReport) : Except PyError Unit := do
  require ⟨.valueError, lit "missing evidence cannot also be included evidence."⟩
    (r.val.evidenceMissing.all fun item ↦ !r.val.evidenceIncluded.contains item)
  require ⟨.valueError, lit "accepted approved reports must carry approval scope."⟩
    (!(decide (r.val.decision = lit "accept") && decide (r.val.approvalStatus = lit "approved") &&
      r.val.humanDecisionsRequired.isEmpty))

/-- The second check of `validate_report` is one of the constructor's, so that the first decides. -/
theorem validateReport_eq_ok {r : ReliabilityVerificationReport} : validateReport r = .ok () ↔
    ∀ item ∈ r.val.evidenceMissing, item ∉ r.val.evidenceIncluded := by
  have hscoped : (decide (r.val.approvalStatus = lit "approved") &&
      r.val.humanDecisionsRequired.isEmpty) = false := by
    have h := r.property
    simp only [ReportFields.postInit, bind_eq_ok, require_eq_ok] at h
    obtain ⟨-, -, -, -, -, -, -, -, -, -, -, -, -, -, -, -, -, -, -, -, h⟩ := h
    rw [Bool.not_eq_true'] at h
    exact h
  rw [validateReport, Bool.and_assoc, hscoped, Bool.and_false, Bool.not_false, require_true]
  simp [bind_eq_ok, require_eq_ok]

end StateWake.Reports
