import StateWake.Assurance.Decoding
import StateWake.Base.DatetimeOrder

/-!
# Replay of assurance decisions

`services/assurance_decision_service.py:54–130`: a persisted decision is replayed from what it
recorded, and an exception is bound to its decision at a time.
-/

namespace StateWake.Assurance

open StateWake.Base Text Utils

/-! ### Verification -/

/-- `_rationale_value`, `services/assurance_decision_service.py:58–65`. -/
def rationaleValue (d : AssuranceDecision) (start : Text) : Except PyError Text :=
  match (d.rationale.filter start.isPrefixOf).map (List.drop start.length) with
  | [value] =>
    if blank value then
      valueError (lit "assurance decision is missing canonical rationale: " ++ start)
    else .ok value
  | _ => valueError (lit "assurance decision is missing canonical rationale: " ++ start)

/-- The inputs that a replay recovers from a decision,
`services/assurance_decision_service.py:76–85`. -/
def replayInputs (d : AssuranceDecisionFields) (trustStatus rule : Text) :
    AssuranceDecisionInputFields where
  subjectId := d.subjectId
  reliabilityState := d.sourceReliabilityState
  verificationStatus := d.sourceVerificationStatus
  trustStatus := trustStatus
  recoveryRequired := rule = lit "recovery-required"
  evidenceReferences := d.evidenceReferences
  verificationResults := d.verificationResults
  residualRisk := d.residualRisk

/-- `verify_assurance_decision_semantics`, `services/assurance_decision_service.py:68–94`. -/
def verifyAssuranceDecisionSemantics (d : AssuranceDecision) : Except PyError Unit := do
  let trustStatus ← rationaleValue d (lit "trust-status:")
  let rule ← rationaleValue d (lit "policy-rule:")
  let when ← parseAware d.generatedAt
    (lit "assurance decision timestamp must be timezone-aware")
  let inputs ← construct AssuranceDecisionInputFields.postInit (replayInputs d.toAssuranceDecisionFields trustStatus rule)
  let utc ← when.toUtc
  let replayed ← evaluateAssuranceDecision inputs d.policyId d.policyVersion (.ofUtc utc)
  require ⟨.valueError, lit "assurance decision does not match deterministic policy replay"⟩
    (replayed.toDict = d.toDict)

/-- `verify_assurance_exception_binding`, `services/assurance_decision_service.py:97–130`. -/
def verifyAssuranceExceptionBinding (decision : AssuranceDecision) (e : AssuranceException)
    (evaluatedAt : AwareDatetime) : Except PyError Text := do
  require ⟨.valueError, lit "recorded decision does not permit an operational exception"⟩
    (decision.decision ∈ permitsException)
  require ⟨.valueError, lit "assurance exception subject does not match decision"⟩
    (e.subjectId = decision.subjectId)
  require ⟨.valueError, lit "assurance exception invariant does not match decision"⟩
    (e.invariant = invariantOf decision.decision)
  require ⟨.valueError, lit "assurance exception evidence references do not match decision"⟩
    (e.evidenceReferences = decision.evidenceReferences)
  require ⟨.valueError, lit "assurance exception decision digest does not match decision"⟩
    (e.decisionDigest.all fun digest ↦ digest = decision.digest)
  let expires ← parseAware e.expiresAt (lit "assurance exception expiry must be timezone-aware")
  let evaluation ← evaluatedAt.toUtc
  let expiry ← expires.toUtc
  pure (if evaluation.instant < expiry.instant then lit "active" else lit "expired")

/-! ### What a replay recovers -/

theorem not_blank_rule (inputs : AssuranceDecisionInputFields) :
    blank (applyPolicy inputs).2 = false := by
  simp only [applyPolicy]
  repeat' split
  all_goals decide

/-- Only the recovery rule has its name. -/
theorem rule_eq_recovery_iff (inputs : AssuranceDecisionInputFields) :
    (applyPolicy inputs).2 = lit "recovery-required" ↔
      inputs.trustStatus ≠ lit "revoked" ∧ inputs.recoveryRequired = true := by
  simp only [applyPolicy]
  by_cases htrust : inputs.trustStatus = lit "revoked"
  · simp [htrust]
  · cases hrecovery : inputs.recoveryRequired with
    | true => simp [htrust]
    | false =>
      simp only [htrust, if_false, Bool.false_eq_true, ne_eq, not_false_eq_true, and_false,
        iff_false]
      repeat' split
      all_goals decide

/-- The recovered inputs come under the rule that the recorded ones came under. -/
theorem applyPolicy_replayInputs (inputs : AssuranceDecisionInputFields)
    (policyId policyVersion when : Text) :
    applyPolicy (replayInputs (decided inputs policyId policyVersion when) inputs.trustStatus
      (applyPolicy inputs).2) = applyPolicy inputs := by
  by_cases htrust : inputs.trustStatus = lit "revoked"
  · simp only [applyPolicy, replayInputs, htrust, if_true]
  · have hrecovery : decide ((applyPolicy inputs).2 = lit "recovery-required") =
        inputs.recoveryRequired := by
      simp only [rule_eq_recovery_iff, htrust, ne_eq, not_false_eq_true, true_and,
        Bool.decide_eq_true]
    have hinputs : replayInputs (decided inputs policyId policyVersion when) inputs.trustStatus
        (applyPolicy inputs).2 =
        { inputs with residualRisk := (decided inputs policyId policyVersion when).residualRisk } := by
      rw [replayInputs, hrecovery]
      rfl
    rw [hinputs]
    rfl

private theorem residualRisk_decided (inputs : AssuranceDecisionInputFields)
    (policyId policyVersion when : Text) :
    (decided inputs policyId policyVersion when).residualRisk =
      if inputs.residualRisk ≠ [] then inputs.residualRisk
      else if (applyPolicy inputs).1 = .allow then [] else [(applyPolicy inputs).2] := rfl

/-- What a decision records of its inputs. -/
theorem rationale_decided (inputs : AssuranceDecisionInputFields)
    (policyId policyVersion when : Text) :
    (decided inputs policyId policyVersion when).rationale =
      [lit "policy-rule:" ++ (applyPolicy inputs).2,
        lit "reliability-state:" ++ inputs.reliabilityState,
        lit "verification-status:" ++ inputs.verificationStatus,
        lit "trust-status:" ++ inputs.trustStatus] := rfl

/-- The replay of a decision decides what was decided: the residual risk that it starts from is the
one it ends with. -/
theorem decided_replayInputs (inputs : AssuranceDecisionInputFields)
    (policyId policyVersion when : Text) :
    decided (replayInputs (decided inputs policyId policyVersion when) inputs.trustStatus
      (applyPolicy inputs).2) policyId policyVersion when =
      decided inputs policyId policyVersion when := by
  have hpolicy := applyPolicy_replayInputs inputs policyId policyVersion when
  rw [AssuranceDecisionFields.mk.injEq]
  refine ⟨congrArg Prod.fst hpolicy, rfl, rfl, rfl, rfl, rfl, ?_, rfl, ?_, rfl, rfl, rfl, rfl⟩
  · rw [rationale_decided, rationale_decided, hpolicy]
    rfl
  · rw [residualRisk_decided, hpolicy]
    have hrecorded : (replayInputs (decided inputs policyId policyVersion when) inputs.trustStatus
        (applyPolicy inputs).2).residualRisk =
        (decided inputs policyId policyVersion when).residualRisk := rfl
    rw [hrecorded, residualRisk_decided]
    by_cases hgiven : inputs.residualRisk = []
    · by_cases hallow : (applyPolicy inputs).1 = .allow <;> simp [hgiven, hallow]
    · simp [hgiven]

/-- The recovered inputs are inputs. -/
theorem postInit_replayInputs (inputs : AssuranceDecisionInput)
    (policyId policyVersion when : Text) :
    (replayInputs (decided inputs.val policyId policyVersion when) inputs.val.trustStatus
      (applyPolicy inputs.val).2).postInit = .ok () := by
  have hinputs := inputs.property
  have hrule := not_blank_rule inputs.val
  simp only [AssuranceDecisionInputFields.postInit, require_bind_eq_ok, require_eq_ok,
    Bool.not_eq_true', decide_eq_true_eq] at hinputs ⊢
  obtain ⟨hsubject, hstate, hstatus, htrust, hreferences, hnamed, hresults, hresidual⟩ := hinputs
  refine ⟨hsubject, hstate, hstatus, htrust, hreferences, hnamed, hresults, ?_⟩
  simp only [replayInputs, decided]
  split
  · exact hresidual
  · split
    · rfl
    · rw [List.any_cons, List.any_nil, hrule, Bool.or_false]

/-! ### Recorded rationale -/

private theorem filter_rationale (state status trust rule : Text) :
    [lit "policy-rule:" ++ rule, lit "reliability-state:" ++ state,
      lit "verification-status:" ++ status, lit "trust-status:" ++ trust].filter
        (lit "trust-status:").isPrefixOf = [lit "trust-status:" ++ trust] ∧
    [lit "policy-rule:" ++ rule, lit "reliability-state:" ++ state,
      lit "verification-status:" ++ status, lit "trust-status:" ++ trust].filter
        (lit "policy-rule:").isPrefixOf = [lit "policy-rule:" ++ rule] := by
  have hself (start value : Text) : start.isPrefixOf (start ++ value) = true :=
    List.isPrefixOf_iff_prefix.mpr (List.prefix_append start value)
  constructor
  · rw [List.filter_cons_of_neg (fun h ↦ by cases h), List.filter_cons_of_neg (fun h ↦ by cases h),
      List.filter_cons_of_neg (fun h ↦ by cases h), List.filter_cons_of_pos (hself _ _),
      List.filter_nil]
  · rw [List.filter_cons_of_pos (hself _ _), List.filter_cons_of_neg (fun h ↦ by cases h),
      List.filter_cons_of_neg (fun h ↦ by cases h), List.filter_cons_of_neg (fun h ↦ by cases h),
      List.filter_nil]

/-- The trust status and the rule are read back from the rationale. -/
theorem rationaleValue_decided {d : AssuranceDecision} {inputs : AssuranceDecisionInput}
    {policyId policyVersion when : Text}
    (h : d.toAssuranceDecisionFields = decided inputs.val policyId policyVersion when) :
    rationaleValue d (lit "trust-status:") = .ok inputs.val.trustStatus ∧
      rationaleValue d (lit "policy-rule:") = .ok (applyPolicy inputs.val).2 := by
  have htrust : blank inputs.val.trustStatus = false := by
    have hinputs := inputs.property
    simp only [AssuranceDecisionInputFields.postInit, require_bind_eq_ok, require_eq_ok,
      Bool.not_eq_true'] at hinputs
    exact hinputs.2.2.2.1
  have hrationale : d.rationale = _ :=
    (congrArg AssuranceDecisionFields.rationale h).trans (rationale_decided _ _ _ _)
  obtain ⟨hfilterTrust, hfilterRule⟩ := filter_rationale inputs.val.reliabilityState
    inputs.val.verificationStatus inputs.val.trustStatus (applyPolicy inputs.val).2
  constructor
  · rw [rationaleValue, hrationale, hfilterTrust, List.map_cons, List.map_nil, List.drop_left]
    simp only [htrust, Bool.false_eq_true, if_false]
  · rw [rationaleValue, hrationale, hfilterRule, List.map_cons, List.map_nil, List.drop_left]
    simp only [not_blank_rule, Bool.false_eq_true, if_false]

/-! ### Evaluated decisions -/

/-- A decision that the evaluator returns. -/
def Evaluated (d : AssuranceDecision) : Prop :=
  ∃ inputs policyId policyVersion generatedAt,
    evaluateAssuranceDecision inputs policyId policyVersion generatedAt = .ok d

/-- What an evaluation returns: what the policy decides, with its digest. -/
theorem evaluateAssuranceDecision_eq_ok {inputs : AssuranceDecisionInput}
    {policyId policyVersion : Text} {generatedAt : AwareDatetime} {d : AssuranceDecision} :
    evaluateAssuranceDecision inputs policyId policyVersion generatedAt = .ok d ↔
      (blank policyId || blank policyVersion) = false ∧
      ∃ utc, generatedAt.toUtc = .ok utc ∧
        AssuranceDecision.create (decided inputs.val policyId policyVersion (isoformat utc)) [] =
          .ok d := by
  simp only [evaluateAssuranceDecision, bind_eq_ok, require_eq_ok, exists_const, Bool.not_eq_true',
    AwareDatetime.utcText]
  constructor
  · rintro ⟨hpolicy, _, ⟨utc, hutc, hwhen⟩, hd⟩
    have hwhen := Except.ok.inj hwhen
    exact ⟨hpolicy, utc, hutc, hwhen ▸ hd⟩
  · rintro ⟨hpolicy, utc, hutc, hd⟩
    exact ⟨hpolicy, _, ⟨utc, hutc, rfl⟩, hd⟩

/-- The replay of what the evaluator returned is accepted. -/
theorem verifyAssuranceDecisionSemantics_of_evaluated {d : AssuranceDecision} (h : Evaluated d) :
    verifyAssuranceDecisionSemantics d = .ok () := by
  obtain ⟨inputs, policyId, policyVersion, generatedAt, hd⟩ := h
  obtain ⟨hpolicy, utc, -, hcreate⟩ := evaluateAssuranceDecision_eq_ok.mp hd
  have hfields := (AssuranceDecision.create_eq_ok.mp hcreate).2.1
  obtain ⟨htrust, hrule⟩ := rationaleValue_decided hfields
  have hreplay := postInit_replayInputs inputs policyId policyVersion (isoformat utc)
  rw [← hfields] at hreplay
  have hevaluated : evaluateAssuranceDecision
      ⟨replayInputs d.toAssuranceDecisionFields inputs.val.trustStatus (applyPolicy inputs.val).2,
        hreplay⟩ d.policyId d.policyVersion (.ofUtc utc) = .ok d := by
    have hid : d.policyId = policyId := congrArg AssuranceDecisionFields.policyId hfields
    have hversion : d.policyVersion = policyVersion :=
      congrArg AssuranceDecisionFields.policyVersion hfields
    rw [evaluateAssuranceDecision_eq_ok, hid, hversion]
    refine ⟨hpolicy, utc, AwareDatetime.toUtc_ofUtc utc, ?_⟩
    dsimp only
    rw [hfields, decided_replayInputs]
    exact hcreate
  have hwhen : d.generatedAt = isoformat utc := congrArg AssuranceDecisionFields.generatedAt hfields
  rw [verifyAssuranceDecisionSemantics, htrust, ok_bind, hrule, ok_bind, hwhen, parseAware_isoformat,
    ok_bind, construct_of_check hreplay, ok_bind, AwareDatetime.toUtc_ofUtc, ok_bind, hevaluated,
    ok_bind, decide_eq_true rfl, require_true]

private theorem textArray_injective : Function.Injective textArray := fun s t h ↦ by
  have hmap := Json.arr.inj h
  exact List.map_injective_iff.mpr (fun _ _ ↦ Json.str.inj) hmap

private theorem decisionText_injective : Function.Injective SecurityDecision.text := fun s t h ↦ by
  have hs := SecurityDecision.ofText?_text s
  rw [h, SecurityDecision.ofText?_text] at hs
  exact (Option.some.inj hs).symm

/-- Decisions are what their dictionaries say. -/
theorem AssuranceDecision.toDict_injective : Function.Injective toDict := by
  intro d d' h
  simp only [toDict, AssuranceDecisionFields.payload, List.cons_append, List.nil_append,
    List.cons.injEq, Prod.mk.injEq, true_and, and_true, Json.str.injEq, Json.bool.injEq,
    textArray_injective.eq_iff, decisionText_injective.eq_iff] at h
  obtain ⟨h1, h2, h3, h4, h5, h6, h7, h8, h9, h10, h11, h12, h13, h14⟩ := h
  cases d
  cases d'
  rw [AssuranceDecision.mk.injEq, AssuranceDecisionFields.mk.injEq]
  exact ⟨⟨h1, h2, h3, h4, h5, h6, h7, h8, h9, h10, h11, h12, h13⟩, h14⟩

/-- A decision whose replay is accepted is one that the evaluator returns. -/
theorem evaluated_of_verified {d : AssuranceDecision}
    (h : verifyAssuranceDecisionSemantics d = .ok ()) : Evaluated d := by
  simp only [verifyAssuranceDecisionSemantics, bind_eq_ok, require_eq_ok, decide_eq_true_eq] at h
  obtain ⟨_, -, _, -, _, -, inputs, -, utc, -, replayed, hreplayed, hsame⟩ := h
  cases AssuranceDecision.toDict_injective hsame
  exact ⟨inputs, d.policyId, d.policyVersion, .ofUtc utc, hreplayed⟩

end StateWake.Assurance
