import StateWake.Assurance.Replay

/-!
# Decisions and exceptions replayed

What the evaluator returns is reloaded and replayed as it was, and no other decision is accepted. An
exception is reloaded and bound to its decision where no evidence reference of that is blank and the
time of evaluation is one in UTC.
-/

namespace StateWake.Assurance

open StateWake.Base Text Utils

/-! ### Evaluated decisions -/

private theorem forall_not_blank {items : List Text} (h : items.any blank = false) :
    ∀ s ∈ items, blank s = false := fun s hs ↦
  Bool.eq_false_iff.mpr (List.any_eq_false.mp h s hs)

/-- A decision that the evaluator returns is decodable. -/
theorem decodable_of_evaluated {d : AssuranceDecision} (h : Evaluated d) : d.Decodable := by
  obtain ⟨inputs, policyId, policyVersion, generatedAt, hd⟩ := h
  obtain ⟨-, utc, -, hcreate⟩ := evaluateAssuranceDecision_eq_ok.mp hd
  have hfields := (AssuranceDecision.create_eq_ok.mp hcreate).2.1
  have hinputs := inputs.property
  have hreplay := postInit_replayInputs inputs policyId policyVersion (isoformat utc)
  simp only [AssuranceDecisionInputFields.postInit, bind_eq_ok, require_eq_ok, exists_const,
    Bool.not_eq_true', decide_eq_true_eq] at hinputs hreplay
  obtain ⟨-, hstate, hstatus, -, -, hreferences, hresults, -⟩ := hinputs
  obtain ⟨-, -, -, -, -, -, -, hresidual⟩ := hreplay
  have hstates : ∀ s ∈ allowedStates, blank s = false := by decide
  have hstatuses : ∀ s ∈ allowedVerification, blank s = false := by decide
  have hwhen : d.generatedAt = isoformat utc := congrArg AssuranceDecisionFields.generatedAt hfields
  constructor
  case created => rw [hfields, hcreate]
  case references =>
    rw [congrArg AssuranceDecisionFields.evidenceReferences hfields]
    exact forall_not_blank hreferences
  case results =>
    rw [congrArg AssuranceDecisionFields.verificationResults hfields]
    exact forall_not_blank hresults
  case rationale =>
    rw [(congrArg AssuranceDecisionFields.rationale hfields).trans (rationale_decided _ _ _ _)]
    simp only [List.forall_mem_cons, List.not_mem_nil, false_implies, implies_true, and_true]
    exact ⟨not_blank_append (by decide) _, not_blank_append (by decide) _,
      not_blank_append (by decide) _, not_blank_append (by decide) _⟩
  case residual =>
    rw [congrArg AssuranceDecisionFields.residualRisk hfields]
    exact forall_not_blank hresidual
  case state =>
    rw [congrArg AssuranceDecisionFields.sourceReliabilityState hfields]
    exact hstates _ hstate
  case status =>
    rw [congrArg AssuranceDecisionFields.sourceVerificationStatus hfields]
    exact hstatuses _ hstatus
  case generated => rw [hwhen, not_blank_isoformat]
  case dated =>
    intro naive
    rw [hwhen, parseAware_isoformat]
    exact ⟨_, rfl⟩

/-- A decision replays: it is reloaded as it was, from its dictionary or from a JSON text of that,
and its semantics are verified. -/
structure Replays (d : AssuranceDecision) : Prop where
  reloaded : assuranceDecisionFromDict d.toDict = .ok d
  stored : ∀ style, ∃ members,
    Json.loads (Json.dumps style (.obj d.toDict)) = .ok (.obj members) ∧
      assuranceDecisionFromDict members = .ok d
  verified : verifyAssuranceDecisionSemantics d = .ok ()

theorem replays_of_evaluated {d : AssuranceDecision} (h : Evaluated d) : Replays d := by
  have hd := decodable_of_evaluated h
  refine ⟨?_, fun style ↦ ?_, verifyAssuranceDecisionSemantics_of_evaluated h⟩
  · exact assuranceDecisionFromDict_of_readBack hd
      (AssuranceDecision.readBack_toDict hd.created Json.compact).1
  · obtain ⟨-, hw, hread⟩ := AssuranceDecision.readBack_toDict hd.created style
    exact ⟨_, Json.loads_dumps_obj style hw, assuranceDecisionFromDict_of_readBack hd hread⟩

/-! ### Exceptions -/

/-- What an exception is made of. -/
theorem createAssuranceException_eq_ok {d : AssuranceDecision} {a : ExceptionArguments}
    {e : AssuranceException} (h : createAssuranceException d a = .ok e) :
    d.decision ∈ permitsException ∧
      AssuranceException.create e.toAssuranceExceptionFields [] = .ok e ∧
      e.subjectId = d.subjectId ∧ e.invariant = invariantOf d.decision ∧
      e.evidenceReferences = d.evidenceReferences ∧ e.decisionDigest = some d.digest ∧
      ∃ expiry, a.expiresAt.toUtc = .ok expiry ∧ e.expiresAt = isoformat expiry := by
  simp only [createAssuranceException, bind_eq_ok, require_eq_ok, exists_const, decide_eq_true_eq,
    AwareDatetime.utcText] at h
  obtain ⟨hpermitted, expiresAt, ⟨expiry, hexpiry, htext⟩, createdAt, -, he⟩ := h
  obtain ⟨-, hfields, -⟩ := AssuranceException.create_eq_ok.mp he
  refine ⟨hpermitted, ?_, congrArg AssuranceExceptionFields.subjectId hfields,
    congrArg AssuranceExceptionFields.invariant hfields,
    congrArg AssuranceExceptionFields.evidenceReferences hfields,
    congrArg AssuranceExceptionFields.decisionDigest hfields, expiry, hexpiry, ?_⟩
  · rw [hfields, he]
  · exact (congrArg AssuranceExceptionFields.expiresAt hfields).trans (Except.ok.inj htext).symm

/-- An exception is reloaded as it was, and bound to its decision as active exactly before it
expires. -/
structure Binds (d : AssuranceDecision) (expiresAt : AwareDatetime) (e : AssuranceException)
    (evaluatedAt : AwareDatetime) : Prop where
  reloaded : assuranceExceptionFromDict e.toDict = .ok e
  stored : ∀ style, ∃ members,
    Json.loads (Json.dumps style (.obj e.toDict)) = .ok (.obj members) ∧
      assuranceExceptionFromDict members = .ok e
  bound : verifyAssuranceExceptionBinding d e evaluatedAt =
    .ok (if evaluatedAt.instant < expiresAt.instant then lit "active" else lit "expired")

/-- The binding of an exception at a time that is one in UTC, and at one that is not. -/
theorem verifyAssuranceExceptionBinding_eq {d : AssuranceDecision} {a : ExceptionArguments}
    {e : AssuranceException} (h : createAssuranceException d a = .ok e)
    (evaluatedAt : AwareDatetime) :
    verifyAssuranceExceptionBinding d e evaluatedAt = evaluatedAt.toUtc >>= fun evaluation ↦
      .ok (if evaluation.instant < a.expiresAt.instant then lit "active" else lit "expired") := by
  obtain ⟨hpermitted, -, hsubject, hinvariant, hreferences, hdigest, expiry, hexpiry, htext⟩ :=
    createAssuranceException_eq_ok h
  rw [verifyAssuranceExceptionBinding, decide_eq_true hpermitted, require_true, ok_bind,
    decide_eq_true hsubject, require_true, ok_bind, decide_eq_true hinvariant, require_true, ok_bind,
    decide_eq_true hreferences, require_true, ok_bind, hdigest, Option.all_some, decide_eq_true rfl,
    require_true, ok_bind, htext, parseAware_isoformat, ok_bind, ← AwareDatetime.instant_toUtc hexpiry]
  cases evaluatedAt.toUtc with
  | error e => rw [error_bind, error_bind]
  | ok evaluation =>
    rw [ok_bind, AwareDatetime.toUtc_ofUtc, ok_bind, ok_bind]
    simp only [pure, Except.pure]

private theorem binds_iff {d : AssuranceDecision} {a : ExceptionArguments} {e : AssuranceException}
    (h : createAssuranceException d a = .ok e) (evaluatedAt : AwareDatetime) :
    Binds d a.expiresAt e evaluatedAt ↔
      (∀ reference ∈ d.evidenceReferences, blank reference = false) ∧
        ∃ utc, evaluatedAt.toUtc = .ok utc := by
  obtain ⟨-, hcreated, -, -, hreferences, hdigest, -⟩ := createAssuranceException_eq_ok h
  have hself := (AssuranceException.readBack_toDict hcreated hdigest Json.compact).1
  rw [← hreferences]
  constructor
  · intro hbinds
    refine ⟨(assuranceExceptionFromDict_of_readBack hcreated hdigest hself).mp hbinds.reloaded, ?_⟩
    have hbound := hbinds.bound
    rw [verifyAssuranceExceptionBinding_eq h, bind_eq_ok] at hbound
    obtain ⟨utc, hutc, -⟩ := hbound
    exact ⟨utc, hutc⟩
  · rintro ⟨hfilled, utc, hutc⟩
    refine ⟨(assuranceExceptionFromDict_of_readBack hcreated hdigest hself).mpr hfilled,
      fun style ↦ ?_, ?_⟩
    · obtain ⟨-, hw, hread⟩ := AssuranceException.readBack_toDict hcreated hdigest style
      exact ⟨_, Json.loads_dumps_obj style hw,
        (assuranceExceptionFromDict_of_readBack hcreated hdigest hread).mpr hfilled⟩
    · rw [verifyAssuranceExceptionBinding_eq h, hutc, ok_bind, AwareDatetime.instant_toUtc hutc]

/-- What the evaluator returns replays, and only that is verified; an exception of a decision binds
exactly where no evidence reference of the decision is blank and the time of evaluation is one in
UTC. -/
theorem decisions_replay_iff (d : AssuranceDecision) (a : ExceptionArguments)
    (e : AssuranceException) (evaluatedAt : AwareDatetime) :
    (Evaluated d → Replays d) ∧ (verifyAssuranceDecisionSemantics d = .ok () → Evaluated d) ∧
      (createAssuranceException d a = .ok e →
        (Binds d a.expiresAt e evaluatedAt ↔
          (∀ reference ∈ d.evidenceReferences, blank reference = false) ∧
            ∃ utc, evaluatedAt.toUtc = .ok utc)) :=
  ⟨replays_of_evaluated, evaluated_of_verified, fun h ↦ binds_iff h evaluatedAt⟩

/-! ### A degraded agent -/

/-- A degraded state that is verified. -/
private def degraded : AssuranceDecisionInputFields where
  subjectId := lit "agent"
  reliabilityState := lit "degraded"
  verificationStatus := lit "verified"
  evidenceReferences := [lit "chain-1"]
  verificationResults := [lit "chain verified"]

/-- A day of January 2026. -/
private def day (day : Nat) (h : 1 ≤ day ∧ day ≤ 31) : Datetime :=
  ⟨⟨2026, 1, day, by decide, by decide, by decide, by decide, h.1, h.2⟩, 0, by decide⟩

/-- A week in which the agent may go on. -/
private def week : ExceptionArguments where
  exceptionId := lit "exception-1"
  reasonOperationContinues := lit "supervised"
  authorizedBy := lit "operator"
  expiresAt := .ofUtc (day 8 (by decide))
  compensatingControl := lit "review"
  reverificationRequired := lit "weekly"
  createdAt := .ofUtc (day 1 (by decide))

private theorem exists_decision : ∃ d, Evaluated d ∧ d.decision = .allowWithLimitations ∧
    d.subjectId = lit "agent" ∧ d.evidenceReferences = [lit "chain-1"] ∧
    isSha256 d.digest = true := by
  have hinputs : degraded.postInit = .ok () := by decide
  have hdecision : applyPolicy degraded = (.allowWithLimitations, lit "reliability-degraded") := by
    decide
  have hcheck : (decided degraded (lit "policy") (lit "1") (isoformat (day 1 (by decide)))).check =
      .ok () := by decide
  have hname : (decided degraded (lit "policy") (lit "1")
      (isoformat (day 1 (by decide)))).decision.text = lit "ALLOW_WITH_LIMITATIONS" := by decide
  have hresidual : (decided degraded (lit "policy") (lit "1")
      (isoformat (day 1 (by decide)))).residualRisk = [lit "reliability-degraded"] := by decide
  obtain ⟨content, hcontent⟩ : ∃ content, canonicalBytes
      (decided degraded (lit "policy") (lit "1") (isoformat (day 1 (by decide)))).payload =
        .ok content := by
    rw [canonicalBytes_isOk_iff (by simp [AssuranceDecisionFields.payload, Dict.Distinct]),
      AssuranceDecisionFields.payload, hresidual, rationale_decided, hname, hdecision]
    have hrule (start value : String) : SurrogateFree (lit start ++ lit value) :=
      surrogateFree_append (surrogateFree_lit _) (surrogateFree_lit _)
    simp only [decided, Json.forall_texts_obj, List.forall_mem_cons, textArray, List.map_cons,
      List.map_nil, Json.mem_texts_arr, Json.mem_texts_str, Json.mem_texts_bool, degraded,
      surrogateFree_lit, true_and, forall_eq, List.not_mem_nil, false_implies, implies_true,
      surrogateFree_isoformat, and_true]
    simp [hrule]
  have hdigest : (decided degraded (lit "policy") (lit "1")
      (isoformat (day 1 (by decide)))).computedDigest = .ok (sha256 content) := by
    rw [AssuranceDecisionFields.computedDigest, hcontent]
    rfl
  refine ⟨⟨_, sha256 content⟩, ⟨⟨degraded, hinputs⟩, lit "policy", lit "1", .ofUtc (day 1 (by decide)),
    evaluateAssuranceDecision_eq_ok.mpr ⟨by decide, _, AwareDatetime.toUtc_ofUtc _,
      AssuranceDecision.create_eq_ok.mpr ⟨hcheck, rfl, hdigest, Or.inl rfl⟩⟩⟩,
    congrArg Prod.fst hdecision, rfl, rfl, isSha256_sha256 content⟩

private theorem exists_exception : ∃ d e, Evaluated d ∧ d.evidenceReferences = [lit "chain-1"] ∧
    createAssuranceException d week = .ok e := by
  obtain ⟨d, hd, hdecision, hsubject, hreferences, hdigest⟩ := exists_decision
  let f : AssuranceExceptionFields :=
    { exceptionId := lit "exception-1"
      subjectId := lit "agent"
      invariant := invariantOf .allowWithLimitations
      reasonOperationContinues := lit "supervised"
      authorizedBy := lit "operator"
      expiresAt := isoformat (day 8 (by decide))
      compensatingControl := lit "review"
      reverificationRequired := lit "weekly"
      evidenceReferences := [lit "chain-1"]
      createdAt := isoformat (day 1 (by decide))
      decisionDigest := some d.digest }
  have htimes : f.checkTimes = .ok () := by
    rw [AssuranceExceptionFields.checkTimes, parseAware_isoformat, ok_bind, parseAware_isoformat,
      ok_bind, AwareDatetime.toUtc_ofUtc, ok_bind, AwareDatetime.toUtc_ofUtc, ok_bind]
    decide
  have hfilled : ∀ p ∈ f.named, blank p.2 = false := by
    simp only [f, AssuranceExceptionFields.named, List.forall_mem_cons, not_blank_isoformat,
      true_and]
    decide
  have hcheck : f.check = .ok () := by
    have hbound : f.decisionDigest.all isSha256 = true := hdigest
    rw [AssuranceExceptionFields.check, htimes, hbound]
    refine bind_eq_ok.mpr ⟨(), forM_eq_ok.mpr fun p hp ↦ require_eq_ok.mpr ?_, rfl⟩
    rw [Bool.not_eq_true']
    exact hfilled p hp
  obtain ⟨content, hcontent⟩ : ∃ content, canonicalBytes f.payload = .ok content := by
    have hinvariant : SurrogateFree (invariantOf .allowWithLimitations) :=
      surrogateFree_append (surrogateFree_lit _) (surrogateFree_lit _)
    rw [canonicalBytes_isOk_iff (by simp [f, AssuranceExceptionFields.payload, Dict.Distinct])]
    simp only [f, AssuranceExceptionFields.payload, Option.toList_some, List.map_cons, List.map_nil,
      List.cons_append, List.nil_append, Json.forall_texts_obj, List.forall_mem_cons, textArray,
      Json.mem_texts_arr, Json.mem_texts_str, Json.mem_texts_bool, surrogateFree_lit, true_and,
      forall_eq, List.not_mem_nil, false_implies, implies_true, surrogateFree_isoformat, and_true,
      hinvariant, surrogateFree_of_isSha256 hdigest]
    simp
  have hcomputed : f.computedDigest = .ok (sha256 content) := by
    rw [AssuranceExceptionFields.computedDigest, hcontent]
    rfl
  have hcreate : AssuranceException.create f [] = .ok ⟨f, sha256 content⟩ :=
    AssuranceException.create_eq_ok.mpr ⟨hcheck, rfl, hcomputed, Or.inl rfl⟩
  refine ⟨d, ⟨f, sha256 content⟩, hd, hreferences, ?_⟩
  have hpermits : decide (d.decision ∈ permitsException) = true := by
    rw [hdecision]
    decide
  rw [createAssuranceException, hpermits, require_true, ok_bind, week, AwareDatetime.utcText_ofUtc,
    ok_bind, AwareDatetime.utcText_ofUtc, ok_bind, hdecision, hsubject, hreferences]
  exact hcreate

/-- The last hour of the calendar in a time zone that is behind UTC. -/
private def lastHour : AwareDatetime where
  «local» := ⟨⟨9999, 12, 31, by decide, by decide, by decide, by decide, by decide, by decide⟩,
    82800000000, by decide⟩
  offset := -43200000000
  offset_gt := by decide
  offset_lt := by decide

/-- Evaluated in the last hour of the calendar, an exception has not expired but raises. -/
theorem not_decisions_replay : ¬∀ (d : AssuranceDecision) (a : ExceptionArguments)
    (e : AssuranceException) (evaluatedAt : AwareDatetime), Evaluated d →
      createAssuranceException d a = .ok e → Binds d a.expiresAt e evaluatedAt := by
  intro h
  obtain ⟨d, e, hd, -, he⟩ := exists_exception
  obtain ⟨-, utc, hutc⟩ := (binds_iff he lastHour).mp (h d week e lastHour hd he)
  have hraises : lastHour.toUtc.toBool = false := by decide +kernel
  rw [hutc] at hraises
  cases hraises

/-- The exception binds in its week, in a time zone ahead of UTC. -/
theorem decisions_replay_week : ∃ d e, Replays d ∧ Evaluated d ∧
    Binds d week.expiresAt e ⟨day 5 (by decide), 19800000000, by decide, by decide⟩ := by
  obtain ⟨d, e, hd, hreferences, he⟩ := exists_exception
  obtain ⟨hreplays, hevaluated, hbinds⟩ := decisions_replay_iff d week e
    ⟨day 5 (by decide), 19800000000, by decide, by decide⟩
  have hverified := (hreplays hd).verified
  refine ⟨d, e, hreplays hd, hevaluated hverified, (hbinds he).mpr ⟨?_, ?_⟩⟩
  · rw [hreferences, List.forall_mem_singleton]
    decide
  · exact exists_ok_of_toBool (by decide +kernel)

end StateWake.Assurance
