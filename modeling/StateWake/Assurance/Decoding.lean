import StateWake.Assurance.Operations

/-!
# Persisted decisions and exceptions

What `to_dict` writes, read back by the strict decoders of `domain/assurance_operations.py:339–483`:
as it is, or from a JSON text.
-/

namespace StateWake.Assurance

open StateWake.Base Text Utils

variable {members : Dict Json} {name : Text}

/-! ### Strict values -/

theorem strictString_of_get? {s : Text} (h : members.get? name = some (.str s))
    (hs : blank s = false) : strictString members name = .ok s := by
  rw [strictString, h]
  simp only [Option.bind_some, Json.asText_str, hs, Bool.false_eq_true, if_false]

theorem strictBool_of_get? {b : Bool} (h : members.get? name = some (.bool b)) :
    strictBool members name = .ok b := by
  rw [strictBool, h]

private theorem mapM_texts (e : PyError) (items texts : List Text) :
    ((items.map Json.str).mapM fun item ↦ orRaise e (item.asText.filter fun s ↦ !blank s)) =
      .ok texts ↔ texts = items ∧ ∀ s ∈ items, blank s = false := by
  have hitem (s : Text) : orRaise e ((Json.str s).asText.filter fun s ↦ !blank s) =
      if blank s = false then .ok s else .error e := by
    rw [Json.asText_str]
    cases hs : blank s <;> simp [Option.filter, hs]
  rw [List.mapM_map]
  induction items generalizing texts with
  | nil =>
    rw [List.mapM_nil]
    constructor
    · intro h
      exact ⟨(Except.ok.inj h).symm, List.forall_mem_nil _⟩
    · rintro ⟨rfl, -⟩
      rfl
  | cons s items ih =>
    rw [List.mapM_cons, Function.comp_apply, hitem, List.forall_mem_cons]
    by_cases hs : blank s = false
    · rw [if_pos hs, ok_bind]
      simp only [hs, true_and, bind_eq_ok, ih]
      constructor
      · rintro ⟨rest, ⟨rfl, hrest⟩, hall⟩
        exact ⟨(Except.ok.inj hall).symm, hrest⟩
      · rintro ⟨rfl, hrest⟩
        exact ⟨items, ⟨rfl, hrest⟩, rfl⟩
    · rw [if_neg hs, error_bind]
      simp only [hs, false_and, and_false, reduceCtorEq]

/-- An array of texts is decoded as those texts exactly when none of them is blank. -/
theorem strictStringTuple_eq_ok {items texts : List Text} {allowEmpty : Bool}
    (h : members.get? name = some (textArray items)) :
    strictStringTuple members name allowEmpty = .ok texts ↔
      texts = items ∧ (∀ s ∈ items, blank s = false) ∧ (allowEmpty = true ∨ items ≠ []) := by
  have hempty : (items.map Json.str).isEmpty = items.isEmpty := by cases items <;> rfl
  rw [strictStringTuple, h]
  simp only [Option.bind_some, textArray, Json.asList_arr, orRaise_some, ok_bind, bind_eq_ok,
    mapM_texts, require_eq_ok, exists_const, hempty, Bool.or_eq_true, Bool.not_eq_true',
    List.isEmpty_eq_false_iff]
  constructor
  · rintro ⟨_, ⟨rfl, hitems⟩, hnonempty, hall⟩
    exact ⟨(Except.ok.inj hall).symm, hitems, hnonempty⟩
  · rintro ⟨rfl, hitems, hnonempty⟩
    exact ⟨texts, ⟨rfl, hitems⟩, hnonempty, rfl⟩

theorem strictStringTuple_of_get? {items : List Text} {allowEmpty : Bool}
    (h : members.get? name = some (textArray items)) (hitems : ∀ s ∈ items, blank s = false)
    (hnonempty : allowEmpty = true ∨ items ≠ []) :
    strictStringTuple members name allowEmpty = .ok items :=
  (strictStringTuple_eq_ok h).mpr ⟨rfl, hitems, hnonempty⟩

theorem requireKeys_eq_ok {allowed required : List Text} :
    requireKeys members allowed required name = .ok () ↔
      (∀ key ∈ members.keys, key ∈ allowed) ∧ ∀ key ∈ required, key ∈ members.keys := by
  simp only [requireKeys, bind_eq_ok, require_eq_ok, exists_const, List.all_eq_true,
    decide_eq_true_eq]

@[simp] theorem sortKeys_textArray (items : List Text) :
    Json.sortKeys (textArray items) = textArray items := by
  simp [textArray]

@[simp] theorem writable_textArray (items : List Text) : Json.Writable (textArray items) := by
  simp [textArray]

/-! ### Records read back -/

/-- What is read of a record: its keys, and each of its members. -/
structure ReadBack (members record : Dict Json) : Prop where
  keys : ∀ key, key ∈ members.keys ↔ key ∈ record.keys
  reads : ReadsAs members record

theorem ReadBack.self {record : Dict Json} (h : ∀ m ∈ record, Json.sortKeys m.2 = m.2) :
    ReadBack record record := ⟨fun _ ↦ Iff.rfl, readsAs_self h⟩

/-- A record whose texts have no surrogate is read back from its JSON text. -/
theorem ReadBack.readMembers (style : Json.Style) {record : Dict Json}
    (hw : Json.Writable (.obj record)) (h : ∀ s ∈ Json.texts (.obj record), SurrogateFree s) :
    ReadBack (Json.readMembers style record) record :=
  ⟨fun _ ↦ Json.mem_keys_readMembers, readsAs_readMembers style hw fun s hs ↦ (h s hs).pairFree⟩

/-! ### Decisions -/

theorem AssuranceDecision.create_eq_ok {f : AssuranceDecisionFields} {digest : Text}
    {d : AssuranceDecision} :
    create f digest = .ok d ↔ f.check = .ok () ∧ d.toAssuranceDecisionFields = f ∧
      f.computedDigest = .ok d.digest ∧ (digest = [] ∨ digest = d.digest) := by
  simp only [create, bind_eq_ok, require_eq_ok, exists_const, Bool.or_eq_true,
    List.isEmpty_iff, decide_eq_true_eq]
  constructor
  · rintro ⟨⟨⟩, hcheck, expected, hexpected, hdigest, hd⟩
    cases hd
    exact ⟨hcheck, rfl, hexpected, hdigest⟩
  · rintro ⟨hcheck, rfl, hexpected, hdigest⟩
    exact ⟨(), hcheck, d.digest, hexpected, hdigest, rfl⟩

/-- A decision that the decoder takes: it is constructed at a time in UTC, and its texts are filled. -/
structure AssuranceDecision.Decodable (d : AssuranceDecision) : Prop where
  created : create d.toAssuranceDecisionFields [] = .ok d
  references : ∀ s ∈ d.evidenceReferences, blank s = false
  results : ∀ s ∈ d.verificationResults, blank s = false
  rationale : ∀ s ∈ d.rationale, blank s = false
  residual : ∀ s ∈ d.residualRisk, blank s = false
  state : blank d.sourceReliabilityState = false
  status : blank d.sourceVerificationStatus = false
  generated : blank d.generatedAt = false
  dated : ∀ naive, ∃ t, parseAware d.generatedAt naive = .ok t

/-- The digest of a constructed decision is one. -/
theorem isSha256_of_computedDigest {f : AssuranceDecisionFields} {digest : Text}
    (h : f.computedDigest = .ok digest) :
    isSha256 digest = true ∧ ∃ content, canonicalBytes f.payload = .ok content := by
  obtain ⟨content, hcontent, hdigest⟩ := bind_eq_ok.mp h
  rw [← Except.ok.inj hdigest]
  exact ⟨isSha256_sha256 content, content, hcontent⟩

/-- A decision is decoded from what is read back of it. -/
theorem assuranceDecisionFromDict_of_readBack {d : AssuranceDecision} (hd : d.Decodable)
    (h : ReadBack members d.toDict) : assuranceDecisionFromDict members = .ok d := by
  obtain ⟨hcheck, -, hdigest, -⟩ := AssuranceDecision.create_eq_ok.mp hd.created
  have hdigested := not_blank_of_isSha256 (isSha256_of_computedDigest hdigest).1
  have hchecks := hcheck
  simp only [AssuranceDecisionFields.check, bind_eq_ok, require_eq_ok, exists_const,
    Bool.not_eq_true', Bool.or_eq_false_iff, List.isEmpty_eq_false_iff] at hchecks
  obtain ⟨hsubject, ⟨hpolicy, hversion⟩, hreferences, hresults, hrationale, hcontext, -⟩ := hchecks
  have htext (key : Text) {s : Text} (hget : d.toDict.get? key = some (.str s))
      (hs : blank s = false) : strictString members key = .ok s :=
    strictString_of_get? (h.reads key _ hget) hs
  have htexts (key : Text) {items : List Text} {allowEmpty : Bool}
      (hget : d.toDict.get? key = some (textArray items)) (hitems : ∀ s ∈ items, blank s = false)
      (hnonempty : allowEmpty = true ∨ items ≠ []) :
      strictStringTuple members key allowEmpty = .ok items :=
    strictStringTuple_of_get? ((h.reads key _ hget).trans (by rw [sortKeys_textArray])) hitems
      hnonempty
  have hbool : strictBool members (lit "system_state_unchanged") = .ok d.systemStateUnchanged :=
    strictBool_of_get? (h.reads _ (.bool d.systemStateUnchanged) rfl)
  have hkeys : requireKeys members decisionKeys decisionKeys (lit "assurance decision") = .ok () :=
    requireKeys_eq_ok.mpr ⟨fun key hkey ↦ (h.keys key).mp hkey, fun key hkey ↦ (h.keys key).mpr hkey⟩
  obtain ⟨t, ht⟩ := hd.dated (lit "generated_at must be timezone-aware.")
  have hcreate : AssuranceDecision.create d.toAssuranceDecisionFields d.digest = .ok d :=
    AssuranceDecision.create_eq_ok.mpr ⟨hcheck, rfl, hdigest, Or.inr rfl⟩
  rw [assuranceDecisionFromDict, hkeys, ok_bind, htext (lit "generated_at") rfl hd.generated,
    ok_bind, ht, ok_bind, htext (lit "decision") rfl d.decision.not_blank_text, ok_bind,
    SecurityDecision.ofText?_text, orRaise_some, ok_bind, htext (lit "subject_id") rfl hsubject,
    ok_bind, htext (lit "policy_id") rfl hpolicy, ok_bind,
    htext (lit "policy_version") rfl hversion, ok_bind,
    htexts (lit "evidence_references") rfl hd.references (Or.inr hreferences), ok_bind,
    htexts (lit "verification_results") rfl hd.results (Or.inr hresults), ok_bind,
    htexts (lit "rationale") rfl hd.rationale (Or.inr hrationale), ok_bind,
    htext (lit "decision_context") rfl hcontext, ok_bind,
    htexts (lit "residual_risk") rfl hd.residual (Or.inl rfl), ok_bind,
    htext (lit "source_reliability_state") rfl hd.state, ok_bind,
    htext (lit "source_verification_status") rfl hd.status, ok_bind, hbool, ok_bind,
    htext (lit "digest") rfl hdigested, ok_bind]
  exact hcreate

/-- A constructed decision is written without loss. -/
theorem AssuranceDecision.readBack_toDict {d : AssuranceDecision}
    (hd : create d.toAssuranceDecisionFields [] = .ok d) (style : Json.Style) :
    ReadBack d.toDict d.toDict ∧ Json.Writable (.obj d.toDict) ∧
      ReadBack (Json.readMembers style d.toDict) d.toDict := by
  obtain ⟨hsha, content, hcontent⟩ :=
    isSha256_of_computedDigest (AssuranceDecision.create_eq_ok.mp hd).2.2.1
  have hw : Json.Writable (.obj d.toDict) := by
    simp [AssuranceDecision.toDict, AssuranceDecisionFields.payload, Dict.Distinct]
  refine ⟨ReadBack.self ?_, hw, ReadBack.readMembers style hw (surrogateFree_digested hcontent hsha)⟩
  simp [AssuranceDecision.toDict, AssuranceDecisionFields.payload]

/-! ### Exceptions -/

theorem AssuranceException.create_eq_ok {f : AssuranceExceptionFields} {digest : Text}
    {e : AssuranceException} :
    create f digest = .ok e ↔ f.check = .ok () ∧ e.toAssuranceExceptionFields = f ∧
      f.computedDigest = .ok e.digest ∧ (digest = [] ∨ digest = e.digest) := by
  simp only [create, bind_eq_ok, require_eq_ok, exists_const, Bool.or_eq_true,
    List.isEmpty_iff, decide_eq_true_eq]
  constructor
  · rintro ⟨⟨⟩, hcheck, expected, hexpected, hdigest, he⟩
    cases he
    exact ⟨hcheck, rfl, hexpected, hdigest⟩
  · rintro ⟨hcheck, rfl, hexpected, hdigest⟩
    exact ⟨(), hcheck, e.digest, hexpected, hdigest, rfl⟩

private theorem isSha256_exceptionDigest {f : AssuranceExceptionFields} {digest : Text}
    (h : f.computedDigest = .ok digest) :
    isSha256 digest = true ∧ ∃ content, canonicalBytes f.payload = .ok content := by
  obtain ⟨content, hcontent, hdigest⟩ := bind_eq_ok.mp h
  rw [← Except.ok.inj hdigest]
  exact ⟨isSha256_sha256 content, content, hcontent⟩

private theorem toDict_of_bound {e : AssuranceException} {decisionDigest : Text}
    (h : e.decisionDigest = some decisionDigest) : e.toDict =
      [(lit "exception_id", .str e.exceptionId),
        (lit "subject_id", .str e.subjectId),
        (lit "invariant", .str e.invariant),
        (lit "reason_operation_continues", .str e.reasonOperationContinues),
        (lit "authorized_by", .str e.authorizedBy),
        (lit "expires_at", .str e.expiresAt),
        (lit "compensating_control", .str e.compensatingControl),
        (lit "reverification_required", .str e.reverificationRequired),
        (lit "evidence_references", textArray e.evidenceReferences),
        (lit "created_at", .str e.createdAt),
        (lit "decision_digest", .str decisionDigest),
        (lit "system_state_preserved", .bool e.systemStatePreserved),
        (lit "digest", .str e.digest)] := by
  rw [AssuranceException.toDict, AssuranceExceptionFields.payload, h]
  rfl

/-- A constructed exception of a decision is decoded from what is read back of it exactly when none
of its evidence references is blank. -/
theorem assuranceExceptionFromDict_of_readBack {e : AssuranceException} {decisionDigest : Text}
    (hcreated : AssuranceException.create e.toAssuranceExceptionFields [] = .ok e)
    (hdecision : e.decisionDigest = some decisionDigest) (h : ReadBack members e.toDict) :
    assuranceExceptionFromDict members = .ok e ↔ ∀ s ∈ e.evidenceReferences, blank s = false := by
  obtain ⟨hcheck, -, hdigest, -⟩ := AssuranceException.create_eq_ok.mp hcreated
  have hdigested := not_blank_of_isSha256 (isSha256_exceptionDigest hdigest).1
  have hcreate : AssuranceException.create e.toAssuranceExceptionFields e.digest = .ok e :=
    AssuranceException.create_eq_ok.mpr ⟨hcheck, rfl, hdigest, Or.inr rfl⟩
  simp only [AssuranceExceptionFields.check, bind_eq_ok, require_eq_ok, exists_const,
    Bool.not_eq_true', List.isEmpty_eq_false_iff] at hcheck
  obtain ⟨⟨⟩, hnamed, hreferences, -⟩ := hcheck
  have hfilled (p : Text × Text) (hp : p ∈ e.named) : blank p.2 = false := by
    have hrequired := forM_eq_ok.mp hnamed p hp
    rwa [require_eq_ok, Bool.not_eq_true'] at hrequired
  simp only [AssuranceExceptionFields.named, List.forall_mem_cons] at hfilled
  obtain ⟨hid, hsubject, hinvariant, hreason, hauthorized, hexpires, hcontrol, hreverified, hcreation,
    -⟩ := hfilled
  rw [toDict_of_bound hdecision] at h
  have htext (key : Text) {s : Text} (hread : members.get? key = some (Json.sortKeys (.str s)))
      (hs : blank s = false) : strictString members key = .ok s := strictString_of_get? hread hs
  have hbool : strictBool members (lit "system_state_preserved") = .ok e.systemStatePreserved :=
    strictBool_of_get? (h.reads _ (.bool e.systemStatePreserved) rfl)
  have hbound : decisionDigestOf members = .ok e.decisionDigest := by
    rw [decisionDigestOf, h.reads (lit "decision_digest") (.str decisionDigest) rfl, hdecision]
    rfl
  have hkeys : requireKeys members (exceptionKeys ++ [lit "decision_digest"]) exceptionKeys
      (lit "assurance exception") = .ok () := by
    have hinside : ∀ key ∈ exceptionKeys.take 10 ++ lit "decision_digest" :: exceptionKeys.drop 10,
        key ∈ exceptionKeys ++ [lit "decision_digest"] := by decide
    have hrequired : ∀ key ∈ exceptionKeys,
        key ∈ exceptionKeys.take 10 ++ lit "decision_digest" :: exceptionKeys.drop 10 := by decide
    exact requireKeys_eq_ok.mpr ⟨fun key hkey ↦ hinside key ((h.keys key).mp hkey),
      fun key hkey ↦ (h.keys key).mpr (hrequired key hkey)⟩
  have htexts : members.get? (lit "evidence_references") = some (textArray e.evidenceReferences) :=
    (h.reads _ (textArray e.evidenceReferences) rfl).trans (by rw [sortKeys_textArray])
  rw [assuranceExceptionFromDict, hkeys, ok_bind, hbound, ok_bind,
    htext (lit "exception_id") (h.reads _ _ rfl) hid, ok_bind,
    htext (lit "subject_id") (h.reads _ _ rfl) hsubject, ok_bind,
    htext (lit "invariant") (h.reads _ _ rfl) hinvariant, ok_bind,
    htext (lit "reason_operation_continues") (h.reads _ _ rfl) hreason, ok_bind,
    htext (lit "authorized_by") (h.reads _ _ rfl) hauthorized, ok_bind,
    htext (lit "expires_at") (h.reads _ _ rfl) hexpires, ok_bind,
    htext (lit "compensating_control") (h.reads _ _ rfl) hcontrol, ok_bind,
    htext (lit "reverification_required") (h.reads _ _ rfl) hreverified, ok_bind, bind_eq_ok]
  constructor
  · rintro ⟨items, hitems, -⟩
    exact ((strictStringTuple_eq_ok htexts).mp hitems).2.1
  · intro hitems
    refine ⟨e.evidenceReferences, strictStringTuple_of_get? htexts hitems (Or.inr hreferences), ?_⟩
    rw [htext (lit "created_at") (h.reads _ _ rfl) hcreation, ok_bind, hbool, ok_bind,
      htext (lit "digest") (h.reads _ _ rfl) hdigested, ok_bind]
    exact hcreate

/-- A constructed exception is written without loss. -/
theorem AssuranceException.readBack_toDict {e : AssuranceException} {decisionDigest : Text}
    (hcreated : create e.toAssuranceExceptionFields [] = .ok e)
    (hdecision : e.decisionDigest = some decisionDigest) (style : Json.Style) :
    ReadBack e.toDict e.toDict ∧ Json.Writable (.obj e.toDict) ∧
      ReadBack (Json.readMembers style e.toDict) e.toDict := by
  obtain ⟨hsha, content, hcontent⟩ := isSha256_exceptionDigest (create_eq_ok.mp hcreated).2.2.1
  have hw : Json.Writable (.obj e.toDict) := by
    rw [toDict_of_bound hdecision]
    simp [Dict.Distinct]
  refine ⟨ReadBack.self ?_, hw, ReadBack.readMembers style hw (surrogateFree_digested hcontent hsha)⟩
  rw [toDict_of_bound hdecision]
  simp

end StateWake.Assurance
