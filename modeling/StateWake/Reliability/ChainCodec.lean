import StateWake.Base.Paging
import StateWake.Reliability.EvidenceChain

/-!
# Persisted chains

The constructors, `to_dict` and `from_dict` of `domain/reliability_evidence.py`. A reference binds
a receipt or nothing, so decoding is one level deep.
-/

namespace StateWake.Reliability

open StateWake.Base Text Utils

/-! ### References -/

namespace EvidenceReference

/-- The constructor, `__post_init__` at `domain/reliability_evidence.py:48–63`. -/
def create (kind identity digest : Text) (source : Option Text)
    (receiptRef : Option EvidenceReference) : Except PyError EvidenceReference :=
  if hn : ¬(blank kind = true ∨ blank identity = true) then
    if hd : isSha256 digest = true then
      if hs : ∀ s ∈ source, blank s = false then
        match receiptRef with
        | none => .ok ⟨kind, identity, digest, source, none, hn, hd, hs, unbound kind⟩
        | some receipt =>
          if hk : kind = lit "evidence" then
            if receipt.kind = lit "receipt" then
              if receipt.receiptRef = none then
                .ok ⟨kind, identity, digest, source,
                  some ⟨receipt.identity, receipt.digest, receipt.source,
                    Bool.eq_false_iff.mpr fun h ↦ receipt.named (Or.inr h), receipt.digested,
                    receipt.sourced⟩, hn, hd, hs, fun _ ↦ hk⟩
              else valueError (lit "receipt references must not contain nested receipt bindings.")
            else valueError (lit "receipt_ref must have kind 'receipt'.")
          else valueError (lit "receipt_ref is only valid for evidence references.")
      else valueError (lit "source must not be blank when provided.")
    else valueError (lit "digest must be lowercase SHA-256 hex.")
  else valueError (lit "evidence reference kind and identity must not be empty.")

/-- The reference the members of an object describe, `domain/reliability_evidence.py:228–234`. -/
def ofMembers (members : Dict Json) (receiptRef : Option EvidenceReference) :
    Except PyError EvidenceReference := do
  let kind ← requiredText members (lit "kind")
  let identity ← requiredText members (lit "identity")
  let digest ← requiredText members (lit "digest")
  create kind identity digest (nullableText members (lit "source")) receiptRef

/-- The object a reference is decoded from. -/
def objectOf (value : Json) (name : Text) : Except PyError (Dict Json) :=
  orRaise ⟨.valueError, name ++ lit " must be an object."⟩ value.asObject

/-- `ref` with `allow_receipt=False`, `domain/reliability_evidence.py:216–234`. -/
def receiptOf (value : Json) (name : Text) : Except PyError EvidenceReference := do
  let members ← objectOf value name
  match members.get? (lit "receipt_ref") with
  | none | some .null => ofMembers members none
  | some _ => valueError (lit "nested receipt bindings are not supported.")

/-- `ref`, `domain/reliability_evidence.py:216–234`. -/
def ref (value : Json) (name : Text) : Except PyError EvidenceReference := do
  let members ← objectOf value name
  match members.get? (lit "receipt_ref") with
  | none | some .null => ofMembers members none
  | some raw => do
    let receipt ← receiptOf raw (name ++ lit ".receipt_ref")
    ofMembers members (some receipt)

/-- `ref(payload[key], key)`. -/
def requiredRef (members : Dict Json) (key : Text) : Except PyError EvidenceReference := do
  let value ← Json.index members key
  ref value key

/-- `None if payload.get(key) is None else ref(payload[key], key)`. -/
def optionalRef (members : Dict Json) (key : Text) : Except PyError (Option EvidenceReference) :=
  match members.get? key with
  | none | some .null => .ok none
  | some value => some <$> ref value key

end EvidenceReference

/-- A receipt is a reference of that kind. -/
def ReceiptReference.reference (r : ReceiptReference) : EvidenceReference :=
  ⟨lit "receipt", r.identity, r.digest, r.source, none,
    fun h ↦ h.elim (by decide) (by simp [r.named]), r.digested, r.sourced, fun h ↦ absurd rfl h⟩

namespace EvidenceReference

variable {members : Dict Json}

/-- A reference passes its own constructor. -/
theorem create_self (r : EvidenceReference) :
    create r.kind r.identity r.digest r.source (r.receiptRef.map ReceiptReference.reference) =
      .ok r := by
  obtain ⟨kind, identity, digest, source, receiptRef, hn, hd, hs, hb⟩ := r
  rw [create, dif_pos hn, dif_pos hd, dif_pos hs]
  cases receiptRef with
  | none => rfl
  | some receipt =>
    rw [Option.map_some]
    exact dif_pos (hb (Option.some_ne_none receipt))

theorem ofMembers_of_readsAs {r : EvidenceReference} (h : ReadsAs members r.toDict) :
    ofMembers members (r.receiptRef.map ReceiptReference.reference) = .ok r := by
  rw [ofMembers, h.requiredText (lit "kind") r.kind rfl, ok_bind,
    h.requiredText (lit "identity") r.identity rfl, ok_bind,
    h.requiredText (lit "digest") r.digest rfl, ok_bind,
    h.nullableText (lit "source") r.source rfl, create_self]

theorem writable_toDict (r : EvidenceReference) : Json.Writable (.obj r.toDict) := by
  have hreceipt : Json.Writable (r.receiptRef.elim .null fun receipt ↦ .obj receipt.toDict) := by
    cases r.receiptRef with
    | none => exact Json.writable_null
    | some receipt => simp [ReceiptReference.toDict, Dict.Distinct]
  simp [toDict, Dict.Distinct, hreceipt]

/-- A receipt is decoded from what is read back of it. -/
theorem receiptOf_of_readsAs {r : ReceiptReference} (h : ReadsAs members r.toDict) (name : Text) :
    receiptOf (.obj members) name = .ok r.reference := by
  have hnone : members.get? (lit "receipt_ref") = some .null := h _ .null rfl
  rw [receiptOf, objectOf, Json.asObject_obj, orRaise_some, ok_bind, hnone]
  exact ofMembers_of_readsAs (r := r.reference) h

/-- A reference is decoded from what is read back of it, its receipt included. -/
theorem ref_of_readsAs {r : EvidenceReference} (h : ReadsAs members r.toDict) (name : Text) :
    ref (.obj members) name = .ok r := by
  have hmembers := ofMembers_of_readsAs h
  rw [ref, objectOf, Json.asObject_obj, orRaise_some, ok_bind]
  cases hr : r.receiptRef with
  | none =>
    rw [hr, Option.map_none] at hmembers
    have hnone : members.get? (lit "receipt_ref") = some .null := by
      rw [h (lit "receipt_ref") .null (by simp [toDict, hr]), Json.sortKeys_null]
    rw [hnone]
    exact hmembers
  | some receipt =>
    rw [hr, Option.map_some] at hmembers
    have hbound : members.get? (lit "receipt_ref") = some (.obj (ordered receipt.toDict)) := by
      rw [h (lit "receipt_ref") (.obj receipt.toDict) (by simp [toDict, hr]), sortKeys_eq_ordered]
    have hreceipt := receiptOf_of_readsAs (r := receipt)
      (readsAs_sorted (by simp [ReceiptReference.toDict, Dict.Distinct]))
      (name ++ lit ".receipt_ref")
    rw [hbound]
    simp only [hreceipt, ok_bind]
    exact hmembers

/-- A reference nested in a written object is decoded as it was. -/
theorem ref_sortKeys (r : EvidenceReference) (name : Text) :
    ref (Json.sortKeys (.obj r.toDict)) name = .ok r := by
  rw [sortKeys_eq_ordered]
  exact ref_of_readsAs (readsAs_sorted ((Json.writable_obj _).mp r.writable_toDict).1) name

end EvidenceReference

namespace EvidenceReference

variable {members record : Dict Json}

/-- An optional reference is decoded from what is read back of it. -/
theorem optionalRef_of_readsAs (h : ReadsAs members record) (key : Text)
    (r : Option EvidenceReference)
    (hr : record.get? key = some (r.elim Json.null fun r ↦ .obj r.toDict)) :
    optionalRef members key = .ok r := by
  rw [optionalRef, h key _ hr]
  cases r with
  | none => rfl
  | some r =>
    have hread := ref_sortKeys r key
    rw [sortKeys_eq_ordered] at hread
    simp only [Option.elim_some, sortKeys_eq_ordered, hread]
    rfl

theorem requiredRef_of_readsAs (h : ReadsAs members record) (key : Text) (r : EvidenceReference)
    (hr : record.get? key = some (.obj r.toDict)) : requiredRef members key = .ok r := by
  rw [requiredRef, h.index key _ hr, ok_bind, ref_sortKeys]

end EvidenceReference

/-! ### Chains -/

/-- `str(payload.get(key, default))`. -/
def defaultedText (members : Dict Json) (key default : Text) : Text :=
  ((members.get? key).map Json.pyStr).getD default

theorem defaultedText_of_readsAs {members record : Dict Json} (h : ReadsAs members record)
    (key default s : Text) (hs : record.get? key = some (.str s)) :
    defaultedText members key default = s := by
  rw [defaultedText, h key _ hs]
  rfl

namespace ReliabilityEvidenceChain

/-- The constructor, `__post_init__` at `domain/reliability_evidence.py:104–161`. -/
def create (chainId : Text) (run state : EvidenceReference) (evidence : List EvidenceReference)
    (provenance integrity : EvidenceReference)
    (verificationStatus reliabilityState reconciliationState : Text)
    (reconciliationRef recoveryRef attestationRef decisionBasisRef comparisonRef
      reconciliationBindingRef : Option EvidenceReference)
    (decision : Text) (decisionRationale : List Text) :
    Except PyError ReliabilityEvidenceChain :=
  if named : blank chainId = false then
  if runKind : run.kind = lit "run" then
  if stateKind : state.kind = lit "state" then
  if provenanceKind : provenance.kind = lit "provenance" then
  if integrityKind : integrity.kind = lit "integrity" then
  if basisKind : ∀ r ∈ decisionBasisRef, r.kind = lit "decision-basis" ∨ r.kind = lit "policy" then
  if comparisonKind : ∀ r ∈ comparisonRef, r.kind = lit "comparison" then
  if bindingKind : ∀ r ∈ reconciliationBindingRef, r.kind = lit "reconciliation-binding" then
  if evidenced : evidence ≠ [] then
    match VerificationStatus.ofText? verificationStatus with
    | none => valueError (lit "unsupported verification_status.")
    | some verification =>
    match ReliabilityState.ofText? reliabilityState with
    | none => valueError (lit "unsupported reliability_state.")
    | some reliability =>
    match ReconciliationState.ofText? reconciliationState with
    | none => valueError (lit "unsupported reconciliation_state.")
    | some reconciliation =>
    match Decision.ofText? decision with
    | none => valueError (lit "unsupported decision.")
    | some choice =>
    if reconciled : reconciliation = .verified → verification = .verified then
    if accepts : choice = .accept → verification = .verified ∧
        (reconciliation = .verified ∨ reconciliation = .recovered) ∧
          (reliability = .reliable ∨ reliability = .recovered) then
    if rejects : choice = .reject → reliability = .unreliable ∨ reliability = .degraded then
      .ok ⟨chainId, run, state, evidence, provenance, integrity, verification, reliability,
        reconciliation, reconciliationRef, recoveryRef, attestationRef, decisionBasisRef,
        comparisonRef, reconciliationBindingRef, choice, decisionRationale, named, runKind,
        stateKind, provenanceKind, integrityKind, basisKind, comparisonKind, bindingKind, evidenced,
        reconciled, accepts, rejects⟩
    else valueError (lit "reject requires unreliable or degraded reliability state.")
    else valueError (lit
      "accept requires verified evidence, reconciled state, and reliable/recovered state.")
    else valueError (lit "verified reconciliation requires verified chain state.")
  else valueError (lit "at least one evidence reference is required.")
  else valueError (lit "reconciliation_binding_ref must have kind 'reconciliation-binding'.")
  else valueError (lit "comparison_ref must have kind 'comparison'.")
  else valueError (lit "decision_basis_ref must have kind 'decision-basis' or 'policy'.")
  else valueError (lit "integrity reference must have kind 'integrity'.")
  else valueError (lit "provenance reference must have kind 'provenance'.")
  else valueError (lit "state reference must have kind 'state'.")
  else valueError (lit "run reference must have kind 'run'.")
  else valueError (lit "chain_id must not be empty.")

/-- `to_dict()`, `domain/reliability_evidence.py:201–207`. -/
def toDict (chain : ReliabilityEvidenceChain) : Except PyError (Dict Json) := do
  let digest ← chain.digest
  pure ((lit "format_version", .str (lit "1")) :: chain.payload ++ [(lit "digest", .str digest)])

/-- The chain `from_dict` constructs before it compares digests,
`domain/reliability_evidence.py:236–273`. -/
def construct (members : Dict Json) : Except PyError ReliabilityEvidenceChain := do
  let chainId ← requiredText members (lit "chain_id")
  let run ← EvidenceReference.requiredRef members (lit "run")
  let state ← EvidenceReference.requiredRef members (lit "state")
  let values ← iterItems ((members.get? (lit "evidence")).getD (.arr []))
  let evidence ← values.mapM fun value ↦ EvidenceReference.ref value (lit "evidence")
  let provenance ← EvidenceReference.requiredRef members (lit "provenance")
  let integrity ← EvidenceReference.requiredRef members (lit "integrity")
  let reconciliationRef ← EvidenceReference.optionalRef members (lit "reconciliation_ref")
  let recoveryRef ← EvidenceReference.optionalRef members (lit "recovery_ref")
  let attestationRef ← EvidenceReference.optionalRef members (lit "attestation_ref")
  let decisionBasisRef ← EvidenceReference.optionalRef members (lit "decision_basis_ref")
  let comparisonRef ← EvidenceReference.optionalRef members (lit "comparison_ref")
  let bindingRef ← EvidenceReference.optionalRef members (lit "reconciliation_binding_ref")
  let rationale ← stringSequence ((members.get? (lit "decision_rationale")).getD (.arr []))
    (lit "decision_rationale")
  create chainId run state evidence provenance integrity
    (defaultedText members (lit "verification_status") (lit "unverified"))
    (defaultedText members (lit "reliability_state") (lit "unknown"))
    (defaultedText members (lit "reconciliation_state") (lit "pending"))
    reconciliationRef recoveryRef attestationRef decisionBasisRef comparisonRef bindingRef
    (defaultedText members (lit "decision") (lit "undecided")) rationale

/-- `from_dict`, `domain/reliability_evidence.py:209–277`. -/
def fromDict (members : Dict Json) : Except PyError ReliabilityEvidenceChain := do
  require ⟨.valueError, lit "unsupported reliability evidence chain format version."⟩
    ((nullableText members (lit "format_version")).all fun version ↦ version = lit "1")
  let item ← construct members
  let supplied := optionalText members (lit "digest")
  if supplied ≠ [] then
    let digest ← item.digest
    require ⟨.valueError, lit "reliability evidence chain digest mismatch."⟩ (supplied = digest)
  pure item

/-! ### Reading back -/

variable {members record : Dict Json} {chain : ReliabilityEvidenceChain}

/-- A chain passes its own constructor. -/
theorem create_self (chain : ReliabilityEvidenceChain) :
    create chain.chainId chain.run chain.state chain.evidence chain.provenance chain.integrity
      chain.verificationStatus.text chain.reliabilityState.text chain.reconciliationState.text
      chain.reconciliationRef chain.recoveryRef chain.attestationRef chain.decisionBasisRef
      chain.comparisonRef chain.reconciliationBindingRef chain.decision.text
      chain.decisionRationale = .ok chain := by
  rw [create, dif_pos chain.named, dif_pos chain.runKind, dif_pos chain.stateKind,
    dif_pos chain.provenanceKind, dif_pos chain.integrityKind, dif_pos chain.basisKind,
    dif_pos chain.comparisonKind, dif_pos chain.bindingKind, dif_pos chain.evidenced]
  simp only [VerificationStatus.ofText?_text, ReliabilityState.ofText?_text,
    ReconciliationState.ofText?_text, Decision.ofText?_text]
  rw [dif_pos chain.reconciled, dif_pos chain.accepts, dif_pos chain.rejects]

/-- A chain is constructed from what is read back of its payload. -/
theorem construct_of_readsAs (h : ReadsAs members chain.payload) : construct members = .ok chain := by
  have hreference (key : Text) (r : EvidenceReference)
      (hr : chain.payload.get? key = some (.obj r.toDict)) :
      EvidenceReference.requiredRef members key = .ok r :=
    EvidenceReference.requiredRef_of_readsAs h key r hr
  have hevidence : members.get? (lit "evidence") =
      some (.arr (chain.evidence.map fun r ↦ Json.sortKeys (.obj r.toDict))) := by
    rw [h (lit "evidence") (.arr (chain.evidence.map fun r ↦ .obj r.toDict)) rfl, Json.sortKeys_arr,
      List.map_map]
    rfl
  have hitems : (chain.evidence.map fun r ↦ Json.sortKeys (.obj r.toDict)).mapM
      (fun value ↦ EvidenceReference.ref value (lit "evidence")) = .ok chain.evidence := by
    rw [List.mapM_map]
    refine (mapM_eq_ok_map fun r _ ↦ ?_).trans (congrArg Except.ok (List.map_id chain.evidence))
    exact EvidenceReference.ref_sortKeys r (lit "evidence")
  have hrationale : members.get? (lit "decision_rationale") =
      some (.arr (chain.decisionRationale.map .str)) := by
    rw [h (lit "decision_rationale") (.arr (chain.decisionRationale.map .str)) rfl,
      Json.sortKeys_arr, List.map_map]
    exact congrArg (fun l ↦ some (Json.arr l)) (List.map_congr_left fun _ _ ↦ Json.sortKeys_str _)
  have hoptional (key : Text) (r : Option EvidenceReference)
      (hr : chain.payload.get? key = some (r.elim Json.null fun r ↦ .obj r.toDict)) :
      EvidenceReference.optionalRef members key = .ok r :=
    EvidenceReference.optionalRef_of_readsAs h key r hr
  have htext (key default s : Text) (hs : chain.payload.get? key = some (.str s)) :
      defaultedText members key default = s := defaultedText_of_readsAs h key default s hs
  rw [construct, h.requiredText (lit "chain_id") chain.chainId rfl, ok_bind,
    hreference (lit "run") chain.run rfl, ok_bind, hreference (lit "state") chain.state rfl, ok_bind,
    hevidence, Option.getD_some, iterItems, ok_bind, hitems, ok_bind,
    hreference (lit "provenance") chain.provenance rfl, ok_bind,
    hreference (lit "integrity") chain.integrity rfl, ok_bind,
    hoptional (lit "reconciliation_ref") chain.reconciliationRef rfl, ok_bind,
    hoptional (lit "recovery_ref") chain.recoveryRef rfl, ok_bind,
    hoptional (lit "attestation_ref") chain.attestationRef rfl, ok_bind,
    hoptional (lit "decision_basis_ref") chain.decisionBasisRef rfl, ok_bind,
    hoptional (lit "comparison_ref") chain.comparisonRef rfl, ok_bind,
    hoptional (lit "reconciliation_binding_ref") chain.reconciliationBindingRef rfl, ok_bind,
    hrationale, Option.getD_some, stringSequence_texts, ok_bind,
    htext (lit "verification_status") _ chain.verificationStatus.text rfl,
    htext (lit "reliability_state") _ chain.reliabilityState.text rfl,
    htext (lit "reconciliation_state") _ chain.reconciliationState.text rfl,
    htext (lit "decision") _ chain.decision.text rfl]
  exact create_self chain

theorem writable_payload (chain : ReliabilityEvidenceChain) :
    Json.Writable (.obj chain.payload) := by
  have hoptional (r : Option EvidenceReference) :
      Json.Writable (r.elim Json.null fun r ↦ .obj r.toDict) := by
    cases r with
    | none => exact Json.writable_null
    | some r => exact r.writable_toDict
  rw [Json.writable_obj]
  constructor
  · simp [payload, Dict.Distinct]
  · simp only [payload, List.forall_mem_cons, List.not_mem_nil, false_implies, implies_true,
      pairFree_lit, Json.writable_str, EvidenceReference.writable_toDict, hoptional,
      Json.writable_arr, List.forall_mem_map, and_true]

/-- The digest of a chain is that of its canonical form. -/
theorem digest_eq_ok {d : Text} : chain.digest = .ok d ↔
    ∃ content, canonicalBytes chain.payload = .ok content ∧ sha256 content = d := by
  rw [digest, bind_eq_ok]
  apply exists_congr
  intro content
  apply and_congr_right
  intro _
  constructor
  · exact Except.ok.inj
  · exact congrArg Except.ok

/-- A chain has a digest where UTF-8 can encode every text of it. -/
theorem exists_digest (h : ∀ s ∈ Json.texts (.obj chain.payload), SurrogateFree s) :
    ∃ d, chain.digest = .ok d := by
  obtain ⟨content, hcontent⟩ := (canonicalBytes_isOk_iff chain.writable_payload).mpr h
  exact ⟨_, digest_eq_ok.mpr ⟨content, hcontent, rfl⟩⟩

/-- Chains of one canonical form are equal. -/
theorem eq_of_content {a b : ReliabilityEvidenceChain} {content : Bytes}
    (ha : canonicalBytes a.payload = .ok content) (hb : canonicalBytes b.payload = .ok content) :
    a = b :=
  eq_of_canonicalBytes writable_payload
    (fun chain ↦ construct_of_readsAs
      (readsAs_sorted ((Json.writable_obj _).mp chain.writable_payload).1)) ha hb

/-- A decoded chain that was supplied a digest has it. -/
theorem digest_of_fromDict (h : fromDict members = .ok chain)
    (hsupplied : optionalText members (lit "digest") ≠ []) :
    chain.digest = .ok (optionalText members (lit "digest")) := by
  rw [fromDict] at h
  obtain ⟨-, -, h⟩ := bind_eq_ok.mp h
  obtain ⟨item, -, h⟩ := bind_eq_ok.mp h
  rw [if_pos hsupplied] at h
  obtain ⟨d, hd, h⟩ := bind_eq_ok.mp h
  obtain ⟨_, heq, hitem⟩ := bind_eq_ok.mp h
  rw [require_eq_ok, decide_eq_true_eq] at heq
  rw [← Except.ok.inj hitem, hd, heq]

/-- A chain is read from what reads as its payload, where the format version and the digest
supplied, if any, are its own. -/
theorem fromDict_of_readsAs (h : ReadsAs members chain.payload)
    (hversion : nullableText members (lit "format_version") = some (lit "1"))
    (hdigest : chain.digest = .ok (optionalText members (lit "digest"))) :
    fromDict members = .ok chain := by
  rw [fromDict, hversion, Option.all_some, decide_eq_true rfl, require_true, ok_bind,
    construct_of_readsAs h, ok_bind]
  by_cases hsupplied : optionalText members (lit "digest") = []
  · rw [if_neg (not_not.mpr hsupplied)]
    rfl
  · rw [if_pos hsupplied, hdigest]
    simp only [ok_bind, decide_true, require_true]
    rfl

/-- What `to_dict` returned: the payload between the format version and the digest. -/
theorem toDict_eq_ok (h : chain.toDict = .ok record) : ∃ d, chain.digest = .ok d ∧
    record = (lit "format_version", .str (lit "1")) ::
      (chain.payload ++ [(lit "digest", .str d)]) := by
  obtain ⟨d, hd, hrecord⟩ := bind_eq_ok.mp h
  exact ⟨d, hd, (Except.ok.inj hrecord).symm⟩

/-- A written chain is a JSON object of texts UTF-8 can encode. -/
theorem writable_toDict (h : chain.toDict = .ok record) :
    Json.Writable (.obj record) ∧ ∀ s ∈ Json.texts (.obj record), SurrogateFree s := by
  obtain ⟨d, hd, rfl⟩ := toDict_eq_ok h
  obtain ⟨content, hcontent, -⟩ := digest_eq_ok.mp hd
  have hpayload := (Json.writable_obj _).mp chain.writable_payload
  have htexts := surrogateFree_digested hcontent (isSha256_of_digest hd)
  rw [Json.forall_texts_obj] at htexts
  rw [Json.writable_obj, Json.forall_texts_obj, List.forall_mem_cons, List.forall_mem_cons,
    List.forall_mem_append, List.forall_mem_singleton]
  refine ⟨⟨?_, ⟨pairFree_lit _, Json.writable_str _⟩, hpayload.2, pairFree_lit _,
    Json.writable_str _⟩, ?_, htexts⟩
  · simp [payload, Dict.Distinct]
  · simp

/-- Reading a written chain gives it back, in every style. -/
theorem fromDict_readMembers (h : chain.toDict = .ok record) (style : Json.Style) :
    fromDict (Json.readMembers style record) = .ok chain := by
  obtain ⟨hw, htexts⟩ := writable_toDict h
  obtain ⟨d, hd, rfl⟩ := toDict_eq_ok h
  have hreads := readsAs_readMembers style hw fun s hs ↦ (htexts s hs).pairFree
  apply fromDict_of_readsAs
  · intro key v hv
    apply hreads
    have hkey : key ≠ lit "format_version" := by
      rintro rfl
      cases hv
    rw [Dict.get?_cons, if_neg hkey, Dict.get?_append, hv, Option.some_or]
  · exact hreads.nullableText (lit "format_version") (some (lit "1")) rfl
  · rw [optionalText_of_get? (hreads (lit "digest") (.str d) rfl), hd]

end ReliabilityEvidenceChain
end StateWake.Reliability
