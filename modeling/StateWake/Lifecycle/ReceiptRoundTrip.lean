import StateWake.Lifecycle.RunIndex

/-!
# Receipts on disk

A receipt that ingestion writes, `adapters/evidence_ingestion.py:77–115`, is read back with its
capture time in UTC and its metadata in order, and is the same record.
-/

namespace StateWake.Lifecycle

open StateWake.Base Text Utils Reliability

/-- A receipt the constructor made: it passes its checks, and its metadata is a dictionary. -/
structure Constructed (r : ExternalEvidenceReceipt) (captured : Datetime) : Prop where
  created : ExternalEvidenceReceipt.create r.toReceiptFields [] [] = .ok r
  metadata : r.metadata.Distinct
  captured : r.capturedAt.toUtc = .ok captured

/-- A receipt as ingestion makes it: it passes its checks, it has no provenance reference, and the
keys of its metadata are distinct. -/
structure Received (r : ExternalEvidenceReceipt) (captured : Datetime) : Prop where
  created : ExternalEvidenceReceipt.create r.toReceiptFields [] [] = .ok r
  provenance : r.provenanceRef = none
  metadata : r.metadata.Distinct
  captured : r.capturedAt.toUtc = .ok captured

namespace ExternalEvidenceReceipt

/-- The fields as a file keeps them. -/
def storedFields (r : ExternalEvidenceReceipt) (captured : Datetime) : ReceiptFields :=
  { r.toReceiptFields with capturedAt := .ofUtc captured, metadata := r.metadata.sorted }

/-- A receipt as it is read back. -/
def stored (r : ExternalEvidenceReceipt) (captured : Datetime) : ExternalEvidenceReceipt :=
  { r.storedFields captured with receiptId := r.receiptId, digest := r.digest }

end ExternalEvidenceReceipt

section

variable {r : ExternalEvidenceReceipt} {captured : Datetime}

theorem identityPayload_storedFields :
    (r.storedFields captured).identityPayload = r.identityPayload := by
  simp [ReceiptFields.identityPayload, ExternalEvidenceReceipt.storedFields]

theorem identity_storedFields : (r.storedFields captured).identity = r.identity := by
  rw [ReceiptFields.identity, ReceiptFields.identity, identityPayload_storedFields]
  rfl

theorem computedReceiptId_storedFields :
    (r.storedFields captured).computedReceiptId = r.computedReceiptId := by
  rw [ReceiptFields.computedReceiptId, identity_storedFields]
  rfl

theorem Received.constructed (h : Received r captured) : Constructed r captured :=
  ⟨h.created, h.metadata, h.captured⟩

theorem payload_storedFields (h : Constructed r captured) (receiptId : Text) :
    (r.storedFields captured).payload receiptId = r.payload receiptId := by
  rw [ReceiptFields.payload, ReceiptFields.payload, identityPayload_storedFields, h.captured,
    ExternalEvidenceReceipt.storedFields, AwareDatetime.toUtc_ofUtc]

theorem computedDigest_storedFields (h : Constructed r captured) (receiptId : Text) :
    (r.storedFields captured).computedDigest receiptId = r.computedDigest receiptId := by
  rw [ReceiptFields.computedDigest, payload_storedFields h]
  rfl

/-- A receipt read back is the same record. -/
theorem toDict_stored (h : Constructed r captured) : (r.stored captured).toDict = r.toDict := by
  rw [ExternalEvidenceReceipt.toDict, ExternalEvidenceReceipt.toDict]
  have hpayload := payload_storedFields h r.receiptId
  rw [show (r.stored captured).payload (r.stored captured).receiptId = r.payload r.receiptId from
    hpayload]
  rfl

/-- The checks a constructed receipt has passed. -/
structure Checked (r : ExternalEvidenceReceipt) : Prop where
  producerType : blank r.producerType = false
  producerId : blank r.producerId = false
  sourceRef : blank r.sourceRef = false
  producerVersion : (r.producerVersion.all fun s ↦ !blank s) = true
  sourceEventId : (r.sourceEventId.all fun s ↦ !blank s) = true
  runId : (r.runId.all fun s ↦ !blank s) = true
  artifactDigest : isSha256 r.artifactDigest = true
  artifactSize : 0 ≤ r.artifactSize
  metadata : r.metadata.keys.any blank = false
  receiptId : r.computedReceiptId = .ok r.receiptId
  digest : r.computedDigest r.receiptId = .ok r.digest

/-- A constructed receipt has passed its checks, and refers to provenance alone. -/
theorem Constructed.checks (h : Constructed r captured) :
    Checked r ∧ (r.provenanceRef.all fun p ↦ p.kind = lit "provenance") = true := by
  have hcreated := h.created
  simp only [ExternalEvidenceReceipt.create, bind_eq_ok, require_eq_ok, exists_const,
    decide_eq_true_eq, Bool.not_eq_true'] at hcreated
  obtain ⟨htype, hid, href, hversion, hevent, hrun, hdigest, hsize, -, -, hmetadata, hprovenance,
    receiptId, hreceipt, -, digest, hcomputed, -, heq⟩ := hcreated
  obtain rfl : receiptId = r.receiptId :=
    congrArg ExternalEvidenceReceipt.receiptId (Except.ok.inj heq)
  obtain rfl : digest = r.digest := congrArg ExternalEvidenceReceipt.digest (Except.ok.inj heq)
  exact ⟨⟨htype, hid, href, hversion, hevent, hrun, hdigest, hsize, hmetadata, hreceipt, hcomputed⟩,
    hprovenance⟩

theorem Constructed.checked (h : Constructed r captured) : Checked r := h.checks.1

theorem Received.checked (h : Received r captured) : Checked r := h.constructed.checked

/-- The provenance reference of a constructed receipt binds no receipt. -/
theorem Constructed.unbound (h : Constructed r captured) {p : EvidenceReference}
    (hp : r.provenanceRef = some p) : p.receiptRef = none := by
  by_contra hbound
  have hkind := h.checks.2
  rw [hp, Option.all_some, decide_eq_true_eq, p.bound hbound] at hkind
  revert hkind
  decide

/-- A receipt read back passes its checks again. -/
theorem create_stored (h : Constructed r captured) :
    ExternalEvidenceReceipt.create (r.storedFields captured) r.receiptId r.digest =
      .ok (r.stored captured) := by
  have hc := h.checked
  have hmetadata : (r.storedFields captured).metadata.keys.any blank = false := by
    rw [List.any_eq_false]
    intro key hkey
    exact List.any_eq_false.mp hc.metadata key (Dict.mem_keys_sorted.mp hkey)
  simp only [ExternalEvidenceReceipt.create, computedReceiptId_storedFields,
    computedDigest_storedFields h, hc.receiptId, hmetadata]
  simp [ExternalEvidenceReceipt.storedFields, hc.producerType, hc.producerId, hc.sourceRef,
    hc.producerVersion, hc.sourceEventId, hc.runId, hc.artifactDigest, hc.artifactSize,
    h.checks.2, hc.digest, ExternalEvidenceReceipt.stored]

/-! ### The file of a receipt -/

variable {record : Dict Json}

/-- The record of a constructed receipt. -/
theorem Constructed.toDict (h : Constructed r captured) : r.toDict = .ok
    ([(lit "format_version", .str (lit "1"))] ++ (r.identityPayload ++
      [(lit "captured_at", .str (isoformat captured)), (lit "receipt_id", .str r.receiptId)]) ++
      [(lit "digest", .str r.digest)]) := by
  rw [ExternalEvidenceReceipt.toDict, ReceiptFields.payload, h.captured]
  rfl

theorem texts_toDict (h : Constructed r captured) (hr : r.toDict = .ok record) :
    ∀ s ∈ Json.texts (.obj record), SurrogateFree s := by
  have hdigest := h.checked.digest
  simp only [ReceiptFields.computedDigest, bind_eq_ok] at hdigest
  obtain ⟨payload, hpayload, content, hcontent, hd⟩ := hdigest
  have htexts := surrogateFree_of_canonicalBytes hcontent
  rw [ExternalEvidenceReceipt.toDict, hpayload, ok_bind] at hr
  cases hr
  rw [Json.forall_texts_obj] at htexts ⊢
  intro m hm
  simp only [List.mem_append, List.mem_singleton] at hm
  rcases hm with (rfl | hm) | rfl
  · simp
  · exact htexts m hm
  · simp only [surrogateFree_lit, Json.mem_texts_str, forall_eq, true_and]
    rw [← Except.ok.inj hd]
    exact surrogateFree_of_isSha256 (isSha256_sha256 content)

/-- The provenance reference as a receipt writes it. -/
def provenanceJson (p : Option EvidenceReference) : Json := p.elim .null fun p ↦ .obj p.toDict

theorem writable_provenanceJson (h : Constructed r captured) :
    Json.Writable (provenanceJson r.provenanceRef) := by
  cases hp : r.provenanceRef with
  | none => simp [provenanceJson]
  | some p => simp [provenanceJson, EvidenceReference.toDict, h.unbound hp, Dict.Distinct]

theorem writable_receipt (h : Constructed r captured) (hr : r.toDict = .ok record) :
    Json.Writable (.obj record) := by
  have htexts := texts_toDict h hr
  rw [h.toDict] at hr
  cases hr
  have hmetadata : Json.Writable (.obj (r.metadata.sorted.mapValues .str)) := by
    rw [Json.writable_obj]
    constructor
    · rw [Dict.Distinct, Dict.keys_mapValues]
      exact h.metadata.sorted
    · intro m hm
      have hkey : SurrogateFree m.1 := by
        apply htexts
        rw [Json.mem_texts_obj]
        refine ⟨(lit "metadata", .obj (r.metadata.sorted.mapValues .str)), by
          simp [ReceiptFields.identityPayload], .inr ?_⟩
        exact Json.mem_texts_obj.mpr ⟨m, hm, .inl rfl⟩
      obtain ⟨n, -, rfl⟩ := List.mem_map.mp hm
      exact ⟨hkey.pairFree, Json.writable_str _⟩
  have hprovenance := writable_provenanceJson h
  rw [provenanceJson] at hprovenance
  simp [ReceiptFields.identityPayload, Dict.Distinct, hprovenance, hmetadata]

theorem sortKeys_texts (members : Dict Text) :
    Json.sortKeys (.obj (members.mapValues .str)) = .obj (members.sorted.mapValues .str) := by
  have hmap : Dict.mapValues Json.sortKeys (Dict.mapValues Json.str members) =
      Dict.mapValues Json.str members := by
    simp [Dict.mapValues]
  rw [sortKeys_eq_ordered, ordered, hmap, Dict.sorted_mapValues]

/-- Texts under keys are read as they were written, in the order of the keys. -/
theorem stringMapping_ordered (members : Dict Text) (field : Text) :
    stringMapping (.obj (ordered (members.mapValues .str))) field = .ok members.sorted := by
  have hread (d : Dict Text) : Dict.mapValues Json.pyStr (Dict.mapValues Json.str d) = d := by
    rw [Dict.mapValues, Dict.mapValues, List.map_map]
    exact List.map_id'' (fun _ ↦ rfl) d
  rw [← sortKeys_eq_ordered, sortKeys_texts, stringMapping, requireObject_obj, ok_bind, hread]
  rfl

/-- The members of a constructed receipt. -/
theorem get?_record (h : Constructed r captured) (hr : r.toDict = .ok record) :
    record.get? (lit "format_version") = some (.str (lit "1")) ∧
    record.get? (lit "metadata") = some (.obj (r.metadata.sorted.mapValues .str)) ∧
    record.get? (lit "provenance_ref") = some (provenanceJson r.provenanceRef) ∧
    record.get? (lit "producer_type") = some (.str r.producerType) ∧
    record.get? (lit "producer_id") = some (.str r.producerId) ∧
    record.get? (lit "artifact_digest") = some (.str r.artifactDigest) ∧
    record.get? (lit "artifact_size") = some (.int r.artifactSize) ∧
    record.get? (lit "captured_at") = some (.str (isoformat captured)) ∧
    record.get? (lit "source_ref") = some (.str r.sourceRef) ∧
    record.get? (lit "source_event_id") = some (optionJson r.sourceEventId) ∧
    record.get? (lit "producer_version") = some (optionJson r.producerVersion) ∧
    record.get? (lit "run_id") = some (optionJson r.runId) ∧
    record.get? (lit "receipt_id") = some (.str r.receiptId) ∧
    record.get? (lit "digest") = some (.str r.digest) := by
  rw [h.toDict] at hr
  cases hr
  simp [ReceiptFields.identityPayload, provenanceJson]

/-- The fields of a reference that binds no receipt construct it. -/
theorem evidenceReference_self {q : EvidenceReference} (h : q.receiptRef = none) :
    evidenceReference q.kind q.identity q.digest q.source = .ok q := by
  obtain ⟨kind, identity, digest, source, receiptRef, hn, hd, hs, hb⟩ := q
  cases h
  rw [evidenceReference, dif_pos hn, dif_pos hd, dif_pos hs]

/-- What reads as a provenance reference that binds no receipt is read as it. -/
theorem provenanceOf_of_readsAs {members reference : Dict Json} {q : EvidenceReference}
    (h : members.get? (lit "provenance_ref") = some (.obj reference))
    (hreads : ReadsAs reference q.toDict) (hbound : q.receiptRef = none) :
    ExternalEvidenceReceipt.provenanceOf members = .ok (some q) := by
  rw [ExternalEvidenceReceipt.provenanceOf, h]
  simp only [requireObject_obj, ok_bind,
    hreads.requiredText (lit "kind") q.kind (by simp [EvidenceReference.toDict]),
    hreads.requiredText (lit "identity") q.identity (by simp [EvidenceReference.toDict]),
    hreads.requiredText (lit "digest") q.digest (by simp [EvidenceReference.toDict]),
    hreads.nullableText (lit "source") q.source (by simp [EvidenceReference.toDict])]
  rw [evidenceReference_self hbound]
  rfl

/-- A provenance reference that binds no receipt is read from a file as it is. -/
theorem provenanceOf_of_reads {members : Dict Json} {p : Option EvidenceReference}
    (h : members.get? (lit "provenance_ref") = some (Json.sortKeys (provenanceJson p)))
    (hbound : ∀ q, p = some q → q.receiptRef = none) :
    ExternalEvidenceReceipt.provenanceOf members = .ok p := by
  cases p with
  | none =>
    rw [ExternalEvidenceReceipt.provenanceOf, h]
    rfl
  | some q =>
    apply provenanceOf_of_readsAs (h.trans (congrArg some (sortKeys_eq_ordered _))) _ (hbound q rfl)
    exact readsAs_sorted (by simp [EvidenceReference.toDict, Dict.Distinct])

/-- A provenance reference that binds no receipt is read from its record as it is. -/
theorem provenanceOf_of_get? {members : Dict Json} {p : Option EvidenceReference}
    (h : members.get? (lit "provenance_ref") = some (provenanceJson p))
    (hbound : ∀ q, p = some q → q.receiptRef = none) :
    ExternalEvidenceReceipt.provenanceOf members = .ok p := by
  cases p with
  | none =>
    rw [ExternalEvidenceReceipt.provenanceOf, h]
    rfl
  | some q =>
    apply provenanceOf_of_readsAs h (readsAs_self _) (hbound q rfl)
    simp [EvidenceReference.toDict, hbound q rfl, sortKeys_optionJson]

/-- What reads as the record of a receipt is read as the receipt. -/
theorem fromDict_of_readsAs (h : Constructed r captured) (hr : r.toDict = .ok record)
    {members : Dict Json} (hreads : ReadsAs members record) :
    ExternalEvidenceReceipt.fromDict members = .ok (r.stored captured) := by
  obtain ⟨hversion, hmetadata, hprovenance, htype, hid, hartifact, hsize, hcaptured, href, hevent,
    hproducer, hrun, hreceipt, hdigest⟩ := get?_record h hr
  have hcreate := create_stored h
  simp only [ExternalEvidenceReceipt.storedFields] at hcreate
  have hprov := provenanceOf_of_reads (hreads _ _ hprovenance) fun _ hp ↦ h.unbound hp
  rw [ExternalEvidenceReceipt.fromDict,
    hreads.nullableText _ (some (lit "1")) hversion, hreads _ _ hmetadata, Option.getD_some,
    sortKeys_eq_ordered, stringMapping_ordered, Dict.sorted_sorted, hprov,
    hreads.requiredText _ _ htype,
    hreads.requiredText _ _ hid, hreads.requiredText _ _ hartifact, hreads.index _ _ hsize,
    hreads.requiredText _ _ hcaptured, hreads.requiredText _ _ href,
    hreads.nullableText _ _ hevent, hreads.nullableText _ _ hproducer,
    hreads.nullableText _ _ hrun, optionalText_of_get? (hreads _ _ hreceipt),
    optionalText_of_get? (hreads _ _ hdigest)]
  rw [Option.all_some, decide_eq_true (Eq.refl (lit "1")), require_true, ok_bind, ok_bind, ok_bind,
    ok_bind, ok_bind, ok_bind, ok_bind, Json.sortKeys_int, requireInt_int, ok_bind, ok_bind,
    parseDatetime_isoformat, ok_bind, ok_bind]
  exact hcreate

/-- The file of a receipt is read as the receipt. -/
theorem parse_written (h : Constructed r captured) (hr : r.toDict = .ok record) :
    JsonEvidenceReceiptStore.parse (Json.dumps Json.indented (.obj record) ++ [Lines.newline]) =
      .ok (r.stored captured) := by
  have hw := writable_receipt h hr
  rw [JsonEvidenceReceiptStore.parse, Json.loads_dumps_obj_append _ hw Json.isBlank_newline,
    ok_bind, requireObject_obj, ok_bind]
  exact fromDict_of_readsAs h hr
    (readsAs_readMembers _ hw fun s hs ↦ (texts_toDict h hr s hs).pairFree)

/-- Only the provenance reference is read as an object with members of its own. -/
theorem fromDict_congr {members members' : Dict Json}
    (hget : ∀ key, key ≠ lit "provenance_ref" → members.get? key = members'.get? key)
    (hprovenance : ExternalEvidenceReceipt.provenanceOf members =
      ExternalEvidenceReceipt.provenanceOf members') :
    ExternalEvidenceReceipt.fromDict members = ExternalEvidenceReceipt.fromDict members' := by
  rw [ExternalEvidenceReceipt.fromDict, ExternalEvidenceReceipt.fromDict, hprovenance]
  simp only [nullableText, requiredText, optionalText, Json.index,
    hget (lit "format_version") (by decide), hget (lit "metadata") (by decide),
    hget (lit "producer_type") (by decide), hget (lit "producer_id") (by decide),
    hget (lit "artifact_digest") (by decide), hget (lit "artifact_size") (by decide),
    hget (lit "captured_at") (by decide), hget (lit "source_ref") (by decide),
    hget (lit "source_event_id") (by decide), hget (lit "producer_version") (by decide),
    hget (lit "run_id") (by decide), hget (lit "receipt_id") (by decide),
    hget (lit "digest") (by decide)]

/-- The members of a record are in order, all but the provenance reference. -/
theorem sortKeys_of_get? (h : Constructed r captured) (hr : r.toDict = .ok record) {key : Text}
    {v : Json} (hkey : key ≠ lit "provenance_ref") (hget : record.get? key = some v) :
    Json.sortKeys v = v := by
  have hsorted : ∀ m ∈ record, m.1 ≠ lit "provenance_ref" → Json.sortKeys m.2 = m.2 := by
    rw [h.toDict] at hr
    cases hr
    have hmetadata := sortKeys_texts r.metadata.sorted
    rw [Dict.sorted_sorted, Json.sortKeys_obj, Json.obj.injEq] at hmetadata
    simp [ReceiptFields.identityPayload, sortKeys_optionJson, hmetadata]
  exact hsorted (key, v) (Dict.mem_of_get? hget) hkey

/-- `from_dict` undoes `to_dict`. -/
theorem fromDict_toDict (h : Constructed r captured) (hr : r.toDict = .ok record) :
    ExternalEvidenceReceipt.fromDict record = .ok (r.stored captured) := by
  have hdistinct := ((Json.writable_obj _).mp (writable_receipt h hr)).1
  have hprovenance := (get?_record h hr).2.2.1
  have hunbound : ∀ q, r.provenanceRef = some q → q.receiptRef = none := fun _ hq ↦ h.unbound hq
  rw [← fromDict_of_readsAs h hr (readsAs_sorted hdistinct)]
  apply fromDict_congr
  · intro key hkey
    rw [get?_ordered hdistinct]
    cases hget : record.get? key with
    | none => rfl
    | some v =>
      rw [Option.map_some, sortKeys_of_get? h hr hkey hget]
  · rw [provenanceOf_of_get? hprovenance hunbound, provenanceOf_of_reads _ hunbound]
    rw [get?_ordered hdistinct, hprovenance, Option.map_some]

end

end StateWake.Lifecycle
