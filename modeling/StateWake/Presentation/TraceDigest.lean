import StateWake.Presentation.TraceExact

/-!
# The order of the records and the digest of a trace

The edges and the unresolved list of a trace do not depend on the order of the records. Its nodes
stand in the order in which they are mentioned and say what was said of them first, and the digest
covers them: it is the same for every order only where the records say the same.
-/

namespace StateWake.Presentation

open StateWake.Base Text Utils Reports

variable {report : ReliabilityVerificationReport} {source : ReportSourceContext}
  {records : List EvidenceTraceRecord} {recordsScanned recordsAvailable : Int}
  {scanComplete : Bool} {maxNodes : Int} {digest : Text} {p : EvidenceTraceProjection}

/-! ### What does not depend on the order -/

theorem matchedOf_perm {records' : List EvidenceTraceRecord} (h : records'.Perm records) :
    (matchedOf report records').1.Perm (matchedOf report records).1 ∧
      (matchedOf report records').2.Perm (matchedOf report records).2 :=
  ⟨h.flatMap_right _, h.flatMap_right _⟩

/-- The edges and the unresolved list are the same for every order of the records. -/
theorem Built.order_invisible {records' : List EvidenceTraceRecord} {digest' : Text}
    {p' : EvidenceTraceProjection} (h : Built report digest source records scanComplete p)
    (h' : Built report digest' source records' scanComplete p') (hperm : records'.Perm records) :
    p'.edges = p.edges ∧ p'.unresolved = p.unresolved := by
  constructor
  · have hrelations : (relations report source records').Perm (relations report source records) :=
      (hperm.flatMap_right _).append_left _
    rw [h.edges, h'.edges, Tally.sorted_eq_of_perm (Tally.tally_perm (hrelations.map _))]
  · obtain ⟨s, a, hs, ha, hunresolved⟩ := h.unresolved
    obtain ⟨s', a', hs', ha', hunresolved'⟩ := h'.unresolved
    obtain ⟨hsources, hartifacts⟩ := @matchedOf_perm report records records' hperm
    rw [hunresolved, hunresolved', unresolvedItems, unresolvedItems, hs, ha, hs', ha']
    simp only [hsources.mem_iff, hartifacts.mem_iff]

/-! ### Texts -/

/-- UTF-8 can encode the texts that are there. -/
def Encoded (texts : List (Option Text)) : Prop := ∀ o ∈ texts, ∀ s, o = some s → SurrogateFree s

/-- The texts of a node, its identity in the trace aside. -/
def EvidenceTraceNodeFields.texts (f : EvidenceTraceNodeFields) : List (Option Text) :=
  [some f.kind, some f.identity, some f.label, f.digest, f.digestKind, some f.integrityStatus,
    some f.availability, f.recordId, f.producerId, f.producerType, f.capturedAt, f.runId,
    f.sourceEventId, f.receiptDigest, f.receiptIntegrityStatus, f.artifactIntegrityStatus,
    f.admissionStatus, f.admissionDigest, f.producerAuthenticationStatus]

/-- The texts of a source context that a trace shows. -/
def ReportSourceContext.texts (s : ReportSourceContext) : List (Option Text) :=
  [some s.recordId, some s.artifactDigest, some s.producerId, some s.producerType,
    some s.capturedAt, s.runId]

/-- The texts of a record that a trace shows: all but its `source_ref`. -/
def EvidenceTraceRecord.texts (r : EvidenceTraceRecord) : List (Option Text) :=
  [some r.recordId, some r.artifactDigest, some r.producerId, some r.producerType,
    some r.capturedAt, r.sourceEventId, r.runId, some r.receiptDigest,
    some r.receiptIntegrityStatus, some r.artifactIntegrityStatus, some r.admissionStatus,
    r.admissionDigest, some r.producerAuthenticationStatus]

/-- A record without its `source_ref`: what a trace shows of it. -/
def EvidenceTraceRecord.shown (r : EvidenceTraceRecord) : EvidenceTraceRecord :=
  { r with sourceRef := [] }

theorem forall_texts_node {n : EvidenceTraceNode} :
    (∀ s ∈ Json.texts (.obj n.toDict), SurrogateFree s) ↔
      SurrogateFree n.nodeId ∧ Encoded n.texts := by
  have hsize (size : Option Int) (s : Text) : ¬s ∈ Json.texts (size.elim .null .int) := by
    cases size <;> simp
  rw [Json.forall_texts_obj]
  simp [EvidenceTraceNode.toDict, EvidenceTraceNodeFields.texts, Encoded, hsize]

theorem forall_texts_edge {e : EvidenceTraceEdge} :
    (∀ s ∈ Json.texts (.obj e.toDict), SurrogateFree s) ↔
      SurrogateFree e.edgeId ∧ SurrogateFree e.source ∧ SurrogateFree e.target ∧
        SurrogateFree e.relationshipType ∧ SurrogateFree e.basis := by
  rw [Json.forall_texts_obj]
  simp [EvidenceTraceEdge.toDict]

/-- What a record says of its node can be encoded exactly when its texts can. -/
theorem encoded_recordFields {r : EvidenceTraceRecord} :
    Encoded (recordFields r).texts ↔ Encoded r.texts := by
  have havailable : SurrogateFree (recordFields r).availability := by
    rw [recordFields]
    dsimp only
    split
    · exact surrogateFree_lit _
    · exact surrogateFree_lit _
  simp [Encoded, EvidenceTraceNodeFields.texts, EvidenceTraceRecord.texts,
    recordFields] at havailable ⊢
  tauto

theorem forall_texts_projection :
    (∀ s ∈ Json.texts (.obj p.toDict), SurrogateFree s) ↔
      SurrogateFree p.reportRecordId ∧ SurrogateFree p.reportDigest ∧
      SurrogateFree p.candidateIdentity ∧ SurrogateFree p.candidateDigest ∧
      (∀ n ∈ p.nodes, SurrogateFree n.nodeId ∧ Encoded n.texts) ∧
      (∀ e ∈ p.edges, SurrogateFree e.edgeId ∧ SurrogateFree e.source ∧ SurrogateFree e.target ∧
        SurrogateFree e.relationshipType ∧ SurrogateFree e.basis) ∧
      (∀ item ∈ p.unresolved, ∀ m ∈ item, SurrogateFree m.1 ∧ SurrogateFree m.2) ∧
      ∀ l ∈ p.limitations, SurrogateFree l := by
  have hcount (counted : EvidenceTraceNode → Bool) (s : Text) :
      ¬s ∈ Json.texts (p.countRecords counted) := by
    rw [EvidenceTraceProjection.countRecords, Json.mem_texts_int]
    exact not_false
  have harr {β : Type} (l : List β) (f : β → Json) :
      (∀ s ∈ Json.texts (.arr (l.map f)), SurrogateFree s) ↔
        ∀ b ∈ l, ∀ s ∈ Json.texts (f b), SurrogateFree s := by
    simp only [Json.mem_texts_arr, List.mem_map]
    constructor
    · exact fun h b hb s hs ↦ h s ⟨_, ⟨b, hb, rfl⟩, hs⟩
    · rintro h s ⟨_, ⟨b, hb, rfl⟩, hs⟩
      exact h b hb s hs
  have hnodes := harr p.nodes fun n ↦ .obj n.toDict
  simp only [forall_texts_node] at hnodes
  have hedges := harr p.edges fun e ↦ .obj e.toDict
  simp only [forall_texts_edge] at hedges
  have hunresolved := harr p.unresolved fun item ↦ .obj (item.mapValues .str)
  simp only [Json.forall_texts_obj (P := SurrogateFree), Dict.mapValues, List.forall_mem_map,
    Json.mem_texts_str, forall_eq] at hunresolved
  have hlimitations := harr p.limitations .str
  simp only [Json.mem_texts_str, forall_eq] at hlimitations
  rw [Json.forall_texts_obj]
  simp only [EvidenceTraceProjection.toDict, List.forall_mem_cons, List.not_mem_nil, false_implies,
    implies_true, and_true, surrogateFree_lit, true_and, Json.mem_texts_str, forall_eq, hnodes,
    hedges, Dict.mapValues, hunresolved, hlimitations,
    Json.forall_texts_obj (P := SurrogateFree), hcount, Json.mem_texts_int, Json.mem_texts_bool,
    Json.mem_texts_null, and_assoc]

theorem writable_toDict
    (hitems : ∀ item ∈ p.unresolved, Json.Writable (.obj (item.mapValues .str))) :
    Json.Writable (.obj p.toDict) := by
  have hsize (size : Option Int) : Json.Writable (size.elim .null .int) := by
    cases size <;> simp
  have hnode (n : EvidenceTraceNode) : Json.Writable (.obj n.toDict) := by
    simp [EvidenceTraceNode.toDict, Dict.Distinct, hsize]
  have hedge (e : EvidenceTraceEdge) : Json.Writable (.obj e.toDict) := by
    simp [EvidenceTraceEdge.toDict, Dict.Distinct]
  have harr {β : Type} (l : List β) (f : β → Json) (h : ∀ b ∈ l, Json.Writable (f b)) :
      Json.Writable (.arr (l.map f)) := by
    rw [Json.writable_arr, List.forall_mem_map]
    exact h
  have hnodes := harr p.nodes (fun n ↦ .obj n.toDict) fun n _ ↦ hnode n
  have hedges := harr p.edges (fun e ↦ .obj e.toDict) fun e _ ↦ hedge e
  have hunresolved := harr p.unresolved (fun item ↦ .obj (item.mapValues .str)) hitems
  have hlimitations := harr p.limitations .str fun l _ ↦ Json.writable_str l
  have hcount (counted : EvidenceTraceNode → Bool) : Json.Writable (p.countRecords counted) :=
    Json.writable_int _
  rw [Json.writable_obj]
  constructor
  · simp [EvidenceTraceProjection.toDict, Dict.Distinct]
  · simp only [EvidenceTraceProjection.toDict, List.forall_mem_cons, List.not_mem_nil,
      false_implies, implies_true, and_true, pairFree_lit, true_and, Json.writable_str, hnodes,
      hedges, hunresolved, hlimitations]
    simp [Dict.Distinct, hcount]

/-! ### When a projection has a digest -/

/-- The texts of a report that a trace shows can be encoded. -/
structure ReportEncoded (report : ReliabilityVerificationReport) : Prop where
  candidateIdentity : SurrogateFree report.val.candidateIdentity
  candidateDigest : SurrogateFree report.val.candidateDigest
  evaluation : ∀ d, report.val.profileEvaluationDigest = some d → SurrogateFree d
  sources : ∀ identity ∈ report.val.sourceIdentities, SurrogateFree identity
  artifacts : ∀ d ∈ report.val.artifactDigests, SurrogateFree d
  missing : ∀ identity ∈ report.val.evidenceMissing, SurrogateFree identity
  requirements : ∀ r ∈ requirements report, SurrogateFree r.1 ∧ SurrogateFree r.2

/-- A report that has a digest can be encoded. -/
theorem reportEncoded_of_digest (h : report.val.digest = .ok digest) : ReportEncoded report := by
  have htexts := (ReportFields.digest_isOk_iff report.val).mp ⟨digest, h⟩
  rw [Json.forall_texts_obj] at htexts
  have hmember (key : Text) (v : Json) (hv : (key, v) ∈ report.val.payload) :
      ∀ s ∈ Json.texts v, SurrogateFree s := (htexts _ hv).2
  have hlist (key : Text) (items : List Text)
      (hv : (key, .arr (items.map .str)) ∈ report.val.payload) : ∀ s ∈ items, SurrogateFree s := by
    intro s hs
    apply hmember key _ hv
    rw [Json.mem_texts_arr]
    exact ⟨.str s, List.mem_map_of_mem hs, Json.mem_texts_str.mpr rfl⟩
  have hevaluation := hmember (lit "profile_evaluation_digest") (optionJson
    report.val.profileEvaluationDigest) (by simp [ReportFields.payload])
  have hmissing := hlist (lit "evidence_missing") report.val.evidenceMissing
    (by simp [ReportFields.payload])
  refine ⟨hmember (lit "candidate_identity") (.str _) (by simp [ReportFields.payload]) _
      (Json.mem_texts_str.mpr rfl), hmember (lit "candidate_digest") (.str _)
      (by simp [ReportFields.payload]) _ (Json.mem_texts_str.mpr rfl),
    fun d hd ↦ hevaluation d (mem_texts_optionJson.mpr hd),
    hlist (lit "source_identities") _ (by simp [ReportFields.payload]),
    hlist (lit "artifact_digests") _ (by simp [ReportFields.payload]), hmissing, ?_⟩
  intro r hr
  rw [Presentation.requirements, List.mem_append, List.mem_append] at hr
  obtain (hr | hr) | hr := hr
  all_goals
    obtain ⟨identity, hidentity, rfl⟩ := List.mem_map.mp hr
    refine ⟨surrogateFree_lit _, ?_⟩
  · exact hlist (lit "evidence_included") _ (by simp [ReportFields.payload]) identity hidentity
  · exact hmissing identity hidentity
  · exact hlist (lit "evidence_omitted") _ (by simp [ReportFields.payload]) identity hidentity

/-- What is said of the nodes can be encoded where the report, the source context and the records
can. -/
theorem encoded_of_mem_mentions (hreport : ReportEncoded report) (hdigest : SurrogateFree digest)
    (hsource : Encoded source.texts) (hrecords : ∀ r ∈ records, Encoded r.texts)
    {f : EvidenceTraceNodeFields} (hf : f ∈ mentions report digest source records) :
    Encoded f.texts := by
  have hsource' := hsource
  simp only [Encoded, ReportSourceContext.texts, List.forall_mem_cons, List.not_mem_nil,
    false_implies, implies_true, and_true, Option.some.injEq, forall_eq'] at hsource'
  obtain ⟨hrecordId, hartifact, hproducer, hproducerType, hcaptured, hrun⟩ := hsource'
  have hrunFields (runId : Text) (label : String) (h : SurrogateFree runId) :
      Encoded (runFields runId (lit label)).texts := by
    simp [Encoded, EvidenceTraceNodeFields.texts, runFields, h]
  rw [mentions, List.mem_append, List.mem_flatMap] at hf
  obtain hf | ⟨r, hr, hf⟩ := hf
  · simp only [reportMentions, List.mem_append, List.mem_cons, List.not_mem_nil, or_false,
      List.mem_map] at hf
    rcases hf with (((((rfl | rfl | rfl) | ⟨d, hd, rfl⟩) | ⟨runId, hrunId, rfl⟩) | ⟨i, hi, rfl⟩) |
      ⟨d, hd, rfl⟩) | ⟨q, hq, rfl⟩
    · simp [Encoded, EvidenceTraceNodeFields.texts, reportFields, hdigest, hrecordId, hproducer,
        hproducerType, hcaptured]
      exact hrun
    · simp [Encoded, EvidenceTraceNodeFields.texts, reportArtifactFields, hartifact]
    · simp [Encoded, EvidenceTraceNodeFields.texts, candidateFields, hreport.candidateIdentity,
        hreport.candidateDigest]
    · simp [Encoded, EvidenceTraceNodeFields.texts, evaluationFields,
        hreport.evaluation d (Option.mem_toList.mp hd)]
    · exact hrunFields runId _ (hrun runId (Option.mem_toList.mp hrunId))
    · simp [Encoded, EvidenceTraceNodeFields.texts, sourceIdentityFields, hreport.sources i hi]
    · simp [Encoded, EvidenceTraceNodeFields.texts, artifactFields, hreport.artifacts d hd]
    · obtain ⟨hstatus, hidentity⟩ := hreport.requirements q hq
      have hid := surrogateFree_append (surrogateFree_append hstatus (surrogateFree_lit ":"))
        hidentity
      have hlabel := surrogateFree_append (surrogateFree_lit "Evidence ") hstatus
      rw [List.append_assoc] at hid
      simp [Encoded, EvidenceTraceNodeFields.texts, requirementFields, hid, hlabel]
  · have hencoded := hrecords r hr
    simp only [recordMentions, List.mem_append, List.mem_singleton, List.mem_map] at hf
    obtain (rfl | ⟨d, hd, rfl⟩) | ⟨runId, hrunId, rfl⟩ := hf
    · exact encoded_recordFields.mpr hencoded
    · have hd' : SurrogateFree d := hencoded r.admissionDigest
        (by simp [EvidenceTraceRecord.texts]) d (Option.mem_toList.mp hd)
      have hstatus : SurrogateFree r.admissionStatus := hencoded (some r.admissionStatus)
        (by simp [EvidenceTraceRecord.texts]) _ rfl
      simp [Encoded, EvidenceTraceNodeFields.texts, admissionFields, hd', hstatus]
    · exact hrunFields runId _ (hencoded r.runId (by simp [EvidenceTraceRecord.texts]) runId
        (Option.mem_toList.mp hrunId))

/-- The types and bases of relations can be encoded. -/
theorem surrogateFree_of_mem_relations (hreport : ReportEncoded report) {r : Relation}
    (hr : r ∈ relations report source records) :
    SurrogateFree r.relationshipType ∧ SurrogateFree r.basis := by
  rw [relations, List.mem_append, List.mem_flatMap] at hr
  obtain hr | ⟨record, -, hr⟩ := hr
  · simp only [reportRelations, List.mem_append, List.mem_cons, List.not_mem_nil, or_false,
      List.mem_map] at hr
    rcases hr with (((((rfl | rfl) | ⟨_, _, rfl⟩) | ⟨_, _, rfl⟩) | ⟨_, _, rfl⟩) | ⟨_, _, rfl⟩) |
      ⟨q, hq, rfl⟩
    iterate 6 exact ⟨surrogateFree_lit _, surrogateFree_lit _⟩
    have hstatus := (hreport.requirements q hq).1
    exact ⟨surrogateFree_append (surrogateFree_lit _) hstatus,
      surrogateFree_append (surrogateFree_lit _) hstatus⟩
  · simp only [recordRelations, List.mem_append, List.mem_flatMap, List.mem_map] at hr
    rcases hr with ((hr | ⟨d, -, hr⟩) | ⟨i, hi, _, -, hr⟩) | ⟨_, -, rfl⟩
    · rw [artifactMatches, List.mem_ite_nil_right, List.mem_singleton] at hr
      rw [hr.2]
      exact ⟨surrogateFree_lit _, surrogateFree_lit _⟩
    · rw [admissionRelations, List.mem_cons, List.mem_ite_nil_right, List.mem_singleton] at hr
      obtain rfl | ⟨-, rfl⟩ := hr
      · exact ⟨surrogateFree_lit _, surrogateFree_lit _⟩
      · exact ⟨surrogateFree_lit _, surrogateFree_lit _⟩
    · rw [sourceMatches, List.mem_ite_nil_right, List.mem_singleton] at hr
      have hfield : SurrogateFree i.2 := by
        simp only [identities, List.mem_cons, List.not_mem_nil, or_false] at hi
        obtain rfl | rfl | rfl := hi
        all_goals exact surrogateFree_lit _
      rw [hr.2]
      exact ⟨surrogateFree_lit _, surrogateFree_append (surrogateFree_append (surrogateFree_lit _)
        hfield) (surrogateFree_lit _)⟩
    · exact ⟨surrogateFree_lit _, surrogateFree_lit _⟩

theorem surrogateFree_sha256 (content : Bytes) : SurrogateFree (sha256 content) :=
  surrogateFree_of_isSha256 (isSha256_sha256 content)

theorem surrogateFree_idOf (key : NodeKey) : SurrogateFree (idOf key) := by
  rw [idOf]
  cases hid : stableId key with
  | error e => exact surrogateFree_lit ""
  | ok id =>
    obtain ⟨content, -, rfl⟩ := stableId_eq_ok.mp hid
    exact surrogateFree_sha256 content

theorem surrogateFree_reportDigest (h : report.val.digest = .ok digest) : SurrogateFree digest := by
  obtain ⟨content, -, hdigest⟩ := bind_eq_ok.mp h
  cases hdigest
  exact surrogateFree_sha256 content

/-- The items of the unresolved list. -/
theorem Built.of_mem_unresolved (h : Built report digest source records scanComplete p)
    {item : Dict Text} (hitem : item ∈ p.unresolved) : ∃ kind identity reason : Text,
      item = unresolvedItem kind identity reason ∧ SurrogateFree kind ∧ SurrogateFree reason ∧
        (identity ∈ report.val.sourceIdentities ∨ identity ∈ report.val.artifactDigests ∨
          identity ∈ report.val.evidenceMissing) := by
  obtain ⟨sourceNodes, artifactNodes, hsources, hartifacts, hunresolved⟩ := h.unresolved
  have hreason : SurrogateFree (unmatchedReason scanComplete) := by
    rw [unmatchedReason]
    split
    · exact surrogateFree_lit _
    · exact surrogateFree_lit _
  rw [hunresolved, unresolvedItems, List.mem_append, List.mem_append, hsources, hartifacts] at hitem
  obtain (hitem | hitem) | hitem := hitem
  · obtain ⟨identity, hidentity, rfl⟩ := List.mem_map.mp hitem
    exact ⟨_, _, _, rfl, surrogateFree_lit _, hreason,
      .inl (FirstCome.mem_firsts_id.mp (List.mem_of_mem_filter hidentity))⟩
  · obtain ⟨identity, hidentity, rfl⟩ := List.mem_map.mp hitem
    exact ⟨_, _, _, rfl, surrogateFree_lit _, hreason,
      .inr (.inl (FirstCome.mem_firsts_id.mp (List.mem_of_mem_filter hidentity)))⟩
  · obtain ⟨identity, hidentity, rfl⟩ := List.mem_map.mp hitem
    exact ⟨_, _, _, rfl, surrogateFree_lit _, surrogateFree_lit _, .inr (.inr hidentity)⟩

theorem Built.writable (h : Built report digest source records scanComplete p) :
    Json.Writable (.obj p.toDict) := by
  apply writable_toDict
  intro item hitem
  obtain ⟨kind, identity, reason, rfl, -⟩ := h.of_mem_unresolved hitem
  simp [unresolvedItem, Dict.mapValues, Dict.Distinct]

/-- A projection has a digest exactly when UTF-8 can encode its texts. -/
theorem Built.exists_digest_iff (h : Built report digest source records scanComplete p) :
    (∃ d, p.digest = .ok d) ↔ ∀ s ∈ Json.texts (.obj p.toDict), SurrogateFree s := by
  rw [← canonicalBytes_isOk_iff h.writable]
  constructor
  · rintro ⟨d, hd⟩
    obtain ⟨content, hcontent, -⟩ := bind_eq_ok.mp hd
    exact ⟨content, hcontent⟩
  · rintro ⟨content, hcontent⟩
    exact ⟨sha256 content, by rw [EvidenceTraceProjection.digest, hcontent]; rfl⟩

/-- A projection of encodable texts has a digest. -/
theorem Built.exists_digest (h : Built report digest source records scanComplete p)
    (hdigest : report.val.digest = .ok digest) (hsource : Encoded source.texts)
    (hrecords : ∀ r ∈ records, Encoded r.texts) : ∃ d, p.digest = .ok d := by
  have hreport := reportEncoded_of_digest hdigest
  rw [h.exists_digest_iff, forall_texts_projection, h.reportRecordId, h.reportDigest,
    h.candidateIdentity, h.candidateDigest]
  refine ⟨hsource (some source.recordId) List.mem_cons_self _ rfl,
    surrogateFree_reportDigest hdigest, hreport.candidateIdentity, hreport.candidateDigest,
    ?_, ?_, ?_, ?_⟩
  · intro n hn
    obtain ⟨content, -, hid⟩ := stableId_eq_ok.mp (h.sound n hn)
    have hmem : n.toEvidenceTraceNodeFields ∈ mentions report digest source records := by
      apply @FirstCome.mem_of_mem_firsts _ _ _ EvidenceTraceNodeFields.key
      rw [← h.nodes]
      exact List.mem_map_of_mem hn
    rw [← hid]
    exact ⟨surrogateFree_sha256 content, encoded_of_mem_mentions hreport
      (surrogateFree_reportDigest hdigest) hsource hrecords hmem⟩
  · intro e he
    rw [h.edges] at he
    obtain ⟨⟨key, n⟩, hmem, rfl⟩ := List.mem_map.mp he
    have hkey := (Tally.mem_tally.mp ((Tally.sorted_perm _).mem_iff.mp hmem)).1
    obtain ⟨r, hr, rfl⟩ := List.mem_map.mp hkey
    obtain ⟨htype, hbasis⟩ := surrogateFree_of_mem_relations hreport hr
    exact ⟨surrogateFree_sha256 _, surrogateFree_idOf _, surrogateFree_idOf _, htype, hbasis⟩
  · intro item hitem
    obtain ⟨kind, identity, reason, rfl, hkind, hreason, hidentity⟩ := h.of_mem_unresolved hitem
    have hencoded : SurrogateFree identity := by
      obtain hidentity | hidentity | hidentity := hidentity
      · exact hreport.sources identity hidentity
      · exact hreport.artifacts identity hidentity
      · exact hreport.missing identity hidentity
    simp [unresolvedItem, hkind, hreason, hencoded]
  · rw [h.limitations, Presentation.limitations]
    cases scanComplete <;> simp [-String.reduceAppend]

/-! ### What the digest covers -/

/-- A node is determined by its ordered form. -/
theorem node_eq_of_sortKeys {n n' : EvidenceTraceNode}
    (h : Json.sortKeys (.obj n.toDict) = Json.sortKeys (.obj n'.toDict)) : n = n' := by
  have hd (m : EvidenceTraceNode) : m.toDict.Distinct := by
    simp [EvidenceTraceNode.toDict, Dict.Distinct]
  rw [sortKeys_eq_ordered, sortKeys_eq_ordered] at h
  have hget := get?_of_ordered_eq (hd n) (hd n') (Json.obj.inj h)
  have hstr (key s s' : Text) (hs : n.toDict.get? key = some (.str s))
      (hs' : n'.toDict.get? key = some (.str s')) : s = s' := by
    have hkey := hget key
    rw [hs, hs'] at hkey
    exact Json.str.inj (Option.some.inj hkey)
  have hopt (key : Text) (s s' : Option Text) (hs : n.toDict.get? key = some (optionJson s))
      (hs' : n'.toDict.get? key = some (optionJson s')) : s = s' := by
    have hkey := hget key
    rw [hs, hs', Option.map_some, Option.map_some, sortKeys_optionJson, sortKeys_optionJson] at hkey
    exact optionJson_injective (Option.some.inj hkey)
  have hsize : n.artifactSize = n'.artifactSize := by
    have hkey : (some (n.artifactSize.elim .null .int)).map Json.sortKeys =
        (some (n'.artifactSize.elim .null .int)).map Json.sortKeys := hget (lit "artifact_size")
    generalize n.artifactSize = size at hkey
    generalize n'.artifactSize = size' at hkey
    cases size <;> cases size' <;> cases hkey <;> rfl
  obtain ⟨⟨kind, identity, label, digest, digestKind, integrityStatus, availability, recordId,
    producerId, producerType, capturedAt, runId, sourceEventId, artifactSize, receiptDigest,
    receiptIntegrityStatus, artifactIntegrityStatus, admissionStatus, admissionDigest,
    producerAuthenticationStatus⟩, nodeId⟩ := n
  obtain ⟨⟨kind', identity', label', digest', digestKind', integrityStatus', availability',
    recordId', producerId', producerType', capturedAt', runId', sourceEventId', artifactSize',
    receiptDigest', receiptIntegrityStatus', artifactIntegrityStatus', admissionStatus',
    admissionDigest', producerAuthenticationStatus'⟩, nodeId'⟩ := n'
  cases hstr (lit "node_id") nodeId nodeId' rfl rfl
  cases hstr (lit "kind") kind kind' rfl rfl
  cases hstr (lit "identity") identity identity' rfl rfl
  cases hstr (lit "label") label label' rfl rfl
  cases hopt (lit "digest") digest digest' rfl rfl
  cases hopt (lit "digest_kind") digestKind digestKind' rfl rfl
  cases hstr (lit "integrity_status") integrityStatus integrityStatus' rfl rfl
  cases hstr (lit "availability") availability availability' rfl rfl
  cases hopt (lit "record_id") recordId recordId' rfl rfl
  cases hopt (lit "producer_id") producerId producerId' rfl rfl
  cases hopt (lit "producer_type") producerType producerType' rfl rfl
  cases hopt (lit "captured_at") capturedAt capturedAt' rfl rfl
  cases hopt (lit "run_id") runId runId' rfl rfl
  cases hopt (lit "source_event_id") sourceEventId sourceEventId' rfl rfl
  cases hopt (lit "receipt_digest") receiptDigest receiptDigest' rfl rfl
  cases hopt (lit "receipt_integrity_status") receiptIntegrityStatus receiptIntegrityStatus' rfl rfl
  cases hopt (lit "artifact_integrity_status") artifactIntegrityStatus artifactIntegrityStatus'
    rfl rfl
  cases hopt (lit "admission_status") admissionStatus admissionStatus' rfl rfl
  cases hopt (lit "admission_digest") admissionDigest admissionDigest' rfl rfl
  cases hopt (lit "producer_authentication_status") producerAuthenticationStatus
    producerAuthenticationStatus' rfl rfl
  cases hsize
  rfl

/-- Projections of one canonical form have the same nodes. -/
theorem nodes_eq_of_content {p' : EvidenceTraceProjection} {content : Bytes}
    (hw : Json.Writable (.obj p.toDict)) (hw' : Json.Writable (.obj p'.toDict))
    (h : canonicalBytes p.toDict = .ok content) (h' : canonicalBytes p'.toDict = .ok content) :
    p.nodes = p'.nodes := by
  have hordered := sortKeys_eq_of_canonicalBytes hw hw' h h'
  rw [sortKeys_eq_ordered, sortKeys_eq_ordered] at hordered
  have hnodes := get?_of_ordered_eq ((Json.writable_obj _).mp hw).1 ((Json.writable_obj _).mp hw').1
    (Json.obj.inj hordered) (lit "nodes")
  have harr : (some (Json.arr (p.nodes.map fun n ↦ .obj n.toDict))).map Json.sortKeys =
      (some (Json.arr (p'.nodes.map fun n ↦ .obj n.toDict))).map Json.sortKeys := hnodes
  rw [Option.map_some, Option.map_some, Option.some.injEq, Json.sortKeys_arr, Json.sortKeys_arr,
    Json.arr.injEq, List.map_map, List.map_map] at harr
  apply List.map_injective_iff.mpr _ harr
  intro n n' hn
  exact node_eq_of_sortKeys hn

/-- What is said of the first record stands after what the report says. -/
theorem first_record_kept (r : EvidenceTraceRecord) (rest : List EvidenceTraceRecord) :
    FirstCome.firsts EvidenceTraceNodeFields.key (reportMentions report digest source) ++
        [recordFields r] <+:
      FirstCome.firsts EvidenceTraceNodeFields.key (mentions report digest source (r :: rest)) := by
  have hkinds : ∀ kind ∈ [lit "verification-report", lit "artifact-digest", lit "candidate",
      lit "profile-evaluation", lit "run", lit "source-identity", lit "evidence-requirement"],
      kind ≠ lit "workspace-record" := by
    decide
  have hnew : (recordFields r).key ∉
      (reportMentions report digest source).map EvidenceTraceNodeFields.key := by
    intro hmem
    obtain ⟨f, hf, hkey⟩ := List.mem_map.mp hmem
    have hkind : f.kind = lit "workspace-record" := congrArg Prod.fst hkey
    simp only [reportMentions, List.mem_append, List.mem_cons, List.not_mem_nil, or_false,
      List.mem_map] at hf
    rcases hf with (((((rfl | rfl | rfl) | ⟨_, _, rfl⟩) | ⟨_, _, rfl⟩) | ⟨_, _, rfl⟩) |
      ⟨_, _, rfl⟩) | ⟨_, _, rfl⟩
    all_goals exact hkinds _ (by simp [reportFields, reportArtifactFields, candidateFields,
      evaluationFields, runFields, sourceIdentityFields, artifactFields, requirementFields]) hkind
  have hkept := FirstCome.firsts_append_new hnew
    (r.admissionDigest.toList.map (admissionFields r) ++
      r.runId.toList.map (fun runId ↦ runFields runId (lit "Workspace run")) ++
      rest.flatMap recordMentions)
  rw [mentions, List.flatMap_cons, recordMentions]
  simp only [List.append_assoc, List.cons_append] at hkept ⊢
  exact hkept

/-- What is said of a record's node determines what a trace shows of the record. -/
theorem shown_eq_of_recordFields {a b : EvidenceTraceRecord} (h : recordFields a = recordFields b) :
    a.shown = b.shown := by
  obtain ⟨⟩ := a
  obtain ⟨⟩ := b
  simp only [recordFields, EvidenceTraceNodeFields.mk.injEq, Option.some.injEq] at h
  simp only [EvidenceTraceRecord.shown, EvidenceTraceRecord.mk.injEq]
  tauto

/-! ### Orders of the records -/

theorem mentioned_perm {records' : List EvidenceTraceRecord} (h : records'.Perm records) :
    (mentioned report source records').Perm (mentioned report source records) :=
  (h.flatMap_right _).append_left _

/-- Pairs whose identities are different do not collide. -/
theorem pairsApart_of_nodup {keys : List NodeKey}
    (h : (keys.map fun key ↦ (stableId key).toOption).Nodup) : PairsApart keys := by
  intro k hk k' hk' content content' hcontent hcontent' hsha
  have hid : (stableId k).toOption = (stableId k').toOption := by
    rw [stableId_eq_ok.mpr ⟨content, hcontent, rfl⟩, stableId_eq_ok.mpr ⟨content', hcontent', rfl⟩,
      hsha]
  rw [List.inj_on_of_nodup_map h hk hk' hid, hcontent'] at hcontent
  exact (Except.ok.inj hcontent).symm

/-- A report that mentions a candidate and nothing else. -/
private def plainReport : ReliabilityVerificationReport :=
  ⟨{ formatVersion := lit "1", claim := lit "claim", decision := lit "reject",
      profileId := lit "profile", profileVersion := lit "1", verified := false,
      evidenceIncluded := [], evidenceOmitted := [], checksPassed := [],
      checksFailed := [lit "check"], sourceIdentities := [], rationale := [], caveats := [],
      recoveryStatus := [], verifierVersion := lit "1", generatedAt := [],
      candidateIdentity := lit "c", candidateDigest := lit "d", reportType := lit "type",
      evidenceMissing := [], checksUnrun := [], checksUnknown := [], residualRisks := [],
      humanDecisionsRequired := [], allowedUse := [], prohibitedUse := [],
      machineReadableAppendix := [], artifactDigests := [], profileEvaluationDigest := none,
      approvalStatus := lit "not-approval" }, by decide +kernel⟩

private def plainSource : ReportSourceContext := ⟨lit "r", lit "a", [], [], [], none⟩

private theorem exists_digest_plainReport : ∃ d, plainReport.val.digest = .ok d := by
  apply (ReportFields.digest_isOk_iff _).mpr
  rw [Json.forall_texts_obj]
  simp [ReportFields.payload, plainReport, optionJson, surrogateFree_nil]

private theorem encodable_plain : ∀ key ∈ mentioned plainReport plainSource [], Encodable key := by
  have hkeys : mentioned plainReport plainSource [] = [(lit "verification-report", lit "r"),
      (lit "artifact-digest", lit "a"), (lit "candidate", lit "c")] := rfl
  rw [hkeys]
  simp [Encodable]

/-- SHA-256 does not collide on the projections of the orders of the records. -/
def ProjectionsApart (report : ReliabilityVerificationReport) (source : ReportSourceContext)
    (records : List EvidenceTraceRecord) (recordsScanned recordsAvailable : Int)
    (scanComplete : Bool) (maxNodes : Int) : Prop :=
  ∀ first second, first.Perm records → second.Perm records → ∀ p p',
    buildEvidenceTrace report source first recordsScanned recordsAvailable scanComplete maxNodes =
      .ok p →
    buildEvidenceTrace report source second recordsScanned recordsAvailable scanComplete maxNodes =
      .ok p' → ∀ content content', canonicalBytes p.toDict = .ok content →
    canonicalBytes p'.toDict = .ok content' → sha256 content = sha256 content' → content = content'

/-- A trace is built of what it shows of the records. -/
theorem buildEvidenceTrace_shown (records : List EvidenceTraceRecord) :
    buildEvidenceTrace report source (records.map EvidenceTraceRecord.shown) recordsScanned
        recordsAvailable scanComplete maxNodes =
      buildEvidenceTrace report source records recordsScanned recordsAvailable scanComplete
        maxNodes := by
  have hall (digest : Text) :
      addAll maxNodes report digest source (records.map EvidenceTraceRecord.shown) =
        addAll maxNodes report digest source records := by
    have hloop (s a : Dict EvidenceTraceNode) (matched : List Text × List Text) :
        (records.map EvidenceTraceRecord.shown).foldlM (addRecord maxNodes s a) matched =
          records.foldlM (addRecord maxNodes s a) matched :=
      List.foldlM_map
    rw [addAll, addAll]
    simp only [hloop]
  -- the unresolved list is made of what was matched, not of the records
  simp only [buildEvidenceTrace, hall]

/-- Records that show the same in one order show the same in every order. -/
theorem map_shown_of_perm {records' : List EvidenceTraceRecord} (hperm : records'.Perm records)
    (hsame : ∀ a ∈ records, ∀ b ∈ records, a.shown = b.shown) :
    records'.map EvidenceTraceRecord.shown = records.map EvidenceTraceRecord.shown := by
  cases records with
  | nil => rw [hperm.eq_nil]
  | cons r rest =>
    have hall (l : List EvidenceTraceRecord) (hl : ∀ a ∈ l, a ∈ r :: rest) :
        l.map EvidenceTraceRecord.shown = List.replicate l.length r.shown := by
      rw [List.eq_replicate_iff, List.length_map, List.forall_mem_map]
      exact ⟨rfl, fun a ha ↦ hsame a (hl a ha) r List.mem_cons_self⟩
    rw [hall records' fun a ha ↦ hperm.mem_iff.mp ha, hall (r :: rest) fun a ha ↦ ha,
      hperm.length_eq]

theorem exists_first {r : EvidenceTraceRecord} (h : r ∈ records) :
    ∃ rest, (r :: rest).Perm records := by
  obtain ⟨before, after, rfl⟩ := List.append_of_mem h
  exact ⟨before ++ after, List.perm_middle.symm⟩

end StateWake.Presentation
