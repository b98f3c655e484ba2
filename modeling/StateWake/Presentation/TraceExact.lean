import StateWake.Presentation.TraceContents

/-!
# Exactness of evidence traces

When a trace is built and when it is too large, and what a trace that is built holds: a node for
each pair that is mentioned, an edge for each relation that is recorded with the number of times it
is, and what no record equals.
-/

namespace StateWake.Presentation

open StateWake.Base Text Utils Reports

variable {report : ReliabilityVerificationReport} {source : ReportSourceContext}
  {records : List EvidenceTraceRecord} {recordsScanned recordsAvailable : Int}
  {scanComplete : Bool} {maxNodes : Int}

/-! ### The projection that is built -/

/-- What is known of a projection that was built. -/
structure Built (report : ReliabilityVerificationReport) (digest : Text)
    (source : ReportSourceContext) (records : List EvidenceTraceRecord)
    (scanComplete : Bool) (p : EvidenceTraceProjection) : Prop where
  reportRecordId : p.reportRecordId = source.recordId
  reportDigest : p.reportDigest = digest
  candidateIdentity : p.candidateIdentity = report.val.candidateIdentity
  candidateDigest : p.candidateDigest = report.val.candidateDigest
  nodes : p.nodes.map EvidenceTraceNode.toEvidenceTraceNodeFields =
    FirstCome.firsts EvidenceTraceNodeFields.key (mentions report digest source records)
  sound : ∀ n ∈ p.nodes, stableId n.key = .ok n.nodeId
  edges : p.edges = (Tally.sorted (Tally.tally
    ((relations report source records).map Relation.edgeKey))).map toEdge
  unresolved : ∃ sourceNodes artifactNodes : Dict EvidenceTraceNode,
    sourceNodes.keys = FirstCome.firsts id report.val.sourceIdentities ∧
    artifactNodes.keys = FirstCome.firsts id report.val.artifactDigests ∧
    p.unresolved = unresolvedItems report scanComplete sourceNodes artifactNodes
      (matchedOf report records)
  limitations : p.limitations = limitations scanComplete

/-- UTF-8 can encode a pair. -/
def Encodable (key : NodeKey) : Prop := SurrogateFree key.1 ∧ SurrogateFree key.2

theorem writable_stablePayload (key : NodeKey) : Json.Writable (.obj (stablePayload key)) := by
  simp [stablePayload, Dict.Distinct]

theorem stableId_eq_ok {key : NodeKey} {id : Text} : stableId key = .ok id ↔
    ∃ content, canonicalBytes (stablePayload key) = .ok content ∧ sha256 content = id := by
  rw [stableId, bind_eq_ok]
  apply exists_congr
  intro content
  apply and_congr_right
  intro _
  constructor
  · exact Except.ok.inj
  · exact congrArg Except.ok

theorem checkKey_eq_ok {key : NodeKey} : checkKey key = .ok () ↔ Encodable key := by
  have htexts : (∀ s ∈ Json.texts (.obj (stablePayload key)), SurrogateFree s) ↔ Encodable key := by
    rw [Json.forall_texts_obj]
    simp [stablePayload, Encodable]
  rw [← htexts, ← canonicalBytes_isOk_iff (writable_stablePayload key), checkKey, bind_eq_ok]
  constructor
  · rintro ⟨id, hid, -⟩
    obtain ⟨content, hcontent, -⟩ := stableId_eq_ok.mp hid
    exact ⟨content, hcontent⟩
  · rintro ⟨content, hcontent⟩
    exact ⟨sha256 content, stableId_eq_ok.mpr ⟨content, hcontent, rfl⟩, rfl⟩

theorem kind_of_canonicalBytes {members : Dict Json} {e : PyError}
    (h : canonicalBytes members = .error e) : e.kind = .unicodeEncodeError := by
  rw [canonicalBytes, Utf8.toBytes] at h
  cases hbytes : Utf8.encode (Json.dumps Json.canonical (.obj members)) with
  | none =>
    rw [hbytes] at h
    cases h
    rfl
  | some content =>
    rw [hbytes] at h
    cases h

theorem kind_of_checkKey {key : NodeKey} {e : PyError} (h : checkKey key = .error e) :
    e.kind = .unicodeEncodeError := by
  rw [checkKey, stableId] at h
  cases hbytes : canonicalBytes (stablePayload key) with
  | error e' =>
    rw [hbytes] at h
    cases h
    exact kind_of_canonicalBytes hbytes
  | ok content =>
    rw [hbytes] at h
    cases h

theorem checkKey_ne_full (key : NodeKey) : checkKey key ≠ .error full :=
  fun h ↦ nomatch kind_of_checkKey h

/-- As many nodes are needed as pairs are mentioned. -/
theorem length_firsts_mentions (digest : Text) :
    (FirstCome.firsts EvidenceTraceNodeFields.key (mentions report digest source records)).length =
      (mentioned report source records).toFinset.card := by
  rw [FirstCome.length_firsts, map_key_mentions]

/-- The first pairs mentioned, as many as there is room for. -/
def admitted (report : ReliabilityVerificationReport) (source : ReportSourceContext)
    (records : List EvidenceTraceRecord) (maxNodes : Int) : List NodeKey :=
  (FirstCome.firsts id (mentioned report source records)).take maxNodes.toNat

theorem checks_admitted (digest : Text) :
    (∀ f ∈ (FirstCome.firsts EvidenceTraceNodeFields.key
        (mentions report digest source records)).take maxNodes.toNat, checkKey f.key = .ok ()) ↔
      ∀ key ∈ admitted report source records maxNodes, Encodable key := by
  rw [admitted, ← map_key_mentions report digest, ← FirstCome.map_firsts, ← List.map_take,
    List.forall_mem_map]
  simp only [checkKey_eq_ok]

section Build

variable (recordsScanned recordsAvailable : Int) (scanComplete : Bool)

/-- A trace is built of the first things said of each node, or raises what entering them raises. -/
theorem buildEvidenceTrace_spec (source : ReportSourceContext)
    (records : List EvidenceTraceRecord) {digest : Text} (hmax : 1 ≤ maxNodes)
    (hdigest : report.val.digest = .ok digest) :
    match fillNodes maxNodes [] (mentions report digest source records) with
    | .error e => buildEvidenceTrace report source records recordsScanned recordsAvailable
        scanComplete maxNodes = .error e
    | .ok _ => ∃ p, buildEvidenceTrace report source records recordsScanned recordsAvailable
        scanComplete maxNodes = .ok p ∧ Built report digest source records scanComplete p := by
  have hempty : Trace.Sound ⟨[], []⟩ := fun n hn ↦ absurd hn List.not_mem_nil
  have hadds := adds_all maxNodes report digest source records ⟨[], []⟩ hempty
  rw [buildEvidenceTrace, decide_eq_true hmax, require_true, ok_bind, hdigest, ok_bind]
  cases hfill : fillNodes maxNodes [] (mentions report digest source records) with
  | error e =>
    rw [show Trace.fields ⟨[], []⟩ = [] from rfl, hfill] at hadds
    change (addAll maxNodes report digest source records).run ⟨[], []⟩ >>= _ = _
    rw [StateT.run, hadds, error_bind]
  | ok kept =>
    rw [show Trace.fields ⟨[], []⟩ = [] from rfl, hfill] at hadds
    obtain ⟨⟨sourceNodes, artifactNodes, matched⟩, t, hrun, hsound, hkept, hcounts, href,
      hmatched⟩ := hadds
    apply Exists.intro
    constructor
    · rw [StateT.run, hrun, ok_bind]
      rfl
    · refine ⟨rfl, rfl, rfl, rfl, ?_, hsound, ?_, ?_, rfl⟩
      · exact hkept.trans (FirstCome.fill_eq_ok.mp hfill).1
      · change List.map toEdge (Tally.sorted t.edgeCounts) = _
        rw [hcounts]
        rfl
      · refine ⟨sourceNodes, artifactNodes, href.sources.keys, href.artifacts.keys, ?_⟩
        exact congrArg (unresolvedItems report scanComplete sourceNodes artifactNodes) hmatched

/-- A trace is built exactly when the report has a digest, the pairs fit and can be encoded. -/
theorem buildEvidenceTrace_isOk_iff : (∃ p, buildEvidenceTrace report source records recordsScanned
      recordsAvailable scanComplete maxNodes = .ok p) ↔
    1 ≤ maxNodes ∧ (∃ digest, report.val.digest = .ok digest) ∧
      (mentioned report source records).toFinset.card ≤ maxNodes.toNat ∧
      ∀ key ∈ admitted report source records maxNodes, Encodable key := by
  constructor
  · rintro ⟨p, hp⟩
    obtain ⟨hmax, hrest⟩ := require_bind_eq_ok.mp hp
    have hmax := of_decide_eq_true hmax
    obtain ⟨digest, hdigest, -⟩ := bind_eq_ok.mp hrest
    have hspec := buildEvidenceTrace_spec recordsScanned recordsAvailable scanComplete
      source records hmax hdigest
    refine ⟨hmax, ⟨digest, hdigest⟩, ?_⟩
    cases hfill : fillNodes maxNodes [] (mentions report digest source records) with
    | error e =>
      rw [hfill] at hspec
      dsimp only at hspec
      rw [hp] at hspec
      cases hspec
    | ok kept =>
      obtain ⟨-, hfits, hchecked⟩ := FirstCome.fill_eq_ok.mp hfill
      exact ⟨(length_firsts_mentions digest).symm.trans_le hfits,
        (checks_admitted digest).mp hchecked⟩
  · rintro ⟨hmax, ⟨digest, hdigest⟩, hfits, hencodable⟩
    have hspec := buildEvidenceTrace_spec recordsScanned recordsAvailable scanComplete
      source records hmax hdigest
    have hfill : fillNodes maxNodes [] (mentions report digest source records) = .ok _ :=
      FirstCome.fill_eq_ok.mpr ⟨rfl, (length_firsts_mentions digest).trans_le hfits,
        (checks_admitted digest).mpr hencodable⟩
    rw [hfill] at hspec
    obtain ⟨p, hp, -⟩ := hspec
    exact ⟨p, hp⟩

theorem built_of_eq_ok {p : EvidenceTraceProjection} (hp : buildEvidenceTrace report source records
    recordsScanned recordsAvailable scanComplete maxNodes = .ok p) :
    ∃ digest, report.val.digest = .ok digest ∧
      Built report digest source records scanComplete p := by
  obtain ⟨hmax, ⟨digest, hdigest⟩, -⟩ :=
    (buildEvidenceTrace_isOk_iff recordsScanned recordsAvailable scanComplete).mp ⟨p, hp⟩
  have hspec := buildEvidenceTrace_spec recordsScanned recordsAvailable scanComplete
    source records hmax hdigest
  refine ⟨digest, hdigest, ?_⟩
  split at hspec
  · rw [hp] at hspec
    cases hspec
  · obtain ⟨p', hp', hbuilt⟩ := hspec
    rw [hp] at hp'
    cases hp'
    exact hbuilt

/-- A trace is too large exactly when the report has a digest, more pairs are mentioned than there
is room for, and the first of them can be encoded. -/
theorem buildEvidenceTrace_overflow_iff : (∃ e, buildEvidenceTrace report source records
      recordsScanned recordsAvailable scanComplete maxNodes = .error e ∧ e.kind = .overflowError) ↔
    1 ≤ maxNodes ∧ (∃ digest, report.val.digest = .ok digest) ∧
      maxNodes.toNat < (mentioned report source records).toFinset.card ∧
      ∀ key ∈ admitted report source records maxNodes, Encodable key := by
  constructor
  · rintro ⟨e, he, hkind⟩
    by_cases hmax : 1 ≤ maxNodes
    · cases hdigest : report.val.digest with
      | error e' =>
        rw [buildEvidenceTrace, decide_eq_true hmax, require_true, ok_bind, hdigest,
          error_bind] at he
        cases he
        rw [ReportFields.digest] at hdigest
        cases hbytes : canonicalBytes report.val.payload with
        | error e' =>
          rw [hbytes] at hdigest
          cases hdigest
          cases (kind_of_canonicalBytes hbytes).symm.trans hkind
        | ok content =>
          rw [hbytes] at hdigest
          cases hdigest
      | ok digest =>
        refine ⟨hmax, ⟨digest, rfl⟩, ?_⟩
        have hspec := buildEvidenceTrace_spec recordsScanned recordsAvailable scanComplete
          source records hmax hdigest
        cases hfill : fillNodes maxNodes [] (mentions report digest source records) with
        | ok kept =>
          rw [hfill] at hspec
          obtain ⟨p, hp, -⟩ := hspec
          rw [hp] at he
          cases he
        | error e' =>
          rw [hfill] at hspec
          cases he.symm.trans hspec
          obtain rfl | ⟨f, -, hf⟩ := FirstCome.fill_eq_error hfill
          · obtain ⟨hmore, hchecked⟩ := (FirstCome.fill_eq_full checkKey_ne_full).mp hfill
            exact ⟨hmore.trans_eq (length_firsts_mentions digest),
              (checks_admitted digest).mp hchecked⟩
          · cases (kind_of_checkKey hf).symm.trans hkind
    · rw [buildEvidenceTrace, decide_eq_false hmax] at he
      cases he
      cases hkind
  · rintro ⟨hmax, ⟨digest, hdigest⟩, hmore, hencodable⟩
    have hspec := buildEvidenceTrace_spec recordsScanned recordsAvailable scanComplete
      source records hmax hdigest
    have hfill : fillNodes maxNodes [] (mentions report digest source records) = .error full :=
      (FirstCome.fill_eq_full checkKey_ne_full).mpr
        ⟨hmore.trans_eq (length_firsts_mentions digest).symm,
          (checks_admitted digest).mpr hencodable⟩
    rw [hfill] at hspec
    exact ⟨full, hspec, rfl⟩

end Build

/-! ### Exactness -/

/-- SHA-256 does not collide on the pairs. -/
def PairsApart (keys : List NodeKey) : Prop :=
  ∀ k ∈ keys, ∀ k' ∈ keys, ∀ content content', canonicalBytes (stablePayload k) = .ok content →
    canonicalBytes (stablePayload k') = .ok content' → sha256 content = sha256 content' →
      content = content'

/-- An identity is listed as unresolved. -/
def Listed (p : EvidenceTraceProjection) (kind identity : Text) : Prop :=
  ∃ reason, unresolvedItem kind identity reason ∈ p.unresolved

/-- The edge of a relation that was recorded so many times. -/
def Relation.edge (r : Relation) (occurrences : Nat) : EvidenceTraceEdge :=
  toEdge (r.edgeKey, occurrences)

/-- The trace holds a node for each pair mentioned and an edge for each relation recorded, and lists
what no record equals. -/
structure Exact (report : ReliabilityVerificationReport) (source : ReportSourceContext)
    (records : List EvidenceTraceRecord) (p : EvidenceTraceProjection) : Prop where
  nodes : ∀ key, (∃ n ∈ p.nodes, n.key = key) ↔ key ∈ mentioned report source records
  identified : ∀ n ∈ p.nodes, n.nodeId = idOf n.key
  distinct : (p.nodes.map EvidenceTraceNode.nodeId).Nodup
  closed : ∀ e ∈ p.edges, (∃ n ∈ p.nodes, n.nodeId = e.source) ∧ ∃ n ∈ p.nodes, n.nodeId = e.target
  edges : ∀ e, e ∈ p.edges ↔ ∃ r ∈ relations report source records,
    e = r.edge ((relations report source records).count r)
  once : p.edges.Nodup
  sources : ∀ identity, Listed p (lit "source-identity") identity ↔
    identity ∈ report.val.sourceIdentities ∧ ∀ record ∈ records, record.recordId ≠ identity ∧
      record.sourceEventId ≠ some identity ∧ record.runId ≠ some identity
  artifacts : ∀ digest, Listed p (lit "artifact-digest") digest ↔
    digest ∈ report.val.artifactDigests ∧ ∀ record ∈ records, record.artifactDigest ≠ digest

theorem stablePayload_injective {k k' : NodeKey} {content : Bytes}
    (h : canonicalBytes (stablePayload k) = .ok content)
    (h' : canonicalBytes (stablePayload k') = .ok content) : k = k' := by
  have hordered := sortKeys_eq_of_canonicalBytes (writable_stablePayload k)
    (writable_stablePayload k') h h'
  rw [sortKeys_eq_ordered, sortKeys_eq_ordered] at hordered
  have hget := get?_of_ordered_eq ((Json.writable_obj _).mp (writable_stablePayload k)).1
    ((Json.writable_obj _).mp (writable_stablePayload k')).1 (Json.obj.inj hordered)
  have hkind := hget (lit "kind")
  have hidentity := hget (lit "identity")
  exact Prod.ext (Json.str.inj (Option.some.inj hkind)) (Json.str.inj (Option.some.inj hidentity))

/-- Encodable pairs whose messages do not collide have different identities. -/
theorem PairsApart.eq_of_idOf {keys : List NodeKey} (h : PairsApart keys)
    (hencodable : ∀ k ∈ keys, Encodable k) {k k' : NodeKey} (hk : k ∈ keys) (hk' : k' ∈ keys)
    (hid : idOf k = idOf k') : k = k' := by
  have hcontent (key : NodeKey) (hkey : key ∈ keys) :
      ∃ content, canonicalBytes (stablePayload key) = .ok content ∧ sha256 content = idOf key := by
    obtain ⟨id, hstable, -⟩ := bind_eq_ok.mp (checkKey_eq_ok.mpr (hencodable key hkey))
    rw [idOf_eq hstable]
    exact stableId_eq_ok.mp hstable
  obtain ⟨content, hbytes, hsha⟩ := hcontent k hk
  obtain ⟨content', hbytes', hsha'⟩ := hcontent k' hk'
  rw [← hsha, ← hsha'] at hid
  have hsame := h k hk k' hk' content content' hbytes hbytes' hid
  rw [← hsame] at hbytes'
  exact stablePayload_injective hbytes hbytes'

/-- Where the pairs fit, all of them are admitted. -/
theorem mem_admitted (hfits : (mentioned report source records).toFinset.card ≤ maxNodes.toNat)
    {key : NodeKey} :
    key ∈ admitted report source records maxNodes ↔ key ∈ mentioned report source records := by
  have hlength := @FirstCome.length_firsts NodeKey NodeKey _ id (mentioned report source records)
  rw [List.map_id] at hlength
  rw [admitted, List.take_of_length_le (hlength.trans_le hfits), FirstCome.mem_firsts_id]

theorem mem_reportMentioned_of_mem_reportRelations {r : Relation}
    (h : r ∈ reportRelations report source) :
    r.source ∈ reportMentioned report source ∧ r.target ∈ reportMentioned report source := by
  have hreport : reportKey source ∈ reportMentioned report source := by
    simp [reportMentioned]
  simp only [reportRelations, List.mem_append, List.mem_cons, List.not_mem_nil, or_false,
    List.mem_map] at h
  rcases h with (((((rfl | rfl) | ⟨a, ha, rfl⟩) | ⟨a, ha, rfl⟩) | ⟨a, ha, rfl⟩) | ⟨a, ha, rfl⟩) |
    ⟨a, ha, rfl⟩
  all_goals
    refine ⟨hreport, ?_⟩
    simp only [reportMentioned, List.mem_append, List.mem_cons, List.not_mem_nil, or_false,
      List.mem_map, true_or, or_true]
  · exact .inl (.inl (.inl (.inl (.inr ⟨a, ha, rfl⟩))))
  · exact .inl (.inl (.inl (.inr ⟨a, ha, rfl⟩)))
  · exact .inl (.inl (.inr ⟨a, ha, rfl⟩))
  · exact .inl (.inr ⟨a, ha, rfl⟩)
  · exact .inr ⟨a, ha, rfl⟩

theorem mem_of_mem_recordRelations {record : EvidenceTraceRecord} {r : Relation}
    (h : r ∈ recordRelations report record) :
    (r.source ∈ reportMentioned report source ∨ r.source ∈ record.mentioned) ∧
      (r.target ∈ reportMentioned report source ∨ r.target ∈ record.mentioned) := by
  have hrecord : record.key ∈ record.mentioned := by
    simp [EvidenceTraceRecord.mentioned]
  have hartifact (digest : Text) (hdigest : digest ∈ report.val.artifactDigests) :
      (lit "artifact-digest", digest) ∈ reportMentioned report source :=
    List.mem_append_left _ (List.mem_append_right _ (List.mem_map_of_mem hdigest))
  have hsource (identity : Text) (hidentity : identity ∈ report.val.sourceIdentities) :
      (lit "source-identity", identity) ∈ reportMentioned report source :=
    List.mem_append_left _ (List.mem_append_left _ (List.mem_append_right _
      (List.mem_map_of_mem hidentity)))
  simp only [recordRelations, List.mem_append, List.mem_flatMap, List.mem_map] at h
  rcases h with ((h | ⟨digest, hdigest, h⟩) | ⟨i, -, identity, -, h⟩) | ⟨runId, hrun, rfl⟩
  · rw [artifactMatches, List.mem_ite_nil_right, List.mem_singleton] at h
    obtain ⟨hmem, rfl⟩ := h
    exact ⟨.inl (hartifact _ hmem), .inr hrecord⟩
  · have hadmission : (lit "evidence-admission", digest) ∈ record.mentioned :=
      List.mem_append_left _ (List.mem_append_right _ (List.mem_map_of_mem hdigest))
    rw [admissionRelations, List.mem_cons, List.mem_ite_nil_right, List.mem_singleton] at h
    obtain rfl | ⟨hmem, rfl⟩ := h
    · exact ⟨.inr hrecord, .inr hadmission⟩
    · exact ⟨.inr hadmission, .inl (hartifact _ hmem)⟩
  · rw [sourceMatches, List.mem_ite_nil_right, List.mem_singleton] at h
    obtain ⟨hmem, rfl⟩ := h
    exact ⟨.inl (hsource _ hmem), .inr hrecord⟩
  · exact ⟨.inr hrecord, .inr (List.mem_append_right _ (List.mem_map_of_mem hrun))⟩

/-- Both ends of a relation are mentioned. -/
theorem mentioned_of_mem_relations {r : Relation} (h : r ∈ relations report source records) :
    r.source ∈ mentioned report source records ∧ r.target ∈ mentioned report source records := by
  rw [relations, List.mem_append, List.mem_flatMap] at h
  rw [mentioned, List.mem_append, List.mem_append, List.mem_flatMap, List.mem_flatMap]
  obtain h | ⟨record, hrecord, h⟩ := h
  · obtain ⟨hsource, htarget⟩ := mem_reportMentioned_of_mem_reportRelations h
    exact ⟨.inl hsource, .inl htarget⟩
  · obtain ⟨hsource, htarget⟩ := @mem_of_mem_recordRelations report source record r h
    exact ⟨hsource.imp_right fun h ↦ ⟨record, hrecord, h⟩,
      htarget.imp_right fun h ↦ ⟨record, hrecord, h⟩⟩

/-- Relations are counted apart. -/
theorem PairsApart.edgeKey_inj (h : PairsApart (mentioned report source records))
    (hencodable : ∀ k ∈ mentioned report source records, Encodable k) {r r' : Relation}
    (hr : r ∈ relations report source records) (hr' : r' ∈ relations report source records)
    (hkey : r.edgeKey = r'.edgeKey) : r = r' := by
  obtain ⟨hsource, htarget⟩ := mentioned_of_mem_relations hr
  obtain ⟨hsource', htarget'⟩ := mentioned_of_mem_relations hr'
  obtain ⟨s, t, type, basis⟩ := r
  obtain ⟨s', t', type', basis'⟩ := r'
  simp only [Relation.edgeKey, EmbeddingLike.apply_eq_iff_eq, Prod.mk.injEq] at hkey
  obtain ⟨hs, ht, rfl, rfl⟩ := hkey
  have hsame := h.eq_of_idOf hencodable hsource hsource' hs
  have htsame := h.eq_of_idOf hencodable htarget htarget' ht
  rw [show s = s' from hsame, show t = t' from htsame]

theorem mem_matchedSources {identity : Text} : identity ∈ (matchedOf report records).1 ↔
    identity ∈ report.val.sourceIdentities ∧ ∃ record ∈ records, record.recordId = identity ∨
      record.sourceEventId = some identity ∨ record.runId = some identity := by
  have hrecord (record : EvidenceTraceRecord) :
      identity ∈ matchedIdentities report (identities record) ↔
        identity ∈ report.val.sourceIdentities ∧ (record.recordId = identity ∨
          record.sourceEventId = some identity ∨ record.runId = some identity) := by
    simp only [matchedIdentities, identities, List.mem_flatMap, List.mem_filter, decide_eq_true_eq,
      Option.mem_toList, List.exists_mem_cons_iff, List.not_mem_nil, false_and, exists_false,
      or_false, Option.some.injEq]
    rw [← or_and_right, ← or_and_right, and_comm]
  rw [matchedOf, List.mem_flatMap]
  simp only [hrecord]
  constructor
  · rintro ⟨record, hmem, hidentity, h⟩
    exact ⟨hidentity, record, hmem, h⟩
  · rintro ⟨hidentity, record, hmem, h⟩
    exact ⟨record, hmem, hidentity, h⟩

theorem mem_matchedArtifacts {digest : Text} : digest ∈ (matchedOf report records).2 ↔
    digest ∈ report.val.artifactDigests ∧ ∃ record ∈ records, record.artifactDigest = digest := by
  rw [matchedOf, List.mem_flatMap]
  constructor
  · rintro ⟨record, hmem, h⟩
    rw [matchedArtifact, List.mem_ite_nil_right, List.mem_singleton] at h
    obtain ⟨hdigest, rfl⟩ := h
    exact ⟨hdigest, record, hmem, rfl⟩
  · rintro ⟨hdigest, record, hmem, rfl⟩
    refine ⟨record, hmem, ?_⟩
    rw [matchedArtifact, if_pos hdigest]
    exact List.mem_singleton_self _

section Built

variable {digest : Text} {p : EvidenceTraceProjection}

theorem unresolvedItem_inj {kind identity reason kind' identity' reason' : Text}
    (h : unresolvedItem kind identity reason = unresolvedItem kind' identity' reason') :
    kind = kind' ∧ identity = identity' := by
  simp only [unresolvedItem, List.cons.injEq, Prod.mk.injEq, true_and, and_true] at h
  exact ⟨h.1, h.2.1⟩

theorem Built.listed_source (h : Built report digest source records scanComplete p)
    (identity : Text) : Listed p (lit "source-identity") identity ↔
      identity ∈ report.val.sourceIdentities ∧ identity ∉ (matchedOf report records).1 := by
  obtain ⟨sourceNodes, artifactNodes, hsources, -, hunresolved⟩ := h.unresolved
  rw [Listed, hunresolved]
  constructor
  · rintro ⟨reason, hmem⟩
    rw [unresolvedItems, List.mem_append, List.mem_append] at hmem
    obtain (hmem | hmem) | hmem := hmem
    · obtain ⟨identity', hidentity', heq⟩ := List.mem_map.mp hmem
      obtain ⟨-, rfl⟩ := unresolvedItem_inj heq
      rw [List.mem_filter, hsources, FirstCome.mem_firsts_id, decide_eq_true_eq] at hidentity'
      exact hidentity'
    · obtain ⟨_, -, heq⟩ := List.mem_map.mp hmem
      exact absurd (unresolvedItem_inj heq).1 (by decide)
    · obtain ⟨_, -, heq⟩ := List.mem_map.mp hmem
      exact absurd (unresolvedItem_inj heq).1 (by decide)
  · rintro ⟨hidentity, hunmatched⟩
    refine ⟨unmatchedReason scanComplete, List.mem_append_left _ (List.mem_append_left _
      (List.mem_map.mpr ⟨identity, ?_, rfl⟩))⟩
    rw [List.mem_filter, hsources, FirstCome.mem_firsts_id, decide_eq_true_eq]
    exact ⟨hidentity, hunmatched⟩

theorem Built.listed_artifact (h : Built report digest source records scanComplete p)
    (artifact : Text) : Listed p (lit "artifact-digest") artifact ↔
      artifact ∈ report.val.artifactDigests ∧ artifact ∉ (matchedOf report records).2 := by
  obtain ⟨sourceNodes, artifactNodes, -, hartifacts, hunresolved⟩ := h.unresolved
  rw [Listed, hunresolved]
  constructor
  · rintro ⟨reason, hmem⟩
    rw [unresolvedItems, List.mem_append, List.mem_append] at hmem
    obtain (hmem | hmem) | hmem := hmem
    · obtain ⟨_, -, heq⟩ := List.mem_map.mp hmem
      exact absurd (unresolvedItem_inj heq).1 (by decide)
    · obtain ⟨artifact', hartifact', heq⟩ := List.mem_map.mp hmem
      obtain ⟨-, rfl⟩ := unresolvedItem_inj heq
      rw [List.mem_filter, hartifacts, FirstCome.mem_firsts_id, decide_eq_true_eq] at hartifact'
      exact hartifact'
    · obtain ⟨_, -, heq⟩ := List.mem_map.mp hmem
      exact absurd (unresolvedItem_inj heq).1 (by decide)
  · rintro ⟨hartifact, hunmatched⟩
    refine ⟨unmatchedReason scanComplete, List.mem_append_left _ (List.mem_append_right _
      (List.mem_map.mpr ⟨artifact, ?_, rfl⟩))⟩
    rw [List.mem_filter, hartifacts, FirstCome.mem_firsts_id, decide_eq_true_eq]
    exact ⟨hartifact, hunmatched⟩

theorem Built.exists_node_iff (h : Built report digest source records scanComplete p)
    (key : NodeKey) : (∃ n ∈ p.nodes, n.key = key) ↔ key ∈ mentioned report source records := by
  have hmem := @FirstCome.mem_keys_firsts _ _ _ EvidenceTraceNodeFields.key
    (mentions report digest source records) key
  rw [map_key_mentions, ← h.nodes, List.map_map, List.mem_map] at hmem
  exact hmem

/-- The edges of a trace are the relations, with their counts. -/
theorem Built.mem_edges (h : Built report digest source records scanComplete p)
    (hapart : PairsApart (mentioned report source records))
    (hencodable : ∀ k ∈ mentioned report source records, Encodable k) (e : EvidenceTraceEdge) :
    e ∈ p.edges ↔ ∃ r ∈ relations report source records,
      e = r.edge ((relations report source records).count r) := by
  rw [h.edges, List.mem_map]
  constructor
  · rintro ⟨⟨key, n⟩, hmem, rfl⟩
    obtain ⟨hkey, rfl⟩ := Tally.mem_tally.mp ((Tally.sorted_perm _).mem_iff.mp hmem)
    obtain ⟨r, hr, rfl⟩ := List.mem_map.mp hkey
    refine ⟨r, hr, ?_⟩
    rw [Relation.edge, Tally.count_map (fun _ ha _ hb ↦ hapart.edgeKey_inj hencodable ha hb) hr]
  · rintro ⟨r, hr, rfl⟩
    refine ⟨(r.edgeKey, _), (Tally.sorted_perm _).mem_iff.mpr
      (Tally.mem_tally.mpr ⟨List.mem_map_of_mem hr, rfl⟩), ?_⟩
    rw [Relation.edge, Tally.count_map (fun _ ha _ hb ↦ hapart.edgeKey_inj hencodable ha hb) hr]

theorem toEdge_injective : Function.Injective toEdge := by
  intro a b h
  obtain ⟨ka, na⟩ := a
  obtain ⟨kb, nb⟩ := b
  injection h with _ hsource htarget htype hbasis hcount
  exact Prod.ext (Prod.ext hsource (Prod.ext htarget (Prod.ext htype hbasis))) hcount

/-- A trace that was built of encodable pairs is exact. -/
theorem Built.exact (h : Built report digest source records scanComplete p)
    (hapart : PairsApart (mentioned report source records))
    (hencodable : ∀ k ∈ mentioned report source records, Encodable k) :
    Exact report source records p where
  nodes := h.exists_node_iff
  identified n hn := (idOf_eq (h.sound n hn)).symm
  distinct := by
    have hids : p.nodes.map EvidenceTraceNode.nodeId =
        (p.nodes.map fun n ↦ n.key).map idOf := by
      rw [List.map_map]
      exact List.map_congr_left fun n hn ↦ (idOf_eq (h.sound n hn)).symm
    have hkeys : (p.nodes.map fun n ↦ n.key).Nodup := by
      have hnodup := @FirstCome.nodup_firsts _ _ _ EvidenceTraceNodeFields.key
        (mentions report digest source records)
      rw [← h.nodes, List.map_map] at hnodup
      exact hnodup
    rw [hids]
    apply List.Nodup.map_on _ hkeys
    intro k hk k' hk' hid
    rw [List.mem_map] at hk hk'
    exact hapart.eq_of_idOf hencodable ((h.exists_node_iff k).mp hk)
      ((h.exists_node_iff k').mp hk') hid
  closed e he := by
    have hend (key : NodeKey) (hkey : key ∈ mentioned report source records) :
        ∃ n ∈ p.nodes, n.nodeId = idOf key := by
      obtain ⟨n, hn, rfl⟩ := (h.exists_node_iff key).mpr hkey
      exact ⟨n, hn, (idOf_eq (h.sound n hn)).symm⟩
    obtain ⟨r, hr, rfl⟩ := (h.mem_edges hapart hencodable e).mp he
    obtain ⟨hsource, htarget⟩ := mentioned_of_mem_relations hr
    exact ⟨hend _ hsource, hend _ htarget⟩
  edges := h.mem_edges hapart hencodable
  once := by
    rw [h.edges]
    apply List.Nodup.map toEdge_injective
    exact (Tally.sorted_perm _).nodup_iff.mpr (Tally.nodup_tally _).of_map
  sources identity := by
    rw [h.listed_source, mem_matchedSources]
    apply and_congr_right
    intro hidentity
    simp only [hidentity, true_and, not_exists, not_and, not_or, ne_eq]
  artifacts artifact := by
    rw [h.listed_artifact, mem_matchedArtifacts]
    apply and_congr_right
    intro hartifact
    simp only [hartifact, true_and, not_exists, not_and, ne_eq]

end Built

end StateWake.Presentation
