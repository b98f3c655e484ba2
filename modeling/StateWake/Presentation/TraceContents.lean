import StateWake.Presentation.EvidenceTrace

/-!
# What an evidence trace holds

The pairs a trace mentions and the relations it records, read off the report and the records
alone, and what each step of `build_evidence_trace` adds: it enters nodes into a bounded register
of first comers and counts relations between them.
-/

namespace StateWake.Presentation

open StateWake.Base Text Utils Reports

/-! ### What the report and the records say -/

/-- A relation between two nodes. -/
structure Relation where
  source : NodeKey
  target : NodeKey
  relationshipType : Text
  basis : Text
  deriving DecidableEq

/-- The node of the report. -/
def reportKey (source : ReportSourceContext) : NodeKey :=
  (lit "verification-report", source.recordId)

/-- The node of a record. -/
def EvidenceTraceRecord.key (record : EvidenceTraceRecord) : NodeKey :=
  (lit "workspace-record", record.recordId)

/-- The pairs the report mentions. -/
def reportMentioned (report : ReliabilityVerificationReport) (source : ReportSourceContext) :
    List NodeKey :=
  [reportKey source, (lit "artifact-digest", source.artifactDigest),
    (lit "candidate", report.val.candidateIdentity)] ++
  report.val.profileEvaluationDigest.toList.map (fun digest ↦ (lit "profile-evaluation", digest)) ++
  source.runId.toList.map (fun runId ↦ (lit "run", runId)) ++
  report.val.sourceIdentities.map (fun identity ↦ (lit "source-identity", identity)) ++
  report.val.artifactDigests.map (fun digest ↦ (lit "artifact-digest", digest)) ++
  (requirements report).map (fun r ↦ (lit "evidence-requirement", r.1 ++ lit ":" ++ r.2))

/-- The pairs a record mentions. -/
def EvidenceTraceRecord.mentioned (record : EvidenceTraceRecord) : List NodeKey :=
  [record.key] ++
  record.admissionDigest.toList.map (fun digest ↦ (lit "evidence-admission", digest)) ++
  record.runId.toList.map (fun runId ↦ (lit "run", runId))

/-- The pairs of kind and identity the trace mentions. -/
def mentioned (report : ReliabilityVerificationReport) (source : ReportSourceContext)
    (records : List EvidenceTraceRecord) : List NodeKey :=
  reportMentioned report source ++ records.flatMap EvidenceTraceRecord.mentioned

/-- The relations the report records. -/
def reportRelations (report : ReliabilityVerificationReport) (source : ReportSourceContext) :
    List Relation :=
  [⟨reportKey source, (lit "artifact-digest", source.artifactDigest),
      lit "stores-report-artifact", lit "receipt.artifact_digest"⟩,
    ⟨reportKey source, (lit "candidate", report.val.candidateIdentity),
      lit "describes-candidate", lit "report.candidate_identity + report.candidate_digest"⟩] ++
  report.val.profileEvaluationDigest.toList.map (fun digest ↦
    ⟨reportKey source, (lit "profile-evaluation", digest), lit "references-profile-evaluation",
      lit "report.profile_evaluation_digest"⟩) ++
  source.runId.toList.map (fun runId ↦
    ⟨reportKey source, (lit "run", runId), lit "captured-in-run", lit "receipt.run_id"⟩) ++
  report.val.sourceIdentities.map (fun identity ↦
    ⟨reportKey source, (lit "source-identity", identity), lit "references-source-identity",
      lit "report.source_identities"⟩) ++
  report.val.artifactDigests.map (fun digest ↦
    ⟨reportKey source, (lit "artifact-digest", digest), lit "references-artifact-digest",
      lit "report.artifact_digests"⟩) ++
  (requirements report).map (fun r ↦
    ⟨reportKey source, (lit "evidence-requirement", r.1 ++ lit ":" ++ r.2), lit "evidence-" ++ r.1,
      lit "report.evidence_" ++ r.1⟩)

/-- The artifact of a record equals one the report refers to. -/
def artifactMatches (report : ReliabilityVerificationReport) (record : EvidenceTraceRecord) :
    List Relation :=
  if record.artifactDigest ∈ report.val.artifactDigests then
    [⟨(lit "artifact-digest", record.artifactDigest), record.key,
      lit "recorded-by-workspace-receipt", lit "exact artifact_digest equality"⟩]
  else []

/-- The admission of a record, and what it binds. -/
def admissionRelations (report : ReliabilityVerificationReport) (record : EvidenceTraceRecord)
    (digest : Text) : List Relation :=
  ⟨record.key, (lit "evidence-admission", digest), lit "verified-by-evidence-admission",
    lit "ExternalEvidenceAdmission deterministic receipt/artifact binding"⟩ ::
  if record.artifactDigest ∈ report.val.artifactDigests then
    [⟨(lit "evidence-admission", digest), (lit "artifact-digest", record.artifactDigest),
      lit "binds-admitted-artifact", lit "admission.evidence_reference.digest"⟩]
  else []

/-- An identity of a record equals a source identity of the report. -/
def sourceMatches (report : ReliabilityVerificationReport) (record : EvidenceTraceRecord)
    (basisField identity : Text) : List Relation :=
  if identity ∈ report.val.sourceIdentities then
    [⟨(lit "source-identity", identity), record.key, lit "resolves-to-workspace-record",
      lit "exact " ++ basisField ++ lit " equality"⟩]
  else []

/-- The relations of a record: what it records and what of it equals the report. -/
def recordRelations (report : ReliabilityVerificationReport) (record : EvidenceTraceRecord) :
    List Relation :=
  artifactMatches report record ++
  record.admissionDigest.toList.flatMap (admissionRelations report record) ++
  (identities record).flatMap (fun i ↦ i.1.toList.flatMap (sourceMatches report record i.2)) ++
  record.runId.toList.map (fun runId ↦
    ⟨record.key, (lit "run", runId), lit "captured-in-run", lit "receipt.run_id"⟩)

/-- The relations the trace records. -/
def relations (report : ReliabilityVerificationReport) (source : ReportSourceContext)
    (records : List EvidenceTraceRecord) : List Relation :=
  reportRelations report source ++ records.flatMap (recordRelations report)

/-! ### What is said of the nodes -/

/-- What the report says of the nodes it mentions. -/
def reportMentions (report : ReliabilityVerificationReport) (digest : Text)
    (source : ReportSourceContext) : List EvidenceTraceNodeFields :=
  [reportFields digest source, reportArtifactFields source, candidateFields report] ++
  report.val.profileEvaluationDigest.toList.map evaluationFields ++
  source.runId.toList.map (fun runId ↦ runFields runId (lit "Report run")) ++
  report.val.sourceIdentities.map sourceIdentityFields ++
  report.val.artifactDigests.map artifactFields ++
  (requirements report).map (fun r ↦ requirementFields r.1 r.2)

/-- What a record says of the nodes it mentions. -/
def recordMentions (record : EvidenceTraceRecord) : List EvidenceTraceNodeFields :=
  [recordFields record] ++ record.admissionDigest.toList.map (admissionFields record) ++
  record.runId.toList.map (fun runId ↦ runFields runId (lit "Workspace run"))

/-- What is said of the nodes, in the order it is said. -/
def mentions (report : ReliabilityVerificationReport) (digest : Text)
    (source : ReportSourceContext) (records : List EvidenceTraceRecord) :
    List EvidenceTraceNodeFields :=
  reportMentions report digest source ++ records.flatMap recordMentions

open EvidenceTraceNodeFields in
theorem map_key_mentions (report : ReliabilityVerificationReport) (digest : Text)
    (source : ReportSourceContext) (records : List EvidenceTraceRecord) :
    (mentions report digest source records).map key = mentioned report source records := by
  have hreport : (reportMentions report digest source).map key = reportMentioned report source := by
    simp only [reportMentions, reportMentioned, List.map_append, List.map_map]
    rfl
  have hrecord (record : EvidenceTraceRecord) :
      (recordMentions record).map key = record.mentioned := by
    simp only [recordMentions, EvidenceTraceRecord.mentioned, List.map_append, List.map_map]
    rfl
  rw [mentions, mentioned, List.map_append, hreport, List.map_flatMap]
  simp only [hrecord]

/-! ### What a step adds -/

/-- The identity of the node of a key. -/
def idOf (key : NodeKey) : Text := (stableId key).toOption.getD []

/-- What a relation is counted under. -/
def Relation.edgeKey (r : Relation) : EdgeKey :=
  toLex (idOf r.source, toLex (idOf r.target, toLex (r.relationshipType, r.basis)))

/-- The error of a trace that is full. -/
def full : PyError := ⟨.overflowError, lit "evidence trace exceeds configured node limit"⟩

/-- A node can be entered if its identity can be encoded. -/
def checkKey (key : NodeKey) : Except PyError Unit := do
  let _ ← stableId key
  pure ()

/-- Nodes entered into a register of limited size. -/
def fillNodes (maxNodes : Int) (kept entries : List EvidenceTraceNodeFields) :
    Except PyError (List EvidenceTraceNodeFields) :=
  FirstCome.fill EvidenceTraceNodeFields.key maxNodes.toNat full checkKey kept entries

namespace Trace

/-- What the nodes of a trace say. -/
def fields (t : Trace) : List EvidenceTraceNodeFields :=
  t.nodes.map EvidenceTraceNode.toEvidenceTraceNodeFields

/-- Each node has the identity of its key. -/
def Sound (t : Trace) : Prop := ∀ n ∈ t.nodes, stableId n.key = .ok n.nodeId

end Trace

/-- A step enters nodes and counts relations, and its result has a property. It raises what entering
the nodes raises. -/
def Adds (maxNodes : Int) {α : Type} (entries : List EvidenceTraceNodeFields) (rs : List Relation)
    (P : α → Prop) (m : Building α) : Prop :=
  ∀ t : Trace, t.Sound → match fillNodes maxNodes t.fields entries with
    | .error e => m t = .error e
    | .ok kept => ∃ a t', m t = .ok (a, t') ∧ t'.Sound ∧ t'.fields = kept ∧
        t'.edgeCounts = (rs.map Relation.edgeKey).foldl Tally.bump t.edgeCounts ∧ P a

namespace Adds

variable {maxNodes : Int} {α β : Type} {entries entries' : List EvidenceTraceNodeFields}
  {rs rs' : List Relation} {P : α → Prop} {Q : β → Prop} {m : Building α} {f : α → Building β}

theorem pure {a : α} (h : P a) : Adds maxNodes [] [] P (pure a) :=
  fun t ht ↦ ⟨a, t, rfl, ht, rfl, rfl, h⟩

theorem bind (hm : Adds maxNodes entries rs P m)
    (hf : ∀ a, P a → Adds maxNodes entries' rs' Q (f a)) :
    Adds maxNodes (entries ++ entries') (rs ++ rs') Q (m >>= f) := by
  intro t ht
  have hfirst := hm t ht
  rw [fillNodes, FirstCome.fill_append, ← fillNodes]
  cases hfill : fillNodes maxNodes t.fields entries with
  | error e =>
    rw [hfill] at hfirst
    rw [error_bind]
    change m t >>= _ = _
    rw [hfirst, error_bind]
  | ok kept =>
    rw [hfill] at hfirst
    obtain ⟨a, t', hrun, ht', rfl, hcounts, ha⟩ := hfirst
    have hrest := hf a ha t' ht'
    rw [ok_bind]
    have hbind : (m >>= f) t = f a t' := by
      change m t >>= _ = _
      rw [hrun, ok_bind]
    rw [hbind, List.map_append, List.foldl_append, ← hcounts]
    exact hrest

/-- A loop adds what its passes add. -/
theorem foldlM {I : List β → α → Prop} {step : α → β → Building α}
    {entriesOf : β → List EvidenceTraceNodeFields} {rsOf : β → List Relation}
    (hstep : ∀ seen b a, I seen a →
      Adds maxNodes (entriesOf b) (rsOf b) (I (seen ++ [b])) (step a b)) :
    ∀ (items seen : List β) (a : α), I seen a → Adds maxNodes (items.flatMap entriesOf)
      (items.flatMap rsOf) (I (seen ++ items)) (items.foldlM step a) := by
  intro items
  induction items with
  | nil =>
    intro seen a ha
    rw [List.append_nil]
    exact Adds.pure ha
  | cons b items ih =>
    intro seen a ha
    rw [List.foldlM_cons, List.flatMap_cons, List.flatMap_cons, List.append_cons]
    exact (hstep seen b a ha).bind fun a' ha' ↦ ih (seen ++ [b]) a' ha'

theorem forM {step : β → Building Unit} {entriesOf : β → List EvidenceTraceNodeFields}
    {rsOf : β → List Relation} (hstep : ∀ b, Adds maxNodes (entriesOf b) (rsOf b) (fun _ ↦ True)
      (step b)) (items : List β) : Adds maxNodes (items.flatMap entriesOf) (items.flatMap rsOf)
      (fun _ ↦ True) (items.forM step) := by
  induction items with
  | nil => exact Adds.pure trivial
  | cons b items ih =>
    rw [List.flatMap_cons, List.flatMap_cons]
    exact (hstep b).bind fun _ _ ↦ ih

end Adds

/-- A node has the identity of a key. -/
def Stands (key : NodeKey) (n : EvidenceTraceNode) : Prop := n.nodeId = idOf key

theorem idOf_eq {key : NodeKey} {id : Text} (h : stableId key = .ok id) : idOf key = id := by
  rw [idOf, h]
  rfl

theorem mem_keys_fields {t : Trace} {key : NodeKey} :
    key ∈ t.fields.map EvidenceTraceNodeFields.key ↔ ∃ n ∈ t.nodes, n.key = key := by
  rw [Trace.fields, List.map_map, List.mem_map]
  rfl

theorem adds_node (maxNodes : Int) (f : EvidenceTraceNodeFields) :
    Adds maxNodes [f] [] (Stands f.key) (addNode maxNodes f) := by
  intro t ht
  have hfill : fillNodes maxNodes t.fields [f] =
      FirstCome.enter EvidenceTraceNodeFields.key maxNodes.toNat full checkKey t.fields f := by
    rw [fillNodes, FirstCome.fill, List.foldlM_cons]
    simp only [List.foldlM_nil, bind_pure]
  rw [hfill, FirstCome.enter]
  cases hfound : t.nodes.find? fun n ↦ decide (n.key = f.key) with
  | some existing =>
    have hfit := List.find?_some hfound
    have hkey : existing.key = f.key := of_decide_eq_true hfit
    have hmem := List.mem_of_find?_eq_some hfound
    rw [if_pos (mem_keys_fields.mpr ⟨existing, hmem, hkey⟩)]
    refine ⟨existing, t, ?_, ht, rfl, rfl, ?_⟩
    · rw [addNode, hfound]
    · have hid := ht existing hmem
      rw [hkey] at hid
      exact (idOf_eq hid).symm
  | none =>
    have hnew : f.key ∉ t.fields.map EvidenceTraceNodeFields.key := by
      intro hmem
      obtain ⟨n, hn, hkey⟩ := mem_keys_fields.mp hmem
      exact of_decide_eq_false (List.find?_eq_none.mp hfound n hn |> Bool.eq_false_iff.mpr) hkey
    have hlength : t.fields.length = t.nodes.length := List.length_map _
    rw [if_neg hnew, hlength]
    by_cases hfull : maxNodes ≤ t.nodes.length
    · rw [if_pos (by omega)]
      change addNode maxNodes f t = _
      rw [addNode, hfound]
      exact if_pos hfull
    · rw [if_neg (by omega), checkKey]
      cases hid : stableId f.key with
      | error e =>
        change addNode maxNodes f t = _
        rw [addNode, hfound]
        dsimp only
        rw [if_neg hfull, hid, error_bind]
      | ok id =>
        refine ⟨⟨f, id⟩, ⟨t.nodes ++ [⟨f, id⟩], t.edgeCounts⟩, ?_, ?_, ?_, rfl, (idOf_eq hid).symm⟩
        · rw [addNode, hfound]
          dsimp only
          rw [if_neg hfull, hid, ok_bind]
          rfl
        · intro n hn
          obtain hn | hn := List.mem_append.mp hn
          · exact ht n hn
          · rw [List.mem_singleton.mp hn]
            exact hid
        · exact List.map_append

theorem adds_edge (maxNodes : Int) {source target : EvidenceTraceNode}
    {sourceKey targetKey : NodeKey} (hsource : Stands sourceKey source)
    (htarget : Stands targetKey target) (relationshipType basis : Text) :
    Adds maxNodes [] [⟨sourceKey, targetKey, relationshipType, basis⟩] (fun _ ↦ True)
      (addEdge source target relationshipType basis) := by
  intro t ht
  refine ⟨(), _, rfl, ht, rfl, ?_, trivial⟩
  rw [Stands] at hsource htarget
  change Tally.bump t.edgeCounts (toLex (source.nodeId, toLex (target.nodeId, _))) = _
  rw [hsource, htarget]
  rfl

/-! ### The report -/

theorem adds_report (maxNodes : Int) (report : ReliabilityVerificationReport) (digest : Text)
    (source : ReportSourceContext) :
    Adds maxNodes [reportFields digest source, reportArtifactFields source, candidateFields report]
      [⟨reportKey source, (lit "artifact-digest", source.artifactDigest),
          lit "stores-report-artifact", lit "receipt.artifact_digest"⟩,
        ⟨reportKey source, (lit "candidate", report.val.candidateIdentity),
          lit "describes-candidate", lit "report.candidate_identity + report.candidate_digest"⟩]
      (Stands (reportKey source)) (addReport maxNodes report digest source) :=
  (adds_node maxNodes _).bind fun _ hreport ↦ (adds_node maxNodes _).bind fun _ hartifact ↦
    (adds_edge maxNodes hreport hartifact _ _).bind fun _ _ ↦
    (adds_node maxNodes _).bind fun _ hcandidate ↦
    (adds_edge maxNodes hreport hcandidate _ _).bind fun _ _ ↦ Adds.pure hreport

theorem adds_evaluation (maxNodes : Int) {key : NodeKey} {n : EvidenceTraceNode} (hn : Stands key n)
    (digest : Option Text) : Adds maxNodes (digest.toList.map evaluationFields)
      (digest.toList.map fun digest ↦ ⟨key, (lit "profile-evaluation", digest),
        lit "references-profile-evaluation", lit "report.profile_evaluation_digest"⟩)
      (fun _ ↦ True) (addEvaluation maxNodes n digest) := by
  cases digest with
  | none => exact Adds.pure trivial
  | some digest =>
    exact (adds_node maxNodes _).bind fun _ hevaluation ↦ adds_edge maxNodes hn hevaluation _ _

theorem adds_run (maxNodes : Int) {key : NodeKey} {n : EvidenceTraceNode} (hn : Stands key n)
    (label : Text) (runId : Option Text) :
    Adds maxNodes (runId.toList.map fun runId ↦ runFields runId label)
      (runId.toList.map fun runId ↦
        ⟨key, (lit "run", runId), lit "captured-in-run", lit "receipt.run_id"⟩)
      (fun _ ↦ True) (addRun maxNodes n label runId) := by
  cases runId with
  | none => exact Adds.pure trivial
  | some runId => exact (adds_node maxNodes _).bind fun _ hrun ↦ adds_edge maxNodes hn hrun _ _

/-- The nodes of a kind, by their identities. -/
structure Holds (kind : Text) (d : Dict EvidenceTraceNode) (ids : List Text) : Prop where
  keys : d.keys = FirstCome.firsts id ids
  stands : ∀ id n, d.get? id = some n → Stands (kind, id) n

theorem Holds.nil (kind : Text) : Holds kind [] [] :=
  ⟨rfl, fun _ _ h ↦ nomatch h⟩

theorem Holds.mem_keys {kind : Text} {d : Dict EvidenceTraceNode} {ids : List Text}
    (h : Holds kind d ids) (identity : Text) : identity ∈ d.keys ↔ identity ∈ ids := by
  rw [h.keys, FirstCome.mem_firsts_id]

theorem Holds.set {kind : Text} {d : Dict EvidenceTraceNode} {ids : List Text}
    (h : Holds kind d ids) {id : Text} {n : EvidenceTraceNode} (hn : Stands (kind, id) n) :
    Holds kind (d.set id n) (ids ++ [id]) where
  keys := by
    rw [FirstCome.firsts_append_singleton, FirstCome.keep, ← h.keys, List.map_id, id_eq]
    by_cases hold : id ∈ d.keys
    · rw [if_pos hold, Dict.keys_set_of_mem hold]
    · rw [if_neg hold, Dict.set_of_not_mem hold, Dict.keys, List.map_append]
      rfl
  stands key n' hget := by
    rw [Dict.get?_set] at hget
    split at hget
    · next hkey =>
      cases hget
      rw [hkey]
      exact hn
    · exact h.stands key n' hget

theorem adds_sourceIdentity (maxNodes : Int) {key : NodeKey} {n : EvidenceTraceNode}
    (hn : Stands key n) {d : Dict EvidenceTraceNode} {ids : List Text}
    (hd : Holds (lit "source-identity") d ids) (identity : Text) :
    Adds maxNodes [sourceIdentityFields identity] [⟨key, (lit "source-identity", identity),
        lit "references-source-identity", lit "report.source_identities"⟩]
      (fun d ↦ Holds (lit "source-identity") d (ids ++ [identity]))
      (addSourceIdentity maxNodes n d identity) :=
  (adds_node maxNodes _).bind fun _ hsource ↦ (adds_edge maxNodes hn hsource _ _).bind fun _ _ ↦
    Adds.pure (hd.set hsource)

theorem adds_artifact (maxNodes : Int) {key : NodeKey} {n : EvidenceTraceNode} (hn : Stands key n)
    {d : Dict EvidenceTraceNode} {ids : List Text} (hd : Holds (lit "artifact-digest") d ids)
    (digest : Text) :
    Adds maxNodes [artifactFields digest] [⟨key, (lit "artifact-digest", digest),
        lit "references-artifact-digest", lit "report.artifact_digests"⟩]
      (fun d ↦ Holds (lit "artifact-digest") d (ids ++ [digest]))
      (addArtifact maxNodes n d digest) :=
  (adds_node maxNodes _).bind fun _ hartifact ↦ (adds_edge maxNodes hn hartifact _ _).bind fun _ _ ↦
    Adds.pure (hd.set hartifact)

theorem adds_requirement (maxNodes : Int) {key : NodeKey} {n : EvidenceTraceNode}
    (hn : Stands key n) (status identity : Text) :
    Adds maxNodes [requirementFields status identity]
      [⟨key, (lit "evidence-requirement", status ++ lit ":" ++ identity), lit "evidence-" ++ status,
        lit "report.evidence_" ++ status⟩]
      (fun _ ↦ True) (addRequirement maxNodes n status identity) :=
  (adds_node maxNodes _).bind fun _ hrequirement ↦ adds_edge maxNodes hn hrequirement _ _

/-! ### The records -/

section Records

variable {report : ReliabilityVerificationReport} {record : EvidenceTraceRecord}
  {sourceNodes artifactNodes : Dict EvidenceTraceNode} {n : EvidenceTraceNode}

/-- The nodes of the report that records are matched against. -/
structure Referenced (report : ReliabilityVerificationReport)
    (sourceNodes artifactNodes : Dict EvidenceTraceNode) : Prop where
  sources : Holds (lit "source-identity") sourceNodes report.val.sourceIdentities
  artifacts : Holds (lit "artifact-digest") artifactNodes report.val.artifactDigests

/-- A lookup among the nodes of a kind finds the identities the report has. -/
theorem Holds.get? {kind : Text} {d : Dict EvidenceTraceNode} {ids : List Text}
    (h : Holds kind d ids) (id : Text) :
    (id ∈ ids ∧ ∃ n, d.get? id = some n ∧ Stands (kind, id) n) ∨ (id ∉ ids ∧ d.get? id = none) := by
  cases hget : Dict.get? d id with
  | none =>
    rw [Dict.get?_eq_none_iff, h.mem_keys] at hget
    exact .inr ⟨hget, rfl⟩
  | some n =>
    have hmem : id ∈ d.keys := Dict.mem_keys.mpr ⟨n, Dict.mem_of_get? hget⟩
    exact .inl ⟨(h.mem_keys id).mp hmem, n, rfl, h.stands id n hget⟩

theorem adds_artifactMatch (maxNodes : Int) (href : Referenced report sourceNodes artifactNodes)
    (hn : Stands record.key n) (matched : List Text) :
    Adds maxNodes [] (artifactMatches report record)
      (· = matched ++ if record.artifactDigest ∈ report.val.artifactDigests
        then [record.artifactDigest] else [])
      (addArtifactMatch n record.artifactDigest matched
        (artifactNodes.get? record.artifactDigest)) := by
  obtain ⟨hmem, a, hget, ha⟩ | ⟨hmem, hget⟩ := href.artifacts.get? record.artifactDigest
  · rw [artifactMatches, if_pos hmem, if_pos hmem, hget]
    exact (adds_edge maxNodes ha hn _ _).bind fun _ _ ↦ Adds.pure rfl
  · rw [artifactMatches, if_neg hmem, if_neg hmem, hget, List.append_nil]
    exact Adds.pure rfl

theorem adds_admission (maxNodes : Int) (href : Referenced report sourceNodes artifactNodes)
    (hn : Stands record.key n) (digest : Option Text) :
    Adds maxNodes (digest.toList.map (admissionFields record))
      (digest.toList.flatMap (admissionRelations report record)) (fun _ ↦ True)
      (addAdmission maxNodes record n (artifactNodes.get? record.artifactDigest) digest) := by
  cases digest with
  | none => exact Adds.pure trivial
  | some digest =>
    rw [Option.toList_some, List.flatMap_singleton, admissionRelations]
    obtain ⟨hmem, a, hget, ha⟩ | ⟨hmem, hget⟩ := href.artifacts.get? record.artifactDigest
    · rw [if_pos hmem, hget]
      exact (adds_node maxNodes _).bind fun _ hadmission ↦
        (adds_edge maxNodes hn hadmission _ _).bind fun _ _ ↦ adds_edge maxNodes hadmission ha _ _
    · rw [if_neg hmem, hget]
      exact (adds_node maxNodes _).bind fun _ hadmission ↦
        (adds_edge maxNodes hn hadmission _ _).bind fun _ _ ↦ Adds.pure trivial

/-- The identities of a record that are source identities of the report. -/
def matchedIdentities (report : ReliabilityVerificationReport) (items : List (Option Text × Text)) :
    List Text :=
  items.flatMap fun i ↦ i.1.toList.filter fun identity ↦
    decide (identity ∈ report.val.sourceIdentities)

theorem adds_sourceMatch (maxNodes : Int) (href : Referenced report sourceNodes artifactNodes)
    (hn : Stands record.key n) (matched : List Text) (i : Option Text × Text) :
    Adds maxNodes [] (i.1.toList.flatMap (sourceMatches report record i.2))
      (· = matched ++ matchedIdentities report [i]) (addSourceMatch sourceNodes n matched i) := by
  obtain ⟨identity, basisField⟩ := i
  cases identity with
  | none =>
    rw [matchedIdentities, List.flatMap_singleton, Option.toList_none, List.filter_nil,
      List.append_nil]
    exact Adds.pure rfl
  | some identity =>
    rw [matchedIdentities, List.flatMap_singleton, Option.toList_some, List.flatMap_singleton,
      sourceMatches, List.filter_singleton, addSourceMatch]
    obtain ⟨hmem, a, hget, ha⟩ | ⟨hmem, hget⟩ := href.sources.get? identity
    · rw [if_pos hmem, decide_eq_true hmem, hget]
      exact (adds_edge maxNodes ha hn _ _).bind fun _ _ ↦ Adds.pure rfl
    · rw [if_neg hmem, decide_eq_false hmem, hget]
      exact Adds.pure (List.append_nil _).symm

theorem adds_sourceMatches (maxNodes : Int) (href : Referenced report sourceNodes artifactNodes)
    (hn : Stands record.key n) (matched : List Text) :
    Adds maxNodes [] ((identities record).flatMap fun i ↦
        i.1.toList.flatMap (sourceMatches report record i.2))
      (· = matched ++ matchedIdentities report (identities record))
      ((identities record).foldlM (addSourceMatch sourceNodes n) matched) := by
  have hloop := @Adds.foldlM maxNodes (List Text) (Option Text × Text)
    (fun seen m ↦ m = matched ++ matchedIdentities report seen) (addSourceMatch sourceNodes n)
    (fun _ ↦ []) (fun i ↦ i.1.toList.flatMap (sourceMatches report record i.2))
    (fun seen i m hm ↦ by
      rw [matchedIdentities, List.flatMap_append, ← List.append_assoc, ← matchedIdentities, ← hm]
      exact adds_sourceMatch maxNodes href hn m i)
    (identities record) [] matched (List.append_nil _).symm
  rw [List.nil_append] at hloop
  exact hloop

/-- The artifacts of a record that the report refers to. -/
def matchedArtifact (report : ReliabilityVerificationReport) (record : EvidenceTraceRecord) :
    List Text :=
  if record.artifactDigest ∈ report.val.artifactDigests then [record.artifactDigest] else []

/-- What the records match: source identities and artifacts. -/
def matchedOf (report : ReliabilityVerificationReport) (records : List EvidenceTraceRecord) :
    List Text × List Text :=
  (records.flatMap fun r ↦ matchedIdentities report (identities r),
    records.flatMap (matchedArtifact report))

theorem matchedOf_append_singleton (records : List EvidenceTraceRecord) :
    matchedOf report (records ++ [record]) =
      ((matchedOf report records).1 ++ matchedIdentities report (identities record),
        (matchedOf report records).2 ++ matchedArtifact report record) := by
  simp only [matchedOf, List.flatMap_append, List.flatMap_singleton]

theorem adds_record (maxNodes : Int) (href : Referenced report sourceNodes artifactNodes)
    (matched : List Text × List Text) (record : EvidenceTraceRecord) :
    Adds maxNodes (recordMentions record) (recordRelations report record)
      (· = (matched.1 ++ matchedIdentities report (identities record),
        matched.2 ++ matchedArtifact report record))
      (addRecord maxNodes sourceNodes artifactNodes matched record) := by
  have hadds := (adds_node maxNodes (recordFields record)).bind fun n hn ↦
    (adds_artifactMatch maxNodes href (show Stands record.key n from hn) matched.2).bind
      fun artifacts hartifacts ↦
    (adds_admission maxNodes href hn record.admissionDigest).bind fun _ _ ↦
    (adds_sourceMatches maxNodes href hn matched.1).bind fun sources hsources ↦
    (adds_run maxNodes hn (lit "Workspace run") record.runId).bind fun _ _ ↦
    Adds.pure (P := (· = (matched.1 ++ matchedIdentities report (identities record),
      matched.2 ++ matchedArtifact report record))) (a := (sources, artifacts))
      (by rw [hsources, hartifacts, matchedArtifact])
  simp only [List.nil_append, List.append_nil, ← List.append_assoc] at hadds
  exact hadds

end Records

/-- What is known of the nodes of the report and of the matches after the records. -/
structure Matched (report : ReliabilityVerificationReport) (records : List EvidenceTraceRecord)
    (result : Dict EvidenceTraceNode × Dict EvidenceTraceNode × List Text × List Text) : Prop where
  referenced : Referenced report result.1 result.2.1
  matched : result.2.2 = matchedOf report records

theorem adds_all (maxNodes : Int) (report : ReliabilityVerificationReport) (digest : Text)
    (source : ReportSourceContext) (records : List EvidenceTraceRecord) :
    Adds maxNodes (mentions report digest source records) (relations report source records)
      (Matched report records) (addAll maxNodes report digest source records) := by
  have hsources {n : EvidenceTraceNode} (hn : Stands (reportKey source) n) :=
    Adds.foldlM (I := fun ids d ↦ Holds (lit "source-identity") d ids)
      (fun ids identity d hd ↦ adds_sourceIdentity maxNodes hn hd identity)
      report.val.sourceIdentities [] [] (Holds.nil _)
  have hartifacts {n : EvidenceTraceNode} (hn : Stands (reportKey source) n) :=
    Adds.foldlM (I := fun ids d ↦ Holds (lit "artifact-digest") d ids)
      (fun ids digest d hd ↦ adds_artifact maxNodes hn hd digest)
      report.val.artifactDigests [] [] (Holds.nil _)
  have hrequirements {n : EvidenceTraceNode} (hn : Stands (reportKey source) n) :=
    Adds.forM (fun r : Text × Text ↦ adds_requirement maxNodes hn r.1 r.2) (requirements report)
  have hrecords {sourceNodes artifactNodes : Dict EvidenceTraceNode}
      (href : Referenced report sourceNodes artifactNodes) :=
    Adds.foldlM (I := fun seen matched ↦ matched = matchedOf report seen)
      (fun seen record matched hm ↦ by
        have hrecord := adds_record maxNodes href matched record
        rw [hm, ← matchedOf_append_singleton] at hrecord
        rw [hm]
        exact hrecord) records [] ([], []) rfl
  have hadds := (adds_report maxNodes report digest source).bind fun n hn ↦
    (adds_evaluation maxNodes hn report.val.profileEvaluationDigest).bind fun _ _ ↦
    (adds_run maxNodes hn (lit "Report run") source.runId).bind fun _ _ ↦
    (hsources hn).bind fun sourceNodes hs ↦
    (hartifacts hn).bind fun artifactNodes ha ↦
    (hrequirements hn).bind fun _ _ ↦
    (hrecords ⟨hs, ha⟩).bind fun matched hm ↦
    Adds.pure (P := Matched report records) (a := (sourceNodes, artifactNodes, matched))
      ⟨⟨hs, ha⟩, hm⟩
  simp only [List.append_nil, ← List.append_assoc, ← List.map_eq_flatMap] at hadds
  exact hadds

end StateWake.Presentation
