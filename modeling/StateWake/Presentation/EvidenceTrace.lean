import StateWake.Base.Tally
import StateWake.Reports.Report

/-!
# The evidence trace of a report

`presentation/evidence_trace.py`: the bounded graph of what one verification report mentions and of
the workspace records that equal it in an identity, a run or an artifact digest. Nodes are entered
when they are first mentioned and keep what was said of them then; edges are counted by their ends,
type and basis.
-/

namespace StateWake.Presentation

open StateWake.Base Text Utils Reports

/-- `ReportSourceContext`, `presentation/claim_detail.py:16–26`, as far as the trace reads it. -/
structure ReportSourceContext where
  recordId : Text
  artifactDigest : Text
  producerId : Text
  producerType : Text
  capturedAt : Text
  runId : Option Text

/-- `EvidenceTraceRecord`, `presentation/evidence_trace.py:27–45`. -/
structure EvidenceTraceRecord where
  recordId : Text
  artifactDigest : Text
  artifactSize : Int
  producerId : Text
  producerType : Text
  capturedAt : Text
  sourceRef : Text
  sourceEventId : Option Text
  runId : Option Text
  receiptDigest : Text
  receiptIntegrityStatus : Text
  artifactIntegrityStatus : Text
  admissionStatus : Text
  admissionDigest : Option Text
  producerAuthenticationStatus : Text

/-- What `_add_node` is given, `presentation/evidence_trace.py:223–246`. -/
structure EvidenceTraceNodeFields where
  kind : Text
  identity : Text
  label : Text
  digest : Option Text := none
  digestKind : Option Text := none
  integrityStatus : Text := lit "recorded"
  availability : Text := lit "recorded"
  recordId : Option Text := none
  producerId : Option Text := none
  producerType : Option Text := none
  capturedAt : Option Text := none
  runId : Option Text := none
  sourceEventId : Option Text := none
  artifactSize : Option Int := none
  receiptDigest : Option Text := none
  receiptIntegrityStatus : Option Text := none
  artifactIntegrityStatus : Option Text := none
  admissionStatus : Option Text := none
  admissionDigest : Option Text := none
  producerAuthenticationStatus : Option Text := none

/-- A node is looked up by its kind and its identity. -/
abbrev NodeKey := Text × Text

/-- The key of a node, `presentation/evidence_trace.py:247`. -/
def EvidenceTraceNodeFields.key (f : EvidenceTraceNodeFields) : NodeKey := (f.kind, f.identity)

/-- `EvidenceTraceNode`, `presentation/evidence_trace.py:48–72`. -/
structure EvidenceTraceNode extends EvidenceTraceNodeFields where
  nodeId : Text

/-- `EvidenceTraceNode.to_dict`, `presentation/evidence_trace.py:74–98`. -/
def EvidenceTraceNode.toDict (n : EvidenceTraceNode) : Dict Json :=
  [(lit "node_id", .str n.nodeId),
    (lit "kind", .str n.kind),
    (lit "identity", .str n.identity),
    (lit "label", .str n.label),
    (lit "digest", optionJson n.digest),
    (lit "digest_kind", optionJson n.digestKind),
    (lit "integrity_status", .str n.integrityStatus),
    (lit "availability", .str n.availability),
    (lit "record_id", optionJson n.recordId),
    (lit "producer_id", optionJson n.producerId),
    (lit "producer_type", optionJson n.producerType),
    (lit "captured_at", optionJson n.capturedAt),
    (lit "run_id", optionJson n.runId),
    (lit "source_event_id", optionJson n.sourceEventId),
    (lit "artifact_size", n.artifactSize.elim .null .int),
    (lit "receipt_digest", optionJson n.receiptDigest),
    (lit "receipt_integrity_status", optionJson n.receiptIntegrityStatus),
    (lit "artifact_integrity_status", optionJson n.artifactIntegrityStatus),
    (lit "admission_status", optionJson n.admissionStatus),
    (lit "admission_digest", optionJson n.admissionDigest),
    (lit "producer_authentication_status", optionJson n.producerAuthenticationStatus)]

/-- `EvidenceTraceEdge`, `presentation/evidence_trace.py:101–110`. -/
structure EvidenceTraceEdge where
  edgeId : Text
  source : Text
  target : Text
  relationshipType : Text
  basis : Text
  occurrences : Nat

/-- `EvidenceTraceEdge.to_dict`, `presentation/evidence_trace.py:112–121`. -/
def EvidenceTraceEdge.toDict (e : EvidenceTraceEdge) : Dict Json :=
  [(lit "edge_id", .str e.edgeId),
    (lit "source", .str e.source),
    (lit "target", .str e.target),
    (lit "relationship_type", .str e.relationshipType),
    (lit "basis", .str e.basis),
    (lit "occurrences", .int e.occurrences)]

/-- `EvidenceTraceProjection`, `presentation/evidence_trace.py:124–138`. -/
structure EvidenceTraceProjection where
  reportRecordId : Text
  reportDigest : Text
  candidateIdentity : Text
  candidateDigest : Text
  nodes : List EvidenceTraceNode
  edges : List EvidenceTraceEdge
  unresolved : List (Dict Text)
  recordsScanned : Int
  recordsAvailable : Int
  scanComplete : Bool
  limitations : List Text

namespace EvidenceTraceProjection

/-- The nodes of workspace records a predicate holds of, as `assurance_summary` counts them. -/
def countRecords (p : EvidenceTraceProjection) (counted : EvidenceTraceNode → Bool) : Json :=
  .int (p.nodes.countP fun n ↦ decide (n.kind = lit "workspace-record") && counted n)

/-- `to_dict`, `presentation/evidence_trace.py:152–203`. -/
def toDict (p : EvidenceTraceProjection) : Dict Json :=
  [(lit "schema_version", .str (lit "evidence-trace.v2")),
    (lit "report_record_id", .str p.reportRecordId),
    (lit "report_digest", .str p.reportDigest),
    (lit "candidate", .obj [(lit "id", .str p.candidateIdentity),
      (lit "digest", .str p.candidateDigest)]),
    (lit "nodes", .arr (p.nodes.map fun n ↦ .obj n.toDict)),
    (lit "edges", .arr (p.edges.map fun e ↦ .obj e.toDict)),
    (lit "unresolved", .arr (p.unresolved.map fun item ↦ .obj (item.mapValues .str))),
    (lit "workspace_scan", .obj [(lit "records_scanned", .int p.recordsScanned),
      (lit "records_available", .int p.recordsAvailable),
      (lit "complete", .bool p.scanComplete)]),
    (lit "assurance_summary", .obj [
      (lit "receipts_resolved", p.countRecords fun _ ↦ true),
      (lit "receipt_integrity_verified", p.countRecords fun n ↦
        decide (n.receiptIntegrityStatus = some (lit "verified"))),
      (lit "artifact_integrity_verified", p.countRecords fun n ↦
        decide (n.artifactIntegrityStatus = some (lit "verified"))),
      (lit "admission_verified", p.countRecords fun n ↦
        decide (n.admissionStatus = some (lit "verified")))]),
    (lit "producer_authentication", .obj [(lit "status", .str (lit "not-recorded")),
      (lit "authenticated", .null),
      (lit "reason", .str (lit ("Workspace evidence receipts do not persist detached producer " ++
        "signatures or independently configured trust keys; producer identity " ++
        "must not be promoted to authenticated producer evidence.")))]),
    (lit "limitations", .arr (p.limitations.map .str))]

/-- `digest`, `presentation/evidence_trace.py:140–150`. -/
def digest (p : EvidenceTraceProjection) : Except PyError Text := do
  let content ← canonicalBytes p.toDict
  pure (sha256 content)

end EvidenceTraceProjection

/-- What `_stable_id` hashes, `presentation/evidence_trace.py:17–23`. -/
def stablePayload (key : NodeKey) : Dict Json :=
  [(lit "kind", .str key.1), (lit "identity", .str key.2)]

/-- `_stable_id`, `presentation/evidence_trace.py:17–24`. -/
def stableId (key : NodeKey) : Except PyError Text := do
  let content ← canonicalBytes (stablePayload key)
  pure (sha256 content)

/-- The key an edge is counted under: the ends, the type and the basis. -/
abbrev EdgeKey := Text ×ₗ Text ×ₗ Text ×ₗ Text

/-- The nodes and the edge counts of a trace that is being built. -/
structure Trace where
  nodes : List EvidenceTraceNode
  edgeCounts : List (EdgeKey × Nat)

/-- A step of `build_evidence_trace`. -/
abbrev Building := StateT Trace (Except PyError)

/-- `_add_node`, `presentation/evidence_trace.py:223–279`. The dictionary of nodes is the list of
its values: a node's key can be read off it, and no entry is replaced. -/
def addNode (maxNodes : Int) (f : EvidenceTraceNodeFields) : Building EvidenceTraceNode := fun t ↦
  match t.nodes.find? fun n ↦ decide (n.key = f.key) with
  | some existing => .ok (existing, t)
  | none =>
    if maxNodes ≤ t.nodes.length then
      .error ⟨.overflowError, lit "evidence trace exceeds configured node limit"⟩
    else do
      let nodeId ← stableId f.key
      pure (⟨f, nodeId⟩, { t with nodes := t.nodes ++ [⟨f, nodeId⟩] })

/-- `_add_edge`, `presentation/evidence_trace.py:281–293`. -/
def addEdge (source target : EvidenceTraceNode) (relationshipType basis : Text) : Building Unit :=
  modify fun t ↦ { t with
    edgeCounts := Tally.bump t.edgeCounts
      (toLex (source.nodeId, toLex (target.nodeId, toLex (relationshipType, basis)))) }

/-! ### The report -/

/-- The node of the report itself, `presentation/evidence_trace.py:295–308`. -/
def reportFields (digest : Text) (source : ReportSourceContext) : EvidenceTraceNodeFields where
  kind := lit "verification-report"
  identity := source.recordId
  label := lit "Verification report"
  digest := some digest
  digestKind := some (lit "report-digest")
  integrityStatus := lit "verified"
  availability := lit "present"
  recordId := some source.recordId
  producerId := some source.producerId
  producerType := some source.producerType
  capturedAt := some source.capturedAt
  runId := source.runId

/-- The node of the report's artifact, `presentation/evidence_trace.py:309–317`. -/
def reportArtifactFields (source : ReportSourceContext) : EvidenceTraceNodeFields where
  kind := lit "artifact-digest"
  identity := source.artifactDigest
  label := lit "Report artifact"
  digest := some source.artifactDigest
  digestKind := some (lit "artifact-sha256")
  integrityStatus := lit "verified"
  availability := lit "present"

/-- The node of the candidate, `presentation/evidence_trace.py:325–331`. -/
def candidateFields (report : ReliabilityVerificationReport) : EvidenceTraceNodeFields where
  kind := lit "candidate"
  identity := report.val.candidateIdentity
  label := lit "Candidate"
  digest := some report.val.candidateDigest
  digestKind := some (lit "candidate-digest")

/-- The node of a profile evaluation, `presentation/evidence_trace.py:340–346`. -/
def evaluationFields (digest : Text) : EvidenceTraceNodeFields where
  kind := lit "profile-evaluation"
  identity := digest
  label := lit "Profile evaluation"
  digest := some digest
  digestKind := some (lit "profile-evaluation-digest")

/-- The node of a run. -/
def runFields (runId label : Text) : EvidenceTraceNodeFields where
  kind := lit "run"
  identity := runId
  label := label

/-- The node of a source identity, `presentation/evidence_trace.py:360`. -/
def sourceIdentityFields (identity : Text) : EvidenceTraceNodeFields where
  kind := lit "source-identity"
  identity := identity
  label := lit "Source identity"

/-- The node of a referenced artifact, `presentation/evidence_trace.py:371–377`. -/
def artifactFields (digest : Text) : EvidenceTraceNodeFields where
  kind := lit "artifact-digest"
  identity := digest
  label := lit "Referenced artifact"
  digest := some digest
  digestKind := some (lit "artifact-sha256")

/-- The node of an evidence requirement, `presentation/evidence_trace.py:392–396`. -/
def requirementFields (status identity : Text) : EvidenceTraceNodeFields where
  kind := lit "evidence-requirement"
  identity := status ++ lit ":" ++ identity
  label := lit "Evidence " ++ status

/-- The report, its artifact and its candidate, `presentation/evidence_trace.py:295–337`. -/
def addReport (maxNodes : Int) (report : ReliabilityVerificationReport) (digest : Text)
    (source : ReportSourceContext) : Building EvidenceTraceNode := do
  let reportNode ← addNode maxNodes (reportFields digest source)
  let reportArtifact ← addNode maxNodes (reportArtifactFields source)
  addEdge reportNode reportArtifact (lit "stores-report-artifact") (lit "receipt.artifact_digest")
  let candidate ← addNode maxNodes (candidateFields report)
  addEdge reportNode candidate (lit "describes-candidate")
    (lit "report.candidate_identity + report.candidate_digest")
  pure reportNode

/-- The profile evaluation, `presentation/evidence_trace.py:339–352`. -/
def addEvaluation (maxNodes : Int) (reportNode : EvidenceTraceNode) : Option Text → Building Unit
  | none => pure ()
  | some digest => do
    let evaluation ← addNode maxNodes (evaluationFields digest)
    addEdge reportNode evaluation (lit "references-profile-evaluation")
      (lit "report.profile_evaluation_digest")

/-- The run of the report or of a record, `presentation/evidence_trace.py:354–356, 488–495`. -/
def addRun (maxNodes : Int) (node : EvidenceTraceNode) (label : Text) : Option Text → Building Unit
  | none => pure ()
  | some runId => do
    let runNode ← addNode maxNodes (runFields runId label)
    addEdge node runNode (lit "captured-in-run") (lit "receipt.run_id")

/-- One source identity, `presentation/evidence_trace.py:359–367`. -/
def addSourceIdentity (maxNodes : Int) (reportNode : EvidenceTraceNode)
    (sourceNodes : Dict EvidenceTraceNode) (identity : Text) :
    Building (Dict EvidenceTraceNode) := do
  let sourceNode ← addNode maxNodes (sourceIdentityFields identity)
  addEdge reportNode sourceNode (lit "references-source-identity")
    (lit "report.source_identities")
  pure (sourceNodes.set identity sourceNode)

/-- One referenced artifact, `presentation/evidence_trace.py:370–384`. -/
def addArtifact (maxNodes : Int) (reportNode : EvidenceTraceNode)
    (artifactNodes : Dict EvidenceTraceNode) (digest : Text) :
    Building (Dict EvidenceTraceNode) := do
  let artifactNode ← addNode maxNodes (artifactFields digest)
  addEdge reportNode artifactNode (lit "references-artifact-digest")
    (lit "report.artifact_digests")
  pure (artifactNodes.set digest artifactNode)

/-- One evidence requirement, `presentation/evidence_trace.py:391–402`. -/
def addRequirement (maxNodes : Int) (reportNode : EvidenceTraceNode) (status identity : Text) :
    Building Unit := do
  let evidenceNode ← addNode maxNodes (requirementFields status identity)
  addEdge reportNode evidenceNode (lit "evidence-" ++ status) (lit "report.evidence_" ++ status)

/-- The evidence requirements of each status, `presentation/evidence_trace.py:386–390`. -/
def requirements (report : ReliabilityVerificationReport) : List (Text × Text) :=
  report.val.evidenceIncluded.map (fun identity ↦ (lit "included", identity)) ++
    report.val.evidenceMissing.map (fun identity ↦ (lit "missing", identity)) ++
    report.val.evidenceOmitted.map (fun identity ↦ (lit "omitted", identity))

/-! ### The records -/

/-- The node of a record, `presentation/evidence_trace.py:407–431`. -/
def recordFields (record : EvidenceTraceRecord) : EvidenceTraceNodeFields where
  kind := lit "workspace-record"
  identity := record.recordId
  label := record.producerType
  digest := some record.artifactDigest
  digestKind := some (lit "artifact-sha256")
  integrityStatus := record.admissionStatus
  availability :=
    if record.artifactIntegrityStatus ≠ lit "unavailable" then lit "present" else lit "missing"
  recordId := some record.recordId
  producerId := some record.producerId
  producerType := some record.producerType
  capturedAt := some record.capturedAt
  runId := record.runId
  sourceEventId := record.sourceEventId
  artifactSize := some record.artifactSize
  receiptDigest := some record.receiptDigest
  receiptIntegrityStatus := some record.receiptIntegrityStatus
  artifactIntegrityStatus := some record.artifactIntegrityStatus
  admissionStatus := some record.admissionStatus
  admissionDigest := record.admissionDigest
  producerAuthenticationStatus := some record.producerAuthenticationStatus

/-- The node of an admission, `presentation/evidence_trace.py:442–450`. -/
def admissionFields (record : EvidenceTraceRecord) (digest : Text) : EvidenceTraceNodeFields where
  kind := lit "evidence-admission"
  identity := digest
  label := lit "Evidence admission"
  digest := some digest
  digestKind := some (lit "admission-digest")
  integrityStatus := record.admissionStatus
  availability := lit "present"

/-- The artifact of the report that a record holds, `presentation/evidence_trace.py:432–440`: the
matched artifacts after it. -/
def addArtifactMatch (recordNode : EvidenceTraceNode) (digest : Text) (matched : List Text) :
    Option EvidenceTraceNode → Building (List Text)
  | none => pure matched
  | some artifactNode => do
    addEdge artifactNode recordNode (lit "recorded-by-workspace-receipt")
      (lit "exact artifact_digest equality")
    pure (matched ++ [digest])

/-- What an admission binds, `presentation/evidence_trace.py:457–463`. -/
def addBinding (admissionNode : EvidenceTraceNode) : Option EvidenceTraceNode → Building Unit
  | none => pure ()
  | some artifactNode => addEdge admissionNode artifactNode (lit "binds-admitted-artifact")
      (lit "admission.evidence_reference.digest")

/-- The admission of a record, `presentation/evidence_trace.py:441–463`. -/
def addAdmission (maxNodes : Int) (record : EvidenceTraceRecord) (recordNode : EvidenceTraceNode)
    (artifactNode : Option EvidenceTraceNode) : Option Text → Building Unit
  | none => pure ()
  | some digest => do
    let admissionNode ← addNode maxNodes (admissionFields record digest)
    addEdge recordNode admissionNode (lit "verified-by-evidence-admission")
      (lit "ExternalEvidenceAdmission deterministic receipt/artifact binding")
    addBinding admissionNode artifactNode

/-- The identities of a record that may equal a source identity of the report, with the field each
is in, `presentation/evidence_trace.py:464–468`. -/
def identities (record : EvidenceTraceRecord) : List (Option Text × Text) :=
  [(some record.recordId, lit "receipt_id"), (record.sourceEventId, lit "source_event_id"),
    (record.runId, lit "run_id")]

/-- One identity of a record, `presentation/evidence_trace.py:469–480`: the matched identities
after it. -/
def addSourceMatch (sourceNodes : Dict EvidenceTraceNode) (recordNode : EvidenceTraceNode)
    (matched : List Text) : Option Text × Text → Building (List Text)
  | (none, _) => pure matched
  | (some identity, basisField) =>
    match sourceNodes.get? identity with
    | none => pure matched
    | some sourceNode => do
      addEdge sourceNode recordNode (lit "resolves-to-workspace-record")
        (lit "exact " ++ basisField ++ lit " equality")
      pure (matched ++ [identity])

/-- One record, `presentation/evidence_trace.py:406–495`: the source identities and the artifacts
matched after it. -/
def addRecord (maxNodes : Int) (sourceNodes artifactNodes : Dict EvidenceTraceNode)
    (matched : List Text × List Text) (record : EvidenceTraceRecord) :
    Building (List Text × List Text) := do
  let recordNode ← addNode maxNodes (recordFields record)
  let artifactNode := artifactNodes.get? record.artifactDigest
  let artifacts ← addArtifactMatch recordNode record.artifactDigest matched.2 artifactNode
  addAdmission maxNodes record recordNode artifactNode record.admissionDigest
  let sources ← (identities record).foldlM (addSourceMatch sourceNodes recordNode) matched.1
  addRun maxNodes recordNode (lit "Workspace run") record.runId
  pure (sources, artifacts)

/-! ### The projection -/

/-- An item of the unresolved list, `presentation/evidence_trace.py:498–535`. -/
def unresolvedItem (kind identity reason : Text) : Dict Text :=
  [(lit "kind", kind), (lit "identity", identity), (lit "reason", reason)]

/-- `presentation/evidence_trace.py:502–506, 516–520`. -/
def unmatchedReason (scanComplete : Bool) : Text :=
  if scanComplete then lit "no matching workspace receipt was found in the bounded scan"
  else lit "not resolved within the bounded workspace receipt scan"

/-- `presentation/evidence_trace.py:497–535`. -/
def unresolvedItems (report : ReliabilityVerificationReport) (scanComplete : Bool)
    (sourceNodes artifactNodes : Dict EvidenceTraceNode) (matched : List Text × List Text) :
    List (Dict Text) :=
  ((sourceNodes.keys.filter fun identity ↦ decide (identity ∉ matched.1)).map fun identity ↦
      unresolvedItem (lit "source-identity") identity (unmatchedReason scanComplete)) ++
    ((artifactNodes.keys.filter fun digest ↦ decide (digest ∉ matched.2)).map fun digest ↦
      unresolvedItem (lit "artifact-digest") digest (unmatchedReason scanComplete)) ++
    report.val.evidenceMissing.map fun identity ↦ unresolvedItem (lit "missing-evidence") identity
      (lit "the canonical report records this evidence requirement as missing")

/-- An edge with its count, `presentation/evidence_trace.py:537–557`. -/
def toEdge (item : EdgeKey × Nat) : EvidenceTraceEdge :=
  let (source, rest) := ofLex item.1
  let (target, rest) := ofLex rest
  let (relationshipType, basis) := ofLex rest
  { edgeId := sha256 (Utf8.ascii (Json.dumps Json.compact (.obj [(lit "source", .str source),
      (lit "target", .str target), (lit "type", .str relationshipType),
      (lit "basis", .str basis)])))
    source, target, relationshipType, basis, occurrences := item.2 }

/-- `presentation/evidence_trace.py:558–582`. -/
def limitations (scanComplete : Bool) : List Text :=
  [lit ("This projection shows only relationships explicitly recorded in the " ++
      "canonical report or receipt fields, plus exact-identity workspace resolution."),
    lit ("An edge is descriptive evidence lineage; it does not imply causality, " ++
      "factual correctness, authorization, or approval."),
    lit ("Arbitrary receipt metadata and artifact payload bytes are not exposed " ++
      "by this UI projection."),
    lit ("Producer identifiers are recorded assertions, not authentication. This " ++
      "workspace does not persist detached producer signatures or independent " ++
      "producer trust keys, so producer authentication is reported as not-recorded.")] ++
  if scanComplete then []
  else [lit ("Workspace receipt resolution is partial because the configured bounded " ++
    "scan limit was reached.")]

/-- The nodes and the edge counts, `presentation/evidence_trace.py:295–495`: the nodes of source
identities and artifacts, and those of them that a record matched. -/
def addAll (maxNodes : Int) (report : ReliabilityVerificationReport) (digest : Text)
    (source : ReportSourceContext) (records : List EvidenceTraceRecord) :
    Building (Dict EvidenceTraceNode × Dict EvidenceTraceNode × List Text × List Text) := do
  let reportNode ← addReport maxNodes report digest source
  addEvaluation maxNodes reportNode report.val.profileEvaluationDigest
  addRun maxNodes reportNode (lit "Report run") source.runId
  let sourceNodes ← report.val.sourceIdentities.foldlM (addSourceIdentity maxNodes reportNode) []
  let artifactNodes ← report.val.artifactDigests.foldlM (addArtifact maxNodes reportNode) []
  (requirements report).forM fun r ↦ addRequirement maxNodes reportNode r.1 r.2
  let matched ← records.foldlM (addRecord maxNodes sourceNodes artifactNodes) ([], [])
  pure (sourceNodes, artifactNodes, matched)

/-- `build_evidence_trace`, `presentation/evidence_trace.py:206–584`. -/
def buildEvidenceTrace (report : ReliabilityVerificationReport) (source : ReportSourceContext)
    (records : List EvidenceTraceRecord) (recordsScanned recordsAvailable : Int)
    (scanComplete : Bool) (maxNodes : Int) : Except PyError EvidenceTraceProjection := do
  require ⟨.valueError, lit "max_nodes must be positive"⟩ (1 ≤ maxNodes)
  let digest ← report.val.digest
  let ((sourceNodes, artifactNodes, matched), trace) ←
    (addAll maxNodes report digest source records).run ⟨[], []⟩
  pure {
    reportRecordId := source.recordId
    reportDigest := digest
    candidateIdentity := report.val.candidateIdentity
    candidateDigest := report.val.candidateDigest
    nodes := trace.nodes
    edges := (Tally.sorted trace.edgeCounts).map toEdge
    unresolved := unresolvedItems report scanComplete sourceNodes artifactNodes matched
    recordsScanned, recordsAvailable, scanComplete
    limitations := limitations scanComplete }

end StateWake.Presentation
