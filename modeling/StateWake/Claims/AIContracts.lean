import StateWake.Lifecycle.EvidenceReceipt

/-!
# AI evidence contracts

The ten contract classes of `ai_contracts`, the evidence item each of them becomes
(`ai_contracts/base.py:76–99`), and the reference a captured one has in a chain
(`integrations/base.py:140–158`).
-/

namespace StateWake.Claims

open StateWake.Base Text Utils Reliability Lifecycle

/-! ### Shared checks -/

/-- `require_non_empty`, `ai_contracts/base.py:28–31`. -/
def requireNonEmpty (value fieldName : Text) : Except PyError Unit :=
  require ⟨.valueError, fieldName ++ lit " must not be blank."⟩ (!blank value)

/-- The loop over the fields that must not be blank. -/
def requireFields (fields : Dict Text) : Except PyError Unit :=
  fields.forM fun field ↦ requireNonEmpty field.2 field.1

/-- A field that must not be blank when there is one. -/
def requireWhenGiven (value : Option Text) (fieldName : Text) : Except PyError Unit :=
  value.elim (.ok ()) fun value ↦ requireNonEmpty value fieldName

/-- `require_optional_reason`, `ai_contracts/base.py:34–39`. -/
def requireOptionalReason (value reason : Option Text) (fieldName : Text) :
    Except PyError Unit :=
  require ⟨.valueError, fieldName ++ lit " requires an omission reason when omitted."⟩
    (value.isSome || reason.any fun reason ↦ !blank reason)

/-- `require_utc_datetime`, `ai_contracts/base.py:42–47`, of a value that has an offset. -/
def requireUtcDatetime (value : AwareDatetime) (fieldName : Text) : Except PyError Unit := do
  let _ ← value.toUtc
  require ⟨.valueError, fieldName ++ lit " must be UTC."⟩ (value.offset = 0)

/-- `datetime_to_json`, `ai_contracts/base.py:50–53`. -/
def datetimeToJson (value : AwareDatetime) : Except PyError Json := do
  requireUtcDatetime value (lit "datetime")
  let utc ← value.toUtc
  pure (.str (replaceAll (isoformat utc) (lit "+00:00") (lit "Z")))

/-- `json_mapping`, `ai_contracts/base.py:56–63`. What a mapping holds is JSON already: the
constructors refuse everything else. -/
def jsonMapping (value : Dict Json) (fieldName : Text) : Except PyError Json := do
  require ⟨.valueError, fieldName ++ lit " keys must be non-blank strings."⟩
    (value.keys.all fun key ↦ !blank key)
  pure (.obj value.sorted)

/-- `json_mapping(self.metadata or {}, field_name="metadata")`. -/
def metadataMapping (metadata : Option (Dict Json)) : Except PyError Json :=
  jsonMapping (metadata.getD []) (lit "metadata")

/-- The members every contract starts with. -/
structure ContractHead where
  contractVersion : Text
  producerId : Text
  runId : Text

namespace ContractHead

/-- The fields of every contract that must not be blank. -/
def fields (head : ContractHead) : Dict Text :=
  [(lit "contract_version", head.contractVersion), (lit "producer_id", head.producerId),
    (lit "run_id", head.runId)]

/-- The first members of `to_dict`, with `AI_CONTRACT_SCHEMA_VERSION`. -/
def members (head : ContractHead) (contractType : Text) : Dict Json :=
  [(lit "schema_version", .str (lit "statewake.ai_contract.v1")),
    (lit "contract_type", .str contractType),
    (lit "contract_version", .str head.contractVersion),
    (lit "producer_id", .str head.producerId),
    (lit "run_id", .str head.runId)]

end ContractHead

/-! ### Evaluator -/

/-- `EvaluatorEvidenceContract`, `ai_contracts/evaluator.py:22–37`. -/
structure EvaluatorEvidenceContract extends ContractHead where
  evaluatorId : Text
  evaluatorVersion : Text
  metricVersion : Text
  metricValues : Dict Json
  thresholds : Dict Json
  datasetIdentity : Text
  evaluatorLimitations : Text
  capturedAt : AwareDatetime
  metadata : Option (Dict Json)

namespace EvaluatorEvidenceContract

/-- `__post_init__`, `ai_contracts/evaluator.py:39–59`. -/
def postInit (c : EvaluatorEvidenceContract) : Except PyError Unit := do
  requireFields (c.fields ++
    [(lit "evaluator_id", c.evaluatorId), (lit "evaluator_version", c.evaluatorVersion),
      (lit "metric_version", c.metricVersion), (lit "dataset_identity", c.datasetIdentity),
      (lit "evaluator_limitations", c.evaluatorLimitations)])
  require ⟨.valueError, lit "metric_values must not be empty."⟩ (!c.metricValues.isEmpty)
  require ⟨.valueError, lit "thresholds must not be empty."⟩ (!c.thresholds.isEmpty)
  requireUtcDatetime c.capturedAt (lit "captured_at")
  let _ ← jsonMapping c.metricValues (lit "metric_values")
  let _ ← jsonMapping c.thresholds (lit "thresholds")
  let _ ← metadataMapping c.metadata

/-- `to_dict`, `ai_contracts/evaluator.py:61–80`. -/
def toDict (c : EvaluatorEvidenceContract) : Except PyError (Dict Json) := do
  let metricValues ← jsonMapping c.metricValues (lit "metric_values")
  let thresholds ← jsonMapping c.thresholds (lit "thresholds")
  let capturedAt ← datetimeToJson c.capturedAt
  let metadata ← metadataMapping c.metadata
  pure (c.members (lit "evaluator") ++
    [(lit "evaluator_id", .str c.evaluatorId), (lit "evaluator_version", .str c.evaluatorVersion),
      (lit "metric_version", .str c.metricVersion), (lit "metric_values", metricValues),
      (lit "thresholds", thresholds), (lit "dataset_identity", .str c.datasetIdentity),
      (lit "evaluator_limitations", .str c.evaluatorLimitations),
      (lit "captured_at", capturedAt), (lit "metadata", metadata)])

end EvaluatorEvidenceContract

/-! ### Human approval and its revocation -/

/-- `HumanApprovalContract`, `ai_contracts/human.py:34–47`. -/
structure HumanApprovalContract extends ContractHead where
  actorIdentityRef : Text
  role : Text
  approvalAction : Text
  approvalBasisDigest : Text
  scope : Text
  capturedAt : AwareDatetime
  metadata : Option (Dict Json)

namespace HumanApprovalContract

/-- `__post_init__`, `ai_contracts/human.py:49–63`. -/
def postInit (c : HumanApprovalContract) : Except PyError Unit := do
  requireFields (c.fields ++
    [(lit "actor_identity_ref", c.actorIdentityRef), (lit "role", c.role),
      (lit "approval_action", c.approvalAction),
      (lit "approval_basis_digest", c.approvalBasisDigest), (lit "scope", c.scope)])
  requireUtcDatetime c.capturedAt (lit "captured_at")
  let _ ← metadataMapping c.metadata

/-- `to_dict`, `ai_contracts/human.py:65–80`. -/
def toDict (c : HumanApprovalContract) : Except PyError (Dict Json) := do
  let capturedAt ← datetimeToJson c.capturedAt
  let metadata ← metadataMapping c.metadata
  pure (c.members (lit "human_approval") ++
    [(lit "actor_identity_ref", .str c.actorIdentityRef), (lit "role", .str c.role),
      (lit "approval_action", .str c.approvalAction),
      (lit "approval_basis_digest", .str c.approvalBasisDigest), (lit "scope", .str c.scope),
      (lit "captured_at", capturedAt), (lit "metadata", metadata)])

end HumanApprovalContract

/-- `_require_sha256`, `ai_contracts/human.py:27–31`. -/
def requireSha256 (value fieldName : Text) : Except PyError Unit := do
  requireNonEmpty value fieldName
  require ⟨.valueError, fieldName ++ lit " must be a lowercase SHA-256 digest"⟩ (isSha256 value)

/-- `HumanApprovalRevocationContract`, `ai_contracts/human.py:133–149`. -/
structure HumanApprovalRevocationContract extends ContractHead where
  actorIdentityRef : Text
  role : Text
  approvalAction : Text
  approvalBasisDigest : Text
  scope : Text
  targetApprovalReceiptId : Text
  targetApprovalReceiptDigest : Text
  reason : Text
  capturedAt : AwareDatetime
  metadata : Option (Dict Json)

namespace HumanApprovalRevocationContract

/-- `__post_init__`, `ai_contracts/human.py:151–174`. -/
def postInit (c : HumanApprovalRevocationContract) : Except PyError Unit := do
  requireFields (c.fields ++
    [(lit "actor_identity_ref", c.actorIdentityRef), (lit "role", c.role),
      (lit "approval_action", c.approvalAction),
      (lit "approval_basis_digest", c.approvalBasisDigest), (lit "scope", c.scope),
      (lit "reason", c.reason)])
  requireSha256 c.targetApprovalReceiptId (lit "target_approval_receipt_id")
  requireSha256 c.targetApprovalReceiptDigest (lit "target_approval_receipt_digest")
  requireUtcDatetime c.capturedAt (lit "captured_at")
  let _ ← metadataMapping c.metadata

/-- `to_dict`, `ai_contracts/human.py:176–194`. -/
def toDict (c : HumanApprovalRevocationContract) : Except PyError (Dict Json) := do
  let capturedAt ← datetimeToJson c.capturedAt
  let metadata ← metadataMapping c.metadata
  pure (c.members (lit "human_approval_revocation") ++
    [(lit "actor_identity_ref", .str c.actorIdentityRef), (lit "role", .str c.role),
      (lit "approval_action", .str c.approvalAction),
      (lit "approval_basis_digest", .str c.approvalBasisDigest), (lit "scope", .str c.scope),
      (lit "target_approval_receipt_id", .str c.targetApprovalReceiptId),
      (lit "target_approval_receipt_digest", .str c.targetApprovalReceiptDigest),
      (lit "reason", .str c.reason), (lit "captured_at", capturedAt), (lit "metadata", metadata)])

end HumanApprovalRevocationContract

/-! ### Model invocation -/

/-- `ModelInvocationContract`, `ai_contracts/model.py:22–39`. -/
structure ModelInvocationContract extends ContractHead where
  provider : Text
  modelName : Text
  parameters : Dict Json
  requestDigest : Text
  responseDigest : Text
  capturedAt : AwareDatetime
  modelVersion : Option Text
  modelVersionOmissionReason : Option Text
  finishReason : Option Text
  metadata : Option (Dict Json)

namespace ModelInvocationContract

/-- `__post_init__`, `ai_contracts/model.py:41–60`. -/
def postInit (c : ModelInvocationContract) : Except PyError Unit := do
  requireFields (c.fields ++
    [(lit "provider", c.provider), (lit "model_name", c.modelName),
      (lit "request_digest", c.requestDigest), (lit "response_digest", c.responseDigest)])
  requireOptionalReason c.modelVersion c.modelVersionOmissionReason (lit "model_version")
  requireUtcDatetime c.capturedAt (lit "captured_at")
  let _ ← jsonMapping c.parameters (lit "parameters")
  let _ ← metadataMapping c.metadata

/-- `to_dict`, `ai_contracts/model.py:62–80`. -/
def toDict (c : ModelInvocationContract) : Except PyError (Dict Json) := do
  let parameters ← jsonMapping c.parameters (lit "parameters")
  let capturedAt ← datetimeToJson c.capturedAt
  let metadata ← metadataMapping c.metadata
  pure (c.members (lit "model_invocation") ++
    [(lit "provider", .str c.provider), (lit "model_name", .str c.modelName),
      (lit "model_version", optionJson c.modelVersion),
      (lit "model_version_omission_reason", optionJson c.modelVersionOmissionReason),
      (lit "parameters", parameters), (lit "request_digest", .str c.requestDigest),
      (lit "response_digest", .str c.responseDigest),
      (lit "finish_reason", optionJson c.finishReason), (lit "captured_at", capturedAt),
      (lit "metadata", metadata)])

end ModelInvocationContract

/-! ### Observation -/

/-- `ObservationContract`, `ai_contracts/observation.py:22–35`. -/
structure ObservationContract extends ContractHead where
  framework : Text
  traceId : Text
  spanId : Text
  observationKind : Text
  observedAt : AwareDatetime
  parentRunId : Option Text
  metadata : Option (Dict Json)

namespace ObservationContract

/-- `__post_init__`, `ai_contracts/observation.py:37–52`. -/
def postInit (c : ObservationContract) : Except PyError Unit := do
  requireFields (c.fields ++
    [(lit "framework", c.framework), (lit "trace_id", c.traceId), (lit "span_id", c.spanId),
      (lit "observation_kind", c.observationKind)])
  requireUtcDatetime c.observedAt (lit "observed_at")
  requireWhenGiven c.parentRunId (lit "parent_run_id")
  let _ ← metadataMapping c.metadata

/-- `to_dict`, `ai_contracts/observation.py:54–70`. The observation is captured when it is made. -/
def toDict (c : ObservationContract) : Except PyError (Dict Json) := do
  let observedAt ← datetimeToJson c.observedAt
  let metadata ← metadataMapping c.metadata
  pure (c.members (lit "observation") ++
    [(lit "framework", .str c.framework), (lit "trace_id", .str c.traceId),
      (lit "span_id", .str c.spanId), (lit "observation_kind", .str c.observationKind),
      (lit "observed_at", observedAt), (lit "captured_at", observedAt),
      (lit "parent_run_id", optionJson c.parentRunId), (lit "metadata", metadata)])

end ObservationContract

/-! ### Policy -/

/-- `PolicyEvidenceContract`, `ai_contracts/policy.py:22–35`. -/
structure PolicyEvidenceContract extends ContractHead where
  policyId : Text
  policyVersion : Text
  decision : Text
  rationaleDigest : Text
  residualRisk : Text
  capturedAt : AwareDatetime
  metadata : Option (Dict Json)

namespace PolicyEvidenceContract

/-- `__post_init__`, `ai_contracts/policy.py:37–51`. -/
def postInit (c : PolicyEvidenceContract) : Except PyError Unit := do
  requireFields (c.fields ++
    [(lit "policy_id", c.policyId), (lit "policy_version", c.policyVersion),
      (lit "decision", c.decision), (lit "rationale_digest", c.rationaleDigest),
      (lit "residual_risk", c.residualRisk)])
  requireUtcDatetime c.capturedAt (lit "captured_at")
  let _ ← metadataMapping c.metadata

/-- `to_dict`, `ai_contracts/policy.py:53–68`. -/
def toDict (c : PolicyEvidenceContract) : Except PyError (Dict Json) := do
  let capturedAt ← datetimeToJson c.capturedAt
  let metadata ← metadataMapping c.metadata
  pure (c.members (lit "policy") ++
    [(lit "policy_id", .str c.policyId), (lit "policy_version", .str c.policyVersion),
      (lit "decision", .str c.decision), (lit "rationale_digest", .str c.rationaleDigest),
      (lit "residual_risk", .str c.residualRisk), (lit "captured_at", capturedAt),
      (lit "metadata", metadata)])

end PolicyEvidenceContract

/-! ### Prompt -/

/-- `PromptEvidenceContract`, `ai_contracts/prompt.py:21–35`. -/
structure PromptEvidenceContract extends ContractHead where
  source : Text
  capturedAt : AwareDatetime
  promptTemplateId : Option Text
  promptTemplateVersion : Option Text
  renderedPromptDigest : Option Text
  variablesDigest : Option Text
  redactionPolicyId : Option Text
  metadata : Dict Json

namespace PromptEvidenceContract

/-- `__post_init__`, `ai_contracts/prompt.py:37–62`. -/
def postInit (c : PromptEvidenceContract) : Except PyError Unit := do
  requireFields (c.fields ++ [(lit "source", c.source)])
  requireUtcDatetime c.capturedAt (lit "captured_at")
  require ⟨.valueError,
      lit "prompt evidence requires prompt_template_id or rendered_prompt_digest."⟩
    (c.promptTemplateId.isSome || c.renderedPromptDigest.isSome)
  requireWhenGiven c.promptTemplateId (lit "prompt_template_id")
  requireWhenGiven c.promptTemplateVersion (lit "prompt_template_version")
  requireWhenGiven c.renderedPromptDigest (lit "rendered_prompt_digest")
  requireWhenGiven c.variablesDigest (lit "variables_digest")
  requireWhenGiven c.redactionPolicyId (lit "redaction_policy_id")
  let _ ← jsonMapping c.metadata (lit "metadata")

/-- `to_dict`, `ai_contracts/prompt.py:64–80`. -/
def toDict (c : PromptEvidenceContract) : Except PyError (Dict Json) := do
  let capturedAt ← datetimeToJson c.capturedAt
  let metadata ← jsonMapping c.metadata (lit "metadata")
  pure (c.members (lit "prompt") ++
    [(lit "source", .str c.source), (lit "captured_at", capturedAt),
      (lit "prompt_template_id", optionJson c.promptTemplateId),
      (lit "prompt_template_version", optionJson c.promptTemplateVersion),
      (lit "rendered_prompt_digest", optionJson c.renderedPromptDigest),
      (lit "variables_digest", optionJson c.variablesDigest),
      (lit "redaction_policy_id", optionJson c.redactionPolicyId), (lit "metadata", metadata)])

end PromptEvidenceContract

/-! ### Retrieval -/

/-- `RetrievalEvidenceContract`, `ai_contracts/retrieval.py:22–38`. -/
structure RetrievalEvidenceContract extends ContractHead where
  corpusIdentity : Text
  queryDigest : Text
  retrievedItemIds : List Text
  chunkDigests : List Text
  citationBoundary : Text
  capturedAt : AwareDatetime
  corpusDigest : Option Text
  corpusSnapshotId : Option Text
  rankingMetadata : Option (Dict Json)
  metadata : Option (Dict Json)

namespace RetrievalEvidenceContract

/-- The check of a sequence of texts, `ai_contracts/retrieval.py:55–62`. -/
def requireTexts (values : List Text) (fieldName : Text) : Except PyError Unit := do
  require ⟨.valueError, fieldName ++ lit " must not be empty."⟩ (!values.isEmpty)
  values.forM fun value ↦ requireNonEmpty value fieldName

/-- `__post_init__`, `ai_contracts/retrieval.py:40–65`. -/
def postInit (c : RetrievalEvidenceContract) : Except PyError Unit := do
  requireFields (c.fields ++
    [(lit "corpus_identity", c.corpusIdentity), (lit "query_digest", c.queryDigest),
      (lit "citation_boundary", c.citationBoundary)])
  require ⟨.valueError, lit "retrieval evidence requires corpus_digest or corpus_snapshot_id."⟩
    (c.corpusDigest.isSome || c.corpusSnapshotId.isSome)
  requireTexts c.retrievedItemIds (lit "retrieved_item_ids")
  requireTexts c.chunkDigests (lit "chunk_digests")
  requireUtcDatetime c.capturedAt (lit "captured_at")
  let _ ← jsonMapping (c.rankingMetadata.getD []) (lit "ranking_metadata")
  let _ ← metadataMapping c.metadata

/-- `to_dict`, `ai_contracts/retrieval.py:67–87`. -/
def toDict (c : RetrievalEvidenceContract) : Except PyError (Dict Json) := do
  let rankingMetadata ← jsonMapping (c.rankingMetadata.getD []) (lit "ranking_metadata")
  let capturedAt ← datetimeToJson c.capturedAt
  let metadata ← metadataMapping c.metadata
  pure (c.members (lit "retrieval") ++
    [(lit "corpus_identity", .str c.corpusIdentity),
      (lit "corpus_digest", optionJson c.corpusDigest),
      (lit "corpus_snapshot_id", optionJson c.corpusSnapshotId),
      (lit "query_digest", .str c.queryDigest),
      (lit "retrieved_item_ids", .arr (c.retrievedItemIds.map .str)),
      (lit "chunk_digests", .arr (c.chunkDigests.map .str)),
      (lit "ranking_metadata", rankingMetadata),
      (lit "citation_boundary", .str c.citationBoundary), (lit "captured_at", capturedAt),
      (lit "metadata", metadata)])

end RetrievalEvidenceContract

/-! ### Runtime trace -/

/-- `RuntimeTraceContract`, `ai_contracts/runtime.py:22–39`. -/
structure RuntimeTraceContract extends ContractHead where
  framework : Text
  traceId : Text
  spanId : Text
  startedAt : AwareDatetime
  capturedAt : AwareDatetime
  parentRunId : Option Text
  endedAt : Option AwareDatetime
  errorStatus : Option Text
  retryOfRunId : Option Text
  recoveryRunId : Option Text
  metadata : Option (Dict Json)

namespace RuntimeTraceContract

/-- The end of a trace, `ai_contracts/runtime.py:54–57`. -/
def requireEnd (c : RuntimeTraceContract) : Except PyError Unit :=
  c.endedAt.elim (.ok ()) fun endedAt ↦ do
    requireUtcDatetime endedAt (lit "ended_at")
    require ⟨.valueError, lit "ended_at must not be earlier than started_at."⟩
      (c.startedAt.instant ≤ endedAt.instant)

/-- `__post_init__`, `ai_contracts/runtime.py:41–62`. -/
def postInit (c : RuntimeTraceContract) : Except PyError Unit := do
  requireFields (c.fields ++
    [(lit "framework", c.framework), (lit "trace_id", c.traceId), (lit "span_id", c.spanId)])
  requireUtcDatetime c.startedAt (lit "started_at")
  requireUtcDatetime c.capturedAt (lit "captured_at")
  c.requireEnd
  requireWhenGiven c.retryOfRunId (lit "retry_of_run_id")
  requireWhenGiven c.recoveryRunId (lit "recovery_run_id")
  let _ ← metadataMapping c.metadata

/-- `to_dict`, `ai_contracts/runtime.py:64–85`. -/
def toDict (c : RuntimeTraceContract) : Except PyError (Dict Json) := do
  let startedAt ← datetimeToJson c.startedAt
  let endedAt ← c.endedAt.elim (.ok .null) datetimeToJson
  let capturedAt ← datetimeToJson c.capturedAt
  let metadata ← metadataMapping c.metadata
  pure (c.members (lit "runtime_trace") ++
    [(lit "parent_run_id", optionJson c.parentRunId), (lit "trace_id", .str c.traceId),
      (lit "span_id", .str c.spanId), (lit "framework", .str c.framework),
      (lit "started_at", startedAt), (lit "ended_at", endedAt),
      (lit "error_status", optionJson c.errorStatus),
      (lit "retry_of_run_id", optionJson c.retryOfRunId),
      (lit "recovery_run_id", optionJson c.recoveryRunId), (lit "captured_at", capturedAt),
      (lit "metadata", metadata)])

end RuntimeTraceContract

/-! ### Tool call -/

/-- `ToolCallContract`, `ai_contracts/tool.py:22–37`. -/
structure ToolCallContract extends ContractHead where
  toolName : Text
  schemaVersion : Text
  inputDigest : Text
  outputDigest : Text
  executionStatus : Text
  sideEffectClassification : Text
  capturedAt : AwareDatetime
  authorizationDecision : Option Text
  metadata : Option (Dict Json)

namespace ToolCallContract

/-- `__post_init__`, `ai_contracts/tool.py:39–65`. -/
def postInit (c : ToolCallContract) : Except PyError Unit := do
  requireFields (c.fields ++
    [(lit "tool_name", c.toolName), (lit "schema_version", c.schemaVersion),
      (lit "input_digest", c.inputDigest), (lit "output_digest", c.outputDigest),
      (lit "execution_status", c.executionStatus),
      (lit "side_effect_classification", c.sideEffectClassification)])
  requireUtcDatetime c.capturedAt (lit "captured_at")
  require ⟨.valueError, lit "side-effecting tool calls require authorization_decision."⟩
    (c.sideEffectClassification = lit "none" || c.authorizationDecision.isSome)
  requireWhenGiven c.authorizationDecision (lit "authorization_decision")
  let _ ← metadataMapping c.metadata

/-- `to_dict`, `ai_contracts/tool.py:67–84`. -/
def toDict (c : ToolCallContract) : Except PyError (Dict Json) := do
  let capturedAt ← datetimeToJson c.capturedAt
  let metadata ← metadataMapping c.metadata
  pure (c.members (lit "tool_call") ++
    [(lit "tool_name", .str c.toolName), (lit "tool_schema_version", .str c.schemaVersion),
      (lit "input_digest", .str c.inputDigest), (lit "output_digest", .str c.outputDigest),
      (lit "authorization_decision", optionJson c.authorizationDecision),
      (lit "execution_status", .str c.executionStatus),
      (lit "side_effect_classification", .str c.sideEffectClassification),
      (lit "captured_at", capturedAt), (lit "metadata", metadata)])

end ToolCallContract

/-! ### Any contract -/

/-- A contract of one of the ten classes, `ai_contracts/__init__.py`. -/
inductive AIContract where
  | evaluator (c : EvaluatorEvidenceContract)
  | humanApproval (c : HumanApprovalContract)
  | humanApprovalRevocation (c : HumanApprovalRevocationContract)
  | modelInvocation (c : ModelInvocationContract)
  | observation (c : ObservationContract)
  | policy (c : PolicyEvidenceContract)
  | prompt (c : PromptEvidenceContract)
  | retrieval (c : RetrievalEvidenceContract)
  | runtimeTrace (c : RuntimeTraceContract)
  | toolCall (c : ToolCallContract)

namespace AIContract

/-- `__post_init__` of the class. -/
def postInit : AIContract → Except PyError Unit
  | evaluator c => c.postInit
  | humanApproval c => c.postInit
  | humanApprovalRevocation c => c.postInit
  | modelInvocation c => c.postInit
  | observation c => c.postInit
  | policy c => c.postInit
  | prompt c => c.postInit
  | retrieval c => c.postInit
  | runtimeTrace c => c.postInit
  | toolCall c => c.postInit

/-- `to_dict` of the class. -/
def toDict : AIContract → Except PyError (Dict Json)
  | evaluator c => c.toDict
  | humanApproval c => c.toDict
  | humanApprovalRevocation c => c.toDict
  | modelInvocation c => c.toDict
  | observation c => c.toDict
  | policy c => c.toDict
  | prompt c => c.toDict
  | retrieval c => c.toDict
  | runtimeTrace c => c.toDict
  | toolCall c => c.toDict

/-- The members every class has. -/
def head : AIContract → ContractHead
  | evaluator c => c.toContractHead
  | humanApproval c => c.toContractHead
  | humanApprovalRevocation c => c.toContractHead
  | modelInvocation c => c.toContractHead
  | observation c => c.toContractHead
  | policy c => c.toContractHead
  | prompt c => c.toContractHead
  | retrieval c => c.toContractHead
  | runtimeTrace c => c.toContractHead
  | toolCall c => c.toContractHead

/-- The `contract_type` that `to_evidence_item` of the class passes on. -/
def contractType : AIContract → Text
  | evaluator _ => lit "evaluator"
  | humanApproval _ => lit "human_approval"
  | humanApprovalRevocation _ => lit "human_approval_revocation"
  | modelInvocation _ => lit "model_invocation"
  | observation _ => lit "observation"
  | policy _ => lit "policy"
  | prompt _ => lit "prompt"
  | retrieval _ => lit "retrieval"
  | runtimeTrace _ => lit "runtime_trace"
  | toolCall _ => lit "tool_call"

end AIContract

/-! ### Evidence items -/

/-- The sensitivities of an evidence item. -/
def itemSensitivities : List Text :=
  [lit "public", lit "internal", lit "confidential", lit "restricted"]

/-- `EvidenceItem`, `domain/evidence.py:19–43`, with what its constructor checked. -/
structure EvidenceItem where
  evidenceId : Text
  source : Text
  digest : Option Text
  contentRef : Option Text
  metadata : Dict Text
  sensitivity : Text
  named : blank evidenceId = false
  sourced : blank source = false
  held : ¬(digest = none ∧ contentRef = none)
  rated : sensitivity ∈ itemSensitivities

/-- The constructor, `domain/evidence.py:30–43`. -/
def EvidenceItem.create (evidenceId source : Text) (digest contentRef : Option Text)
    (metadata : Dict Text) (sensitivity : Text) : Except PyError EvidenceItem :=
  if hn : blank evidenceId = false then
    if hs : blank source = false then
      if hd : ¬(digest = none ∧ contentRef = none) then
        if hr : sensitivity ∈ itemSensitivities then
          .ok ⟨evidenceId, source, digest, contentRef, metadata, sensitivity, hn, hs, hd, hr⟩
        else valueError
          (lit "sensitivity must be one of public, internal, confidential, restricted.")
      else valueError (lit "Evidence must have a digest or content_ref.")
    else valueError (lit "source must not be empty.")
  else valueError (lit "evidence_id must not be empty.")

/-- `sha256_hex(canonical_json_bytes(payload))`, `ai_contracts/base.py:66–73`: what is written is
ASCII. -/
def contractDigest (payload : Dict Json) : Text :=
  sha256 (Utf8.ascii (Json.dumps Json.compact (.obj payload)))

/-- The prefix of the identities of a contract type. -/
def identityPrefix (contractType : Text) : Text := lit "ai-contract:" ++ contractType ++ lit ":"

/-- `evidence_item_from_payload`, `ai_contracts/base.py:76–99`, without an `evidence_id` and with
the default sensitivity. -/
def evidenceItemFromPayload (payload : Dict Json) (contractType producerId runId : Text) :
    Except PyError EvidenceItem :=
  let digest := contractDigest payload
  EvidenceItem.create (identityPrefix contractType ++ runId ++ lit ":" ++ digest.take 16)
    (lit "statewake.ai_contracts." ++ contractType) (some digest) none
    [(lit "contract_type", contractType), (lit "producer_id", producerId), (lit "run_id", runId)]
    (lit "internal")

/-- `to_evidence_item`, such as `ai_contracts/evaluator.py:82–89`. -/
def AIContract.toEvidenceItem (c : AIContract) : Except PyError EvidenceItem := do
  let payload ← c.toDict
  evidenceItemFromPayload payload c.contractType c.head.producerId c.head.runId

/-- `ContractCaptureResult`, `integrations/base.py:30–43`. -/
structure ContractCaptureResult where
  contract : AIContract
  payload : Dict Json
  evidence : EvidenceItem

/-- `digest`, `integrations/base.py:38–43`. -/
def ContractCaptureResult.digest (result : ContractCaptureResult) : Except PyError Text :=
  orRaise ⟨.valueError, lit "captured contract evidence has no digest."⟩ result.evidence.digest

/-- `capture_contract`, `integrations/base.py:80–84`. -/
def captureContract (contract : AIContract) : Except PyError ContractCaptureResult := do
  let payload ← contract.toDict
  let evidence ← contract.toEvidenceItem
  pure ⟨contract, payload, evidence⟩

/-- The kinds a captured contract is referred to by, `integrations/base.py:149–152`. -/
def profileKinds : Dict Text :=
  [(lit "prompt", lit "prompt_evidence"), (lit "retrieval", lit "retrieval_evidence")]

/-- A name in a table, or the name itself. -/
def namedIn (table : Dict Text) (name : Text) : Text := (table.get? name).getD name

/-- `result.evidence.digest or result.digest`. -/
def ContractCaptureResult.referenceDigest (result : ContractCaptureResult) : Except PyError Text :=
  match result.evidence.digest with
  | some digest => if digest.isEmpty then result.digest else .ok digest
  | none => result.digest

/-- `profile_evidence_reference`, `integrations/base.py:140–158`. -/
def profileEvidenceReference (result : ContractCaptureResult) :
    Except PyError EvidenceReference := do
  let contractType := (result.evidence.metadata.get? (lit "contract_type")).getD (lit "unknown")
  let digest ← result.referenceDigest
  evidenceReference (lit "ai-contract:" ++ namedIn profileKinds contractType)
    result.evidence.evidenceId digest (some result.evidence.source)

/-! ### Valid contracts -/

/-- A contract its constructor accepted. -/
abbrev ValidContract : Type := {c : AIContract // c.postInit = .ok ()}

theorem datetimeToJson_of_require {value : AwareDatetime} {fieldName : Text} {u : Unit}
    (h : requireUtcDatetime value fieldName = .ok u) : ∃ v, datetimeToJson value = .ok v := by
  rw [requireUtcDatetime, bind_eq_ok] at h
  obtain ⟨utc, hutc, hoffset⟩ := h
  rw [require_eq_ok] at hoffset
  refine ⟨.str (replaceAll (isoformat utc) (lit "+00:00") (lit "Z")), ?_⟩
  rw [datetimeToJson, requireUtcDatetime, hutc, ok_bind, hoffset, require_true, ok_bind, ok_bind]
  rfl

/-- The end of a constructed trace is written. -/
private theorem exists_endedAt {c : RuntimeTraceContract} {u : Unit} (h : c.requireEnd = .ok u) :
    ∃ v, c.endedAt.elim (.ok .null) datetimeToJson = .ok v := by
  rw [RuntimeTraceContract.requireEnd] at h
  cases hended : c.endedAt with
  | none => exact ⟨.null, rfl⟩
  | some endedAt =>
    rw [hended, Option.elim_some, bind_eq_ok] at h
    obtain ⟨_, hutc, -⟩ := h
    exact datetimeToJson_of_require hutc

/-- A contract that was constructed has its payload: `to_dict` repeats checks that the constructor
has made. -/
theorem exists_toDict (c : ValidContract) : ∃ payload, c.val.toDict = .ok payload := by
  obtain ⟨c, hc⟩ := c
  cases c with
  | evaluator c =>
    simp only [AIContract.postInit, EvaluatorEvidenceContract.postInit, bind_eq_ok] at hc
    obtain ⟨_, -, _, -, _, -, _, htime, _, hvalues, _, hthresholds, _, hmetadata, -⟩ := hc
    obtain ⟨_, htime⟩ := datetimeToJson_of_require htime
    simp [AIContract.toDict, EvaluatorEvidenceContract.toDict, htime, hvalues, hthresholds,
      hmetadata]
  | humanApproval c =>
    simp only [AIContract.postInit, HumanApprovalContract.postInit, bind_eq_ok] at hc
    obtain ⟨_, -, _, htime, _, hmetadata, -⟩ := hc
    obtain ⟨_, htime⟩ := datetimeToJson_of_require htime
    simp [AIContract.toDict, HumanApprovalContract.toDict, htime, hmetadata]
  | humanApprovalRevocation c =>
    simp only [AIContract.postInit, HumanApprovalRevocationContract.postInit, bind_eq_ok] at hc
    obtain ⟨_, -, _, -, _, -, _, htime, _, hmetadata, -⟩ := hc
    obtain ⟨_, htime⟩ := datetimeToJson_of_require htime
    simp [AIContract.toDict, HumanApprovalRevocationContract.toDict, htime, hmetadata]
  | modelInvocation c =>
    simp only [AIContract.postInit, ModelInvocationContract.postInit, bind_eq_ok] at hc
    obtain ⟨_, -, _, -, _, htime, _, hparameters, _, hmetadata, -⟩ := hc
    obtain ⟨_, htime⟩ := datetimeToJson_of_require htime
    simp [AIContract.toDict, ModelInvocationContract.toDict, htime, hparameters, hmetadata]
  | observation c =>
    simp only [AIContract.postInit, ObservationContract.postInit, bind_eq_ok] at hc
    obtain ⟨_, -, _, htime, _, -, _, hmetadata, -⟩ := hc
    obtain ⟨_, htime⟩ := datetimeToJson_of_require htime
    simp [AIContract.toDict, ObservationContract.toDict, htime, hmetadata]
  | policy c =>
    simp only [AIContract.postInit, PolicyEvidenceContract.postInit, bind_eq_ok] at hc
    obtain ⟨_, -, _, htime, _, hmetadata, -⟩ := hc
    obtain ⟨_, htime⟩ := datetimeToJson_of_require htime
    simp [AIContract.toDict, PolicyEvidenceContract.toDict, htime, hmetadata]
  | prompt c =>
    simp only [AIContract.postInit, PromptEvidenceContract.postInit, bind_eq_ok] at hc
    obtain ⟨_, -, _, htime, _, -, _, -, _, -, _, -, _, -, _, -, _, hmetadata, -⟩ := hc
    obtain ⟨_, htime⟩ := datetimeToJson_of_require htime
    simp [AIContract.toDict, PromptEvidenceContract.toDict, htime, hmetadata]
  | retrieval c =>
    simp only [AIContract.postInit, RetrievalEvidenceContract.postInit, bind_eq_ok] at hc
    obtain ⟨_, -, _, -, _, -, _, -, _, htime, _, hranking, _, hmetadata, -⟩ := hc
    obtain ⟨_, htime⟩ := datetimeToJson_of_require htime
    simp [AIContract.toDict, RetrievalEvidenceContract.toDict, htime, hranking, hmetadata]
  | runtimeTrace c =>
    simp only [AIContract.postInit, RuntimeTraceContract.postInit, bind_eq_ok] at hc
    obtain ⟨_, -, _, hstarted, _, htime, _, hended, _, -, _, -, _, hmetadata, -⟩ := hc
    obtain ⟨_, hstarted⟩ := datetimeToJson_of_require hstarted
    obtain ⟨_, htime⟩ := datetimeToJson_of_require htime
    obtain ⟨_, hended⟩ := exists_endedAt hended
    simp [AIContract.toDict, RuntimeTraceContract.toDict, hstarted, htime, hended, hmetadata]
  | toolCall c =>
    simp only [AIContract.postInit, ToolCallContract.postInit, bind_eq_ok] at hc
    obtain ⟨_, -, _, htime, _, -, _, -, _, hmetadata, -⟩ := hc
    obtain ⟨_, htime⟩ := datetimeToJson_of_require htime
    simp [AIContract.toDict, ToolCallContract.toDict, htime, hmetadata]

end StateWake.Claims
