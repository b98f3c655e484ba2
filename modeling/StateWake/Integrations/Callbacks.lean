import StateWake.Base.Attempt
import StateWake.Claims.ContractEvidence

/-!
# Native callbacks

`integrations/native_langchain.py`. A handler correlates the start of a model, a tool or a retriever
run with its end or error by the identity of the run. It keeps one table of open starts and one
table of input digests for each kind, which separate callbacks update.
-/

namespace StateWake.Integrations

open StateWake.Base Text Utils Claims

/-! ### Sinks -/

/-- The sink of a handler, `integrations/native_capture.py:222–340`: it takes results and notes
failures, and either may raise. -/
structure Sink (σ : Type) where
  capacity : Nat
  add : ContractCaptureResult → Attempt σ Unit
  fail : Text → PyError → Attempt σ Unit

/-- `except (ValueError, TypeError)`. -/
def isContractError (k : ErrorKind) : Bool := k.isValueError || k == .typeError

/-- `except (ValueError, TypeError, AttributeError)`. -/
def isCallbackError (k : ErrorKind) : Bool := isContractError k || k == .attributeError

/-- A sink with what it has taken and noted. -/
structure Recorder (σ : Type) where
  sink : σ
  evidence : List ContractCaptureResult
  failures : List (Text × PyError)

namespace Recorder

variable {σ : Type} (sink : Sink σ)

/-- `sink.add(result)`. -/
def add (result : ContractCaptureResult) : Attempt (Recorder σ) Unit := fun r ↦
  match sink.add result r.sink with
  | (.ok (), s) => (.ok (), { r with sink := s, evidence := r.evidence ++ [result] })
  | (.error e, s) => (.error e, { r with sink := s })

/-- `sink.fail(stage, exc)`. -/
def fail (stage : Text) (exc : PyError) : Attempt (Recorder σ) Unit := fun r ↦
  match sink.fail stage exc r.sink with
  | (.ok (), s) => (.ok (), { r with sink := s, failures := r.failures ++ [(stage, exc)] })
  | (.error e, s) => (.error e, { r with sink := s })

/-- `sink.add(capture_contract(contract))`. -/
def capture (contract : Except PyError AIContract) : Attempt (Recorder σ) Unit := do
  let result ← Attempt.lift (contract >>= captureContract)
  add sink result

/-- A contract that is captured, and what is raised on the way noted. -/
def capturing (caught : ErrorKind → Bool) (stage : Text) (contract : Except PyError AIContract) :
    Attempt (Recorder σ) Unit :=
  Attempt.catching caught (capture sink contract) (fail sink stage)

end Recorder

/-! ### The handler -/

/-- What a callback is given for a run: whether it is a string or a UUID, and its `str`. -/
structure RunId where
  native : Bool
  text : Text

/-- `_identity`, `integrations/native_langchain.py:54–59`. -/
def RunId.identity (value : RunId) : Except PyError Text := do
  require ⟨.valueError, lit "missing native callback identity"⟩ (value.native && !blank value.text)
  pure value.text

/-- A letter of `[A-Za-z]`. -/
def isLetter (c : CodePoint) : Bool :=
  (0x41 ≤ c.val && c.val ≤ 0x5A) || (0x61 ≤ c.val && c.val ≤ 0x7A)

/-- A character of `[A-Za-z0-9_.-]`. -/
def isNameCharacter (c : CodePoint) : Bool :=
  isLetter c || (0x30 ≤ c.val && c.val ≤ 0x39) || (lit "_.-").contains c

/-- `_operation`, `integrations/native_langchain.py:61–76`, of the name in the serialized component,
where it is a string. -/
def operation (serialized : Option Text) (kind : Text) : Text × Bool :=
  match serialized with
  | some (c :: rest) =>
    if isLetter c && rest.length ≤ 63 && rest.all isNameCharacter then (c :: rest, true)
    else (kind, false)
  | _ => (kind, false)

/-- The kinds of run with a table of inputs. -/
inductive Kind where
  | model
  | tool
  | retriever
  deriving DecidableEq

/-- The kinds of start, as `_start` is told them. -/
inductive StartKind where
  | llm
  | chatModel
  | tool
  | retriever
  deriving DecidableEq

namespace StartKind

def text : StartKind → Text
  | llm => lit "llm"
  | chatModel => lit "chat_model"
  | tool => lit "tool"
  | retriever => lit "retriever"

/-- The table the start enters its input in. -/
def kind : StartKind → Kind
  | llm => .model
  | chatModel => .model
  | tool => .tool
  | retriever => .retriever

end StartKind

/-- An entry of `_started`, `integrations/native_langchain.py:49` and `94–100`. -/
structure Started where
  startedAt : Datetime
  parent : Option Text
  kind : StartKind
  name : Text
  observedName : Bool

/-- The tables of a handler, `integrations/native_langchain.py:48–52`, and its sink. -/
structure CallbackHandler (σ : Type) extends Recorder σ where
  started : Dict Started
  modelInputs : Dict Text
  toolInputs : Dict Text
  queries : Dict Text

namespace CallbackHandler

variable {σ : Type}

/-- A new handler. -/
def init (s : σ) : CallbackHandler σ := ⟨⟨s, [], []⟩, [], [], [], []⟩

/-- The inputs of a kind. -/
def inputs (h : CallbackHandler σ) : Kind → Dict Text
  | .model => h.modelInputs
  | .tool => h.toolInputs
  | .retriever => h.queries

/-- The handler with other inputs of a kind. -/
def withInputs (h : CallbackHandler σ) (inputs : Dict Text) : Kind → CallbackHandler σ
  | .model => { h with modelInputs := inputs }
  | .tool => { h with toolInputs := inputs }
  | .retriever => { h with queries := inputs }

end CallbackHandler

/-- The arguments of `create_langchain_callback_handler`,
`integrations/native_langchain.py:24–32`, the absent dictionaries being empty. -/
structure HandlerOptions where
  corpusIdentity : Option Text
  corpusSnapshotId : Option Text
  citationBoundary : Option Text
  toolAuthorizations : Dict Text
  sideEffectClassifications : Dict Text

section Callbacks

variable {σ : Type} (sink : Sink σ) (options : HandlerOptions)

/-- What is done with the sink alone. -/
def recording (m : Attempt (Recorder σ) Unit) : Attempt (CallbackHandler σ) Unit :=
  m.focus CallbackHandler.toRecorder fun h r ↦ { h with toRecorder := r }

/-- `sink.fail(stage, exc)`. -/
def fail (stage : Text) (exc : PyError) : Attempt (CallbackHandler σ) Unit :=
  recording (Recorder.fail sink stage exc)

/-- A contract that is constructed, captured and added, and what is raised on the way noted. -/
def capturing (caught : ErrorKind → Bool) (stage : Text) (contract : Except PyError AIContract) :
    Attempt (CallbackHandler σ) Unit :=
  recording (Recorder.capturing sink caught stage contract)

/-- `_start`, `integrations/native_langchain.py:78–101`. -/
def start (runId : RunId) (parentRunId : Option RunId) (kind : StartKind) (name : Text)
    (observedName : Bool) (now : Datetime) : Attempt (CallbackHandler σ) Text := do
  let identity ← Attempt.lift runId.identity
  let h ← Attempt.get
  Attempt.lift (require ⟨.valueError, lit "duplicate callback start"⟩
    (h.started.get? identity).isNone)
  Attempt.lift (require ⟨.valueError, lit "callback start window exhausted"⟩
    (h.started.length < sink.capacity))
  let parent ← Attempt.lift (parentRunId.elim (pure none) fun parent ↦ some <$> parent.identity)
  Attempt.modify fun h ↦ { h with
    started := h.started.set identity ⟨now, parent, kind, name, observedName⟩ }
  pure identity

/-- The runtime trace of a finished run, `integrations/native_langchain.py:113–126` and
`integrations/native_capture.py:343–379`. `safe_metadata` keeps both members: a kind and an admitted
name are short and printable. -/
def runtimeTrace (identity : Text) (entry : Started) (error : Bool) (now : Datetime) :
    Except PyError AIContract := do
  let contract : RuntimeTraceContract :=
    { contractVersion := lit "langchain.native.runtime.v1", producerId := lit "langchain-native",
      runId := identity, framework := lit "langchain", traceId := entry.parent.getD identity,
      spanId := identity, startedAt := .ofUtc entry.startedAt, capturedAt := .ofUtc now,
      parentRunId := entry.parent, endedAt := some (.ofUtc now),
      errorStatus := if error then some (lit "error") else none, retryOfRunId := none,
      recoveryRunId := none,
      metadata := some [(lit "event_kind", .str entry.kind.text),
        (lit "operation", .str entry.name)] }
  contract.postInit
  pure (.runtimeTrace contract)

/-- `_finish`, `integrations/native_langchain.py:103–128`. -/
def finish (runId : RunId) (error : Bool) (now : Datetime) :
    Attempt (CallbackHandler σ) Unit :=
  match runId.identity with
  | .error exc => fail sink (lit "langchain.unpaired_callback") exc
  | .ok identity => do
    let h ← Attempt.get
    Attempt.modify fun h ↦ { h with started := h.started.erase identity }
    match h.started.get? identity with
    | none => fail sink (lit "langchain.unpaired_callback") ⟨.valueError, lit "missing start"⟩
    | some entry =>
      capturing sink isContractError (lit "langchain.callback")
        (runtimeTrace identity entry error now)

/-- A start of one of the kinds, such as `integrations/native_langchain.py:130–146`: the name and
the digest of the input are had first. -/
def onStart (kind : StartKind) (name : Text × Bool) (digest : Except PyError Text)
    (runId : RunId) (parentRunId : Option RunId) (now : Datetime) :
    Attempt (CallbackHandler σ) Unit :=
  Attempt.catching isCallbackError (do
    let digest ← Attempt.lift digest
    let identity ← start sink runId parentRunId kind name.1 name.2 now
    Attempt.modify fun h ↦ h.withInputs ((h.inputs kind.kind).set identity digest) kind.kind)
    (fail sink (lit "langchain." ++ kind.text ++ lit "_start"))

/-- `on_llm_start`, `integrations/native_langchain.py:130–146`. -/
def onLlmStart (serialized : Option Text) (digest : Except PyError Text) (runId : RunId)
    (parentRunId : Option RunId) (now : Datetime) : Attempt (CallbackHandler σ) Unit :=
  onStart sink .llm (operation serialized (lit "llm")) digest runId parentRunId now

/-- `on_chat_model_start`, `integrations/native_langchain.py:148–166`. -/
def onChatModelStart (serialized : Option Text) (digest : Except PyError Text) (runId : RunId)
    (parentRunId : Option RunId) (now : Datetime) : Attempt (CallbackHandler σ) Unit :=
  onStart sink .chatModel (operation serialized (lit "chat_model")) digest runId parentRunId now

/-- `on_tool_start`, `integrations/native_langchain.py:210–226`. -/
def onToolStart (serialized : Option Text) (digest : Except PyError Text) (runId : RunId)
    (parentRunId : Option RunId) (now : Datetime) : Attempt (CallbackHandler σ) Unit :=
  onStart sink .tool (operation serialized (lit "tool")) digest runId parentRunId now

/-- `on_retriever_start`, `integrations/native_langchain.py:277–298`: the name is not used, only
whether it was observed. -/
def onRetrieverStart (serialized : Option Text) (digest : Except PyError Text) (runId : RunId)
    (parentRunId : Option RunId) (now : Datetime) : Attempt (CallbackHandler σ) Unit :=
  onStart sink .retriever (lit "retriever", (operation serialized (lit "retriever")).2) digest runId
    parentRunId now

/-- An end or an error of one of the kinds: the input is taken, what the kind makes of it recorded,
and the run finished. -/
def ending (kind : Kind) (runId : RunId) (error : Bool) (ended : Datetime)
    (record : Option Started → Option Text → Attempt (CallbackHandler σ) Unit) :
    Attempt (CallbackHandler σ) Unit := do
  let h ← Attempt.get
  Attempt.modify fun h ↦ h.withInputs ((h.inputs kind).erase runId.text) kind
  record (h.started.get? runId.text) ((h.inputs kind).get? runId.text)
  finish sink runId error ended

/-- The contract of a model run, `integrations/native_langchain.py:177–195`. -/
def modelInvocation (identity : Text) (entry : Started) (input : Text)
    (response : Except PyError Text) (now : Datetime) : Except PyError AIContract := do
  let responseDigest ← response
  let contract : ModelInvocationContract :=
    { contractVersion := lit "langchain.native.model.v1", producerId := lit "langchain-native",
      runId := identity, provider := lit "not-recorded-by-producer", modelName := entry.name,
      parameters := [], requestDigest := input, responseDigest, capturedAt := .ofUtc now,
      modelVersion := none,
      modelVersionOmissionReason := some (lit "No version supplied by callback"),
      finishReason := none, metadata := some [(lit "source", .str (lit "native-callback"))] }
  contract.postInit
  pure (.modelInvocation contract)

/-- What `on_llm_end` records, `integrations/native_langchain.py:173–200`. -/
def recordModel (runId : RunId) (response : Except PyError Text) (now : Datetime)
    (entry : Option Started) (input : Option Text) : Attempt (CallbackHandler σ) Unit :=
  match entry, input with
  | some entry, some input =>
    if entry.observedName then
      capturing sink isContractError (lit "langchain.model_contract")
        (modelInvocation runId.text entry input response now)
    else fail sink (lit "langchain.model_identity") ⟨.valueError, lit "missing model name"⟩
  | _, _ => pure ()

/-- `on_llm_end`, `integrations/native_langchain.py:168–201`. -/
def onLlmEnd (response : Except PyError Text) (runId : RunId) (now ended : Datetime) :
    Attempt (CallbackHandler σ) Unit :=
  ending sink .model runId false ended (recordModel sink runId response now)

/-- `on_llm_error`, `integrations/native_langchain.py:203–208`. -/
def onLlmError (runId : RunId) (ended : Datetime) : Attempt (CallbackHandler σ) Unit :=
  ending sink .model runId true ended fun _ _ ↦ pure ()

/-- The contract of a tool run, `integrations/native_langchain.py:247–262`. -/
def toolCall (identity : Text) (entry : Started) (input : Text) (output : Except PyError Text)
    (classification : Text) (authorization : Option Text) (now : Datetime) :
    Except PyError AIContract := do
  let outputDigest ← output
  let contract : ToolCallContract :=
    { contractVersion := lit "langchain.native.tool.v1", producerId := lit "langchain-native",
      runId := identity, toolName := entry.name, schemaVersion := lit "not-recorded-by-producer",
      inputDigest := input, outputDigest, executionStatus := lit "completed",
      sideEffectClassification := classification, capturedAt := .ofUtc now,
      authorizationDecision := authorization,
      metadata := some [(lit "source", .str (lit "native-callback"))] }
  contract.postInit
  pure (.toolCall contract)

/-- The policy evidence of a tool, `integrations/native_langchain.py:235–239`. -/
def HandlerOptions.classificationOf (options : HandlerOptions) (name : Text) : Option Text :=
  (options.sideEffectClassifications.get? name).filter fun classification ↦
    classification = lit "none" ||
      (options.toolAuthorizations.get? name).any fun authorization ↦ !authorization.isEmpty

/-- What `on_tool_end` records, `integrations/native_langchain.py:233–267`. -/
def recordTool (runId : RunId) (output : Except PyError Text) (now : Datetime)
    (entry : Option Started) (input : Option Text) : Attempt (CallbackHandler σ) Unit :=
  match entry, input with
  | some entry, some input =>
    if entry.observedName then
      match options.classificationOf entry.name with
      | none => fail sink (lit "langchain.tool_authorization")
          ⟨.valueError, lit "missing policy evidence"⟩
      | some classification =>
        capturing sink isContractError (lit "langchain.tool_contract")
          (toolCall runId.text entry input output classification
            (options.toolAuthorizations.get? entry.name) now)
    else fail sink (lit "langchain.tool_identity") ⟨.valueError, lit "missing tool name"⟩
  | _, _ => pure ()

/-- `on_tool_end`, `integrations/native_langchain.py:228–268`. -/
def onToolEnd (output : Except PyError Text) (runId : RunId) (now ended : Datetime) :
    Attempt (CallbackHandler σ) Unit :=
  ending sink .tool runId false ended (recordTool sink options runId output now)

/-- `on_tool_error`, `integrations/native_langchain.py:270–275`. -/
def onToolError (runId : RunId) (ended : Datetime) : Attempt (CallbackHandler σ) Unit :=
  ending sink .tool runId true ended fun _ _ ↦ pure ()

/-- A retrieved document: its identity and its content, where they are strings. -/
structure Document where
  id : Option Text
  pageContent : Option Text

/-- The identities and the contents of documents, `integrations/native_langchain.py:321–334`. -/
def Document.read (document : Document) : Except PyError (Text × Text) := do
  let id ← orRaise ⟨.valueError, lit "retrieved documents lack stable native IDs"⟩
    (document.id.filter fun id ↦ !blank id)
  let content ← orRaise ⟨.valueError, lit "retrieved document content is not text"⟩
    document.pageContent
  pure (id, content)

/-- `digest_json` of a string, `integrations/base.py:87–94`. -/
def digestText (s : Text) : Except PyError Text := do
  let content ← Utf8.toBytes s
  pure (sha256 content)

/-- The contract of a retrieval, `integrations/native_langchain.py:318–355`. -/
def retrievalEvidence (identity corpusIdentity corpusSnapshotId citationBoundary query : Text)
    (documents : Except PyError (List Document)) (now : Datetime) :
    Except PyError AIContract := do
  let documents ← documents
  let read ← documents.mapM Document.read
  require ⟨.valueError, lit "retrieved documents lack stable native IDs"⟩ (!read.isEmpty)
  let chunkDigests ← read.mapM fun document ↦ digestText document.2
  let contract : RetrievalEvidenceContract :=
    { contractVersion := lit "langchain.native.retrieval.v1", producerId := lit "langchain-native",
      runId := identity, corpusIdentity, queryDigest := query,
      retrievedItemIds := read.map Prod.fst, chunkDigests, citationBoundary,
      capturedAt := .ofUtc now, corpusDigest := none, corpusSnapshotId := some corpusSnapshotId,
      rankingMetadata := none, metadata := some [(lit "source", .str (lit "native-callback"))] }
  contract.postInit
  pure (.retrieval contract)

/-- A value that is not falsy, such as `integrations/native_langchain.py:306–310`. -/
def given (value : Option Text) : Option Text := value.filter fun s ↦ !s.isEmpty

/-- The corpus, its snapshot and the citation boundary, `integrations/native_langchain.py:306–310`:
all of them or none. -/
def HandlerOptions.retrievalContext (options : HandlerOptions) : Option (Text × Text × Text) := do
  let corpusIdentity ← given options.corpusIdentity
  let corpusSnapshotId ← given options.corpusSnapshotId
  let citationBoundary ← given options.citationBoundary
  pure (corpusIdentity, corpusSnapshotId, citationBoundary)

/-- What `on_retriever_end` records, `integrations/native_langchain.py:305–357`: the entry of the
run is not looked at. -/
def recordRetrieval (runId : RunId) (documents : Except PyError (List Document)) (now : Datetime)
    (query : Option Text) : Attempt (CallbackHandler σ) Unit :=
  match query with
  | none => pure ()
  | some query =>
    match options.retrievalContext with
    | none => fail sink (lit "langchain.retrieval_context")
        ⟨.valueError, lit "missing corpus/citation identity"⟩
    | some (corpusIdentity, corpusSnapshotId, citationBoundary) =>
      capturing sink isCallbackError (lit "langchain.retrieval_contract")
        (retrievalEvidence runId.text corpusIdentity corpusSnapshotId citationBoundary query
          documents now)

/-- `on_retriever_end`, `integrations/native_langchain.py:300–358`. -/
def onRetrieverEnd (documents : Except PyError (List Document)) (runId : RunId)
    (now ended : Datetime) : Attempt (CallbackHandler σ) Unit :=
  ending sink .retriever runId false ended fun _ query ↦
    recordRetrieval sink options runId documents now query

/-- `on_retriever_error`, `integrations/native_langchain.py:360–365`. -/
def onRetrieverError (runId : RunId) (ended : Datetime) : Attempt (CallbackHandler σ) Unit :=
  ending sink .retriever runId true ended fun _ _ ↦ pure ()

end Callbacks

/-- A callback: what the SDK passes, the digests its objects have or what digesting them raises, and
the times the clock shows. -/
inductive Callback where
  | start (kind : StartKind) (serialized : Option Text) (digest : Except PyError Text)
      (runId : RunId) (parentRunId : Option RunId) (now : Datetime)
  | llmEnd (response : Except PyError Text) (runId : RunId) (now ended : Datetime)
  | toolEnd (output : Except PyError Text) (runId : RunId) (now ended : Datetime)
  | retrieverEnd (documents : Except PyError (List Document)) (runId : RunId)
      (now ended : Datetime)
  | error (kind : Kind) (runId : RunId) (ended : Datetime)

/-- What the handler does on a callback. -/
def Callback.handle {σ : Type} (sink : Sink σ) (options : HandlerOptions) :
    Callback → Attempt (CallbackHandler σ) Unit
  | start .llm serialized digest runId parentRunId now =>
    onLlmStart sink serialized digest runId parentRunId now
  | start .chatModel serialized digest runId parentRunId now =>
    onChatModelStart sink serialized digest runId parentRunId now
  | start .tool serialized digest runId parentRunId now =>
    onToolStart sink serialized digest runId parentRunId now
  | start .retriever serialized digest runId parentRunId now =>
    onRetrieverStart sink serialized digest runId parentRunId now
  | llmEnd response runId now ended => onLlmEnd sink response runId now ended
  | toolEnd output runId now ended => onToolEnd sink options output runId now ended
  | retrieverEnd documents runId now ended =>
    onRetrieverEnd sink options documents runId now ended
  | error .model runId ended => onLlmError sink runId ended
  | error .tool runId ended => onToolError sink runId ended
  | error .retriever runId ended => onRetrieverError sink runId ended

end StateWake.Integrations
