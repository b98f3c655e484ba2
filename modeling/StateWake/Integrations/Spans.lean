import StateWake.Integrations.Correlation

/-!
# Native spans

`integrations/native_openai_agents.py`. A processor records a runtime trace for every span that
completes and for every trace that ends, and a contract for the spans of a model or of a function.
-/

namespace StateWake.Integrations

open StateWake.Base Text Utils Claims Lifecycle

/-! ### The processor -/

/-- The tables of a processor, `integrations/native_openai_agents.py:48–51`, and its sink. -/
structure TraceProcessor (σ : Type) extends Recorder σ where
  traceStart : Dict Datetime
  completedSpans : List (Text × Text)

/-- What the data of a span says, where it is of a type that is looked at: digests of what was
observed or what digesting it raises, and names that are strings. -/
inductive SpanData where
  | generation (input output : Option (Except PyError Text)) (model : Option Text)
  | response (input response : Option (Except PyError Text)) (model : Option Text)
  | function (name : Option Text) (input output : Option (Except PyError Text))
  | other

/-- The attributes of a span: its identities where they are strings, its times as `utc_time` reads
them or what that raises. -/
structure Span where
  traceId : Option Text
  spanId : Option Text
  startedAt : Except PyError AwareDatetime
  endedAt : Except PyError AwareDatetime
  parentId : Option Text
  error : Bool
  data : Option SpanData

section Processor

variable {σ : Type} (sink : Sink σ) (options : HandlerOptions) (isPrintable : Text → Bool)

/-- A new processor. -/
def TraceProcessor.init (s : σ) : TraceProcessor σ := ⟨⟨s, [], []⟩, [], []⟩

/-- What is done with the sink alone. -/
def processing (m : Attempt (Recorder σ) Unit) : Attempt (TraceProcessor σ) Unit :=
  m.focus TraceProcessor.toRecorder fun p r ↦ { p with toRecorder := r }

/-- `on_trace_start`, `integrations/native_openai_agents.py:53–55`. -/
def onTraceStart (traceId : Except PyError Text) (now : Datetime) :
    Attempt (TraceProcessor σ) Unit := do
  let identity ← Attempt.lift traceId
  Attempt.modify fun p ↦ { p with traceStart := p.traceStart.set identity now }

/-- The runtime trace of an observation, `integrations/native_capture.py:343–379`. -/
def nativeRuntime (runId spanId : Text) (startedAt endedAt : AwareDatetime)
    (parentRunId : Option Text) (error : Bool) (metadata : Dict Json) :
    Except PyError AIContract := do
  let contract : RuntimeTraceContract :=
    { contractVersion := lit "openai-agents.native.runtime.v1",
      producerId := lit "openai-agents-native", runId, framework := lit "openai-agents",
      traceId := runId, spanId, startedAt, capturedAt := endedAt, parentRunId,
      endedAt := some endedAt, errorStatus := if error then some (lit "error") else none,
      retryOfRunId := none, recoveryRunId := none, metadata := some metadata }
  contract.postInit
  pure (.runtimeTrace contract)

/-- `on_trace_end`, `integrations/native_openai_agents.py:57–75`. -/
def onTraceEnd (traceId : Except PyError Text) (now : Datetime) :
    Attempt (TraceProcessor σ) Unit :=
  Attempt.catching isCallbackError (do
    let identity ← Attempt.lift traceId
    let p ← Attempt.get
    Attempt.modify fun p ↦ { p with traceStart := p.traceStart.erase identity }
    let started ← Attempt.lift (orRaise
      ⟨.valueError, lit "trace completion lacks captured start"⟩ (p.traceStart.get? identity))
    processing (Recorder.capture sink (nativeRuntime identity identity (.ofUtc started)
      (.ofUtc now) none false [(lit "event_kind", .str (lit "trace_end"))])))
    fun exc ↦ processing (Recorder.fail sink (lit "agents.trace_end") exc)

/-- A member `safe_metadata` keeps, `integrations/native_capture.py:119–128`. -/
def safeMember (key : Text) (value : Option Text) : Dict Json :=
  ((value.map strip).filter fun s ↦ !s.isEmpty && s.length ≤ 128 && isPrintable s).elim []
    fun s ↦ [(key, .str s)]

/-- The identity that is an observed string, `integrations/native_openai_agents.py:90–95`. -/
def observedIdentity (value : Option Text) (message : Text) : Except PyError Text :=
  orRaise ⟨.valueError, message⟩ (value.filter fun s ↦ !blank s)

/-- The metadata of a contract of a span. -/
def spanMetadata (identity : Text × Text) : Option (Dict Json) :=
  some [(lit "trace_id", .str identity.1), (lit "span_id", .str identity.2)]

/-- The contract of a model span, `integrations/native_openai_agents.py:139–155` and `181–197`. -/
def spanModelInvocation (identity : Text × Text) (modelName omission : Text)
    (request response : Except PyError Text) (now : Datetime) : Except PyError AIContract := do
  let requestDigest ← request
  let responseDigest ← response
  let contract : ModelInvocationContract :=
    { contractVersion := lit "openai-agents.native.model.v1",
      producerId := lit "openai-agents-native", runId := identity.2,
      provider := lit "not-recorded-by-producer", modelName, parameters := [], requestDigest,
      responseDigest, capturedAt := .ofUtc now, modelVersion := none,
      modelVersionOmissionReason := some omission, finishReason := none,
      metadata := spanMetadata identity }
  contract.postInit
  pure (.modelInvocation contract)

/-- The contract of a function span, `integrations/native_openai_agents.py:223–236`. -/
def spanToolCall (identity : Text × Text) (toolName classification : Text)
    (authorization : Option Text) (request response : Except PyError Text) (now : Datetime) :
    Except PyError AIContract := do
  let inputDigest ← request
  let outputDigest ← response
  let contract : ToolCallContract :=
    { contractVersion := lit "openai-agents.native.tool.v1",
      producerId := lit "openai-agents-native", runId := identity.2, toolName,
      schemaVersion := lit "not-recorded-by-producer", inputDigest, outputDigest,
      executionStatus := lit "completed", sideEffectClassification := classification,
      capturedAt := .ofUtc now, authorizationDecision := authorization,
      metadata := spanMetadata identity }
  contract.postInit
  pure (.toolCall contract)

/-- The contract of a completed span, `integrations/native_openai_agents.py:126–240`. -/
def recordSpan (identity : Text × Text) (now : Datetime) :
    SpanData → Attempt (Recorder σ) Unit
  | .generation (some request) (some response) model =>
    match given model with
    | some modelName =>
      Recorder.capturing sink isContractError (lit "agents.generation_contract")
        (spanModelInvocation identity modelName
          (lit "SDK span does not identify model snapshot") request response now)
    | none => Recorder.fail sink (lit "agents.generation_missing")
        ⟨.valueError, lit "missing observation"⟩
  | .generation .. => Recorder.fail sink (lit "agents.generation_missing")
      ⟨.valueError, lit "missing observation"⟩
  | .response (some request) (some response) model =>
    match model.filter fun s ↦ !blank s && s.length ≤ 128 && isPrintable s with
    | some modelName =>
      Recorder.capturing sink (fun _ ↦ true) (lit "agents.response_contract")
        (spanModelInvocation identity modelName
          (lit "SDK response does not identify model snapshot") request response now)
    | none => Recorder.fail sink (lit "agents.response_missing")
        ⟨.valueError, lit "missing observed response identity or content"⟩
  | .response .. => Recorder.fail sink (lit "agents.response_missing")
      ⟨.valueError, lit "missing observed response identity or content"⟩
  | .function name (some request) (some response) =>
    match (given name).bind fun name ↦ (options.classificationOf name).map (name, ·) with
    | some (name, classification) =>
      Recorder.capturing sink isContractError (lit "agents.tool_contract")
        (spanToolCall identity name classification (options.toolAuthorizations.get? name) request
          response now)
    | none => Recorder.fail sink (lit "agents.tool_missing")
        ⟨.valueError, lit "missing observation or policy"⟩
  | .function .. => Recorder.fail sink (lit "agents.tool_missing")
      ⟨.valueError, lit "missing observation or policy"⟩
  | .other => pure ()

/-- The runtime trace of a completed span, `integrations/native_openai_agents.py:106–120`. -/
def spanRuntime (identity : Text × Text) (span : Span) : Except PyError AIContract := do
  let startedAt ← span.startedAt
  let endedAt ← span.endedAt
  nativeRuntime identity.1 identity.2 startedAt endedAt span.parentId span.error
    ((lit "event_kind", .str (lit "span_end")) ::
      safeMember isPrintable (lit "parent_span_id") span.parentId)

/-- `_capture_span_end`, `integrations/native_openai_agents.py:85–242`. -/
def onSpanEnd (span : Span) (now : Datetime) : Attempt (TraceProcessor σ) Unit :=
  Attempt.catching isCallbackError (do
    let traceId ← Attempt.lift (observedIdentity span.traceId (lit "missing trace identity"))
    let spanId ← Attempt.lift (observedIdentity span.spanId (lit "missing span identity"))
    let p ← Attempt.get
    if p.completedSpans.contains (traceId, spanId) then pure ()
    else if sink.capacity ≤ p.completedSpans.length then
      processing (Recorder.fail sink (lit "agents.span_identity_capacity")
        ⟨.valueError, lit "completed span identity window exhausted"⟩)
    else do
      processing (Recorder.capture sink (spanRuntime isPrintable (traceId, spanId) span))
      Attempt.modify fun p ↦ { p with
        completedSpans := (traceId, spanId) :: p.completedSpans }
      match span.error, span.data with
      | false, some data =>
        processing (recordSpan sink options isPrintable (traceId, spanId) now data)
      | _, _ => pure ())
    fun exc ↦ processing (Recorder.fail sink (lit "agents.span_end") exc)

/-- `shutdown`, `integrations/native_openai_agents.py:244–248`. -/
def shutdown : Attempt (TraceProcessor σ) Unit :=
  Attempt.modify fun p ↦ { p with traceStart := [], completedSpans := [] }

/-- What the SDK tells a processor; `on_span_start` and `force_flush` do nothing. -/
inductive TraceEvent where
  | traceStart (traceId : Except PyError Text) (now : Datetime)
  | traceEnd (traceId : Except PyError Text) (now : Datetime)
  | spanStart
  | spanEnd (span : Span) (now : Datetime)
  | shutdown
  | forceFlush

/-- What the processor does on an event. -/
def TraceEvent.handle : TraceEvent → Attempt (TraceProcessor σ) Unit
  | traceStart traceId now => onTraceStart traceId now
  | traceEnd traceId now => onTraceEnd sink traceId now
  | spanStart => pure ()
  | spanEnd span now => onSpanEnd sink options isPrintable span now
  | shutdown => Integrations.shutdown
  | forceFlush => pure ()

end Processor

/-! ### What is recorded of a span -/

/-- The trace and the span a contract is of. -/
def spanOf : AIContract → Option (Text × Text)
  | .runtimeTrace c => some (c.traceId, c.spanId)
  | .modelInvocation c => metadataSpan c.metadata
  | .toolCall c => metadataSpan c.metadata
  | _ => none
where
  metadataSpan (metadata : Option (Dict Json)) : Option (Text × Text) := do
    let members ← metadata
    let traceId ← (members.get? (lit "trace_id")).bind Json.asText
    let spanId ← (members.get? (lit "span_id")).bind Json.asText
    pure (traceId, spanId)

/-- How many runtime traces, or how many other contracts, there are of a span. -/
def countSpan (trace : Bool) (identity : Text × Text) (evidence : List ContractCaptureResult) :
    Nat :=
  evidence.countP fun result ↦
    isTrace result.contract == trace && decide (spanOf result.contract = some identity)

/-- A result of a span: its runtime trace, or another contract. -/
def OfSpan (trace : Bool) (identity : Text × Text) (result : ContractCaptureResult) : Prop :=
  isTrace result.contract = trace ∧ spanOf result.contract = some identity

section Events

variable {σ : Type} {sink : Sink σ} {options : HandlerOptions} {isPrintable : Text → Bool}
  {p : TraceProcessor σ}

theorem ofSpan_nativeRuntime {runId spanId : Text} {startedAt endedAt : AwareDatetime}
    {parentRunId : Option Text} {error : Bool} {metadata : Dict Json} {c : AIContract}
    (h : nativeRuntime runId spanId startedAt endedAt parentRunId error metadata = .ok c) :
    isTrace c = true ∧ spanOf c = some (runId, spanId) := by
  simp only [nativeRuntime, bind_eq_ok] at h
  obtain ⟨_, -, heq⟩ := h
  cases heq
  exact ⟨rfl, rfl⟩

theorem ofSpan_modelInvocation {identity : Text × Text} {modelName omission : Text}
    {request response : Except PyError Text} {now : Datetime} {c : AIContract}
    (h : spanModelInvocation identity modelName omission request response now = .ok c) :
    isTrace c = false ∧ spanOf c = some identity := by
  simp only [spanModelInvocation, bind_eq_ok] at h
  obtain ⟨_, -, _, -, _, -, heq⟩ := h
  cases heq
  exact ⟨rfl, rfl⟩

theorem ofSpan_toolCall {identity : Text × Text} {toolName classification : Text}
    {authorization : Option Text} {request response : Except PyError Text} {now : Datetime}
    {c : AIContract}
    (h : spanToolCall identity toolName classification authorization request response now = .ok c) :
    isTrace c = false ∧ spanOf c = some identity := by
  simp only [spanToolCall, bind_eq_ok] at h
  obtain ⟨_, -, _, -, _, -, heq⟩ := h
  cases heq
  exact ⟨rfl, rfl⟩

/-- At most one contract of the span is recorded of its data. -/
theorem evidence_recordSpan (identity : Text × Text) (now : Datetime) (data : SpanData)
    (r : Recorder σ) :
    (recordSpan sink options isPrintable identity now data r).2.evidence = r.evidence ∨
      ∃ result, (recordSpan sink options isPrintable identity now data r).2.evidence =
        r.evidence ++ [result] ∧ OfSpan false identity result := by
  have hcaptured {caught : ErrorKind → Bool} {stage : Text} {contract : Except PyError AIContract}
      (hof : ∀ c, contract = .ok c → isTrace c = false ∧ spanOf c = some identity) :
      (Recorder.capturing sink caught stage contract r).2.evidence = r.evidence ∨
        ∃ result, (Recorder.capturing sink caught stage contract r).2.evidence =
          r.evidence ++ [result] ∧ OfSpan false identity result :=
    (Recorder.evidence_capturing caught stage contract r).imp_right
      fun ⟨result, hevidence, hcontract⟩ ↦ ⟨result, hevidence, hof _ hcontract⟩
  have hfailed (stage : Text) (exc : PyError) :
      (Recorder.fail sink stage exc r).2.evidence = r.evidence ∨
        ∃ result, (Recorder.fail sink stage exc r).2.evidence = r.evidence ++ [result] ∧
          OfSpan false identity result := .inl (Recorder.evidence_fail stage exc r)
  cases data with
  | generation input output model =>
    cases input with
    | none => exact hfailed _ _
    | some request =>
      cases output with
      | none => exact hfailed _ _
      | some response =>
        rw [recordSpan]
        cases given model with
        | none => exact hfailed _ _
        | some modelName => exact hcaptured fun c hc ↦ ofSpan_modelInvocation hc
  | response input response model =>
    cases input with
    | none => exact hfailed _ _
    | some request =>
      cases response with
      | none => exact hfailed _ _
      | some response =>
        rw [recordSpan]
        cases model.filter fun s ↦ !blank s && s.length ≤ 128 && isPrintable s with
        | none => exact hfailed _ _
        | some modelName => exact hcaptured fun c hc ↦ ofSpan_modelInvocation hc
  | function name input output =>
    cases input with
    | none => exact hfailed _ _
    | some request =>
      cases output with
      | none => exact hfailed _ _
      | some response =>
        rw [recordSpan]
        cases (given name).bind fun name ↦ (options.classificationOf name).map (name, ·) with
        | none => exact hfailed _ _
        | some named => exact hcaptured fun c hc ↦ ofSpan_toolCall hc
  | other => exact .inl rfl

/-- Noting what was raised changes no table and takes nothing. -/
theorem catching_fail (m : Attempt (TraceProcessor σ) Unit) (stage : Text)
    (p : TraceProcessor σ) {p' : TraceProcessor σ}
    (hrun : (Attempt.catching isCallbackError m
      (fun exc ↦ processing (Recorder.fail sink stage exc)) p).2 = p') :
    p'.completedSpans = (m p).2.completedSpans ∧ p'.traceStart = (m p).2.traceStart ∧
      p'.evidence = (m p).2.evidence := by
  rw [← hrun]
  cases hm : m p with
  | mk outcome q =>
    cases outcome with
    | ok u =>
      rw [Attempt.catching_of_ok hm]
      exact ⟨rfl, rfl, rfl⟩
    | error e =>
      cases hcaught : isCallbackError e.kind with
      | true =>
        rw [Attempt.catching_of_caught hm hcaught]
        exact ⟨rfl, rfl, Recorder.evidence_fail stage e q.toRecorder⟩
      | false =>
        rw [Attempt.catching_of_escaped hm hcaught]
        exact ⟨rfl, rfl, rfl⟩

/-- The end of a trace records at most its runtime trace, and then the trace was started; it no
longer is. -/
theorem onTraceEnd_spec (traceId : Except PyError Text) (now : Datetime)
    {p' : TraceProcessor σ} (hrun : (onTraceEnd sink traceId now p).2 = p') :
    p'.completedSpans = p.completedSpans ∧
      (p'.traceStart = p.traceStart ∧ p'.evidence = p.evidence ∨
        ∃ t, p'.traceStart = p.traceStart.erase t ∧ (p'.evidence = p.evidence ∨
          p.traceStart.get? t ≠ none ∧ ∃ result, p'.evidence = p.evidence ++ [result] ∧
            OfSpan true (t, t) result)) := by
  obtain ⟨hcompleted, hstart, hevidence⟩ := catching_fail _ _ p hrun
  cases traceId with
  | error e => exact ⟨hcompleted, .inl ⟨hstart, hevidence⟩⟩
  | ok t =>
    rw [Attempt.lift_ok_bind, Attempt.get_bind, Attempt.modify_bind] at hcompleted hstart hevidence
    cases hfound : p.traceStart.get? t with
    | none =>
      rw [hfound] at hcompleted hstart hevidence
      exact ⟨hcompleted, .inr ⟨t, hstart, .inl hevidence⟩⟩
    | some started =>
      rw [hfound, orRaise_some, Attempt.lift_ok_bind] at hcompleted hstart hevidence
      refine ⟨hcompleted, .inr ⟨t, hstart, ?_⟩⟩
      obtain ⟨e, -, hsame⟩ | ⟨-, result, hmore, hcontract⟩ := Recorder.capture_spec
        (nativeRuntime t t (.ofUtc started) (.ofUtc now) none false
          [(lit "event_kind", .str (lit "trace_end"))]) p.toRecorder
      · exact .inl (hevidence.trans hsame)
      · exact .inr ⟨hfound ▸ Option.some_ne_none started, result, hevidence.trans hmore,
          ofSpan_nativeRuntime hcontract⟩

theorem observedIdentity_eq_ok {value : Option Text} {message s : Text}
    (h : observedIdentity value message = .ok s) : value = some s := by
  rw [observedIdentity, orRaise_eq_ok, Option.filter_eq_some_iff] at h
  exact h.1

/-- The end of a span records nothing, or the runtime trace and at most one contract of a span that
had not completed. -/
theorem onSpanEnd_spec (span : Span) (now : Datetime) {p' : TraceProcessor σ}
    (hrun : (onSpanEnd sink options isPrintable span now p).2 = p') :
    p'.traceStart = p.traceStart ∧
      (p'.completedSpans = p.completedSpans ∧ p'.evidence = p.evidence ∨
        ∃ traceId spanId trace contracts, span.traceId = some traceId ∧
          span.spanId = some spanId ∧ (traceId, spanId) ∉ p.completedSpans ∧
          p'.completedSpans = (traceId, spanId) :: p.completedSpans ∧
          p'.evidence = p.evidence ++ trace :: contracts ∧
          OfSpan true (traceId, spanId) trace ∧ contracts.length ≤ 1 ∧
            ∀ result ∈ contracts, OfSpan false (traceId, spanId) result) := by
  obtain ⟨hcompleted, hstart, hevidence⟩ := catching_fail _ _ p hrun
  cases htrace : observedIdentity span.traceId (lit "missing trace identity") with
  | error e =>
    rw [htrace] at hcompleted hstart hevidence
    exact ⟨hstart, .inl ⟨hcompleted, hevidence⟩⟩
  | ok traceId =>
    rw [htrace, Attempt.lift_ok_bind] at hcompleted hstart hevidence
    cases hspan : observedIdentity span.spanId (lit "missing span identity") with
    | error e =>
      rw [hspan] at hcompleted hstart hevidence
      exact ⟨hstart, .inl ⟨hcompleted, hevidence⟩⟩
    | ok spanId =>
      rw [hspan, Attempt.lift_ok_bind, Attempt.get_bind] at hcompleted hstart hevidence
      by_cases hdone : p.completedSpans.contains (traceId, spanId) = true
      · rw [if_pos hdone] at hcompleted hstart hevidence
        exact ⟨hstart, .inl ⟨hcompleted, hevidence⟩⟩
      rw [if_neg hdone] at hcompleted hstart hevidence
      by_cases hfull : sink.capacity ≤ p.completedSpans.length
      · rw [if_pos hfull] at hcompleted hstart hevidence
        exact ⟨hstart, .inl ⟨hcompleted, hevidence.trans (Recorder.evidence_fail _ _ _)⟩⟩
      rw [if_neg hfull] at hcompleted hstart hevidence
      obtain ⟨e, hraised, hsame⟩ | ⟨hok, trace, hmore, hcontract⟩ := @Recorder.capture_spec σ
        sink (spanRuntime isPrintable (traceId, spanId) span) p.toRecorder
      · have hcapture : processing (Recorder.capture sink
            (spanRuntime isPrintable (traceId, spanId) span)) p = (.error e, { p with
              toRecorder := (Recorder.capture sink
                (spanRuntime isPrintable (traceId, spanId) span) p.toRecorder).2 }) :=
          Prod.ext hraised rfl
        rw [Attempt.bind_of_error hcapture] at hcompleted hstart hevidence
        exact ⟨hstart, .inl ⟨hcompleted, hevidence.trans hsame⟩⟩
      · have hcapture : processing (Recorder.capture sink
            (spanRuntime isPrintable (traceId, spanId) span)) p = (.ok (), { p with
              toRecorder := (Recorder.capture sink
                (spanRuntime isPrintable (traceId, spanId) span) p.toRecorder).2 }) :=
          Prod.ext hok rfl
        rw [Attempt.bind_of_ok hcapture, Attempt.modify_bind] at hcompleted hstart hevidence
        have hof : OfSpan true (traceId, spanId) trace := by
          simp only [spanRuntime, bind_eq_ok] at hcontract
          obtain ⟨_, -, _, -, hcontract⟩ := hcontract
          exact ofSpan_nativeRuntime hcontract
        have hnew : (traceId, spanId) ∉ p.completedSpans := by
          rwa [List.contains_iff_mem] at hdone
        have hcontracts : ∃ contracts, p'.traceStart = p.traceStart ∧
            p'.completedSpans = (traceId, spanId) :: p.completedSpans ∧
            p'.evidence = p.evidence ++ trace :: contracts ∧ contracts.length ≤ 1 ∧
              ∀ result ∈ contracts, OfSpan false (traceId, spanId) result := by
          cases herror : span.error with
          | true =>
            rw [herror] at hcompleted hstart hevidence
            exact ⟨[], hstart, hcompleted, hevidence.trans hmore, Nat.zero_le 1, by simp⟩
          | false =>
            cases hdata : span.data with
            | none =>
              rw [herror, hdata] at hcompleted hstart hevidence
              exact ⟨[], hstart, hcompleted, hevidence.trans hmore, Nat.zero_le 1, by simp⟩
            | some data =>
              rw [herror, hdata] at hcompleted hstart hevidence
              obtain hsame | ⟨contract, hone, hcontractOf⟩ := @evidence_recordSpan σ sink options
                isPrintable (traceId, spanId) now data (Recorder.capture sink
                  (spanRuntime isPrintable (traceId, spanId) span) p.toRecorder).2
              · exact ⟨[], hstart, hcompleted, hevidence.trans (hsame.trans hmore), Nat.zero_le 1,
                  by simp⟩
              · refine ⟨[contract], hstart, hcompleted, hevidence.trans (hone.trans ?_), le_rfl,
                  by simpa using hcontractOf⟩
                rw [hmore, List.append_assoc]
                rfl
        obtain ⟨contracts, hstarted, hspans, hrecorded, hone, hcontractsOf⟩ := hcontracts
        refine ⟨hstarted, .inr ⟨traceId, spanId, trace, contracts, ?_, ?_, hnew, hspans, hrecorded,
          hof, hone, hcontractsOf⟩⟩
        · exact observedIdentity_eq_ok htrace
        · exact observedIdentity_eq_ok hspan

/-! ### Between shutdowns -/

/-- A processor, the traces started since the last shutdown, and how much was recorded before it. -/
structure Observed (σ : Type) where
  processor : TraceProcessor σ
  opened : List Text
  mark : Nat

namespace Observed

/-- What was recorded since the last shutdown. -/
def since (s : Observed σ) : List ContractCaptureResult := s.processor.evidence.drop s.mark

/-- A processor that was told nothing. -/
def init (s : σ) : Observed σ := ⟨.init s, [], 0⟩

end Observed

/-- What an event makes of a processor, and what is started and recorded after it. -/
def observeTraces (sink : Sink σ) (options : HandlerOptions) (isPrintable : Text → Bool)
    (s : Observed σ) (event : TraceEvent) : Except PyError Unit × Observed σ :=
  let (outcome, processor) := event.handle sink options isPrintable s.processor
  (outcome, match event with
    | .traceStart (.ok t) _ => ⟨processor, t :: s.opened, s.mark⟩
    | .shutdown => ⟨processor, [], processor.evidence.length⟩
    | _ => ⟨processor, s.opened, s.mark⟩)

/-- A trace is started once, and no span that ends has the identity of a started trace for both its
trace and itself. -/
def Fresh (s : Observed σ) : TraceEvent → Prop
  | .traceStart (.ok t) _ => t ∉ s.opened ∧ (t, t) ∉ s.processor.completedSpans
  | .spanEnd span _ => ∀ t, span.traceId = some t → span.spanId = some t → t ∉ s.opened
  | _ => True

/-- One where the span has completed. -/
def completedOf (p : TraceProcessor σ) (identity : Text × Text) : Nat :=
  if identity ∈ p.completedSpans then 1 else 0

/-- One where the trace was started and has ended. -/
def endedOf (s : Observed σ) (identity : Text × Text) : Nat :=
  if identity.1 = identity.2 ∧ identity.1 ∈ s.opened ∧ s.processor.traceStart.get? identity.1 = none
  then 1 else 0

/-- What is recorded since the last shutdown is of spans that completed and traces that ended, once
each; no span is a started trace. -/
structure Counted (s : Observed σ) : Prop where
  mark : s.mark ≤ s.processor.evidence.length
  contracts : ∀ identity, countSpan false identity s.since ≤ completedOf s.processor identity
  traces : ∀ identity,
    countSpan true identity s.since ≤ completedOf s.processor identity + endedOf s identity
  apart : ∀ t ∈ s.opened, (t, t) ∉ s.processor.completedSpans
  started : ∀ t, s.processor.traceStart.get? t ≠ none → t ∈ s.opened

theorem countSpan_append (trace : Bool) (identity : Text × Text)
    (l m : List ContractCaptureResult) :
    countSpan trace identity (l ++ m) = countSpan trace identity l + countSpan trace identity m :=
  List.countP_append

theorem countSpan_of {trace b : Bool} {identity other : Text × Text}
    {l : List ContractCaptureResult} (hl : ∀ result ∈ l, OfSpan b other result) :
    countSpan trace identity l = if b = trace ∧ other = identity then l.length else 0 := by
  by_cases hsame : b = trace ∧ other = identity
  · rw [if_pos hsame, countSpan, List.countP_eq_length]
    intro result hresult
    obtain ⟨htrace, hspan⟩ := hl result hresult
    rw [htrace, hspan, hsame.1, hsame.2, beq_self_eq_true, decide_eq_true rfl]
    rfl
  · rw [if_neg hsame, countSpan, List.countP_eq_zero]
    intro result hresult hcounted
    obtain ⟨htrace, hspan⟩ := hl result hresult
    rw [Bool.and_eq_true, beq_iff_eq, decide_eq_true_eq] at hcounted
    exact hsame ⟨htrace.symm.trans hcounted.1, Option.some_inj.mp (hspan.symm.trans hcounted.2)⟩

/-- What is recorded more is recorded since the last shutdown. -/
theorem Observed.since_append {s : Observed σ} (hmark : s.mark ≤ s.processor.evidence.length)
    {p' : TraceProcessor σ} {more : List ContractCaptureResult}
    (h : p'.evidence = s.processor.evidence ++ more) (opened : List Text) :
    Observed.since ⟨p', opened, s.mark⟩ = s.since ++ more := by
  rw [Observed.since, Observed.since, h, List.drop_append_of_le_length hmark]

theorem counted_traceStart {s : Observed σ} (hs : Counted s) {t : Text} (hopened : t ∉ s.opened)
    (hspan : (t, t) ∉ s.processor.completedSpans) (now : Datetime) :
    Counted ⟨{ s.processor with traceStart := s.processor.traceStart.set t now }, t :: s.opened,
      s.mark⟩ := by
  refine ⟨hs.mark, hs.contracts, fun identity ↦ ?_, ?_, fun u hu ↦ ?_⟩
  · have hcount := hs.traces identity
    have hended : endedOf s identity ≤ endedOf ⟨{ s.processor with
        traceStart := s.processor.traceStart.set t now }, t :: s.opened, s.mark⟩ identity := by
      rw [endedOf, endedOf]
      by_cases hold : identity.1 = identity.2 ∧ identity.1 ∈ s.opened ∧
          s.processor.traceStart.get? identity.1 = none
      · have hne : identity.1 ≠ t := fun heq ↦ hopened (heq ▸ hold.2.1)
        rw [if_pos hold, if_pos ⟨hold.1, List.mem_cons_of_mem t hold.2.1, by
          rw [Dict.get?_set, if_neg hne]
          exact hold.2.2⟩]
      · rw [if_neg hold]
        exact Nat.zero_le _
    exact hcount.trans (Nat.add_le_add_left hended _)
  · intro u hu
    obtain rfl | hu := List.mem_cons.mp hu
    · exact hspan
    · exact hs.apart u hu
  · rw [Dict.get?_set] at hu
    by_cases heq : u = t
    · rw [heq]
      exact List.mem_cons_self
    · rw [if_neg heq] at hu
      exact List.mem_cons_of_mem t (hs.started u hu)

section Recorded

variable {s : Observed σ} {p' : TraceProcessor σ}

/-- A trace that has ended stays ended. -/
theorem endedOf_le (hstarted : ∀ t, p'.traceStart.get? t ≠ none →
    s.processor.traceStart.get? t ≠ none) (identity : Text × Text) :
    endedOf s identity ≤ endedOf ⟨p', s.opened, s.mark⟩ identity := by
  rw [endedOf, endedOf]
  by_cases hold : identity.1 = identity.2 ∧ identity.1 ∈ s.opened ∧
      s.processor.traceStart.get? identity.1 = none
  · rw [if_pos hold, if_pos ⟨hold.1, hold.2.1, not_not.mp fun hnew ↦ hstarted _ hnew hold.2.2⟩]
  · rw [if_neg hold]
    exact Nat.zero_le _

/-- Where nothing is recorded and no span completes, nothing counts more. -/
theorem Counted.unrecorded (hs : Counted s) (hcompleted : p'.completedSpans =
    s.processor.completedSpans) (hevidence : p'.evidence = s.processor.evidence)
    (hstarted : ∀ t, p'.traceStart.get? t ≠ none → s.processor.traceStart.get? t ≠ none) :
    Counted ⟨p', s.opened, s.mark⟩ := by
  have hsince : Observed.since ⟨p', s.opened, s.mark⟩ = s.since := by
    rw [Observed.since, Observed.since, hevidence]
  refine ⟨hevidence ▸ hs.mark, fun identity ↦ ?_, fun identity ↦ ?_, ?_,
    fun t ht ↦ hs.started t (hstarted t ht)⟩
  · rw [hsince, completedOf, hcompleted]
    exact hs.contracts identity
  · rw [hsince, completedOf, hcompleted]
    exact (hs.traces identity).trans (Nat.add_le_add_left (endedOf_le hstarted identity) _)
  · change ∀ t ∈ s.opened, (t, t) ∉ p'.completedSpans
    rw [hcompleted]
    exact hs.apart

/-- A trace that is started ends once. -/
theorem Counted.ended (hs : Counted s) {t : Text} {result : ContractCaptureResult}
    (hcompleted : p'.completedSpans = s.processor.completedSpans)
    (hevidence : p'.evidence = s.processor.evidence ++ [result])
    (hstart : p'.traceStart = s.processor.traceStart.erase t)
    (hopen : s.processor.traceStart.get? t ≠ none) (hof : OfSpan true (t, t) result) :
    Counted ⟨p', s.opened, s.mark⟩ := by
  have hstarted : ∀ u, p'.traceStart.get? u ≠ none → s.processor.traceStart.get? u ≠ none := by
    intro u hu
    rw [hstart, Dict.get?_erase] at hu
    split at hu
    · exact absurd rfl hu
    · exact hu
  have hall : ∀ r ∈ [result], OfSpan true (t, t) r := by
    simpa using hof
  refine ⟨?_, fun identity ↦ ?_, fun identity ↦ ?_, ?_, fun u hu ↦ hs.started u (hstarted u hu)⟩
  · change s.mark ≤ p'.evidence.length
    rw [hevidence, List.length_append]
    exact hs.mark.trans (Nat.le_add_right _ _)
  · rw [Observed.since_append hs.mark hevidence, countSpan_append, countSpan_of hall,
      if_neg fun hboth ↦ Bool.false_ne_true hboth.1.symm, completedOf, hcompleted]
    exact hs.contracts identity
  · have hcount := hs.traces identity
    rw [Observed.since_append hs.mark hevidence, countSpan_append, countSpan_of hall, completedOf,
      hcompleted, ← completedOf]
    by_cases hidentity : (t, t) = identity
    · have hmember := hs.started t hopen
      have hspan : completedOf s.processor identity = 0 :=
        if_neg fun hdone ↦ hs.apart t hmember (hidentity ▸ hdone)
      have hbefore : endedOf s identity = 0 := by
        rw [← hidentity]
        exact if_neg fun hended ↦ hopen hended.2.2
      have hafter : endedOf ⟨p', s.opened, s.mark⟩ identity = 1 := by
        rw [← hidentity]
        refine if_pos ⟨rfl, hmember, ?_⟩
        change p'.traceStart.get? t = none
        rw [hstart, Dict.get?_erase, if_pos rfl]
      rw [if_pos ⟨rfl, hidentity⟩, List.length_singleton]
      omega
    · have hended := endedOf_le hstarted identity
      rw [if_neg fun hboth ↦ hidentity hboth.2]
      omega
  · change ∀ u ∈ s.opened, (u, u) ∉ p'.completedSpans
    rw [hcompleted]
    exact hs.apart

/-- A span that had not completed completes once. -/
theorem Counted.completed (hs : Counted s) {identity : Text × Text}
    {trace : ContractCaptureResult} {contracts : List ContractCaptureResult}
    (hnew : identity ∉ s.processor.completedSpans)
    (hcompleted : p'.completedSpans = identity :: s.processor.completedSpans)
    (hevidence : p'.evidence = s.processor.evidence ++ trace :: contracts)
    (hstart : p'.traceStart = s.processor.traceStart) (hof : OfSpan true identity trace)
    (hone : contracts.length ≤ 1) (hcontracts : ∀ result ∈ contracts, OfSpan false identity result)
    (hfresh : ∀ t, identity = (t, t) → t ∉ s.opened) :
    Counted ⟨p', s.opened, s.mark⟩ := by
  have htrace : ∀ r ∈ [trace], OfSpan true identity r := by
    simpa using hof
  have hmore := Observed.since_append hs.mark hevidence s.opened
  rw [← List.singleton_append] at hmore
  have hended (other : Text × Text) :
      endedOf ⟨p', s.opened, s.mark⟩ other = endedOf s other := by
    rw [endedOf, endedOf, hstart]
  have hspans (other : Text × Text) : completedOf p' other =
      if other = identity then 1 else completedOf s.processor other := by
    rw [completedOf, hcompleted]
    by_cases hother : other = identity
    · rw [if_pos hother, hother, if_pos List.mem_cons_self]
    · simp only [completedOf, List.mem_cons, hother, false_or, if_false]
  have hnone : completedOf s.processor identity = 0 := if_neg hnew
  refine ⟨?_, fun other ↦ ?_, fun other ↦ ?_, ?_, ?_⟩
  · change s.mark ≤ p'.evidence.length
    rw [hevidence, List.length_append]
    exact hs.mark.trans (Nat.le_add_right _ _)
  · have hcount := hs.contracts other
    rw [hmore, countSpan_append, countSpan_append, countSpan_of htrace, countSpan_of hcontracts,
      if_neg fun hboth ↦ Bool.false_ne_true hboth.1.symm, hspans]
    by_cases hother : other = identity
    · rw [hother] at hcount ⊢
      rw [if_pos ⟨rfl, rfl⟩, if_pos rfl]
      omega
    · rw [if_neg fun hboth ↦ hother hboth.2.symm, if_neg hother]
      omega
  · have hcount := hs.traces other
    rw [hmore, countSpan_append, countSpan_append, countSpan_of htrace, countSpan_of hcontracts,
      if_neg (show ¬(false = true ∧ identity = other) from fun hboth ↦ Bool.false_ne_true hboth.1),
      hspans, hended]
    by_cases hother : other = identity
    · have hopen : endedOf s identity = 0 := by
        refine if_neg fun hended ↦ ?_
        exact hfresh identity.1 (Prod.ext rfl hended.1.symm) hended.2.1
      rw [hother] at hcount ⊢
      rw [if_pos ⟨rfl, rfl⟩, if_pos rfl, List.length_singleton]
      omega
    · rw [if_neg fun hboth ↦ hother hboth.2.symm, if_neg hother]
      omega
  · intro t ht
    change (t, t) ∉ p'.completedSpans
    rw [hcompleted, List.mem_cons, not_or]
    exact ⟨fun heq ↦ hfresh t heq.symm ht, hs.apart t ht⟩
  · change ∀ t, p'.traceStart.get? t ≠ none → t ∈ s.opened
    rw [hstart]
    exact hs.started

end Recorded

theorem counted_traceEnd {s : Observed σ} (hs : Counted s) (traceId : Except PyError Text)
    (now : Datetime) :
    Counted ⟨(onTraceEnd sink traceId now s.processor).2, s.opened, s.mark⟩ := by
  obtain ⟨hcompleted, ⟨hstart, hevidence⟩ | ⟨t, hstart, hrecorded⟩⟩ :=
    @onTraceEnd_spec σ sink s.processor traceId now _ rfl
  · exact hs.unrecorded hcompleted hevidence fun u hu ↦ hstart ▸ hu
  · obtain hevidence | ⟨hopen, result, hevidence, hof⟩ := hrecorded
    · refine hs.unrecorded hcompleted hevidence fun u hu ↦ ?_
      rw [hstart, Dict.get?_erase] at hu
      split at hu
      · exact absurd rfl hu
      · exact hu
    · exact hs.ended hcompleted hevidence hstart hopen hof

theorem counted_spanEnd {s : Observed σ} (hs : Counted s) {span : Span} (now : Datetime)
    (hf : ∀ t, span.traceId = some t → span.spanId = some t → t ∉ s.opened) :
    Counted ⟨(onSpanEnd sink options isPrintable span now s.processor).2, s.opened, s.mark⟩ := by
  obtain ⟨hstart, ⟨hcompleted, hevidence⟩ | ⟨traceId, spanId, trace, contracts, htraceId, hspanId,
    hnew, hcompleted, hevidence, hof, hone, hcontracts⟩⟩ :=
    @onSpanEnd_spec σ sink options isPrintable s.processor span now _ rfl
  · exact hs.unrecorded hcompleted hevidence fun u hu ↦ hstart ▸ hu
  · refine hs.completed hnew hcompleted hevidence hstart hof hone hcontracts ?_
    intro t ht
    obtain ⟨rfl, rfl⟩ := Prod.mk.inj ht
    exact hf _ htraceId hspanId

theorem counted_step {s : Observed σ} {event : TraceEvent} (hs : Counted s) (hf : Fresh s event) :
    Counted (observeTraces sink options isPrintable s event).2 := by
  cases event with
  | traceStart traceId now =>
    cases traceId with
    | error e => exact hs
    | ok t => exact counted_traceStart hs hf.1 hf.2 now
  | traceEnd traceId now => exact counted_traceEnd hs traceId now
  | spanStart => exact hs
  | spanEnd span now => exact counted_spanEnd hs now hf
  | shutdown =>
    have hnone : Observed.since ⟨{ s.processor with traceStart := [], completedSpans := [] }, [],
        s.processor.evidence.length⟩ = [] := List.drop_length
    refine ⟨le_rfl, fun identity ↦ ?_, fun identity ↦ ?_, nofun, nofun⟩
    · exact (congrArg (countSpan false identity) hnone).trans_le (Nat.zero_le _)
    · exact (congrArg (countSpan true identity) hnone).trans_le (Nat.zero_le _)
  | forceFlush => exact hs

theorem counted_init (s : σ) : Counted (.init s) :=
  ⟨le_rfl, fun _ ↦ Nat.zero_le _, fun _ ↦ Nat.zero_le _, nofun, fun _ ht ↦ absurd rfl ht⟩

/-- A span or a trace is recorded at most once between shutdowns. -/
theorem Counted.atMostOnce {s : Observed σ} (hs : Counted s) (trace : Bool)
    (identity : Text × Text) : countSpan trace identity s.since ≤ 1 := by
  have hcompleted : completedOf s.processor identity ≤ 1 := by
    rw [completedOf]
    split <;> omega
  cases trace with
  | false => exact (hs.contracts identity).trans hcompleted
  | true =>
    have hcount := hs.traces identity
    by_cases hended : identity.1 = identity.2 ∧ identity.1 ∈ s.opened ∧
        s.processor.traceStart.get? identity.1 = none
    · have hspan : completedOf s.processor identity = 0 := by
        refine if_neg fun hdone ↦ hs.apart identity.1 hended.2.1 ?_
        rwa [show (identity.1, identity.1) = identity from Prod.ext rfl hended.1]
      rw [endedOf, if_pos hended] at hcount
      omega
    · rw [endedOf, if_neg hended] at hcount
      omega

/-- Orderly callbacks are never mispaired and recorded at most once for each start; fresh spans and
traces are recorded at most once between shutdowns. -/
theorem evidence_correlated {s s' : σ} {callbacks : List Callback} {events : List TraceEvent}
    (hcallbacks : Calls.Along (observe sink options)
      (fun t callback ↦ Orderly sink t.1.sink t.2 callback) (.init s, []) callbacks)
    (hevents : Calls.Along (observeTraces sink options isPrintable) Fresh (.init s') events) :
    Calls.Along (observe sink options) (fun t callback ↦
        Correlated t.2 callback t.1 (callback.handle sink options t.1).2) (.init s, []) callbacks ∧
      (∀ trace t, countOf trace t
        (Calls.run (observe sink options) (.init s, []) callbacks).1.evidence ≤
          startsOf sink.capacity t [] callbacks) ∧
      ∀ trace identity, countSpan trace identity
        (Calls.run (observeTraces sink options isPrintable) (.init s') events).since ≤ 1 := by
  have hrepresents : Represents (CallbackHandler.init s) [] := represents_init s
  refine ⟨along_correlated hrepresents hcallbacks, fun trace t ↦ ?_, fun trace identity ↦ ?_⟩
  · have hcount := countOf_run hrepresents hcallbacks trace t
    exact hcount.trans (Nat.zero_add _).le
  · exact Counted.atMostOnce
      (hevents.keeps (fun _ _ hs hf ↦ counted_step hs hf) (counted_init s')) trace identity

end Events

/-! ### A mismatched end -/

/-- A sink that takes and notes everything. -/
private def quiet : Sink Unit := ⟨4, fun _ ↦ pure (), fun _ _ ↦ pure ()⟩

private def noOptions : HandlerOptions := ⟨none, none, none, [], []⟩

private def someRun : RunId := ⟨true, lit "r"⟩

/-- A model's end of a run that was started as a tool leaves the tool's input, and a tool's end of a
later model run would be recorded with it. -/
theorem not_closed : ¬Calls.Along (observe quiet noOptions) (fun t callback ↦
    Correlated t.2 callback t.1 (callback.handle quiet noOptions t.1).2) (.init (), [])
      [.start .tool (some (lit "t")) (.ok (lit "d")) someRun none RetentionAdapter.epoch,
        .llmEnd (.ok (lit "e")) someRun RetentionAdapter.epoch RetentionAdapter.epoch] := by
  rintro ⟨-, hend, -⟩
  have hleft := (hend.closed .model someRun rfl).2 .tool
  revert hleft
  exact fun hleft ↦ by cases hleft

/-- A model run that starts and ends, and a trace with a span. -/
theorem run_correlated : ∃ (callbacks : List Callback) (events : List TraceEvent),
    callbacks.length = 2 ∧ events.length = 3 ∧
      Calls.Along (observe quiet noOptions) (fun t callback ↦
        Correlated t.2 callback t.1 (callback.handle quiet noOptions t.1).2) (.init (), [])
          callbacks ∧
      ∀ trace identity, countSpan trace identity
        (Calls.run (observeTraces quiet noOptions fun _ ↦ true) (.init ()) events).since ≤ 1 := by
  let callbacks : List Callback :=
    [.start .llm (some (lit "m")) (.ok (lit "d")) someRun none RetentionAdapter.epoch,
      .llmEnd (.ok (lit "e")) someRun RetentionAdapter.epoch RetentionAdapter.epoch]
  let events : List TraceEvent := [.traceStart (.ok (lit "t")) RetentionAdapter.epoch,
    .spanEnd ⟨some (lit "t"), some (lit "s"), .ok (.ofUtc RetentionAdapter.epoch),
      .ok (.ofUtc RetentionAdapter.epoch), none, false, none⟩ RetentionAdapter.epoch,
    .traceEnd (.ok (lit "t")) RetentionAdapter.epoch]
  have hsteady : Recorder.Steady quiet () := ⟨fun _ _ ↦ rfl, fun _ _ h ↦ by cases h⟩
  have hcallbacks : Calls.Along (observe quiet noOptions)
      (fun t callback ↦ Orderly quiet t.1.sink t.2 callback) (.init (), []) callbacks := by
    refine ⟨fun kind runId hclosing ↦ ?_, fun kind runId hclosing ↦ ?_, trivial⟩
    · change (none : Option (Kind × RunId)) = some (kind, runId) at hclosing
      cases hclosing
    · change some (Kind.model, someRun) = some (kind, runId) at hclosing
      cases hclosing
      exact ⟨rfl, rfl, RaisesOnly.ok _, hsteady⟩
  have hevents : Calls.Along (observeTraces quiet noOptions fun _ ↦ true) Fresh (.init ())
      events := by
    refine ⟨⟨List.not_mem_nil, List.not_mem_nil⟩, ?_, trivial, trivial⟩
    intro t htrace hspan
    cases htrace
    exact absurd hspan (by decide)
  obtain ⟨hcorrelated, -, honce⟩ := evidence_correlated hcallbacks hevents
  exact ⟨callbacks, events, rfl, rfl, hcorrelated, honce⟩

end StateWake.Integrations
