import StateWake.Base.Window
import StateWake.Integrations.Spans

/-!
# Native instrumentation

`integrations/native_llamaindex.py`. A handler is told of instrumentation events. It correlates the
start of a retrieval with its end by their span, in a table of query digests with a queue that
bounds it, and looks at each event once, by a set of identities with a queue that bounds it.
-/

namespace StateWake.Integrations

open StateWake.Base Text Utils Claims

/-! ### Events -/

/-- The time of an event: one without a time zone, or the UTC time that `utc_time` makes of any
other or what it raises. -/
inductive EventTimestamp where
  | naive
  | read (time : Except PyError Datetime)

/-- A node of a retrieval: the `str` of its identity and the digest of its content, or what having
them raises. -/
structure RetrievedNode where
  id : Except PyError Text
  digest : Except PyError Text

/-- The attributes of an event, where they are given: its identity and its span as `str` has them,
the name of its class, its time, the query that is a string and the nodes. -/
structure InstrumentationEvent where
  id : Option Text
  operation : Except PyError Text
  timestamp : Option EventTimestamp
  spanId : Option Text
  query : Option Text
  nodes : Option (Except PyError (List RetrievedNode))

/-- A time with where it is from and what is known of it. -/
structure ObservedTime where
  time : Datetime
  origin : Text
  status : Text

/-- `_event_time`, `integrations/native_llamaindex.py:28–44`. -/
def eventTime (now : Datetime) : EventTimestamp → Except PyError ObservedTime
  | .naive =>
    pure ⟨now, lit "adapter_receipt_time", lit "native_datetime_timezone_unspecified"⟩
  | .read time => do
    let time ← time
    pure ⟨time, lit "native_event_time", lit "timezone_aware"⟩

/-! ### The handler -/

/-- `state_limit`, `integrations/native_llamaindex.py:73`. -/
def stateLimit : Nat := 4096

/-- The tables of a handler, `integrations/native_llamaindex.py:69–72`, and its sink. -/
structure EventHandler (σ : Type) extends Recorder σ where
  retrievalQueries : Dict Text
  retrievalOrder : List Text
  seenEventIds : List Text
  seenOrder : List Text

/-- The arguments of `create_llamaindex_event_handler`,
`integrations/native_llamaindex.py:47–53`. -/
structure EventHandlerOptions where
  corpusIdentity : Option Text
  corpusSnapshotId : Option Text
  citationBoundary : Option Text

/-- The corpus, its snapshot and the citation boundary, `integrations/native_llamaindex.py:148–152`:
all of them or none. -/
def EventHandlerOptions.retrievalContext (options : EventHandlerOptions) :
    Option (Text × Text × Text) := do
  let corpusIdentity ← given options.corpusIdentity
  let corpusSnapshotId ← given options.corpusSnapshotId
  let citationBoundary ← given options.citationBoundary
  pure (corpusIdentity, corpusSnapshotId, citationBoundary)

namespace EventHandler

variable {σ : Type}

/-- A new handler. -/
def init (s : σ) : EventHandler σ := ⟨⟨s, [], []⟩, [], [], [], []⟩

/-- `remember_query`, `integrations/native_llamaindex.py:75–82`, with a limit for `state_limit`. -/
def rememberQuery (limit : Nat) (key queryDigest : Text) (h : EventHandler σ) : EventHandler σ :=
  let order := if (h.retrievalQueries.get? key).isNone then h.retrievalOrder ++ [key]
    else h.retrievalOrder
  let kept := Window.trim limit Dict.erase order (h.retrievalQueries.set key queryDigest)
  { h with retrievalOrder := kept.1, retrievalQueries := kept.2 }

/-- `first_event`, `integrations/native_llamaindex.py:84–92`, with a limit for `state_limit`. -/
def firstEvent (limit : Nat) (eventId : Text) (h : EventHandler σ) : Bool × EventHandler σ :=
  if h.seenEventIds.contains eventId then (false, h)
  else
    let kept := Window.trim limit List.erase (h.seenOrder ++ [eventId])
      (h.seenEventIds ++ [eventId])
    (true, { h with seenOrder := kept.1, seenEventIds := kept.2 })

end EventHandler

section Handler

variable {σ : Type} (limit : Nat) (sink : Sink σ) (options : EventHandlerOptions)
  (isPrintable : Text → Bool)

/-- What is done with the sink alone. -/
def noting (m : Attempt (Recorder σ) Unit) : Attempt (EventHandler σ) Unit :=
  m.focus EventHandler.toRecorder fun h r ↦ { h with toRecorder := r }

/-- The identities and the digests of nodes, `integrations/native_llamaindex.py:161–176`. The check
of the corpus and the citation boundary between them does not fail where both are given. -/
def readNodes (nodes : List RetrievedNode) : Except PyError (List Text × List Text) := do
  let ids ← nodes.mapM RetrievedNode.id
  require ⟨.valueError, lit "native retrieval has no durable node ID"⟩
    (!ids.isEmpty && ids.all fun id ↦ !id.isEmpty)
  let digests ← nodes.mapM RetrievedNode.digest
  pure (ids, digests)

/-- The contract of a retrieval, `integrations/native_llamaindex.py:161–196`. -/
def eventRetrieval (eventId : Text) (context : Text × Text × Text) (queryDigest : Text)
    (nodes : Except PyError (List RetrievedNode)) (time : ObservedTime) :
    Except PyError AIContract := do
  let nodes ← nodes
  let (retrievedItemIds, chunkDigests) ← readNodes nodes
  let contract : RetrievalEvidenceContract :=
    { contractVersion := lit "llamaindex.native.retrieval.v1",
      producerId := lit "llamaindex-native", runId := eventId, corpusIdentity := context.1, queryDigest, retrievedItemIds, chunkDigests,
      citationBoundary := context.2.2, capturedAt := .ofUtc time.time, corpusDigest := none,
      corpusSnapshotId := some context.2.1, rankingMetadata := none,
      metadata := some [(lit "source", .str (lit "native-instrumentation")),
        (lit "timestamp_origin", .str time.origin),
        (lit "native_timestamp_status", .str time.status)] }
  contract.postInit
  pure (.retrieval contract)

/-- The contract of an observation, `integrations/native_llamaindex.py:201–215` and
`integrations/native_capture.py:381–411`. `safe_metadata` keeps the members that are not observed:
they are short and printable. -/
def eventObservation (eventId spanKey operation : Text) (time : ObservedTime) :
    Except PyError AIContract := do
  let contract : ObservationContract :=
    { contractVersion := lit "llamaindex.native.observation.v1",
      producerId := lit "llamaindex-native", runId := eventId, framework := lit "llamaindex",
      traceId := spanKey, spanId := eventId, observationKind := lit "instrumentation_event",
      observedAt := .ofUtc time.time, parentRunId := none,
      metadata := some ((lit "event_kind", .str (lit "instrumentation_event")) ::
        (safeMember isPrintable (lit "operation") (some operation) ++
          [(lit "timestamp_origin", .str time.origin),
            (lit "native_timestamp_status", .str time.status)])) }
  contract.postInit
  pure (.observation contract)

/-- A retrieval starts, `integrations/native_llamaindex.py:129–137`. -/
def retrievalStart (spanKey : Text) (query : Option Text) : Attempt (EventHandler σ) Unit :=
  match query with
  | none => noting (Recorder.fail sink (lit "llamaindex.retrieval_start")
      ⟨.valueError, lit "missing observed retrieval query"⟩)
  | some query => do
    let queryDigest ← Attempt.lift (digestText query)
    Attempt.modify (EventHandler.rememberQuery limit spanKey queryDigest)

/-- The digest of the query of a retrieval that ends, `integrations/native_llamaindex.py:140–146`:
its own, or that of its start, which is taken. -/
def endedQuery (spanKey : Text) (query : Option Text) :
    Attempt (EventHandler σ) (Option Text) :=
  match query with
  | some query => do
    let queryDigest ← Attempt.lift (digestText query)
    pure (some queryDigest)
  | none => do
    let h ← Attempt.get
    Attempt.modify fun h ↦ { h with retrievalQueries := h.retrievalQueries.erase spanKey }
    pure (h.retrievalQueries.get? spanKey)

/-- What is recorded of a retrieval, `integrations/native_llamaindex.py:147–198`. -/
def recordEnd (eventId : Text) (nodes : Option (Except PyError (List RetrievedNode)))
    (time : ObservedTime) (queryDigest : Option Text) : Attempt (Recorder σ) Unit :=
  match options.retrievalContext, queryDigest, nodes with
  | some context, some queryDigest, some nodes =>
    Recorder.capturing sink isCallbackError (lit "llamaindex.retrieval_contract")
      (eventRetrieval eventId context queryDigest nodes time)
  | _, _, _ => Recorder.fail sink (lit "llamaindex.retrieval_missing")
      ⟨.valueError, lit "missing observed retrieval context"⟩

/-- A retrieval ends, `integrations/native_llamaindex.py:139–199`. -/
def retrievalEnd (eventId spanKey : Text) (event : InstrumentationEvent) (time : ObservedTime) :
    Attempt (EventHandler σ) Unit := do
  let queryDigest ← endedQuery spanKey event.query
  noting (recordEnd sink options eventId event.nodes time queryDigest)
  Attempt.modify fun h ↦ { h with retrievalQueries := h.retrievalQueries.erase spanKey }

/-- What an event is of. -/
inductive Retrieval where
  | start
  | finish
  | neither
  deriving DecidableEq

/-- `integrations/native_llamaindex.py:129` and `139`. -/
def retrievalOf (operation : Text) : Retrieval :=
  if operation = lit "RetrievalStartEvent" then .start
  else if operation = lit "RetrievalEndEvent" then .finish
  else .neither

/-- What is done about the retrieval of an event with a time. -/
def retrieve (eventId spanKey operation : Text) (event : InstrumentationEvent)
    (time : ObservedTime) : Attempt (EventHandler σ) Unit :=
  match retrievalOf operation with
  | .start => retrievalStart limit sink spanKey event.query
  | .finish => retrievalEnd sink options eventId spanKey event time
  | .neither => pure ()

/-- What is done about a new event, `integrations/native_llamaindex.py:110–215`. -/
def handleNew (eventId : Text) (event : InstrumentationEvent) (now : Datetime) :
    Attempt (EventHandler σ) Unit := do
  let operation ← Attempt.lift event.operation
  match event.timestamp with
  | none => noting (Recorder.fail sink (lit "llamaindex.timestamp_missing")
      ⟨.valueError, lit "LlamaIndex event has no timestamp"⟩)
  | some timestamp =>
    match eventTime now timestamp with
    | .error exc =>
      if exc.kind.isValueError then
        noting (Recorder.fail sink (lit "llamaindex.timestamp_invalid") exc)
      else Attempt.lift (.error exc)
    | .ok time => do
      let spanKey := event.spanId.getD eventId
      retrieve limit sink options eventId spanKey operation event time
      noting (Recorder.capture sink (eventObservation isPrintable eventId spanKey operation time))

/-- `handle`, `integrations/native_llamaindex.py:102–217`; the handler's limit is `stateLimit`. -/
def handleEvent (event : InstrumentationEvent) (now : Datetime) :
    Attempt (EventHandler σ) Unit :=
  Attempt.catching isCallbackError (do
    let eventId ← Attempt.lift
      (orRaise ⟨.valueError, lit "LlamaIndex event has no native identity"⟩ event.id)
    let h ← Attempt.get
    Attempt.modify fun h ↦ (h.firstEvent limit eventId).2
    if (h.firstEvent limit eventId).1 then
      handleNew limit sink options isPrintable eventId event now
    else pure ())
    fun exc ↦ noting (Recorder.fail sink (lit "llamaindex.event") exc)

end Handler

end StateWake.Integrations
