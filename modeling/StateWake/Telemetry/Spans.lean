import StateWake.Base.Sessions
import StateWake.Telemetry.Projection

/-!
# The spans of runs

`OpenTelemetryTelemetrySink`, `adapters/opentelemetry.py:23–128`: one span a run, kept under the
run's identifier between its `run.started` and its terminal event. The tracer is a log of calls
that succeed. The spans of the log are the sessions of the events accepted, as long as no run is
started while its span is open: the span that a second start replaces is never ended.
-/

namespace StateWake.Telemetry

open StateWake.Base Text Reliability

/-- An event added to a span. -/
structure SpanEvent where
  name : Text
  attributes : Dict Text
  timestamp : Int
  deriving DecidableEq

/-- A call of the tracer or of a span. A span is numbered by the spans started before it. -/
inductive TracerCall where
  | startSpan (name : Text) (attributes : Dict Text) (startTime : Int)
  | addEvent (span : Nat) (event : SpanEvent)
  | setStatus (span : Nat) (success : Bool)
  | endSpan (span : Nat) (endTime : Option Int)
  deriving DecidableEq

section

variable (log : List TracerCall)

/-- The number of spans started. -/
def started : Nat := log.countP fun | .startSpan .. => true | _ => false

/-- The events of a span, in order. -/
def eventsOf (span : Nat) : List SpanEvent :=
  log.filterMap fun
    | .addEvent i event => if i = span then some event else none
    | _ => none

/-- How often a span was ended. -/
def endsOf (span : Nat) : Nat :=
  log.countP fun | .endSpan i _ => decide (i = span) | _ => false

variable (more : List TracerCall)

@[simp] theorem started_append : started (log ++ more) = started log + started more :=
  List.countP_append

@[simp] theorem eventsOf_append (span : Nat) :
    eventsOf (log ++ more) span = eventsOf log span ++ eventsOf more span :=
  List.filterMap_append

@[simp] theorem endsOf_append (span : Nat) :
    endsOf (log ++ more) span = endsOf log span + endsOf more span :=
  List.countP_append

end

/-- The calls made, and `_spans`. -/
structure SinkState where
  log : List TracerCall
  spans : Dict Nat

def SinkState.empty : SinkState := ⟨[], []⟩

/-- `OpenTelemetryTelemetrySink.__init__`, `adapters/opentelemetry.py:30–56`. -/
structure Sink where
  redactor : Option Redactor
  privacyGovernance : Option PrivacyGovernanceRuntimeConfig

namespace Sink

/-- The constructor's checks and the redactor in effect. The tracer is there. -/
def create (privacyPolicy : Option Redactor)
    (privacyGovernance : Option PrivacyGovernanceRuntimeConfig) : Except PyError Sink := do
  require ⟨.valueError, lit "privacy_policy and privacy_governance are mutually exclusive"⟩
    (!(privacyPolicy.isSome && privacyGovernance.isSome))
  pure ⟨(privacyGovernance.map PrivacyGovernanceRuntimeConfig.redactor).or privacyPolicy,
    privacyGovernance⟩

/-- What an event asks for: a span for a run, or an event of the run's span, with the status where
the event is terminal. -/
inductive Delivery where
  | start (runId name : Text) (attributes : Dict Text) (startTime : Int)
  | note (runId : Text) (event : SpanEvent) (terminal : Option Bool)

/-- The arguments of `emit`. -/
structure Call where
  event : EventEnvelope
  evidenceManifest : Option EvidenceManifest

variable (sink : Sink)

/-- The attributes of the span of a run, `adapters/opentelemetry.py:71–81`. -/
def startAttributes (event : EventEnvelope) (evidenceManifest : Option EvidenceManifest) :
    Except PyError (Dict Text) :=
  match evidenceManifest with
  | none => .ok (spanAttributes event)
  | some manifest => do
    let runtime ← orRaise
      ⟨.valueError, lit "evidence telemetry projection requires privacy_governance"⟩
      sink.privacyGovernance
    pure ((evidenceGovernanceAttributes manifest runtime).foldl (fun d m ↦ d.set m.1 m.2)
      (spanAttributes event))

/-- Whether an event is terminal, and a success. -/
def terminalStatus (eventType : Text) : Option Bool :=
  if eventType = lit "run.completed" then some true
  else if eventType = lit "run.failed" then some false
  else none

/-- What `emit` makes of its arguments before it looks a span up,
`adapters/opentelemetry.py:65–87`. -/
def deliver (call : Call) : Except PyError Delivery := do
  let event ← sink.redactor.elim (.ok call.event) fun r ↦ r.redactEvent call.event
  let timestamp ← timestampNs event.val.occurredAt
  require ⟨.valueError, lit "evidence manifest run_id does not match telemetry event"⟩
    (call.evidenceManifest.all fun manifest ↦ decide (manifest.runId = event.val.runId))
  if event.val.eventType = lit "run.started" then do
    let attributes ← sink.startAttributes event call.evidenceManifest
    pure (.start event.val.runId ((event.val.name.filter (!·.isEmpty)).getD (lit "agent.run"))
      attributes timestamp)
  else
    pure (.note event.val.runId ⟨event.val.eventType, eventAttributes event, timestamp⟩
      (terminalStatus event.val.eventType))

/-- `emit`, `adapters/opentelemetry.py:58–100`. -/
def emit (call : Call) (s : SinkState) : Except PyError Unit × SinkState :=
  match sink.deliver call with
  | .error e => (.error e, s)
  | .ok (.start runId name attributes startTime) =>
    (.ok (), ⟨s.log ++ [.startSpan name attributes startTime], s.spans.set runId (started s.log)⟩)
  | .ok (.note runId event terminal) =>
    match s.spans.get? runId with
    | none => (valueError (lit "Received non-start event before run.started."), s)
    | some span =>
      match terminal with
      | none => (.ok (), ⟨s.log ++ [.addEvent span event], s.spans⟩)
      | some success =>
        (.ok (), ⟨s.log ++ [.addEvent span event, .setStatus span success,
          .endSpan span (some event.timestamp)], s.spans.erase runId⟩)

/-- `close`, `adapters/opentelemetry.py:102–107`. -/
def close (s : SinkState) : SinkState :=
  ⟨s.log ++ s.spans.flatMap fun m ↦ [.setStatus m.2 false, .endSpan m.2 none], []⟩

/-- The state after calls, whatever they raise. -/
def emitAll (calls : List Call) (s : SinkState) : SinkState :=
  calls.foldl (fun s call ↦ (sink.emit call s).2) s

/-- What is asked for by the calls that return. -/
def accepted : List Call → SinkState → List Delivery
  | [], _ => []
  | call :: calls, s =>
    match sink.deliver call, (sink.emit call s).1 with
    | .ok delivery, .ok () => delivery :: accepted calls (sink.emit call s).2
    | _, _ => accepted calls (sink.emit call s).2

/-- The spans that deliveries start. -/
def starts (deliveries : List Delivery) : Nat :=
  deliveries.countP fun | .start .. => true | .note .. => false

/-- The events of a run, through its terminal event. -/
def eventsThrough (runId : Text) : List Delivery → List SpanEvent
  | [] => []
  | .start .. :: rest => eventsThrough runId rest
  | .note r event terminal :: rest =>
    if runId = r then if terminal.isSome then [event] else event :: eventsThrough runId rest
    else eventsThrough runId rest

/-- `export_recorded_run`, `adapters/opentelemetry.py:110–128`: the first event that raises ends the
run, and the sink is closed in any case. -/
def exportRecordedRun (evidenceManifest : Option EvidenceManifest) :
    List EventEnvelope → SinkState → Except PyError Unit × SinkState
  | [], s => (.ok (), close s)
  | event :: events, s =>
    match sink.emit ⟨event, evidenceManifest⟩ s with
    | (.error e, s) => (.error e, close s)
    | (.ok (), s) => exportRecordedRun evidenceManifest events s

/-- The log of calls, once the sink is closed. -/
def finalLog (calls : List Call) : List TracerCall := (close (sink.emitAll calls .empty)).log

/-- The calls conserve spans: once the sink is closed every span is ended once, a span has the
events accepted for its run from its start through its terminal event, and a call that raises has
changed nothing. -/
structure Conserved (calls : List Call) : Prop where
  ended : ∀ span < started (sink.finalLog calls), endsOf (sink.finalLog calls) span = 1
  events : ∀ before runId name attributes startTime after,
    sink.accepted calls .empty = before ++ .start runId name attributes startTime :: after →
      eventsOf (sink.finalLog calls) (starts before) = eventsThrough runId after
  raised : ∀ before call after e, calls = before ++ call :: after →
    (sink.emit call (sink.emitAll before .empty)).1 = .error e →
      (sink.emit call (sink.emitAll before .empty)).2 = sink.emitAll before .empty

/-- No run is started while its span is open. -/
def StartsApart : List Call → SinkState → Prop
  | [], _ => True
  | call :: calls, s =>
    (∀ runId name attributes startTime, sink.deliver call =
      .ok (.start runId name attributes startTime) → s.spans.get? runId = none) ∧
      StartsApart calls (sink.emit call s).2

/-! ### Deliveries as sessions -/

/-- A span of the table: its run, its events with the status each sets, and whether it ended. -/
abbrev Span := Sessions.Session Text (SpanEvent × Option Bool)

/-- What a delivery is to the table of spans. -/
def Delivery.input : Delivery → Sessions.Input Text (SpanEvent × Option Bool)
  | .start runId .. => .opens runId
  | .note runId event terminal => .adds runId (event, terminal)

/-- Whether an event ends its span. -/
def isTerminal (item : SpanEvent × Option Bool) : Bool := item.2.isSome

theorem starts_eq_opened (deliveries : List Delivery) :
    starts deliveries = Sessions.opened (deliveries.map Delivery.input) := by
  induction deliveries with
  | nil => rfl
  | cons d deliveries ih =>
    rw [starts, List.countP_cons, ← starts, ih, List.map_cons]
    cases d <;> rfl

theorem eventsThrough_eq_itemsOf (runId : Text) (deliveries : List Delivery) :
    eventsThrough runId deliveries =
      (Sessions.itemsOf isTerminal runId (deliveries.map Delivery.input)).map Prod.fst := by
  induction deliveries with
  | nil => rfl
  | cons d deliveries ih =>
    cases d with
    | start => exact ih
    | note r event terminal =>
      rw [eventsThrough, ih, List.map_cons, Delivery.input, Sessions.itemsOf, isTerminal]
      split
      · split <;> rfl
      · rfl

/-- A state holds the table of spans: the log has the events and the ends of each, and `_spans`
finds those that are open. -/
structure Represents (s : SinkState) (table : List Span) : Prop where
  started : started s.log = table.length
  events : ∀ i span, table[i]? = some span → eventsOf s.log i = span.items.map Prod.fst
  ends : ∀ i span, table[i]? = some span → endsOf s.log i = if span.closed then 1 else 0
  fresh : ∀ i, table.length ≤ i → eventsOf s.log i = [] ∧ endsOf s.log i = 0
  spans : ∀ runId i, s.spans.get? runId = some i ↔ ∃ items, table[i]? = some ⟨runId, items, false⟩
  distinct : s.spans.Distinct

variable {sink} {call : Call} {calls : List Call} {s : SinkState} {table : List Span}

theorem represents_empty : Represents .empty [] where
  started := rfl
  events _ _ h := by cases h
  ends _ _ h := by cases h
  fresh _ _ := ⟨rfl, rfl⟩
  spans _ _ := by simp [SinkState.empty]
  distinct := List.nodup_nil

/-- A call that raises changes nothing. -/
theorem emit_of_error {e : PyError} (h : (sink.emit call s).1 = .error e) :
    (sink.emit call s).2 = s := by
  rw [emit] at h ⊢
  split
  · rfl
  · next hd =>
    rw [hd] at h
    cases h
  · next runId event terminal hd =>
    rw [hd] at h
    dsimp only at h ⊢
    cases hspan : s.spans.get? runId with
    | none => rfl
    | some span =>
      rw [hspan] at h
      cases terminal <;> cases h

/-- A run that has no open span is given one. -/
theorem Represents.start (h : Represents s table) {runId : Text} (hfree : s.spans.get? runId = none)
    (name : Text) (attributes : Dict Text) (startTime : Int) :
    Represents ⟨s.log ++ [.startSpan name attributes startTime],
      s.spans.set runId (Telemetry.started s.log)⟩ (table ++ [⟨runId, [], false⟩]) where
  started := by
    rw [started_append, h.started, List.length_append]
    rfl
  events i span hi := by
    rw [eventsOf_append, show eventsOf [.startSpan name attributes startTime] i = [] from rfl,
      List.append_nil]
    by_cases hlt : i < table.length
    · rw [List.getElem?_append_left hlt] at hi
      exact h.events i span hi
    · rw [List.getElem?_append_right (Nat.le_of_not_lt hlt)] at hi
      rw [(h.fresh i (Nat.le_of_not_lt hlt)).1, List.mem_singleton.mp (List.mem_of_getElem? hi)]
      rfl
  ends i span hi := by
    rw [endsOf_append, show endsOf [.startSpan name attributes startTime] i = 0 from rfl,
      Nat.add_zero]
    by_cases hlt : i < table.length
    · rw [List.getElem?_append_left hlt] at hi
      exact h.ends i span hi
    · rw [List.getElem?_append_right (Nat.le_of_not_lt hlt)] at hi
      rw [(h.fresh i (Nat.le_of_not_lt hlt)).2, List.mem_singleton.mp (List.mem_of_getElem? hi)]
      rfl
  fresh i hi := by
    rw [List.length_append] at hi
    have hold := h.fresh i (by omega)
    rw [eventsOf_append, endsOf_append, hold.1, hold.2]
    exact ⟨rfl, rfl⟩
  spans r i := by
    rw [Dict.get?_set, h.started]
    by_cases hr : r = runId
    · rw [if_pos hr, Option.some.injEq, hr]
      constructor
      · rintro rfl
        exact ⟨[], List.getElem?_concat_length⟩
      · rintro ⟨items, hi⟩
        by_contra hne
        have hlt : i < table.length := by
          have := (List.getElem?_eq_some_iff.mp hi).1
          rw [List.length_append, List.length_singleton] at this
          omega
        rw [List.getElem?_append_left hlt] at hi
        rw [(h.spans runId i).mpr ⟨items, hi⟩] at hfree
        cases hfree
    · rw [if_neg hr, h.spans r i]
      apply exists_congr
      intro items
      by_cases hlt : i < table.length
      · rw [List.getElem?_append_left hlt]
      · rw [List.getElem?_append_right (Nat.le_of_not_lt hlt),
          List.getElem?_eq_none (Nat.le_of_not_lt hlt)]
        constructor
        · nofun
        · intro hi
          have heq := List.mem_singleton.mp (List.mem_of_getElem? hi)
          rw [Sessions.Session.mk.injEq] at heq
          exact absurd heq.1 hr
  distinct := h.distinct.set runId _

/-- An event is added to the open span of its run, which ends where the event is terminal. -/
theorem Represents.note (h : Represents s table) {runId : Text} {j : Nat}
    (hspan : s.spans.get? runId = some j) {event : SpanEvent} {terminal : Option Bool}
    {more : List TracerCall} {spans : Dict Nat} (hstarted : Telemetry.started more = 0)
    (hevents : ∀ i, eventsOf more i = if i = j then [event] else [])
    (hends : ∀ i, endsOf more i = if i = j ∧ terminal.isSome = true then 1 else 0)
    (hspans : ∀ r, spans.get? r =
      if r = runId ∧ terminal.isSome = true then none else s.spans.get? r)
    (hdistinct : spans.Distinct) :
    Represents ⟨s.log ++ more, spans⟩
      (table.map fun t ↦ t.receive isTerminal runId (event, terminal)) := by
  obtain ⟨old, hold⟩ := (h.spans runId j).mp hspan
  have hreceive : ∀ i t, table[i]? = some t → (t.receive isTerminal runId (event, terminal) =
      if i = j then ⟨runId, old ++ [(event, terminal)], terminal.isSome⟩ else t) := by
    intro i t ht
    by_cases hij : i = j
    · rw [hij, hold, Option.some.injEq] at ht
      rw [if_pos hij, ← ht, Sessions.Session.receive, if_pos ⟨rfl, rfl⟩]
      rfl
    · rw [if_neg hij, Sessions.Session.receive, if_neg]
      rintro ⟨hkey, hopen⟩
      have hother : s.spans.get? runId = some i := by
        rw [h.spans]
        refine ⟨t.items, ?_⟩
        rw [ht, ← hkey, ← hopen]
      rw [hspan, Option.some.injEq] at hother
      exact hij hother.symm
  have hget : ∀ i, (table.map fun t ↦ t.receive isTerminal runId (event, terminal))[i]? =
      table[i]?.map fun t ↦
        if i = j then ⟨runId, old ++ [(event, terminal)], terminal.isSome⟩ else t := by
    intro i
    rw [List.getElem?_map]
    cases ht : table[i]? with
    | none => rfl
    | some t => rw [Option.map_some, Option.map_some, hreceive i t ht]
  have hj : j < table.length := (List.getElem?_eq_some_iff.mp hold).1
  constructor
  · rw [started_append, hstarted, h.started, List.length_map]
    rfl
  · intro i t ht
    obtain ⟨u, hu, rfl⟩ := Option.map_eq_some_iff.mp ((hget i).symm.trans ht)
    rw [eventsOf_append, hevents, h.events i u hu]
    by_cases hij : i = j
    · rw [hij, hold, Option.some.injEq] at hu
      rw [if_pos hij, if_pos hij, ← hu, List.map_append]
      rfl
    · rw [if_neg hij, if_neg hij, List.append_nil]
  · intro i t ht
    obtain ⟨u, hu, rfl⟩ := Option.map_eq_some_iff.mp ((hget i).symm.trans ht)
    rw [endsOf_append, hends, h.ends i u hu]
    by_cases hij : i = j
    · rw [hij, hold, Option.some.injEq] at hu
      rw [if_pos hij, ← hu]
      simp [hij]
    · simp [hij]
  · intro i hi
    rw [List.length_map] at hi
    have hij : i ≠ j := by omega
    rw [eventsOf_append, endsOf_append, hevents, hends, (h.fresh i hi).1, (h.fresh i hi).2,
      if_neg hij, if_neg fun hc ↦ hij hc.1]
    exact ⟨rfl, rfl⟩
  · intro r i
    rw [hspans]
    by_cases hr : r = runId
    · -- the run's own span is open afterwards exactly if the event is not terminal
      rw [hr]
      by_cases hterminal : terminal.isSome = true
      · rw [if_pos ⟨rfl, hterminal⟩]
        constructor
        · intro h
          cases h
        · rintro ⟨items, hi⟩
          obtain ⟨u, hu, heq⟩ := Option.map_eq_some_iff.mp ((hget i).symm.trans hi)
          by_cases hij : i = j
          · rw [if_pos hij, Sessions.Session.mk.injEq, hterminal] at heq
            cases heq.2.2
          · rw [if_neg hij] at heq
            have hother := (h.spans runId i).mpr ⟨items, heq ▸ hu⟩
            rw [hspan, Option.some.injEq] at hother
            exact absurd hother.symm hij
      · rw [if_neg fun hc ↦ hterminal hc.2, hspan, Option.some.injEq]
        constructor
        · rintro rfl
          refine ⟨old ++ [(event, terminal)], ?_⟩
          rw [hget, hold, Option.map_some, if_pos rfl, Bool.not_eq_true] at *
          rw [hterminal]
        · rintro ⟨items, hi⟩
          by_contra hij
          obtain ⟨u, hu, heq⟩ := Option.map_eq_some_iff.mp ((hget i).symm.trans hi)
          rw [if_neg fun hc ↦ hij hc.symm] at heq
          have hother := (h.spans runId i).mpr ⟨items, heq ▸ hu⟩
          rw [hspan, Option.some.injEq] at hother
          exact hij hother
    · rw [if_neg fun hc ↦ hr hc.1, h.spans r i]
      apply exists_congr
      intro items
      rw [hget]
      by_cases hij : i = j
      · rw [hij, hold, Option.map_some, if_pos rfl]
        simp only [Option.some.injEq, Sessions.Session.mk.injEq]
        exact ⟨fun hc ↦ absurd hc.1.symm hr, fun hc ↦ absurd hc.1.symm hr⟩
      · cases table[i]? with
        | none => rfl
        | some t => rw [Option.map_some, if_neg hij]
  · exact hdistinct

/-- What a call adds to the deliveries accepted, if it starts no run whose span is open, is what it
does to the table of spans. -/
theorem Represents.emit (h : Represents s table)
    (hfree : ∀ runId name attributes startTime,
      sink.deliver call = .ok (.start runId name attributes startTime) →
        s.spans.get? runId = none) :
    ∃ new : List Delivery,
      (∀ calls, sink.accepted (call :: calls) s = new ++ sink.accepted calls (sink.emit call s).2) ∧
      Represents (sink.emit call s).2
        ((new.map Delivery.input).foldl (Sessions.step isTerminal) table) := by
  cases hd : sink.deliver call with
  | error e =>
    have hemit : sink.emit call s = (.error e, s) := by rw [Sink.emit, hd]
    refine ⟨[], fun calls ↦ ?_, by rw [hemit]; exact h⟩
    rw [accepted, hd, hemit]
    rfl
  | ok delivery =>
    cases delivery with
    | start runId name attributes startTime =>
      have hemit : sink.emit call s = (.ok (), ⟨s.log ++ [.startSpan name attributes startTime],
          s.spans.set runId (Telemetry.started s.log)⟩) := by rw [Sink.emit, hd]
      refine ⟨[.start runId name attributes startTime], fun calls ↦ ?_, ?_⟩
      · rw [accepted, hd, hemit]
        rfl
      · rw [hemit]
        exact h.start (hfree _ _ _ _ hd) name attributes startTime
    | note runId event terminal =>
      cases hspan : s.spans.get? runId with
      | none =>
        have hemit : sink.emit call s =
            (valueError (lit "Received non-start event before run.started."), s) := by
          rw [Sink.emit, hd]
          dsimp only
          rw [hspan]
        refine ⟨[], fun calls ↦ ?_, by rw [hemit]; exact h⟩
        rw [accepted, hd, hemit]
        rfl
      | some span =>
        refine ⟨[.note runId event terminal], fun calls ↦ ?_, ?_⟩
        · rw [accepted, hd, Sink.emit, hd]
          dsimp only
          rw [hspan]
          cases terminal <;> rfl
        · rw [Sink.emit, hd]
          dsimp only
          rw [hspan]
          cases terminal with
          | none =>
            apply h.note hspan rfl
            · intro i
              simp only [eventsOf, List.filterMap_cons, List.filterMap_nil, eq_comm]
              split <;> rfl
            · intro i
              rw [if_neg (by simp)]
              rfl
            · intro r
              rw [if_neg (by simp)]
            · exact h.distinct
          | some success =>
            apply h.note hspan rfl
            · intro i
              simp only [eventsOf, List.filterMap_cons, List.filterMap_nil, eq_comm]
              split <;> rfl
            · intro i
              simp [endsOf, List.countP_cons, eq_comm]
            · intro r
              simp
            · exact h.distinct.erase runId

/-- Calls that start no run whose span is open leave the table of the deliveries accepted. -/
theorem Represents.emitAll (h : Represents s table) (hapart : sink.StartsApart calls s) :
    Represents (sink.emitAll calls s)
      (((sink.accepted calls s).map Delivery.input).foldl (Sessions.step isTerminal) table) := by
  induction calls generalizing s table with
  | nil => exact h
  | cons call calls ih =>
    obtain ⟨new, haccepted, hstep⟩ := h.emit hapart.1
    rw [haccepted, List.map_append, List.foldl_append]
    exact ih hstep hapart.2

/-! ### Closing -/

/-- Closing ends the spans that `_spans` finds. -/
theorem endsOf_close (s : SinkState) (i : Nat) :
    endsOf (close s).log i = endsOf s.log i + s.spans.countP fun m ↦ decide (m.2 = i) := by
  rw [close, endsOf_append]
  congr 1
  induction s.spans with
  | nil => rfl
  | cons m spans ih =>
    have hends : endsOf [.setStatus m.2 false, .endSpan m.2 none] i =
        if decide (m.2 = i) = true then 1 else 0 := by
      simp [endsOf, List.countP_cons]
    rw [List.flatMap_cons, endsOf_append, ih, List.countP_cons, hends, Nat.add_comm]

theorem eventsOf_close (s : SinkState) (i : Nat) : eventsOf (close s).log i = eventsOf s.log i := by
  rw [close, eventsOf_append]
  have hnone : eventsOf (s.spans.flatMap fun m ↦ [.setStatus m.2 false, .endSpan m.2 none]) i =
      [] := by
    induction s.spans with
    | nil => rfl
    | cons m spans ih =>
      rw [List.flatMap_cons, eventsOf_append, ih]
      rfl
  rw [hnone, List.append_nil]

theorem started_close (s : SinkState) : started (close s).log = started s.log := by
  rw [close, started_append]
  have hnone : started (s.spans.flatMap fun m ↦ [.setStatus m.2 false, .endSpan m.2 none]) = 0 := by
    induction s.spans with
    | nil => rfl
    | cons m spans ih =>
      rw [List.flatMap_cons, started_append, ih]
      rfl
  rw [hnone, Nat.add_zero]

/-- The open spans of a table are found once each. -/
theorem Represents.countP_spans (h : Represents s table) {i : Nat} {span : Span}
    (hi : table[i]? = some span) :
    (s.spans.countP fun m ↦ decide (m.2 = i)) = if span.closed then 0 else 1 := by
  have hmem : ∀ m ∈ s.spans, m.2 = i ↔ m = (span.key, i) ∧ span.closed = false := by
    intro m hm
    have hget : s.spans.get? m.1 = some m.2 := (Dict.get?_eq_some_iff h.distinct).mpr hm
    constructor
    · intro hmi
      obtain ⟨items, hitems⟩ := (h.spans m.1 i).mp (by rw [hget, hmi])
      rw [hi, Option.some.injEq] at hitems
      rw [hitems]
      exact ⟨Prod.ext rfl hmi, rfl⟩
    · rintro ⟨rfl, -⟩
      rfl
  cases hclosed : span.closed with
  | true =>
    rw [if_pos rfl, List.countP_eq_zero]
    intro m hm
    rw [decide_eq_true_eq, hmem m hm, hclosed]
    simp
  | false =>
    have hopen : (span.key, i) ∈ s.spans := by
      rw [← Dict.get?_eq_some_iff h.distinct, h.spans]
      refine ⟨span.items, ?_⟩
      rw [hi, ← hclosed]
    have hnodup : s.spans.Nodup := List.Nodup.of_map Prod.fst h.distinct
    rw [if_neg Bool.false_ne_true, ← List.count_eq_one_of_mem hnodup hopen, List.count]
    apply List.countP_congr
    intro m hm
    rw [decide_eq_true_eq, hmem m hm, beq_iff_eq]
    exact and_iff_left hclosed

/-! ### Spans that are lost -/

/-- A span was started, is not ended, and is not found in `_spans`. -/
structure Lost (s : SinkState) (span : Nat) : Prop where
  started : span < Telemetry.started s.log
  unended : endsOf s.log span = 0
  unfound : ∀ runId, s.spans.get? runId ≠ some span
  distinct : s.spans.Distinct

/-- A lost span stays lost. -/
theorem Lost.emit {span : Nat} (h : Lost s span) : Lost (sink.emit call s).2 span := by
  rw [Sink.emit]
  split
  · exact h
  · next runId name attributes startTime _ =>
    constructor
    · rw [started_append]
      exact Nat.lt_add_right _ h.started
    · rw [endsOf_append, h.unended]
      rfl
    · intro r
      rw [Dict.get?_set]
      split
      · intro heq
        have hlt := h.started
        rw [Option.some.inj heq] at hlt
        exact Nat.lt_irrefl _ hlt
      · exact h.unfound r
    · exact h.distinct.set runId _
  · next runId event terminal _ =>
    cases hspan : s.spans.get? runId with
    | none => exact h
    | some other =>
      have hne : other ≠ span := fun heq ↦ h.unfound runId (heq ▸ hspan)
      cases terminal with
      | none =>
        constructor
        · rw [started_append]
          exact Nat.lt_add_right _ h.started
        · rw [endsOf_append, h.unended]
          rfl
        · exact h.unfound
        · exact h.distinct
      | some success =>
        constructor
        · rw [started_append]
          exact Nat.lt_add_right _ h.started
        · rw [endsOf_append, h.unended]
          simp [endsOf, hne]
        · intro r
          rw [Dict.get?_erase]
          split
          · nofun
          · exact h.unfound r
        · exact h.distinct.erase runId

theorem Lost.emitAll {span : Nat} (h : Lost s span) : Lost (sink.emitAll calls s) span := by
  induction calls generalizing s with
  | nil => exact h
  | cons call calls ih => exact ih h.emit

/-- A start of a run whose span is open loses that span. -/
theorem Represents.lost (h : Represents s table) {runId : Text} {span : Nat}
    (hspan : s.spans.get? runId = some span) {name : Text} {attributes : Dict Text}
    {startTime : Int}
    (hd : sink.deliver call = .ok (.start runId name attributes startTime)) :
    Lost (sink.emit call s).2 span := by
  obtain ⟨items, hitems⟩ := (h.spans runId span).mp hspan
  have hlt : span < Telemetry.started s.log := by
    rw [h.started]
    exact (List.getElem?_eq_some_iff.mp hitems).1
  rw [Sink.emit, hd]
  constructor
  · rw [started_append]
    exact Nat.lt_add_right _ hlt
  · rw [endsOf_append, h.ends span _ hitems]
    rfl
  · intro r
    rw [Dict.get?_set]
    split
    · intro heq
      rw [Option.some.inj heq] at hlt
      exact Nat.lt_irrefl _ hlt
    · next hr =>
      intro hother
      obtain ⟨_, hsame⟩ := (h.spans r span).mp hother
      rw [hitems, Option.some.injEq, Sessions.Session.mk.injEq] at hsame
      exact hr hsame.1.symm
  · exact h.distinct.set runId _

/-- Calls that start a run whose span is open lose a span. -/
theorem Represents.exists_lost (h : Represents s table) (hapart : ¬sink.StartsApart calls s) :
    ∃ span, Lost (sink.emitAll calls s) span := by
  induction calls generalizing s table with
  | nil => exact absurd trivial hapart
  | cons call calls ih =>
    by_cases hfree : ∀ runId name attributes startTime,
        sink.deliver call = .ok (.start runId name attributes startTime) →
          s.spans.get? runId = none
    · obtain ⟨new, -, hstep⟩ := h.emit hfree
      exact ih hstep fun hrest ↦ hapart ⟨hfree, hrest⟩
    · push Not at hfree
      obtain ⟨runId, name, attributes, startTime, hd, hopen⟩ := hfree
      obtain ⟨span, hspan⟩ := Option.ne_none_iff_exists'.mp hopen
      exact ⟨span, (h.lost hspan hd).emitAll⟩

/-- Lost spans are not ended by closing the sink. -/
theorem not_conserved_of_lost {span : Nat} (h : Lost (sink.emitAll calls .empty) span) :
    ¬sink.Conserved calls := by
  intro hc
  have hended := hc.ended span (by
    rw [finalLog, started_close]
    exact h.started)
  have hnone : ((sink.emitAll calls .empty).spans.countP fun m ↦ decide (m.2 = span)) = 0 := by
    rw [List.countP_eq_zero]
    intro m hm
    rw [decide_eq_true_eq]
    intro heq
    apply h.unfound m.1
    rw [← heq]
    exact (Dict.get?_eq_some_iff h.distinct).mpr hm
  rw [finalLog, endsOf_close, h.unended, hnone] at hended
  cases hended

/-- Spans are conserved exactly when no run is started while its span is open. -/
theorem conserved_iff (sink : Sink) (calls : List Call) :
    sink.Conserved calls ↔ sink.StartsApart calls .empty := by
  constructor
  · intro hc
    by_contra hapart
    obtain ⟨span, hlost⟩ := represents_empty.exists_lost hapart
    exact not_conserved_of_lost hlost hc
  · intro hapart
    have hr := represents_empty.emitAll hapart
    change Represents _ (Sessions.run isTerminal _) at hr
    constructor
    · intro span hspan
      rw [finalLog, started_close, hr.started] at hspan
      obtain ⟨t, ht⟩ : ∃ t, (Sessions.run isTerminal
          ((sink.accepted calls .empty).map Delivery.input))[span]? = some t :=
        ⟨_, List.getElem?_eq_getElem hspan⟩
      rw [finalLog, endsOf_close, hr.ends span t ht, hr.countP_spans ht]
      cases t.closed <;> rfl
    · intro before runId name attributes startTime after haccepted
      have ht := @Sessions.run_opens _ _ _ isTerminal (before.map Delivery.input) runId
        (after.map Delivery.input)
      rw [haccepted, List.map_append, List.map_cons] at hr
      rw [finalLog, eventsOf_close, starts_eq_opened, hr.events _ _ ht, eventsThrough_eq_itemsOf]
    · intro before call after e _ hraised
      exact emit_of_error hraised

/-- An export is some of its events, from the first on, and the closing of the sink. -/
theorem exportRecordedRun_eq (evidenceManifest : Option EvidenceManifest)
    (events : List EventEnvelope) (s : SinkState) : ∃ exported, exported <+: events ∧
      (sink.exportRecordedRun evidenceManifest events s).2 =
        close (sink.emitAll (exported.map fun event ↦ ⟨event, evidenceManifest⟩) s) := by
  induction events generalizing s with
  | nil => exact ⟨[], List.prefix_rfl, rfl⟩
  | cons event events ih =>
    rw [exportRecordedRun]
    cases hemit : sink.emit ⟨event, evidenceManifest⟩ s with
    | mk result s' =>
      cases result with
      | error e =>
        have hsame := @emit_of_error sink ⟨event, evidenceManifest⟩ s e (by rw [hemit])
        rw [hemit] at hsame
        exact ⟨[], List.nil_prefix, congrArg close hsame⟩
      | ok _ =>
        obtain ⟨exported, hprefix, heq⟩ := ih s'
        refine ⟨event :: exported, List.prefix_cons_inj event |>.mpr hprefix, ?_⟩
        dsimp only
        rw [heq, List.map_cons, emitAll, emitAll, List.foldl_cons, hemit]

/-! ### A run started twice -/

/-- The start of a run. -/
private def startedRun : EventEnvelope :=
  ⟨⟨lit "run", 0, .ofUtc Lifecycle.RetentionAdapter.epoch, lit "run.started", lit "agent", none,
    none, none, []⟩, by decide⟩

private theorem deliver_startedRun : ∃ name attributes startTime,
    (⟨none, none⟩ : Sink).deliver ⟨startedRun, none⟩ =
      .ok (.start (lit "run") name attributes startTime) := by
  have htime : ∃ n, timestampNs startedRun.val.occurredAt = .ok n := ⟨_, by
    rw [timestampNs, show startedRun.val.occurredAt = .ofUtc Lifecycle.RetentionAdapter.epoch from
      rfl, AwareDatetime.toUtc_ofUtc]
    rfl⟩
  obtain ⟨n, hn⟩ := htime
  have htype : startedRun.val.eventType = lit "run.started" := rfl
  exact ⟨lit "agent.run", spanAttributes startedRun, n, by
    rw [deliver]
    dsimp only [Option.elim_none]
    rw [ok_bind, hn, ok_bind, Option.all_none, require_true, ok_bind, if_pos htype]
    rfl⟩

/-- A run that is started twice keeps its first span open. -/
theorem not_conserved : ¬∀ (sink : Sink) (calls : List Call), sink.Conserved calls := by
  intro hall
  obtain ⟨name, attributes, startTime, hd⟩ := deliver_startedRun
  have hemit : (Sink.emit ⟨none, none⟩ ⟨startedRun, none⟩ .empty).2.spans.get? (lit "run") =
      some 0 := by
    rw [emit, hd]
    rfl
  have htwice : ¬(⟨none, none⟩ : Sink).StartsApart [⟨startedRun, none⟩, ⟨startedRun, none⟩]
      .empty := by
    intro hapart
    have hnone := hapart.2.1 _ _ _ _ hd
    rw [hemit] at hnone
    cases hnone
  obtain ⟨span, hlost⟩ := represents_empty.exists_lost htwice
  exact not_conserved_of_lost hlost (hall _ _)

end Sink
end StateWake.Telemetry
