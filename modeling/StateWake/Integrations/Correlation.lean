import StateWake.Base.Calls
import StateWake.Base.Raising
import StateWake.Integrations.Callbacks

/-!
# Correlation of callbacks

What should be open after a sequence of callbacks is one table: a start that is taken opens its run,
an end or an error closes it. While every end is of the kind of its open start, and what the sink
raises is caught, the four tables of a handler represent this one.
-/

namespace StateWake.Integrations

open StateWake.Base Text Utils Claims

/-! ### Open runs -/

/-- An open start and the digest of its input. -/
structure Opened where
  entry : Started
  digest : Text

namespace Callback

/-- The kind and the run that an end or an error names. -/
def closing : Callback → Option (Kind × RunId)
  | start .. => none
  | llmEnd _ runId _ _ => some (.model, runId)
  | toolEnd _ runId _ _ => some (.tool, runId)
  | retrieverEnd _ runId _ _ => some (.retriever, runId)
  | error kind runId _ => some (kind, runId)

/-- The name a start is entered with, and whether it was observed. -/
def nameOf (kind : StartKind) (serialized : Option Text) : Text × Bool :=
  match kind with
  | .llm => operation serialized (lit "llm")
  | .chatModel => operation serialized (lit "chat_model")
  | .tool => operation serialized (lit "tool")
  | .retriever => (lit "retriever", (operation serialized (lit "retriever")).2)

/-- The run a callback opens: a start with an input and identities, of a run that is not open, while
there is room. -/
def opening (capacity : Nat) (o : Dict Opened) : Callback → Option (Text × Opened)
  | start kind serialized digest runId parentRunId now =>
    match digest, runId.identity,
      parentRunId.elim (pure none) fun parent ↦ some <$> parent.identity with
    | .ok digest, .ok identity, .ok parent =>
      if (o.get? identity).isNone ∧ o.length < capacity then
        some (identity, ⟨⟨now, parent, kind, (nameOf kind serialized).1,
          (nameOf kind serialized).2⟩, digest⟩)
      else none
    | _, _, _ => none
  | _ => none

/-- What is open after a callback. -/
def track (capacity : Nat) (o : Dict Opened) (callback : Callback) : Dict Opened :=
  match callback.closing with
  | some (_, runId) => o.erase runId.text
  | none => ((callback.opening capacity o).map fun opened ↦ o.set opened.1 opened.2).getD o

end Callback

/-! ### What is captured -/

namespace Recorder

variable {σ : Type} {sink : Sink σ} {r : Recorder σ}

/-- Noting a failure takes nothing. -/
theorem evidence_fail (stage : Text) (exc : PyError) (r : Recorder σ) :
    (fail sink stage exc r).2.evidence = r.evidence := by
  rw [fail]
  split <;> rfl

/-- A sink that notes a failure has it noted. -/
theorem fail_of_noted {stage : Text} {exc : PyError}
    (hnotes : (sink.fail stage exc r.sink).1 = .ok ()) :
    (fail sink stage exc r).1 = .ok () ∧
      (fail sink stage exc r).2.failures = r.failures ++ [(stage, exc)] := by
  rw [fail]
  split
  · exact ⟨rfl, rfl⟩
  · next e s hfail =>
    rw [hfail] at hnotes
    cases hnotes

/-- What is captured is the contract, or it raises and nothing is taken. -/
theorem capture_spec (contract : Except PyError AIContract) (r : Recorder σ) :
    (∃ e, (capture sink contract r).1 = .error e ∧
      (capture sink contract r).2.evidence = r.evidence) ∨
    (capture sink contract r).1 = .ok () ∧
      ∃ result, (capture sink contract r).2.evidence = r.evidence ++ [result] ∧
        contract = .ok result.contract := by
  rw [capture]
  cases hresult : contract >>= captureContract with
  | error e => exact .inl ⟨e, rfl, rfl⟩
  | ok result =>
    obtain ⟨c, hcontract, hcapture⟩ := bind_eq_ok.mp hresult
    have hc : result.contract = c := by
      simp only [captureContract, bind_eq_ok] at hcapture
      obtain ⟨payload, -, evidence, -, heq⟩ := hcapture
      cases heq
      rfl
    rw [Attempt.lift_ok_bind, add]
    split
    · exact .inr ⟨rfl, result, rfl, hcontract.trans (congrArg _ hc.symm)⟩
    · next e s hadd => exact .inl ⟨e, rfl, rfl⟩

/-- What is captured is at most the contract. -/
theorem evidence_capturing (caught : ErrorKind → Bool) (stage : Text)
    (contract : Except PyError AIContract) (r : Recorder σ) :
    (capturing sink caught stage contract r).2.evidence = r.evidence ∨
      ∃ result, (capturing sink caught stage contract r).2.evidence = r.evidence ++ [result] ∧
        contract = .ok result.contract := by
  rw [capturing]
  cases hrun : capture sink contract r with
  | mk outcome s =>
    have hspec := @capture_spec σ sink contract r
    rw [hrun] at hspec
    obtain ⟨e, rfl, hevidence⟩ | ⟨rfl, hresult⟩ := hspec
    · cases hcaught : caught e.kind with
      | true =>
        rw [Attempt.catching_of_caught hrun hcaught]
        exact .inl ((evidence_fail stage e s).trans hevidence)
      | false =>
        rw [Attempt.catching_of_escaped hrun hcaught]
        exact .inl hevidence
    · rw [Attempt.catching_of_ok hrun]
      exact .inr hresult

/-- The sink notes failures in this state, and raises no more than is caught where it is given a
result, after which it notes failures too. -/
structure Steady (sink : Sink σ) (s : σ) : Prop where
  notes : ∀ stage exc, (sink.fail stage exc s).1 = .ok ()
  takes : ∀ result e, (sink.add result s).1 = .error e → isContractError e.kind = true ∧
    ∀ stage exc, (sink.fail stage exc (sink.add result s).2).1 = .ok ()

/-- Nothing escapes where the contract raises only what is caught and the sink is steady. -/
theorem capturing_isOk {caught : ErrorKind → Bool} {stage : Text}
    {contract : Except PyError AIContract} (hs : Steady sink r.sink)
    (hcaught : ∀ k, isContractError k = true → caught k = true)
    (hcontract : RaisesOnly (fun k ↦ caught k = true) contract)
    (hvalid : ∀ c, contract = .ok c → c.postInit = .ok ()) :
    (Recorder.capturing sink caught stage contract r).1 = .ok () := by
  rw [capturing, capture]
  cases hc : contract with
  | error e =>
    rw [error_bind, Attempt.lift_error_bind,
      Attempt.catching_of_caught (Attempt.lift_apply _ r) (hcontract e hc)]
    exact (fail_of_noted (hs.notes stage e)).1
  | ok c =>
    obtain ⟨result, -, hresult, -⟩ := exists_capture ⟨c, hvalid c hc⟩
    rw [ok_bind, hresult, Attempt.lift_ok_bind, Attempt.catching, add]
    have htakes := hs.takes result
    cases hadd : sink.add result r.sink with
    | mk outcome s =>
      rw [hadd] at htakes
      cases outcome with
      | ok u => rfl
      | error e =>
        obtain ⟨hkind, hnotes⟩ := htakes e rfl
        dsimp only
        rw [if_pos (hcaught _ hkind)]
        exact (fail_of_noted (r := { r with sink := s }) (hnotes stage e)).1

end Recorder

/-! ### What a callback does to the sink -/

section Sinks

variable {σ : Type} {sink : Sink σ} {options : HandlerOptions} {h h' : CallbackHandler σ}

/-- The tables are as they were, and the sink took at most a contract that `P` holds of. -/
structure Took (P : AIContract → Prop) (h h' : CallbackHandler σ) : Prop where
  started : h'.started = h.started
  inputs : h'.inputs = h.inputs
  evidence : h'.evidence = h.evidence ∨
    ∃ result, h'.evidence = h.evidence ++ [result] ∧ P result.contract

theorem Took.refl (P : AIContract → Prop) (h : CallbackHandler σ) : Took P h h :=
  ⟨rfl, rfl, .inl rfl⟩

theorem Took.mono {P Q : AIContract → Prop} (ht : Took P h h') (hpq : ∀ c, P c → Q c) :
    Took Q h h' := by
  refine ⟨ht.started, ht.inputs, ht.evidence.imp_right ?_⟩
  rintro ⟨result, hevidence, hresult⟩
  exact ⟨result, hevidence, hpq _ hresult⟩

/-- Noting a failure leaves tables and evidence as they were. -/
theorem took_fail (P : AIContract → Prop) (stage : Text) (exc : PyError)
    (h : CallbackHandler σ) : Took P h (fail sink stage exc h).2 ∧
      (fail sink stage exc h).2.evidence = h.evidence :=
  have hevidence := Recorder.evidence_fail stage exc h.toRecorder
  ⟨⟨rfl, rfl, .inl hevidence⟩, hevidence⟩

/-- A sink that notes a failure has it noted. -/
theorem fail_of_noted {stage : Text} {exc : PyError}
    (hnotes : (sink.fail stage exc h.sink).1 = .ok ()) :
    (fail sink stage exc h).1 = .ok () ∧
      (fail sink stage exc h).2.failures = h.failures ++ [(stage, exc)] :=
  Recorder.fail_of_noted hnotes

/-- What is captured is at most the contract. -/
theorem took_capturing (caught : ErrorKind → Bool) (stage : Text)
    (contract : Except PyError AIContract) (h : CallbackHandler σ) :
    Took (fun c ↦ contract = .ok c) h (capturing sink caught stage contract h).2 :=
  ⟨rfl, rfl, Recorder.evidence_capturing caught stage contract h.toRecorder⟩

/-- Nothing escapes where the contract raises only what is caught and the sink is steady. -/
theorem capturing_isOk {caught : ErrorKind → Bool} {stage : Text}
    {contract : Except PyError AIContract} (hs : Recorder.Steady sink h.sink)
    (hcaught : ∀ k, isContractError k = true → caught k = true)
    (hcontract : RaisesOnly (fun k ↦ caught k = true) contract)
    (hvalid : ∀ c, contract = .ok c → c.postInit = .ok ()) :
    (capturing sink caught stage contract h).1 = .ok () :=
  Recorder.capturing_isOk hs hcaught hcontract hvalid

end Sinks


/-! ### Starts -/

section Starts

variable {σ : Type} {sink : Sink σ} {options : HandlerOptions} {h : CallbackHandler σ}

theorem handle_start (kind : StartKind) (serialized : Option Text) (digest : Except PyError Text)
    (runId : RunId) (parentRunId : Option RunId) (now : Datetime) :
    (Callback.start kind serialized digest runId parentRunId now).handle sink options =
      onStart sink kind (Callback.nameOf kind serialized) digest runId parentRunId now := by
  cases kind <;> rfl

/-- A start enters what it opens, or raises and changes nothing. -/
theorem start_spec {runId : RunId} {parentRunId : Option RunId} (kind : StartKind) (name : Text)
    (observedName : Bool) (now : Datetime) {t : Text} {parent : Option Text}
    (hid : runId.identity = .ok t)
    (hparent : parentRunId.elim (pure none) (fun parent ↦ some <$> parent.identity) = .ok parent) :
    if (h.started.get? t).isNone ∧ h.started.length < sink.capacity then
      start sink runId parentRunId kind name observedName now h =
        (.ok t, { h with started := h.started.set t ⟨now, parent, kind, name, observedName⟩ })
    else ∃ e, start sink runId parentRunId kind name observedName now h = (.error e, h) := by
  rw [start, hid, hparent, Attempt.lift_ok_bind, Attempt.get_bind]
  by_cases habsent : (h.started.get? t).isNone = true
  · rw [habsent, require_true, Attempt.lift_ok_bind]
    by_cases hroom : h.started.length < sink.capacity
    · rw [if_pos ⟨rfl, hroom⟩, decide_eq_true hroom, require_true, Attempt.lift_ok_bind,
        Attempt.lift_ok_bind]
      rfl
    · rw [if_neg fun hboth ↦ hroom hboth.2, decide_eq_false hroom]
      exact ⟨_, rfl⟩
  · rw [if_neg fun hboth ↦ habsent hboth.1, Bool.eq_false_iff.mpr habsent]
    exact ⟨_, rfl⟩

/-- A start that raises changes no table. -/
theorem onStart_of_error {kind : StartKind} {name : Text × Bool} {digest : Except PyError Text}
    {runId : RunId} {parentRunId : Option RunId} {now : Datetime} {e : PyError}
    (hraised : (do
      let digest ← Attempt.lift digest
      let identity ← start sink runId parentRunId kind name.1 name.2 now
      Attempt.modify fun h ↦ h.withInputs ((h.inputs kind.kind).set identity digest) kind.kind :
      Attempt (CallbackHandler σ) Unit) h = (.error e, h)) :
    Took (fun _ ↦ False) h (onStart sink kind name digest runId parentRunId now h).2 := by
  rw [onStart]
  cases hcaught : isCallbackError e.kind with
  | true =>
    rw [Attempt.catching_of_caught hraised hcaught]
    exact (took_fail _ _ e h).1
  | false =>
    rw [Attempt.catching_of_escaped hraised hcaught]
    exact Took.refl _ h

/-- A start does to the tables what it opens. -/
theorem onStart_spec (kind : StartKind) (serialized : Option Text) (digest : Except PyError Text)
    (runId : RunId) (parentRunId : Option RunId) (now : Datetime) {o : Dict Opened}
    (hstarted : h.started = o.mapValues Opened.entry) :
    (∃ t opened, (Callback.start kind serialized digest runId parentRunId now).opening
      sink.capacity o = some (t, opened) ∧ o.get? t = none ∧ opened.entry.kind = kind ∧
        blank t = false ∧
        (onStart sink kind (Callback.nameOf kind serialized) digest runId parentRunId now h).2 =
          ({ h with started := h.started.set t opened.entry } : CallbackHandler σ).withInputs
            ((h.inputs kind.kind).set t opened.digest) kind.kind) ∨
    (Callback.start kind serialized digest runId parentRunId now).opening sink.capacity o = none ∧
      Took (fun _ ↦ False) h
        (onStart sink kind (Callback.nameOf kind serialized) digest runId parentRunId now h).2 := by
  have habsent (t : Text) : (h.started.get? t).isNone = (o.get? t).isNone := by
    rw [hstarted, Dict.get?_mapValues, Option.isNone_map]
  have hlength : h.started.length = o.length := by
    rw [hstarted, Dict.mapValues, List.length_map]
  cases digest with
  | error e => exact .inr ⟨rfl, onStart_of_error (Attempt.bind_of_error rfl)⟩
  | ok digest =>
    cases hid : runId.identity with
    | error e =>
      have hraised : start sink runId parentRunId kind (Callback.nameOf kind serialized).1
          (Callback.nameOf kind serialized).2 now h = (.error e, h) := by
        rw [start, hid]
        rfl
      refine .inr ⟨by simp [Callback.opening, hid], onStart_of_error (e := e) ?_⟩
      rw [Attempt.lift_ok_bind]
      exact Attempt.bind_of_error hraised
    | ok t =>
      have hblank : blank t = false := by
        simp only [RunId.identity, bind_eq_ok, require_eq_ok, Bool.and_eq_true,
          Bool.not_eq_true'] at hid
        obtain ⟨_, ⟨-, hblank⟩, heq⟩ := hid
        rw [← Except.ok.inj heq]
        exact hblank
      cases hparent : parentRunId.elim (pure none) fun parent ↦ some <$> parent.identity with
      | error e =>
        have hraised : ∃ e', start sink runId parentRunId kind (Callback.nameOf kind serialized).1
            (Callback.nameOf kind serialized).2 now h = (.error e', h) := by
          rw [start, hid, hparent, Attempt.lift_ok_bind, Attempt.get_bind]
          cases (h.started.get? t).isNone with
          | false => exact ⟨_, rfl⟩
          | true =>
            rw [require_true, Attempt.lift_ok_bind]
            cases decide (h.started.length < sink.capacity) with
            | false => exact ⟨_, rfl⟩
            | true => exact ⟨e, rfl⟩
        obtain ⟨e', he⟩ := hraised
        refine .inr ⟨by simp [Callback.opening, hid, hparent], onStart_of_error (e := e') ?_⟩
        rw [Attempt.lift_ok_bind]
        exact Attempt.bind_of_error he
      | ok parent =>
        have hspec := @start_spec σ sink h runId parentRunId kind
          (Callback.nameOf kind serialized).1 (Callback.nameOf kind serialized).2 now t parent hid
          hparent
        rw [habsent, hlength] at hspec
        by_cases hopens : (o.get? t).isNone ∧ o.length < sink.capacity
        · rw [if_pos hopens] at hspec
          refine .inl ⟨t, ⟨⟨now, parent, kind, (Callback.nameOf kind serialized).1,
            (Callback.nameOf kind serialized).2⟩, digest⟩,
            by simp only [Callback.opening, hid, hparent, if_pos hopens],
            Option.isNone_iff_eq_none.mp hopens.1, rfl, hblank, ?_⟩
          rw [onStart, Attempt.catching, Attempt.lift_ok_bind, Attempt.bind_of_ok hspec]
          rfl
        · rw [if_neg hopens] at hspec
          obtain ⟨e, he⟩ := hspec
          refine .inr ⟨by simp only [Callback.opening, hid, hparent, if_neg hopens],
            onStart_of_error (e := e) ?_⟩
          rw [Attempt.lift_ok_bind]
          exact Attempt.bind_of_error he

end Starts

/-! ### Ends and errors -/

section Endings

variable {σ : Type} {sink : Sink σ} {options : HandlerOptions} {h : CallbackHandler σ}

/-- A contract for a run of a kind, of the input with a digest. -/
def Carries (kind : Kind) (runId digest : Text) : AIContract → Prop
  | .modelInvocation c => kind = .model ∧ c.runId = runId ∧ c.requestDigest = digest
  | .toolCall c => kind = .tool ∧ c.runId = runId ∧ c.inputDigest = digest
  | .retrieval c => kind = .retriever ∧ c.runId = runId ∧ c.queryDigest = digest
  | _ => False

/-- A runtime trace of a run. -/
def Traces (runId : Text) : AIContract → Prop
  | .runtimeTrace c => c.runId = runId
  | _ => False

/-- What an end is given raises no more than its handler catches, and the sink is steady. -/
def Callback.Settled (sink : Sink σ) (s : σ) : Callback → Prop
  | .start .. => True
  | .llmEnd response .. =>
    RaisesOnly (fun k ↦ isContractError k = true) response ∧ Recorder.Steady sink s
  | .toolEnd output .. =>
    RaisesOnly (fun k ↦ isContractError k = true) output ∧ Recorder.Steady sink s
  | .retrieverEnd documents .. =>
    RaisesOnly (fun k ↦ isCallbackError k = true) documents ∧ Recorder.Steady sink s
  | .error .. => True

/-- What is recorded at an end: nothing without an input, at most the contract of the input with
one, and nothing escapes. -/
structure Recording (sink : Sink σ) (callback : Callback) (kind : Kind) (runId : Text)
    (record : Option Started → Option Text → Attempt (CallbackHandler σ) Unit) : Prop where
  absent : ∀ entry, record entry none = pure ()
  took : ∀ entry input h, Took (Carries kind runId input) h (record (some entry) (some input) h).2
  settled : ∀ entry input h, callback.Settled sink h.sink →
    (record (some entry) (some input) h).1 = .ok ()

section Constructors

variable {P : ErrorKind → Prop} (hp : P .valueError)

include hp

theorem requireFields_raisesOnly (fields : Dict Text) : RaisesOnly P (requireFields fields) :=
  RaisesOnly.forM (fun _ ↦ RaisesOnly.require hp) fields

theorem requireUtcDatetime_raisesOnly (now : Datetime) (fieldName : Text) :
    RaisesOnly P (requireUtcDatetime (.ofUtc now) fieldName) := by
  rw [requireUtcDatetime, AwareDatetime.toUtc_ofUtc, ok_bind]
  exact RaisesOnly.require hp

theorem requireWhenGiven_raisesOnly (value : Option Text) (fieldName : Text) :
    RaisesOnly P (requireWhenGiven value fieldName) := by
  cases value with
  | none => exact RaisesOnly.ok ()
  | some value => exact RaisesOnly.require hp

theorem jsonMapping_raisesOnly (value : Dict Json) (fieldName : Text) :
    RaisesOnly P (jsonMapping value fieldName) :=
  (RaisesOnly.require hp).bind fun _ _ ↦ RaisesOnly.ok _

theorem modelInvocation_raisesOnly {identity input : Text} {entry : Started}
    {response : Except PyError Text} {now : Datetime} (h : RaisesOnly P response) :
    RaisesOnly P (modelInvocation identity entry input response now) := by
  refine h.bind fun responseDigest _ ↦ RaisesOnly.bind ?_ fun _ _ ↦ RaisesOnly.ok _
  refine (requireFields_raisesOnly hp _).bind fun _ _ ↦ ?_
  refine (RaisesOnly.require hp).bind fun _ _ ↦ ?_
  refine (requireUtcDatetime_raisesOnly hp _ _).bind fun _ _ ↦ ?_
  refine (jsonMapping_raisesOnly hp _ _).bind fun _ _ ↦ ?_
  exact (jsonMapping_raisesOnly hp _ _).bind fun _ _ ↦ RaisesOnly.ok _

theorem toolCall_raisesOnly {identity input classification : Text} {entry : Started}
    {output : Except PyError Text} {authorization : Option Text} {now : Datetime}
    (h : RaisesOnly P output) :
    RaisesOnly P (toolCall identity entry input output classification authorization now) := by
  refine h.bind fun outputDigest _ ↦ RaisesOnly.bind ?_ fun _ _ ↦ RaisesOnly.ok _
  refine (requireFields_raisesOnly hp _).bind fun _ _ ↦ ?_
  refine (requireUtcDatetime_raisesOnly hp _ _).bind fun _ _ ↦ ?_
  refine (RaisesOnly.require hp).bind fun _ _ ↦ ?_
  refine (requireWhenGiven_raisesOnly hp _ _).bind fun _ _ ↦ ?_
  exact (jsonMapping_raisesOnly hp _ _).bind fun _ _ ↦ RaisesOnly.ok _

theorem requireTexts_raisesOnly (values : List Text) (fieldName : Text) :
    RaisesOnly P (RetrievalEvidenceContract.requireTexts values fieldName) :=
  (RaisesOnly.require hp).bind fun _ _ ↦ RaisesOnly.forM (fun _ ↦ RaisesOnly.require hp) values

theorem retrievalEvidence_raisesOnly (hencode : P .unicodeEncodeError)
    {identity corpusIdentity corpusSnapshotId citationBoundary query : Text}
    {documents : Except PyError (List Document)} {now : Datetime} (h : RaisesOnly P documents) :
    RaisesOnly P (retrievalEvidence identity corpusIdentity corpusSnapshotId citationBoundary query
      documents now) := by
  have hread (document : Document) : RaisesOnly P document.read :=
    (RaisesOnly.orRaise hp).bind fun _ _ ↦ (RaisesOnly.orRaise hp).bind fun _ _ ↦ RaisesOnly.ok _
  have hdigest (document : Text × Text) : RaisesOnly P (digestText document.2) :=
    (RaisesOnly.orRaise hencode).bind fun _ _ ↦ RaisesOnly.ok _
  refine h.bind fun documents _ ↦ (RaisesOnly.mapM hread documents).bind fun read _ ↦ ?_
  refine (RaisesOnly.require hp).bind fun _ _ ↦ ?_
  refine (RaisesOnly.mapM hdigest read).bind fun chunkDigests _ ↦ ?_
  refine RaisesOnly.bind ?_ fun _ _ ↦ RaisesOnly.ok _
  refine (requireFields_raisesOnly hp _).bind fun _ _ ↦ ?_
  refine (RaisesOnly.require hp).bind fun _ _ ↦ ?_
  refine (requireTexts_raisesOnly hp _ _).bind fun _ _ ↦ ?_
  refine (requireTexts_raisesOnly hp _ _).bind fun _ _ ↦ ?_
  refine (requireUtcDatetime_raisesOnly hp _ _).bind fun _ _ ↦ ?_
  refine (jsonMapping_raisesOnly hp _ _).bind fun _ _ ↦ ?_
  exact (jsonMapping_raisesOnly hp _ _).bind fun _ _ ↦ RaisesOnly.ok _

end Constructors

theorem recording_model (response : Except PyError Text) (runId : RunId) (now ended : Datetime) :
    Recording sink (.llmEnd response runId now ended) .model runId.text
      (recordModel sink runId response now) := by
  refine ⟨fun entry ↦ by cases entry <;> rfl, ?_, ?_⟩
  · intro entry input h
    rw [recordModel]
    split
    · apply (took_capturing _ _ _ h).mono
      intro c hc
      simp only [modelInvocation, bind_eq_ok] at hc
      obtain ⟨responseDigest, -, _, -, heq⟩ := hc
      cases heq
      exact ⟨rfl, rfl, rfl⟩
    · exact (took_fail _ _ _ h).1
  · rintro entry input h ⟨hresponse, hs⟩
    rw [recordModel]
    split
    · apply capturing_isOk hs (fun _ hk ↦ hk)
      · exact modelInvocation_raisesOnly (P := fun k ↦ isContractError k = true) rfl hresponse
      · intro c hc
        simp only [modelInvocation, bind_eq_ok] at hc
        obtain ⟨responseDigest, -, _, hchecked, heq⟩ := hc
        cases heq
        exact hchecked
    · exact (fail_of_noted (hs.notes _ _)).1

theorem recording_tool (output : Except PyError Text) (runId : RunId) (now ended : Datetime) :
    Recording sink (.toolEnd output runId now ended) .tool runId.text
      (recordTool sink options runId output now) := by
  refine ⟨fun entry ↦ by cases entry <;> rfl, ?_, ?_⟩
  · intro entry input h
    rw [recordTool]
    split
    · cases options.classificationOf entry.name with
      | none => exact (took_fail _ _ _ h).1
      | some classification =>
        apply (took_capturing _ _ _ h).mono
        intro c hc
        simp only [toolCall, bind_eq_ok] at hc
        obtain ⟨outputDigest, -, _, -, heq⟩ := hc
        cases heq
        exact ⟨rfl, rfl, rfl⟩
    · exact (took_fail _ _ _ h).1
  · rintro entry input h ⟨houtput, hs⟩
    rw [recordTool]
    split
    · cases options.classificationOf entry.name with
      | none => exact (fail_of_noted (hs.notes _ _)).1
      | some classification =>
        apply capturing_isOk hs (fun _ hk ↦ hk)
        · exact toolCall_raisesOnly (P := fun k ↦ isContractError k = true) rfl houtput
        · intro c hc
          simp only [toolCall, bind_eq_ok] at hc
          obtain ⟨outputDigest, -, _, hchecked, heq⟩ := hc
          cases heq
          exact hchecked
    · exact (fail_of_noted (hs.notes _ _)).1

theorem recording_retriever (documents : Except PyError (List Document)) (runId : RunId)
    (now ended : Datetime) :
    Recording sink (.retrieverEnd documents runId now ended) .retriever runId.text
      (fun _ query ↦ recordRetrieval sink options runId documents now query) := by
  refine ⟨fun entry ↦ rfl, ?_, ?_⟩
  · intro entry input h
    rw [recordRetrieval]
    cases options.retrievalContext with
    | none => exact (took_fail _ _ _ h).1
    | some context =>
      apply (took_capturing _ _ _ h).mono
      intro c hc
      simp only [retrievalEvidence, bind_eq_ok] at hc
      obtain ⟨_, -, _, -, _, -, _, -, _, -, heq⟩ := hc
      cases heq
      exact ⟨rfl, rfl, rfl⟩
  · rintro entry input h ⟨hdocuments, hs⟩
    rw [recordRetrieval]
    cases options.retrievalContext with
    | none => exact (fail_of_noted (hs.notes _ _)).1
    | some context =>
      apply capturing_isOk hs
      · intro k hk
        rw [isCallbackError, hk]
        rfl
      · exact retrievalEvidence_raisesOnly (P := fun k ↦ isCallbackError k = true) rfl rfl
          hdocuments
      · intro c hc
        simp only [retrievalEvidence, bind_eq_ok] at hc
        obtain ⟨_, -, _, -, _, -, _, -, _, hchecked, heq⟩ := hc
        cases heq
        exact hchecked

theorem recording_error (kind : Kind) (runId : RunId) (ended : Datetime) :
    Recording sink (.error kind runId ended) kind runId.text fun _ _ ↦ pure () :=
  ⟨fun _ ↦ rfl, fun _ _ h ↦ Took.refl _ h, fun _ _ _ _ ↦ rfl⟩

/-- An end or an error takes the input of its kind, records, and finishes. -/
theorem handle_closing {callback : Callback} {kind : Kind} {runId : RunId}
    (hc : callback.closing = some (kind, runId)) : ∃ error ended record,
      callback.handle sink options = ending sink kind runId error ended record ∧
        Recording sink callback kind runId.text record := by
  cases callback with
  | start => cases hc
  | llmEnd response _ now ended =>
    cases hc
    exact ⟨_, _, _, rfl, recording_model response runId now ended⟩
  | toolEnd output _ now ended =>
    cases hc
    exact ⟨_, _, _, rfl, recording_tool output runId now ended⟩
  | retrieverEnd documents _ now ended =>
    cases hc
    exact ⟨_, _, _, rfl, recording_retriever documents runId now ended⟩
  | error _ _ ended =>
    cases hc
    refine ⟨true, ended, fun _ _ ↦ pure (), ?_, recording_error kind runId ended⟩
    cases kind <;> rfl

end Endings

/-- What was taken, as a list of at most one result. -/
theorem Took.exists_evidence {σ : Type} {P : AIContract → Prop} {h h' : CallbackHandler σ}
    (ht : Took P h h') {evidence : List ContractCaptureResult} (he : h.evidence = evidence) :
    ∃ results, h'.evidence = evidence ++ results ∧ results.length ≤ 1 ∧
      ∀ result ∈ results, P result.contract := by
  obtain hsame | ⟨result, hmore, hresult⟩ := ht.evidence
  · exact ⟨[], by rw [hsame, he, List.append_nil], Nat.zero_le 1, by simp⟩
  · exact ⟨[result], by rw [hmore, he], le_rfl, by simpa using hresult⟩

section Finishing

variable {σ : Type} {sink : Sink σ} {options : HandlerOptions} {h : CallbackHandler σ}
  {runId : RunId}

private theorem erase_of_get?_none {α : Type} {d : Dict α} {key : Text} (h : d.get? key = none) :
    d.erase key = d := by
  rw [Dict.erase, List.filter_eq_self]
  intro m hm
  rw [decide_eq_true_eq]
  intro heq
  exact Dict.get?_eq_none_iff.mp h (heq ▸ Dict.mem_keys.mpr ⟨m.2, hm⟩)

theorem inputs_withInputs (inputs : Dict Text) (kind : Kind) :
    (h.withInputs inputs kind).inputs = Function.update h.inputs kind inputs := by
  funext k
  cases kind <;> cases k <;> rfl

theorem started_withInputs (inputs : Dict Text) (kind : Kind) :
    (h.withInputs inputs kind).started = h.started := by
  cases kind <;> rfl

theorem evidence_withInputs (inputs : Dict Text) (kind : Kind) :
    (h.withInputs inputs kind).evidence = h.evidence := by
  cases kind <;> rfl

theorem failures_withInputs (inputs : Dict Text) (kind : Kind) :
    (h.withInputs inputs kind).failures = h.failures := by
  cases kind <;> rfl

theorem sink_withInputs (inputs : Dict Text) (kind : Kind) :
    (h.withInputs inputs kind).sink = h.sink := by
  cases kind <;> rfl

/-- The run of an identity is finished under that identity. -/
theorem identity_eq_ok {t : Text} : runId.identity = .ok t ↔
    runId.native = true ∧ blank runId.text = false ∧ runId.text = t := by
  simp only [RunId.identity, bind_eq_ok, require_eq_ok, Bool.and_eq_true, Bool.not_eq_true']
  constructor
  · rintro ⟨_, ⟨hnative, hblank⟩, heq⟩
    exact ⟨hnative, hblank, Except.ok.inj heq⟩
  · rintro ⟨hnative, hblank, heq⟩
    exact ⟨(), ⟨hnative, hblank⟩, congrArg Except.ok heq⟩

/-- Finishing a run that is not open notes a failure. -/
theorem finish_unpaired {error : Bool} {ended : Datetime}
    (hstarted : h.started.get? runId.text = none)
    (hnotes : ∀ stage exc, (sink.fail stage exc h.sink).1 = .ok ()) :
    (finish sink runId error ended h).2.started = h.started ∧
      (finish sink runId error ended h).2.inputs = h.inputs ∧
      (finish sink runId error ended h).2.evidence = h.evidence ∧
      ∃ failure, (finish sink runId error ended h).2.failures = h.failures ++ [failure] := by
  have hfail : ∃ stage exc, finish sink runId error ended h = fail sink stage exc h := by
    rw [finish]
    cases hid : runId.identity with
    | error exc => exact ⟨_, exc, rfl⟩
    | ok identity =>
      obtain ⟨-, -, rfl⟩ := identity_eq_ok.mp hid
      refine ⟨lit "langchain.unpaired_callback", ⟨.valueError, lit "missing start"⟩, ?_⟩
      dsimp only
      rw [Attempt.get_bind, Attempt.modify_bind, hstarted, erase_of_get?_none hstarted]
  obtain ⟨stage, exc, hrun⟩ := hfail
  rw [hrun]
  obtain ⟨⟨hkept, hinputs, -⟩, hevidence⟩ := @took_fail σ sink (fun _ ↦ False) stage exc h
  exact ⟨hkept, hinputs, hevidence, (stage, exc), (fail_of_noted (hnotes stage exc)).2⟩

/-- Finishing an open run closes it, and takes at most its trace. -/
theorem finish_paired {entry : Started} {error : Bool} {ended : Datetime}
    (hid : runId.identity = .ok runId.text) (hstarted : h.started.get? runId.text = some entry) :
    Took (Traces runId.text) { h with started := h.started.erase runId.text }
      (finish sink runId error ended h).2 := by
  have hrun : finish sink runId error ended h =
      capturing sink isContractError (lit "langchain.callback")
        (runtimeTrace runId.text entry error ended)
        { h with started := h.started.erase runId.text } := by
    rw [finish, hid]
    dsimp only
    rw [Attempt.get_bind, Attempt.modify_bind, hstarted]
  rw [hrun]
  apply (took_capturing _ _ _ _).mono
  intro c hc
  simp only [runtimeTrace, bind_eq_ok] at hc
  obtain ⟨_, -, heq⟩ := hc
  cases heq
  rfl

end Finishing

/-! ### The tables of a handler -/

section Runs

variable {σ : Type} {sink : Sink σ} {options : HandlerOptions} {h : CallbackHandler σ}
  {o : Dict Opened} {callback : Callback}

/-- The tables of a handler are those of the open runs. -/
structure Represents (h : CallbackHandler σ) (o : Dict Opened) : Prop where
  started : h.started = o.mapValues Opened.entry
  inputs : ∀ kind t, (h.inputs kind).get? t =
    ((o.get? t).filter fun opened ↦ opened.entry.kind.kind = kind).map Opened.digest
  named : ∀ t opened, o.get? t = some opened → blank t = false

/-- An end or an error is of the kind of the open start it names, by a native identity, and nothing
escapes on the way; where no start is open, the failure is noted. -/
def Orderly (sink : Sink σ) (s : σ) (o : Dict Opened) (callback : Callback) : Prop :=
  ∀ kind runId, callback.closing = some (kind, runId) →
    match o.get? runId.text with
    | none => ∀ stage exc, (sink.fail stage exc s).1 = .ok ()
    | some opened => opened.entry.kind.kind = kind ∧ runId.native = true ∧ callback.Settled sink s

/-- What a callback may do to a handler while `o` is open. -/
structure Correlated (o : Dict Opened) (callback : Callback) (h h' : CallbackHandler σ) : Prop where
  /-- At most one contract and one runtime trace are recorded, of an end or an error of the open
  start's own run, the contract for its kind and with the digest of its input. -/
  paired : h'.evidence = h.evidence ∨ ∃ kind runId opened contracts traces,
    callback.closing = some (kind, runId) ∧ o.get? runId.text = some opened ∧
      opened.entry.kind.kind = kind ∧ h'.evidence = h.evidence ++ (contracts ++ traces) ∧
        contracts.length ≤ 1 ∧ traces.length ≤ 1 ∧
          (∀ result ∈ contracts, Carries kind runId.text opened.digest result.contract) ∧
            ∀ result ∈ traces, Traces runId.text result.contract
  /-- Without an open start a failure is recorded and no evidence. -/
  unpaired : ∀ kind runId, callback.closing = some (kind, runId) → o.get? runId.text = none →
    h'.evidence = h.evidence ∧ ∃ failure, h'.failures = h.failures ++ [failure]
  /-- After an end or an error nothing remains of the run. -/
  closed : ∀ kind runId, callback.closing = some (kind, runId) →
    h'.started.get? runId.text = none ∧ ∀ k, (h'.inputs k).get? runId.text = none

theorem Represents.absent (hr : Represents h o) {t : Text} (ht : o.get? t = none) :
    h.started.get? t = none ∧ ∀ k, (h.inputs k).get? t = none := by
  refine ⟨?_, fun k ↦ ?_⟩
  · rw [hr.started, Dict.get?_mapValues, ht]
    rfl
  · rw [hr.inputs, ht]
    rfl

/-- What is kept of the tables keeps what they represent. -/
theorem Represents.congr {h' : CallbackHandler σ} (hr : Represents h o)
    (hstarted : h'.started = h.started) (hinputs : h'.inputs = h.inputs) : Represents h' o :=
  ⟨hstarted.trans hr.started, by rw [hinputs]; exact hr.inputs, hr.named⟩

/-- A start that is entered represents one more open run. -/
theorem Represents.enter (hr : Represents h o) {t : Text} {opened : Opened}
    (habsent : o.get? t = none) (hblank : blank t = false) :
    Represents (({ h with started := h.started.set t opened.entry } :
      CallbackHandler σ).withInputs ((h.inputs opened.entry.kind.kind).set t opened.digest)
        opened.entry.kind.kind) (o.set t opened) := by
  refine ⟨?_, fun k u ↦ ?_, fun u other hother ↦ ?_⟩
  · have hkey : t ∉ o.keys := Dict.get?_eq_none_iff.mp habsent
    rw [started_withInputs, Dict.set_of_not_mem hkey]
    change h.started.set t opened.entry = _
    rw [hr.started, Dict.set_of_not_mem (by rwa [Dict.keys_mapValues])]
    rw [Dict.mapValues, Dict.mapValues, List.map_append]
    rfl
  · rw [inputs_withInputs, Dict.get?_set]
    change Dict.get? (Function.update h.inputs _ _ k) u = _
    by_cases hu : u = t
    · rw [if_pos hu, hu, Option.filter_some]
      by_cases hk : k = opened.entry.kind.kind
      · rw [hk, Function.update_self, Dict.get?_set, if_pos rfl, decide_eq_true rfl]
        rfl
      · rw [Function.update_of_ne hk, (hr.absent habsent).2,
          decide_eq_false fun heq ↦ hk heq.symm]
        rfl
    · rw [if_neg hu, ← hr.inputs]
      by_cases hk : k = opened.entry.kind.kind
      · rw [hk, Function.update_self, Dict.get?_set, if_neg hu]
      · rw [Function.update_of_ne hk]
  · rw [Dict.get?_set] at hother
    by_cases hu : u = t
    · rw [hu]
      exact hblank
    · rw [if_neg hu] at hother
      exact hr.named u other hother

/-- The tables after a start represent what is open after it. -/
theorem represents_start (hr : Represents h o) (hc : callback.closing = none) :
    Represents (callback.handle sink options h).2 (callback.track sink.capacity o) ∧
      (callback.handle sink options h).2.evidence = h.evidence := by
  cases callback with
  | llmEnd => cases hc
  | toolEnd => cases hc
  | retrieverEnd => cases hc
  | error => cases hc
  | start kind serialized digest runId parentRunId now =>
    rw [handle_start, Callback.track, hc]
    obtain ⟨t, opened, hopening, habsent, hkind, hblank, hrun⟩ | ⟨hopening, htook⟩ :=
      @onStart_spec σ sink h kind serialized digest runId parentRunId now o hr.started
    · rw [hopening, hrun, evidence_withInputs, ← hkind]
      exact ⟨hr.enter habsent hblank, rfl⟩
    · rw [hopening]
      refine ⟨hr.congr htook.started htook.inputs, ?_⟩
      obtain hevidence | ⟨_, -, hfalse⟩ := htook.evidence
      · exact hevidence
      · exact hfalse.elim

/-- Nothing is left of a run that was closed. -/
theorem Represents.erase (hr : Represents h o) {h' : CallbackHandler σ} {t : Text} {kind : Kind}
    {opened : Opened} (hopen : o.get? t = some opened) (hkind : opened.entry.kind.kind = kind)
    (hstarted : h'.started = h.started.erase t)
    (hinputs : h'.inputs = Function.update h.inputs kind ((h.inputs kind).erase t)) :
    Represents h' (o.erase t) := by
  refine ⟨?_, fun k u ↦ ?_, fun u other hother ↦ ?_⟩
  · rw [hstarted, hr.started, Dict.erase_mapValues]
  · rw [hinputs, Dict.get?_erase]
    by_cases hk : k = kind
    · rw [hk, Function.update_self, Dict.get?_erase, hr.inputs]
      by_cases hu : u = t
      · rw [if_pos hu, if_pos hu]
        rfl
      · rw [if_neg hu, if_neg hu]
    · rw [Function.update_of_ne hk, hr.inputs]
      by_cases hu : u = t
      · rw [if_pos hu, hu, hopen, Option.filter_some, hkind, decide_eq_false fun heq ↦ hk heq.symm]
        rfl
      · rw [if_neg hu]
  · rw [Dict.get?_erase] at hother
    by_cases hu : u = t
    · rw [if_pos hu] at hother
      cases hother
    · rw [if_neg hu] at hother
      exact hr.named u other hother

/-- An end or an error without an open start notes a failure and changes nothing else. -/
theorem ending_unpaired (hr : Represents h o) {kind : Kind} {runId : RunId}
    (hc : callback.closing = some (kind, runId)) (habsent : o.get? runId.text = none)
    (hnotes : ∀ stage exc, (sink.fail stage exc h.sink).1 = .ok ()) :
    (callback.handle sink options h).2.started = h.started ∧
      (callback.handle sink options h).2.inputs = h.inputs ∧
      (callback.handle sink options h).2.evidence = h.evidence ∧
      ∃ failure, (callback.handle sink options h).2.failures = h.failures ++ [failure] := by
  obtain ⟨error, ended, record, hhandle, hrecord⟩ := @handle_closing σ sink options _ _ _ hc
  obtain ⟨hstarted, hinputs⟩ := hr.absent habsent
  have hkept : h.withInputs ((h.inputs kind).erase runId.text) kind = h := by
    rw [erase_of_get?_none (hinputs kind)]
    cases kind <;> rfl
  rw [hhandle, ending, Attempt.get_bind, Attempt.modify_bind, hkept, hstarted, hinputs,
    hrecord.absent]
  exact finish_unpaired hstarted hnotes

/-- An end or an error of an open start closes it. -/
theorem ending_paired (hr : Represents h o) {kind : Kind} {runId : RunId} {opened : Opened}
    (hc : callback.closing = some (kind, runId)) (hopen : o.get? runId.text = some opened)
    (hkind : opened.entry.kind.kind = kind) (hnative : runId.native = true)
    (hsettled : callback.Settled sink h.sink) :
    (callback.handle sink options h).2.started = h.started.erase runId.text ∧
      (callback.handle sink options h).2.inputs =
        Function.update h.inputs kind ((h.inputs kind).erase runId.text) ∧
      ∃ contracts traces, (callback.handle sink options h).2.evidence =
        h.evidence ++ (contracts ++ traces) ∧ contracts.length ≤ 1 ∧ traces.length ≤ 1 ∧
          (∀ result ∈ contracts, Carries kind runId.text opened.digest result.contract) ∧
            ∀ result ∈ traces, Traces runId.text result.contract := by
  obtain ⟨error, ended, record, hhandle, hrecord⟩ := @handle_closing σ sink options _ _ _ hc
  have hentry : h.started.get? runId.text = some opened.entry := by
    rw [hr.started, Dict.get?_mapValues, hopen]
    rfl
  have hinput : (h.inputs kind).get? runId.text = some opened.digest := by
    rw [hr.inputs, hopen, Option.filter_some, decide_eq_true hkind]
    rfl
  have hid : runId.identity = .ok runId.text :=
    identity_eq_ok.mpr ⟨hnative, hr.named _ _ hopen, rfl⟩
  let taken := h.withInputs ((h.inputs kind).erase runId.text) kind
  have htook := hrecord.took opened.entry opened.digest taken
  have hok : (record (some opened.entry) (some opened.digest) taken).1 = .ok () := by
    apply hrecord.settled
    rw [sink_withInputs]
    exact hsettled
  have hrun : callback.handle sink options h = finish sink runId error ended
      (record (some opened.entry) (some opened.digest) taken).2 := by
    rw [hhandle, ending, Attempt.get_bind, Attempt.modify_bind, hentry, hinput]
    exact Attempt.bind_of_ok (Prod.ext hok rfl)
  have hstarted := htook.started.trans (started_withInputs _ kind)
  have hfinished := @finish_paired σ sink _ runId opened.entry error ended hid
    ((congrArg (Dict.get? · runId.text) hstarted).trans hentry)
  rw [hrun]
  refine ⟨?_, ?_, ?_⟩
  · rw [hfinished.started, hstarted]
  · rw [hfinished.inputs, ← inputs_withInputs]
    exact htook.inputs
  · have hrecorded : ∃ contracts,
        (record (some opened.entry) (some opened.digest) taken).2.evidence =
            h.evidence ++ contracts ∧
          contracts.length ≤ 1 ∧
          ∀ result ∈ contracts, Carries kind runId.text opened.digest result.contract :=
      htook.exists_evidence (evidence_withInputs _ kind)
    obtain ⟨contracts, hcontracts, hone, hcarries⟩ := hrecorded
    obtain ⟨traces, htraces, honeTrace, htrace⟩ := hfinished.exists_evidence hcontracts
    exact ⟨contracts, traces, htraces.trans (List.append_assoc ..), hone, honeTrace, hcarries,
      htrace⟩

/-- An orderly callback keeps the tables those of the open runs, and mispairs nothing. -/
theorem correlated_step (hr : Represents h o) (ho : Orderly sink h.sink o callback) :
    Correlated o callback h (callback.handle sink options h).2 ∧
      Represents (callback.handle sink options h).2 (callback.track sink.capacity o) := by
  cases hc : callback.closing with
  | none =>
    obtain ⟨hrepresents, hevidence⟩ := @represents_start σ sink options h o callback hr hc
    refine ⟨⟨.inl hevidence, ?_, ?_⟩, hrepresents⟩
    · intro kind runId hclosing
      rw [hc] at hclosing
      cases hclosing
    · intro kind runId hclosing
      rw [hc] at hclosing
      cases hclosing
  | some named =>
    obtain ⟨kind, runId⟩ := named
    have horderly := ho kind runId hc
    have htrack : callback.track sink.capacity o = o.erase runId.text := by
      rw [Callback.track, hc]
    cases hopen : o.get? runId.text with
    | none =>
      rw [hopen] at horderly
      obtain ⟨hstarted, hinputs, hevidence, hfailure⟩ :=
        @ending_unpaired σ sink options h o callback hr kind runId hc hopen horderly
      have hrepresents := hr.congr hstarted hinputs
      refine ⟨⟨.inl hevidence, ?_, ?_⟩, ?_⟩
      · intro kind' runId' hclosing _
        exact ⟨hevidence, hfailure⟩
      · intro kind' runId' hclosing
        rw [hc] at hclosing
        cases hclosing
        exact hrepresents.absent hopen
      · rw [htrack, erase_of_get?_none hopen]
        exact hrepresents
    | some opened =>
      rw [hopen] at horderly
      obtain ⟨hkind, hnative, hsettled⟩ := horderly
      obtain ⟨hstarted, hinputs, contracts, traces, hevidence, hone, honeTrace, hcarries,
          htraces⟩ :=
        @ending_paired σ sink options h o callback hr kind runId opened hc hopen hkind hnative
          hsettled
      have hrepresents := hr.erase hopen hkind hstarted hinputs
      refine ⟨⟨.inr ⟨kind, runId, opened, contracts, traces, hc, hopen, hkind, hevidence, hone,
        honeTrace, hcarries, htraces⟩, ?_, ?_⟩, ?_⟩
      · intro kind' runId' hclosing habsent
        rw [hc] at hclosing
        cases hclosing
        rw [hopen] at habsent
        cases habsent
      · intro kind' runId' hclosing
        rw [hc] at hclosing
        cases hclosing
        apply hrepresents.absent
        rw [Dict.get?_erase, if_pos rfl]
      · rw [htrack]
        exact hrepresents

/-! ### Runs of callbacks -/

/-- A handler and what is open. -/
def observe (sink : Sink σ) (options : HandlerOptions) (s : CallbackHandler σ × Dict Opened)
    (callback : Callback) : Except PyError Unit × (CallbackHandler σ × Dict Opened) :=
  ((callback.handle sink options s.1).1,
    ((callback.handle sink options s.1).2, callback.track sink.capacity s.2))

/-- Orderly callbacks are correlated, each in the state the earlier ones left. -/
theorem along_correlated {s : CallbackHandler σ × Dict Opened} (hr : Represents s.1 s.2)
    {callbacks : List Callback} (ho : Calls.Along (observe sink options)
      (fun s callback ↦ Orderly sink s.1.sink s.2 callback) s callbacks) :
    Calls.Along (observe sink options) (fun s callback ↦
      Correlated s.2 callback s.1 (callback.handle sink options s.1).2) s callbacks :=
  ho.imp (fun _ _ hr ho ↦ correlated_step hr ho) hr

theorem represents_init (s : σ) : Represents (.init s) [] :=
  ⟨rfl, fun kind t ↦ by cases kind <;> rfl, nofun⟩

/-! ### Counting -/

/-- Whether a contract is a runtime trace. -/
def isTrace : AIContract → Bool
  | .runtimeTrace _ => true
  | _ => false

/-- How many runtime traces, or how many other contracts, there are of a run. -/
def countOf (trace : Bool) (t : Text) (evidence : List ContractCaptureResult) : Nat :=
  evidence.countP fun result ↦ isTrace result.contract == trace && result.contract.head.runId = t

/-- One where the run is open. -/
def openOf (t : Text) (o : Dict Opened) : Nat := if (o.get? t).isSome then 1 else 0

/-- How many starts of a run are taken. -/
def startsOf (capacity : Nat) (t : Text) : Dict Opened → List Callback → Nat
  | _, [] => 0
  | o, callback :: callbacks =>
    (if (callback.opening capacity o).map Prod.fst = some t then 1 else 0) +
      startsOf capacity t (callback.track capacity o) callbacks

theorem countOf_append (trace : Bool) (t : Text) (l m : List ContractCaptureResult) :
    countOf trace t (l ++ m) = countOf trace t l + countOf trace t m := List.countP_append

/-- Results of one run count for that run alone, and for one of the two. -/
theorem countOf_recorded {trace : Bool} {t u digest : Text} {kind : Kind}
    {contracts traces : List ContractCaptureResult} (hone : contracts.length ≤ 1)
    (honeTrace : traces.length ≤ 1)
    (hcarries : ∀ result ∈ contracts, Carries kind u digest result.contract)
    (htraces : ∀ result ∈ traces, Traces u result.contract) :
    countOf trace t (contracts ++ traces) ≤ if t = u then 1 else 0 := by
  have hcontract : ∀ result ∈ contracts,
      isTrace result.contract = false ∧ result.contract.head.runId = u := by
    intro result hresult
    have hcarried := hcarries result hresult
    cases hc : result.contract <;> rw [hc] at hcarried <;> first
      | exact hcarried.elim
      | exact ⟨rfl, hcarried.2.1⟩
  have htrace : ∀ result ∈ traces,
      isTrace result.contract = true ∧ result.contract.head.runId = u := by
    intro result hresult
    have htraced := htraces result hresult
    cases hc : result.contract <;> rw [hc] at htraced <;> first
      | exact htraced.elim
      | exact ⟨rfl, htraced⟩
  have hnone {l : List ContractCaptureResult} {b : Bool}
      (hl : ∀ result ∈ l, isTrace result.contract = b ∧ result.contract.head.runId = u)
      (hother : b ≠ trace ∨ t ≠ u) : countOf trace t l = 0 := by
    rw [countOf, List.countP_eq_zero]
    intro result hresult hcounted
    rw [Bool.and_eq_true, beq_iff_eq, decide_eq_true_eq] at hcounted
    obtain ⟨htrace, hrun⟩ := hl result hresult
    exact hother.elim (fun hb ↦ hb (htrace.symm.trans hcounted.1))
      fun ht ↦ ht (hcounted.2.symm.trans hrun)
  rw [countOf_append]
  by_cases ht : t = u
  · rw [if_pos ht]
    cases trace with
    | true =>
      rw [hnone hcontract (.inl Bool.false_ne_true), Nat.zero_add]
      exact List.countP_le_length.trans honeTrace
    | false =>
      rw [hnone htrace (.inl fun heq ↦ Bool.false_ne_true heq.symm), Nat.add_zero]
      exact List.countP_le_length.trans hone
  · rw [if_neg ht, hnone hcontract (.inr ht), hnone htrace (.inr ht)]

/-- What is recorded of a run on a callback, the run was open for. -/
theorem countOf_step (hr : Represents h o) (ho : Orderly sink h.sink o callback) (trace : Bool)
    (t : Text) :
    countOf trace t (callback.handle sink options h).2.evidence +
        openOf t (callback.track sink.capacity o) ≤
      countOf trace t h.evidence + openOf t o +
        if (callback.opening sink.capacity o).map Prod.fst = some t then 1 else 0 := by
  have hcorrelated := (@correlated_step σ sink options h o callback hr ho).1
  cases hc : callback.closing with
  | none =>
    rw [(@represents_start σ sink options h o callback hr hc).2, Callback.track, hc]
    dsimp only
    cases hopening : callback.opening sink.capacity o with
    | none => exact Nat.le_add_right _ _
    | some opened =>
      rw [Option.map_some, Option.map_some, Option.getD_some, openOf, Dict.get?_set]
      by_cases ht : opened.1 = t
      · rw [if_pos ht.symm, if_pos (congrArg some ht), Option.isSome_some, if_pos rfl]
        omega
      · rw [if_neg (show ¬t = opened.1 from fun heq ↦ ht heq.symm)]
        exact Nat.le_add_right _ _
  | some named =>
    obtain ⟨kind, runId⟩ := named
    rw [show callback.track sink.capacity o = o.erase runId.text by rw [Callback.track, hc]]
    have hclosed : openOf t (o.erase runId.text) = if t = runId.text then 0 else openOf t o := by
      rw [openOf, Dict.get?_erase]
      by_cases ht : t = runId.text
      · rw [if_pos ht, if_pos ht]
        rfl
      · rw [if_neg ht, if_neg ht, openOf]
    rw [hclosed]
    obtain hsame | ⟨kind', runId', opened, contracts, traces, hclosing, hopen, -, hevidence, hone,
      honeTrace, hcarries, htraces⟩ := hcorrelated.paired
    · rw [hsame]
      split <;> omega
    · rw [hc] at hclosing
      cases hclosing
      have hcount := @countOf_recorded trace t _ _ _ _ _ hone honeTrace hcarries htraces
      rw [hevidence, countOf_append]
      by_cases ht : t = runId.text
      · have hone : openOf t o = 1 := by
          rw [openOf, ht, hopen]
          rfl
        rw [if_pos ht] at hcount ⊢
        omega
      · rw [if_neg ht] at hcount ⊢
        omega

/-- There is at most one contract and at most one runtime trace for each start that is taken. -/
theorem countOf_run {s : CallbackHandler σ × Dict Opened} (hr : Represents s.1 s.2)
    {callbacks : List Callback} (ho : Calls.Along (observe sink options)
      (fun s callback ↦ Orderly sink s.1.sink s.2 callback) s callbacks) (trace : Bool)
    (t : Text) :
    countOf trace t (Calls.run (observe sink options) s callbacks).1.evidence ≤
      countOf trace t s.1.evidence + openOf t s.2 + startsOf sink.capacity t s.2 callbacks := by
  induction callbacks generalizing s with
  | nil =>
    rw [Calls.run_nil, Nat.add_assoc]
    exact Nat.le_add_right _ _
  | cons callback callbacks ih =>
    have hstep := @countOf_step σ sink options s.1 s.2 callback hr ho.1 trace t
    have hrest := ih (correlated_step hr ho.1).2 ho.2
    change _ ≤ countOf trace t (callback.handle sink options s.1).2.evidence +
      openOf t (callback.track sink.capacity s.2) +
        startsOf sink.capacity t (callback.track sink.capacity s.2) callbacks at hrest
    rw [Calls.run_cons, startsOf]
    exact hrest.trans (by omega)

end Runs

end StateWake.Integrations
