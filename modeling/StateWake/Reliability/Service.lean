import StateWake.Base.Interleaving
import StateWake.Reliability.EvidenceChain
import StateWake.Reliability.Equivalence

/-!
# The transition service

`services/reliability_state_service.py:33–162`. A call reads the tip of its subject, then
either reads once more and returns what is stored, or plans a transition and appends it;
each read and each append is one atomic step on the store. `Moves` is what one step of a
call can do to the history a store represents, and every step of every store that
implements the abstract one is such a move.
-/

namespace StateWake.Reliability

open StateWake.Base Text KeyedHistory

namespace Service

/-- The arguments of `transition_reliability_state`; `verification` is what verifying the
chain against `evidence_root` raises, if it is asked for and raises. -/
structure Call where
  subjectId : Text
  chain : ReliabilityEvidenceChain
  actor : Text
  occurredAt : AwareDatetime
  rationale : List Text
  verification : Option PyError

/-- `ReliabilityStateSnapshot`, `domain/reliability_state.py:155–168`. -/
structure ReliabilityStateSnapshot where
  subjectId : Text
  state : ReliabilityState
  transitionId : Option Text
  transitionDigest : Option Text
  evidenceChainId : Option Text

/-- `_transition_id`, `services/reliability_state_service.py:33–52`. -/
def transitionId (subjectId previousDigest : Text) (chain : ReliabilityEvidenceChain)
    (occurredAt : AwareDatetime) : Except PyError Text := do
  let digest ← chain.digest
  let utc ← occurredAt.toUtc
  let content ← Utf8.toBytes (Json.dumps Json.compact (.obj
    [(lit "subject_id", .str subjectId),
      (lit "previous_transition_digest", .str previousDigest),
      (lit "evidence_chain_id", .str chain.chainId),
      (lit "evidence_chain_digest", .str digest),
      (lit "occurred_at", .str (isoformat utc)),
      (lit "decision", .str chain.decision.text),
      (lit "to_state", .str chain.reliabilityState.text)]))
  pure (sha256 content)

/-- `current_reliability_state` on the transitions read,
`services/reliability_state_service.py:55–77`. -/
def currentReliabilityState (subjectId : Text) (transitions : List ReliabilityStateTransition) :
    Except PyError ReliabilityStateSnapshot :=
  match transitions.getLast? with
  | none => .ok ⟨subjectId, .unknown, none, none, none⟩
  | some latest => do
    let digest ← latest.computedDigest
    pure ⟨subjectId, latest.toState, some latest.transitionId, some digest,
      some latest.evidenceChainId⟩

/-- Whether a call is taken for the retry of the stored tip,
`services/reliability_state_service.py:111–115`. -/
def retries (call : Call) (current : ReliabilityStateSnapshot) : Bool :=
  decide (current.state = call.chain.reliabilityState) && current.transitionId.isSome &&
    decide (current.evidenceChainId = some call.chain.chainId)

/-- The checks of a recovery, `services/reliability_state_service.py:128–134`. -/
def requireRecovery (chain : ReliabilityEvidenceChain) (current : ReliabilityStateSnapshot) :
    Except PyError Unit :=
  if chain.reliabilityState = .recovered then do
    require ⟨.valueError, lit "recovered state requires an unreliable predecessor."⟩
      (current.state = .unreliable)
    require ⟨.valueError, lit ("recovered state requires a recovery reference and recovered " ++
      "reconciliation state.")⟩
      (chain.recoveryRef.isSome && decide (chain.reconciliationState = .recovered))
  else pure ()

/-- The transition a call asks for after the state it read,
`services/reliability_state_service.py:118–150`. -/
def plan (call : Call) (current : ReliabilityStateSnapshot) :
    Except PyError ReliabilityStateTransition := do
  let chain := call.chain
  let target := chain.reliabilityState
  require ⟨.valueError, lit "invalid reliability-state transition: " ++ current.state.text ++
    lit " -> " ++ target.text⟩ (target ∈ current.state.allowedTransitions)
  require ⟨.valueError, lit "accept decision must produce reliable or recovered state."⟩
    (chain.decision = .accept → target = .reliable ∨ target = .recovered)
  require ⟨.valueError, lit "review decision must produce degraded state."⟩
    (chain.decision = .review → target = .degraded)
  require ⟨.valueError, lit "reject decision must produce unreliable state."⟩
    (chain.decision = .reject → target = .unreliable)
  requireRecovery chain current
  let previousDigest := current.transitionDigest.getD []
  let identifier ← transitionId call.subjectId previousDigest chain call.occurredAt
  let digest ← chain.digest
  ReliabilityStateTransition.create identifier call.subjectId current.state.text target.text
    call.occurredAt call.actor chain.chainId digest chain.decision.text
    (if call.rationale = [] then chain.decisionRationale else call.rationale) previousDigest

/-- An identifier is a digest, where UTF-8 can encode the texts it is made of. -/
private theorem exists_transitionId {subjectId previousDigest digest : Text}
    {chain : ReliabilityEvidenceChain} {occurredAt : AwareDatetime} {utc : Datetime}
    (hdigest : chain.digest = .ok digest) (hutc : occurredAt.toUtc = .ok utc)
    (hsubject : SurrogateFree subjectId) (hchain : SurrogateFree chain.chainId)
    (hprevious : SurrogateFree previousDigest) :
    ∃ content, transitionId subjectId previousDigest chain occurredAt = .ok (sha256 content) := by
  simp only [transitionId, hdigest, hutc, ok_bind]
  generalize hrecord : ([(lit "subject_id", Json.str subjectId), _, _, _, _, _, _] : Dict Json) =
    record
  have hfree : SurrogateFree (Json.dumps Json.compact (.obj record)) := by
    apply Json.surrogateFree_dumps
    · simp [← hrecord, Dict.Distinct]
    · have hdecision : SurrogateFree chain.decision.text := by
        cases chain.decision <;> exact surrogateFree_lit _
      have hstate : SurrogateFree chain.reliabilityState.text := by
        cases chain.reliabilityState <;> exact surrogateFree_lit _
      rw [← hrecord, Json.forall_texts_obj]
      simp [hsubject, hprevious, hchain, hdecision, hstate, surrogateFree_isoformat,
        surrogateFree_of_isSha256 (ReliabilityEvidenceChain.isSha256_of_digest hdigest)]
  obtain ⟨content, hcontent⟩ := Option.isSome_iff_exists.mp ((Utf8.encode_isSome_iff _).mpr hfree)
  exact ⟨content, by rw [Utf8.toBytes, hcontent]; rfl⟩

/-- A call is planned where the checks pass and UTF-8 can encode what identifies the transition. -/
theorem exists_plan {call : Call} {current : ReliabilityStateSnapshot} {digest : Text}
    {utc : Datetime} (hdigest : call.chain.digest = .ok digest)
    (hutc : call.occurredAt.toUtc = .ok utc)
    (hsubject : SurrogateFree call.subjectId) (hchain : SurrogateFree call.chain.chainId)
    (hprevious : current.transitionDigest.getD [] = [] ∨
      isSha256 (current.transitionDigest.getD []) = true)
    (hnamed : blank call.subjectId = false ∧ blank call.actor = false)
    (hallowed : call.chain.reliabilityState ∈ current.state.allowedTransitions)
    (hdecided : call.chain.decision ≠ .undecided)
    (haccepts : call.chain.decision = .accept ↔
      call.chain.reliabilityState = .reliable ∨ call.chain.reliabilityState = .recovered)
    (hreviews : call.chain.decision = .review ↔ call.chain.reliabilityState = .degraded)
    (hrejects : call.chain.decision = .reject ↔ call.chain.reliabilityState = .unreliable)
    (hrecovery : requireRecovery call.chain current = .ok ()) :
    ∃ t, plan call current = .ok t ∧ t.toState = call.chain.reliabilityState ∧
      isSha256 t.transitionId = true ∧ t.actor = call.actor ∧
      t.rationale = if call.rationale = [] then call.chain.decisionRationale else call.rationale := by
  have hfree : SurrogateFree (current.transitionDigest.getD []) := by
    cases hprevious with
    | inl h => simp [h, SurrogateFree]
    | inr h => exact surrogateFree_of_isSha256 h
  obtain ⟨content, hidentifier⟩ := exists_transitionId hdigest hutc hsubject hchain hfree
  have hblank : ¬(blank (sha256 content) = true ∨ blank call.subjectId = true ∨
      blank call.actor = true) := by
    simp [hnamed, not_blank_of_isSha256]
  simp only [plan, hidentifier, hdigest, ok_bind, hallowed, decide_true, require_true,
    decide_eq_true haccepts.mp, decide_eq_true hreviews.mp, decide_eq_true hrejects.mp, hrecovery]
  rw [ReliabilityStateTransition.create, dif_neg hblank]
  simp only [ReliabilityState.ofText?_text, Decision.ofText?_text]
  rw [dif_pos hallowed, dif_pos call.chain.named,
    dif_pos (ReliabilityEvidenceChain.isSha256_of_digest hdigest), dif_pos hprevious,
    dif_pos hdecided, dif_pos haccepts.mpr, dif_pos hreviews.mpr, dif_pos hrejects.mpr, hutc,
    ok_bind]
  exact ⟨_, rfl, rfl, isSha256_sha256 content, rfl, rfl⟩

/-- Where a call stands between two accesses to the store. -/
inductive Phase where
  | ready
  | retrying (current : ReliabilityStateSnapshot)
  | writing (transition : ReliabilityStateTransition)
  | returned (transition : ReliabilityStateTransition)
  | raised (e : PyError)

/-- What a call does with the transitions its first read gave. -/
def afterRead (call : Call) (transitions : List ReliabilityStateTransition) : Phase :=
  match currentReliabilityState call.subjectId transitions with
  | .error e => .raised e
  | .ok current =>
    if retries call current then .retrying current
    else
      match plan call current with
      | .error e => .raised e
      | .ok transition => .writing transition

/-- The next atomic step of a call, `services/reliability_state_service.py:80–162`. -/
def next {σ : Type} (store : StateStore σ) (call : Call) (s : σ) : Phase → σ × Phase
  | .ready =>
    if blank call.subjectId then
      (s, .raised ⟨.valueError, lit "subject_id must not be empty."⟩)
    else
      match call.verification with
      | some e => (s, .raised e)
      | none =>
        match store.read s (some call.subjectId) with
        | (.error e, s) => (s, .raised e)
        | (.ok transitions, s) => (s, afterRead call transitions)
  | .retrying _ =>
    match store.read s (some call.subjectId) with
    | (.error e, s) => (s, .raised e)
    | (.ok history, s) =>
      match history.getLast? with
      | some transition => (s, .returned transition)
      | none => (s, .raised ⟨.indexError, lit "list index out of range"⟩)
  | .writing transition =>
    match store.append s transition with
    | (.error e, s) => (s, .raised e)
    | (.ok transition, s) => (s, .returned transition)
  | .returned transition => (s, .returned transition)
  | .raised e => (s, .raised e)

/-- The store before any call, and every call ready. -/
def initial {σ ι : Type} (s : σ) : Interleaving.Config ι σ Phase := ⟨s, fun _ ↦ .ready⟩

/-! ### What one step can do -/

/-- One step of a call over the history its store represents. -/
inductive Moves (call : Call) (h : List ReliabilityStateTransition) :
    Phase → List ReliabilityStateTransition → Phase → Prop where
  | raises (phase : Phase) (e : PyError) : Moves call h phase h (.raised e)
  | retries (current : ReliabilityStateSnapshot)
      (read : currentReliabilityState call.subjectId (ofKey (·.subjectId) call.subjectId h) =
        .ok current)
      (retry : retries call current = true) : Moves call h .ready h (.retrying current)
  | plans (current : ReliabilityStateSnapshot) (t : ReliabilityStateTransition)
      (read : currentReliabilityState call.subjectId (ofKey (·.subjectId) call.subjectId h) =
        .ok current)
      (planned : plan call current = .ok t) : Moves call h .ready h (.writing t)
  | reads (current : ReliabilityStateSnapshot) (t : ReliabilityStateTransition)
      (tip : tip? call.subjectId h = some t) : Moves call h (.retrying current) h (.returned t)
  | appends (t : ReliabilityStateTransition) (h' : List ReliabilityStateTransition)
      (accepted : accepts h t = some h') : Moves call h (.writing t) h' (.returned t)
  | stays (phase : Phase) : Moves call h phase h phase

variable {call : Call} {h h' : List ReliabilityStateTransition} {phase phase' : Phase}

theorem Moves.valid (hm : Moves call h phase h' phase') (hv : Valid h) : Valid h' := by
  cases hm with
  | appends t h' accepted => exact hv.accepts accepted
  | _ => exact hv

/-- A step adds at most one transition, the one the call was writing. -/
theorem Moves.grows (hm : Moves call h phase h' phase') :
    h' = h ∨ ∃ t, phase = .writing t ∧ h' = h ++ [t] ∧ Extends (tip? t.subjectId h) t := by
  cases hm with
  | appends t h' accepted =>
    rcases (accepts_cases accepted).2 with ⟨heq, -⟩ | ⟨heq, -, hext⟩
    · exact .inl heq
    · exact .inr ⟨t, rfl, heq, hext⟩
  | _ => exact .inl rfl

private theorem afterRead_moves (call : Call) (h : List ReliabilityStateTransition) :
    Moves call h .ready h (afterRead call (ofKey (·.subjectId) call.subjectId h)) := by
  unfold afterRead
  cases hread : currentReliabilityState call.subjectId (ofKey (·.subjectId) call.subjectId h) with
  | error e => exact .raises _ e
  | ok current =>
    by_cases hretry : retries call current = true
    · simp only [hretry, ↓reduceIte]
      exact .retries current hread hretry
    · simp only [hretry, Bool.false_eq_true, ↓reduceIte]
      cases hplan : plan call current with
      | error e => exact .raises _ e
      | ok t => exact .plans current t hread hplan

variable {σ : Type} {store : StateStore σ} {represents : σ → List ReliabilityStateTransition → Prop}

/-- Each step over a store that implements the abstract one is a move of its history. -/
theorem next_moves (hi : Implements store represents) {s : σ} (hv : Valid h)
    (hr : represents s h) (call : Call) (phase : Phase) :
    ∃ h', represents (next store call s phase).1 h' ∧
      Moves call h phase h' (next store call s phase).2 := by
  cases phase with
  | ready =>
    simp only [next]
    split
    · exact ⟨h, hr, .raises _ _⟩
    · cases call.verification with
      | some e => exact ⟨h, hr, .raises _ e⟩
      | none =>
        obtain ⟨r, s', hread, hr', hl⟩ := hi.read_any (some call.subjectId) hv hr
        simp only [hread]
        cases r with
        | error e => exact ⟨h, hr', .raises _ e⟩
        | ok l =>
          obtain rfl := hl l rfl
          exact ⟨h, hr', afterRead_moves call h⟩
  | retrying current =>
    obtain ⟨r, s', hread, hr', hl⟩ := hi.read_any (some call.subjectId) hv hr
    simp only [next, hread]
    cases r with
    | error e => exact ⟨h, hr', .raises _ e⟩
    | ok l =>
      obtain rfl := hl l rfl
      cases htip : (select (some call.subjectId) h).getLast? with
      | none =>
        simp only [htip]
        exact ⟨h, hr', .raises _ _⟩
      | some t =>
        simp only [htip]
        exact ⟨h, hr', .reads current t htip⟩
  | writing t =>
    cases ha : accepts h t with
    | none =>
      obtain ⟨e, s', happ, hr'⟩ := hi.append_error hv hr ha
      simp only [next, happ]
      exact ⟨h, hr', .raises _ e⟩
    | some h' =>
      obtain ⟨s', happ, hr'⟩ := hi.append_ok hv hr ha
      simp only [next, happ]
      exact ⟨h', hr', .appends t h' ha⟩
  | returned t => exact ⟨h, hr, .stays _⟩
  | raised e => exact ⟨h, hr, .stays _⟩

end Service
end StateWake.Reliability
