import Mathlib.Data.List.Dedup
import StateWake.Reliability.ActionChanges

/-!
# Comparing runs

`compare` of `domain/diff.py` on two run records: the state a run started from, the evidence it
had and its events as a store returns them.
-/

namespace StateWake.Reliability

open StateWake.Base Text Utils

/-! ### The comparison -/

/-- A text that `or` keeps. -/
def truthy (s : Option Text) : Option Text := s.filter fun text ↦ !text.isEmpty

/-- The outcome an event states, or what stands for it. -/
def outcomeOf (e : EventEnvelope) (otherwise : Text) : Text :=
  ((truthy (e.val.metadata.get? (lit "outcome"))).or (truthy e.val.name)).getD otherwise

/-- `_outcome`, `domain/diff.py:135–144`. -/
def outcome (events : Option (List EventEnvelope)) : Option Text :=
  let reversed := (events.getD []).reverse
  match reversed.find? fun e ↦ e.val.eventType = lit "run.completed" with
  | some e => some (outcomeOf e (lit "completed"))
  | none => reversed.head?.map fun e ↦ outcomeOf e e.val.eventType

/-- `compare`, `domain/diff.py:280–299`, of the evidence identities two manifests list. -/
def compare (beforeState afterState : SystemState) (beforeIds afterIds : List Text)
    (beforeEvents afterEvents : Option (List EventEnvelope)) : Except PyError BehavioralDiff := do
  let actionChanges ← actionChanges beforeEvents afterEvents
  pure ⟨stateChanges beforeState afterState, outcome beforeEvents, outcome afterEvents,
    ((afterIds.filter (· ∉ beforeIds)).dedup).insertionSort (· ≤ ·),
    ((beforeIds.filter (· ∉ afterIds)).dedup).insertionSort (· ≤ ·), actionChanges⟩

/-! ### State changes -/

section States

variable {before after : SystemState}

theorem mem_unionKeys {left right : Dict Json} {key : Text} :
    key ∈ unionKeys left right ↔ key ∈ left.keys ∨ key ∈ right.keys := by
  rw [unionKeys, List.mem_insertionSort, List.mem_dedup, List.mem_append]

/-- The members of two dictionaries of texts are unchanged exactly when these are one. -/
theorem memberChanges_eq_nil_iff {field : Text → Text} {left right : Dict Text} :
    memberChanges field (left.mapValues .str) (right.mapValues .str) = [] ↔
      ∀ key, left.get? key = right.get? key := by
  have hvalue : ∀ a b : Option Text,
      (a.map Json.str).getD .null = (b.map Json.str).getD .null ↔ a = b := by
    intro a b
    cases a <;> cases b <;> simp
  have hkey : ∀ key, (if ((left.mapValues Json.str).get? key).getD .null =
      ((right.mapValues Json.str).get? key).getD .null then none else
        some (⟨field key, ((left.mapValues Json.str).get? key).getD .null,
          ((right.mapValues Json.str).get? key).getD .null⟩ : FieldChange)) = none ↔
      left.get? key = right.get? key := by
    intro key
    rw [Dict.get?_mapValues, Dict.get?_mapValues, ← hvalue]
    split <;> simp_all
  rw [memberChanges, List.filterMap_eq_nil_iff]
  constructor
  · intro h key
    by_cases hmem : key ∈ unionKeys (left.mapValues Json.str) (right.mapValues Json.str)
    · exact (hkey key).mp (h key hmem)
    · rw [mem_unionKeys, Dict.keys_mapValues, Dict.keys_mapValues, not_or] at hmem
      rw [Dict.get?_eq_none_iff.mpr hmem.1, Dict.get?_eq_none_iff.mpr hmem.2]
  · intro h key _
    exact (hkey key).mpr (h key)

theorem mapValues_str_inj {left right : Dict Text} :
    left.mapValues Json.str = right.mapValues .str ↔ left = right := by
  apply (List.map_injective_iff.mpr _).eq_iff
  intro m n h
  obtain ⟨hkey, hvalue⟩ := Prod.mk.inj h
  exact Prod.ext hkey (Json.str.inj hvalue)

/-- The changes of one member of the payloads. -/
def payloadChanges (key : Text) : Json → Json → List FieldChange
  | .obj before, .obj after => memberChanges (fun child ↦ key ++ lit "." ++ child) before after
  | before, after => if before = after then [] else [⟨key, before, after⟩]

theorem stateChanges_eq (before after : SystemState) : stateChanges before after =
    (unionKeys before.fingerprintPayload after.fingerprintPayload).flatMap fun key ↦
      payloadChanges key ((before.fingerprintPayload.get? key).getD .null)
        ((after.fingerprintPayload.get? key).getD .null) := rfl

theorem payloadChanges_option (key : Text) (a b : Option Text) :
    payloadChanges key (optionJson a) (optionJson b) = [] ↔ optionJson a = optionJson b := by
  cases a <;> cases b <;> simp [payloadChanges, optionJson]

theorem payloadChanges_str (key a b : Text) :
    payloadChanges key (.str a) (.str b) = [] ↔ a = b := by
  simp [payloadChanges]

/-- A state is unchanged exactly when its fingerprint payload is. -/
theorem stateChanges_eq_nil_iff (hb : before.toolDigests.Distinct)
    (ha : after.toolDigests.Distinct) :
    stateChanges before after = [] ↔ before.fingerprintPayload = after.fingerprintPayload := by
  have hkeys : ∀ key, key ∈ unionKeys before.fingerprintPayload after.fingerprintPayload ↔
      key ∈ [lit "agent_version", lit "model", lit "prompt_digest", lit "tool_digests",
        lit "retrieval_digest", lit "memory_digest", lit "policy_digest"] := by
    intro key
    rw [mem_unionKeys]
    exact or_self_iff
  have htools : payloadChanges (lit "tool_digests")
      (.obj (before.toolDigests.sorted.mapValues .str))
      (.obj (after.toolDigests.sorted.mapValues .str)) = [] ↔
      before.toolDigests.sorted.mapValues Json.str = after.toolDigests.sorted.mapValues .str := by
    rw [payloadChanges, memberChanges_eq_nil_iff, ← Dict.sorted_eq_sorted_iff hb.sorted ha.sorted,
      Dict.sorted_sorted, Dict.sorted_sorted, mapValues_str_inj]
  simp only [stateChanges_eq, List.flatMap_eq_nil_iff, hkeys, List.forall_mem_cons,
    List.not_mem_nil, false_implies, implies_true, and_true]
  simp [SystemState.fingerprintPayload, htools, payloadChanges_option, payloadChanges_str]

end States

/-! ### Runs -/

/-- What is compared of a run: its events carry its identity and, as `from_dict` reads them, times
in UTC, and a dictionary has each key once. -/
structure RunRecord where
  runId : Text
  state : SystemState
  evidenceIds : List Text
  events : List EventEnvelope
  tools : state.toolDigests.Distinct
  own : ∀ e ∈ events, e.val.runId = runId
  recorded : ∀ e ∈ events, ∃ u, e.val.occurredAt = .ofUtc u

namespace RunRecord

variable {a b : RunRecord}

/-- The actions of a run. -/
def actions (a : RunRecord) : List EventEnvelope := actionEvents (some a.events)

/-- The comparison of two runs. -/
def diff (a b : RunRecord) : Except PyError BehavioralDiff :=
  compare a.state b.state a.evidenceIds b.evidenceIds (some a.events) (some b.events)

/-- What an action is, whichever run it belongs to and whenever it occurred. -/
def behavior (e : EventEnvelope) :
    Text × Text × Option Text × Option Text × Option Text × Dict Text :=
  (e.val.eventType, e.val.actor, e.val.name, e.val.stateId, e.val.payloadRef, e.val.metadata.sorted)

/-- Two runs that act alike, position by position. -/
def ActsAlike (a b : RunRecord) : Prop := a.actions.map behavior = b.actions.map behavior

theorem mem_actions {e : EventEnvelope} (h : e ∈ a.actions) : e ∈ a.events :=
  List.mem_of_mem_filter h

theorem printable_actions (a : RunRecord) : Printable a.actions := by
  intro e he
  obtain ⟨u, hu⟩ := a.recorded e (mem_actions he)
  rw [EventFields.toDict, hu, AwareDatetime.utcText_ofUtc]
  exact ⟨_, rfl⟩

/-- The payload of an action names its run. -/
theorem runId_payload {e : EventEnvelope} (he : e ∈ a.actions) :
    (payloadOf (printed e)).get? (lit "run_id") = some (.str a.runId) := by
  obtain ⟨u, hu⟩ := a.recorded e (mem_actions he)
  have hprinted : (printed e).get? (lit "run_id") = some (.str e.val.runId) := by
    rw [printed, EventFields.toDict, hu, AwareDatetime.utcText_ofUtc, ok_bind]
    rfl
  rw [payloadOf, Dict.get?_erase, if_neg (by decide), Dict.get?_erase, if_neg (by decide), hprinted,
    a.own e (mem_actions he)]

/-- Between runs of different identities only runs without actions have no action changes. -/
theorem payloads_eq_iff (h : a.runId ≠ b.runId) :
    (a.actions.map fun e ↦ payloadOf (printed e)) =
      (b.actions.map fun e ↦ payloadOf (printed e)) ↔ a.actions = [] ∧ b.actions = [] := by
  constructor
  · intro heq
    cases ha : a.actions with
    | nil =>
      rw [ha, List.map_nil, eq_comm, List.map_eq_nil_iff] at heq
      exact ⟨rfl, heq⟩
    | cons e rest =>
      have hmem : payloadOf (printed e) ∈ b.actions.map fun e ↦ payloadOf (printed e) := by
        rw [← heq, ha]
        exact List.mem_cons_self
      obtain ⟨e', he', hpayload⟩ := List.mem_map.mp hmem
      have hleft : e ∈ a.actions := ha ▸ List.mem_cons_self
      have hsame := (runId_payload hleft).symm.trans (hpayload ▸ runId_payload he')
      exact absurd (Json.str.inj (Option.some.inj hsame)) h
  · intro hnil
    rw [hnil.1, hnil.2]

/-- What a comparison of two runs promises: action changes exactly where the runs do not act
alike, state changes exactly where their states' fingerprint payloads differ. -/
def Exact (a b : RunRecord) : Prop :=
  ∃ d, a.diff b = .ok d ∧ (d.actionChanges = [] ↔ ActsAlike a b) ∧
    (d.stateChanges = [] ↔ a.state.fingerprintPayload = b.state.fingerprintPayload)

/-- Two runs have a comparison, which has no action change exactly where the payloads of their
actions agree. -/
theorem exists_diff (a b : RunRecord) : ∃ d, a.diff b = .ok d ∧
    (d.actionChanges = [] ↔ (a.actions.map fun e ↦ payloadOf (printed e)) =
      b.actions.map fun e ↦ payloadOf (printed e)) ∧
    (d.stateChanges = [] ↔ a.state.fingerprintPayload = b.state.fingerprintPayload) := by
  have hchanges := actionChanges_eq_ok (printable_actions a) (printable_actions b)
  have hnil := actionChanges_eq_nil_iff (printable_actions a) (printable_actions b)
  rw [hchanges, Except.ok.injEq] at hnil
  generalize List.filterMap _ _ = changes at hchanges hnil
  rw [diff, compare, hchanges, ok_bind]
  refine ⟨_, rfl, ?_, ?_⟩
  · exact hnil
  · have hstates := stateChanges_eq_nil_iff a.tools b.tools
    dsimp only
    exact hstates

/-- Between runs of different identities the action changes say only whether there are actions. -/
theorem exact_iff_actions (h : a.runId ≠ b.runId) :
    Exact a b ↔ (a.actions = [] ∧ b.actions = [] ↔ ActsAlike a b) := by
  obtain ⟨d, hd, hactions, hstates⟩ := exists_diff a b
  rw [payloads_eq_iff h] at hactions
  constructor
  · intro hexact
    obtain ⟨d', hd', hactions', -⟩ := hexact
    cases hd.symm.trans hd'
    exact hactions.symm.trans hactions'
  · intro halike
    exact ⟨d, hd, hactions.trans halike, hstates⟩

/-- A comparison of runs of different identities is exact exactly when they do not act alike or
have no action at all: an action always differs in its run. -/
theorem exact_iff (h : a.runId ≠ b.runId) :
    Exact a b ↔ a.actions = [] ∨ ¬ActsAlike a b := by
  rw [exact_iff_actions h]
  constructor
  · intro halike
    by_cases hsame : ActsAlike a b
    · exact .inl (halike.mpr hsame).1
    · exact .inr hsame
  · intro hcondition
    by_cases ha : a.actions = []
    · rw [ActsAlike, ha, List.map_nil]
      exact (and_iff_right rfl).trans (List.map_eq_nil_iff.symm.trans eq_comm)
    · exact iff_of_false (fun hboth ↦ ha hboth.1) (hcondition.resolve_left ha)

/-! ### Two runs that act alike -/

/-- A state. -/
def sampleState : SystemState where
  stateId := lit "state"
  capturedAt := .of (.of 2026 9 9) 0
  agentVersion := lit "agent@1"
  model := lit "model@1"
  promptDigest := lit "prompt"
  toolDigests := []
  retrievalDigest := none
  memoryDigest := none
  policyDigest := none

/-- A call of a tool in a run. -/
def toolCall (runId : Text) : EventFields where
  runId
  sequence := 0
  occurredAt := .ofUtc sampleState.capturedAt
  eventType := lit "tool.called"
  actor := lit "agent"
  name := some (lit "crm.read")
  stateId := none
  payloadRef := none
  metadata := []

/-- A run that calls one tool. -/
def sampleRun (runId : Text) (h : (toolCall runId).postInit = .ok ()) : RunRecord where
  runId
  state := sampleState
  evidenceIds := []
  events := [⟨toolCall runId, h⟩]
  tools := List.nodup_nil
  own := by simp [toolCall]
  recorded := by simp [toolCall]

/-- Two runs that call one tool alike have an action change. -/
theorem not_exact : ¬∀ a b : RunRecord, a.runId ≠ b.runId → Exact a b := by
  intro hall
  have hdiffer : lit "run-a" ≠ lit "run-b" := by decide
  have h := hall (sampleRun (lit "run-a") (by decide)) (sampleRun (lit "run-b") (by decide)) hdiffer
  have hnone := ((exact_iff_actions hdiffer).mp h).mpr rfl
  revert hnone
  decide

/-- The condition at two runs that call one tool. -/
theorem exact_iff_sampleRun : lit "run-a" ≠ lit "run-b" ∧
    (Exact (sampleRun (lit "run-a") (by decide)) (sampleRun (lit "run-b") (by decide)) ↔
      (sampleRun (lit "run-a") (by decide)).actions = [] ∨
        ¬ActsAlike (sampleRun (lit "run-a") (by decide)) (sampleRun (lit "run-b") (by decide))) :=
  ⟨by decide, exact_iff (by decide)⟩

end RunRecord

end StateWake.Reliability
