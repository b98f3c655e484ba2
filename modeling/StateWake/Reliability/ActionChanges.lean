import StateWake.Base.Alignment
import StateWake.Reliability.Comparison

/-!
# Action changes

`EventEnvelope` of `domain/events.py` and the comparison of two runs' actions in `domain/diff.py`:
actions are aligned by exact content, then by stable identity between exact matches, then by
position between those.
-/

namespace StateWake.Reliability

open StateWake.Base Text Utils

/-! ### Events -/

/-- The fields of `EventEnvelope`, `domain/events.py:18–30`. -/
structure EventFields where
  runId : Text
  sequence : Int
  occurredAt : AwareDatetime
  eventType : Text
  actor : Text
  name : Option Text
  stateId : Option Text
  payloadRef : Option Text
  metadata : Dict Text
  deriving DecidableEq

namespace EventFields

/-- The constructor's checks, `__post_init__` at `domain/events.py:32–43`. -/
def postInit (f : EventFields) : Except PyError Unit := do
  require ⟨.valueError, lit "run_id must not be empty."⟩ (!blank f.runId)
  require ⟨.valueError, lit "sequence must be non-negative."⟩ (0 ≤ f.sequence)
  require ⟨.valueError, lit "event_type must not be empty."⟩ (!blank f.eventType)
  require ⟨.valueError, lit "actor must not be empty."⟩ (!blank f.actor)

/-- `to_dict`, `domain/events.py:45–57`. -/
def toDict (f : EventFields) : Except PyError (Dict Json) := do
  let occurredAt ← f.occurredAt.utcText
  pure [(lit "run_id", .str f.runId),
    (lit "sequence", .int f.sequence),
    (lit "occurred_at", .str occurredAt),
    (lit "event_type", .str f.eventType),
    (lit "actor", .str f.actor),
    (lit "name", optionJson f.name),
    (lit "state_id", optionJson f.stateId),
    (lit "payload_ref", optionJson f.payloadRef),
    (lit "metadata", .obj (Dict.mapValues .str (Dict.sorted f.metadata)))]

end EventFields

/-- `EventEnvelope`: fields the constructor accepted. -/
abbrev EventEnvelope := Accepted EventFields.postInit

/-! ### Actions -/

/-- The kinds of event that are actions, `domain/diff.py:155–161`. -/
def isAction (e : EventEnvelope) : Bool :=
  [lit "action.", lit "decision."].any (fun start ↦ start.isPrefixOf e.val.eventType) ||
    [lit "tool.called", lit "tool.returned"].contains e.val.eventType

/-- `_action_events`, `domain/diff.py:147–161`. -/
def actionEvents (events : Option (List EventEnvelope)) : List EventEnvelope :=
  events.elim [] (List.filter isAction)

/-- `_action_identity`, `domain/diff.py:164–176`. -/
def actionIdentity (e : EventEnvelope) : List Text :=
  let keys := [lit "action_id", lit "tool_call_id", lit "decision_id", lit "event_id"]
  let named := keys.findSome? fun key ↦
    ((e.val.metadata.get? key).filter fun value ↦ !value.isEmpty).map fun value ↦
      [lit "id", key, value]
  named.getD [lit "shape", e.val.eventType, e.val.actor, e.val.stateId.getD [],
    e.val.payloadRef.getD []]

/-- `_action_payload`, `domain/diff.py:179–184`. -/
def actionPayload (e : EventEnvelope) : Except PyError (Dict Json) := do
  let payload ← e.val.toDict
  pure ((payload.erase (lit "sequence")).erase (lit "occurred_at"))

/-- The identity of an action of a run by its position. -/
def identityAt (actions : List EventEnvelope) (i : Nat) : Option (List Text) :=
  actions[i]?.map actionIdentity

/-- `_action_alignment`, `domain/diff.py:222–257`. Its keys are the `repr` of payloads, which
differ as the payloads do: a payload has one order, and its values are texts, `None` and one
dictionary of texts. -/
def actionAlignment (left right : List EventEnvelope) :
    Except PyError (Alignment.Pairs Nat Nat) := do
  let leftKeys ← left.mapM actionPayload
  let rightKeys ← right.mapM actionPayload
  pure (Alignment.align leftKeys rightKeys (identityAt left) (identityAt right))

/-- The change an aligned pair stands for, `domain/diff.py:268–277`. -/
def pairChange (left right : List EventEnvelope) (p : Option Nat × Option Nat) :
    Except PyError (Option ActionChange) :=
  match p.1.bind (left[·]?), p.2.bind (right[·]?) with
  | none, none => pure (some ⟨lit "added", .null, .null⟩)
  | none, some after => do
    let after ← after.val.toDict
    pure (some ⟨lit "added", .null, .obj after⟩)
  | some before, none => do
    let before ← before.val.toDict
    pure (some ⟨lit "removed", .obj before, .null⟩)
  | some before, some after => do
    let leftAction ← before.val.toDict
    let rightAction ← after.val.toDict
    let leftPayload ← actionPayload before
    let rightPayload ← actionPayload after
    pure (if leftPayload = rightPayload then none else
      some ⟨lit "changed", .obj leftAction, .obj rightAction⟩)

/-- `_action_changes`, `domain/diff.py:260–277`. -/
def actionChanges (before after : Option (List EventEnvelope)) :
    Except PyError (List ActionChange) := do
  let left := actionEvents before
  let right := actionEvents after
  let alignment ← actionAlignment left right
  let changes ← alignment.mapM (pairChange left right)
  pure (changes.filterMap id)

/-! ### The matches -/

section Matches

variable {α : Type} [DecidableEq α]

/-- Positions of equal keys of two sequences, strictly increasing in both. -/
structure CommonSubsequence (left right : List α) (pairs : List (Nat × Nat)) : Prop where
  increasing : pairs.Pairwise fun p q ↦ p.1 < q.1 ∧ p.2 < q.2
  equal : ∀ p ∈ pairs, ∃ key, left[p.1]? = some key ∧ right[p.2]? = some key

omit [DecidableEq α] in
theorem commonSubsequence_iff {left right : List α} {pairs : List (Nat × Nat)} :
    CommonSubsequence left right pairs ↔
      Alignment.Increasing left.length right.length 0 0 pairs ∧
        ∀ p ∈ pairs, left[p.1]? = right[p.2]? := by
  rw [Alignment.increasing_iff]
  constructor
  · intro h
    refine ⟨⟨h.increasing, fun p hp ↦ ?_⟩, fun p hp ↦ ?_⟩
    · obtain ⟨key, hleft, hright⟩ := h.equal p hp
      exact ⟨⟨Nat.zero_le _, (List.getElem?_eq_some_iff.mp hleft).1⟩, Nat.zero_le _,
        (List.getElem?_eq_some_iff.mp hright).1⟩
    · obtain ⟨key, hleft, hright⟩ := h.equal p hp
      rw [hleft, hright]
  · intro ⟨⟨hincreasing, hbounds⟩, hequal⟩
    refine ⟨hincreasing, fun p hp ↦ ⟨left.get ⟨p.1, (hbounds p hp).1.2⟩, ?_, ?_⟩⟩
    · exact List.getElem?_eq_getElem _
    · rw [← hequal p hp]
      exact List.getElem?_eq_getElem _

/-- What `_lcs_matches`, `domain/diff.py:187–219`, returns for any two sequences of keys is a common
subsequence, and none is longer. -/
theorem lcsMatches_longest (left right : List α) :
    CommonSubsequence left right (Alignment.lcsMatches left right) ∧
      ∀ pairs, CommonSubsequence left right pairs →
        pairs.length ≤ (Alignment.lcsMatches left right).length := by
  constructor
  · rw [commonSubsequence_iff]
    exact ⟨Alignment.increasing_lcsMatches left right,
      fun p hp ↦ Alignment.getElem?_eq_of_mem_lcsMatches hp⟩
  · intro pairs h
    obtain ⟨hincreasing, hequal⟩ := commonSubsequence_iff.mp h
    have hlength := hincreasing.length_le hequal
    rw [List.drop_zero, List.drop_zero] at hlength
    rw [Alignment.length_lcsMatches]
    exact hlength

end Matches

/-! ### Printed events -/

/-- The representation of an event that has one. -/
def printed (e : EventEnvelope) : Dict Json := e.val.toDict.toOption.getD []

/-- Every event has a time in UTC. -/
def Printable (events : List EventEnvelope) : Prop := ∀ e ∈ events, ∃ d, e.val.toDict = .ok d

/-- What `_action_payload` keeps of a representation. -/
def payloadOf (d : Dict Json) : Dict Json := (d.erase (lit "sequence")).erase (lit "occurred_at")

theorem toDict_eq_printed {e : EventEnvelope} (h : ∃ d, e.val.toDict = .ok d) :
    e.val.toDict = .ok (printed e) := by
  obtain ⟨d, hd⟩ := h
  rw [printed, hd]
  rfl

theorem actionPayload_eq_printed {e : EventEnvelope} (h : ∃ d, e.val.toDict = .ok d) :
    actionPayload e = .ok (payloadOf (printed e)) := by
  rw [actionPayload, toDict_eq_printed h]
  rfl

section Printable

variable {left right : List EventEnvelope}

theorem Printable.mapM_toDict (h : Printable left) :
    left.mapM (fun e ↦ e.val.toDict) = .ok (left.map printed) :=
  mapM_eq_ok_map fun e he ↦ toDict_eq_printed (h e he)

theorem Printable.mapM_actionPayload (h : Printable left) :
    left.mapM actionPayload = .ok (left.map fun e ↦ payloadOf (printed e)) :=
  mapM_eq_ok_map fun e he ↦ actionPayload_eq_printed (h e he)

/-- The alignment of events that have representations. -/
def printedAlignment (left right : List EventEnvelope) : Alignment.Pairs Nat Nat :=
  Alignment.align (left.map fun e ↦ payloadOf (printed e))
    (right.map fun e ↦ payloadOf (printed e)) (identityAt left) (identityAt right)

theorem actionAlignment_eq_ok (hl : Printable left) (hr : Printable right) :
    actionAlignment left right = .ok (printedAlignment left right) := by
  rw [actionAlignment, hl.mapM_actionPayload, ok_bind, hr.mapM_actionPayload, ok_bind]
  rfl

theorem covers_printedAlignment (left right : List EventEnvelope) :
    Alignment.Covers (List.range left.length) (List.range right.length)
      (printedAlignment left right) := by
  have h := Alignment.covers_align (left.map fun e ↦ payloadOf (printed e))
    (right.map fun e ↦ payloadOf (printed e)) (identityAt left) (identityAt right)
  rw [List.length_map, List.length_map] at h
  exact h

end Printable

/-! ### Changes -/

section Changes

variable {left right : List EventEnvelope}

/-- The representation of the action at a position of an aligned pair, or `None`. -/
def actionAt (dicts : List (Dict Json)) (i : Option Nat) : Json :=
  (i.bind (dicts[·]?)).elim .null .obj

/-- The change of an aligned pair of printed events. -/
def printedChange (left right : List EventEnvelope) (p : Option Nat × Option Nat) :
    Option ActionChange :=
  match p.1.bind (left[·]?), p.2.bind (right[·]?) with
  | none, none => some ⟨lit "added", .null, .null⟩
  | none, some after => some ⟨lit "added", .null, .obj (printed after)⟩
  | some before, none => some ⟨lit "removed", .obj (printed before), .null⟩
  | some before, some after =>
    if payloadOf (printed before) = payloadOf (printed after) then none else
      some ⟨lit "changed", .obj (printed before), .obj (printed after)⟩

theorem mem_of_bind {events : List EventEnvelope} {i : Option Nat} {e : EventEnvelope}
    (h : i.bind (events[·]?) = some e) : e ∈ events := by
  obtain ⟨k, -, hk⟩ := Option.bind_eq_some_iff.mp h
  exact List.mem_of_getElem? hk

theorem pairChange_eq_printed (hl : Printable left) (hr : Printable right)
    (p : Option Nat × Option Nat) :
    pairChange left right p = .ok (printedChange left right p) := by
  rw [pairChange, printedChange]
  cases hbefore : p.1.bind (left[·]?) with
  | none =>
    cases hafter : p.2.bind (right[·]?) with
    | none => rfl
    | some after =>
      simp only [toDict_eq_printed (hr after (mem_of_bind hafter)), ok_bind]
      rfl
  | some before =>
    have hleft := hl before (mem_of_bind hbefore)
    cases hafter : p.2.bind (right[·]?) with
    | none =>
      simp only [toDict_eq_printed hleft, ok_bind]
      rfl
    | some after =>
      have hright := hr after (mem_of_bind hafter)
      simp only [toDict_eq_printed hleft, toDict_eq_printed hright,
        actionPayload_eq_printed hleft, actionPayload_eq_printed hright, ok_bind]
      rfl

/-- A change has the representations at the positions of its pair. -/
theorem actionAt_of_printedChange {p : Option Nat × Option Nat} {c : ActionChange}
    (h : printedChange left right p = some c) :
    (c.before, c.after) = (actionAt (left.map printed) p.1, actionAt (right.map printed) p.2) := by
  have hat : ∀ (events : List EventEnvelope) (i : Option Nat),
      actionAt (events.map printed) i =
        (i.bind (events[·]?)).elim .null fun e ↦ .obj (printed e) := by
    intro events i
    cases i with
    | none => rfl
    | some i =>
      simp only [actionAt, Option.bind_some, List.getElem?_map]
      cases events[i]? <;> rfl
  rw [hat, hat]
  rw [printedChange] at h
  cases hbefore : p.1.bind (left[·]?) with
  | none =>
    cases hafter : p.2.bind (right[·]?) with
    | none =>
      rw [hbefore, hafter] at h
      cases h
      rfl
    | some after =>
      rw [hbefore, hafter] at h
      cases h
      rfl
  | some before =>
    cases hafter : p.2.bind (right[·]?) with
    | none =>
      rw [hbefore, hafter] at h
      cases h
      rfl
    | some after =>
      simp only [hbefore, hafter] at h
      by_cases heq : payloadOf (printed before) = payloadOf (printed after)
      · rw [if_pos heq] at h
        cases h
      · rw [if_neg heq] at h
        cases h
        rfl

/-- An aligned pair is no change exactly when it is a pair of equal payloads. -/
theorem printedChange_eq_none {p : Option Nat × Option Nat}
    (hp : p ∈ printedAlignment left right) : printedChange left right p = none ↔
      ∃ i j, p = (some i, some j) ∧ (left.map fun e ↦ payloadOf (printed e))[i]? =
        (right.map fun e ↦ payloadOf (printed e))[j]? := by
  have hcovers := covers_printedAlignment left right
  have hin : ∀ i, p.1 = some i → i < left.length := by
    intro i hi
    have hmem : i ∈ (printedAlignment left right).filterMap Prod.fst :=
      List.mem_filterMap.mpr ⟨p, hp, hi⟩
    rw [hcovers.left] at hmem
    exact List.mem_range.mp hmem
  have hout : ∀ j, p.2 = some j → j < right.length := by
    intro j hj
    have hmem : j ∈ (printedAlignment left right).filterMap Prod.snd :=
      List.mem_filterMap.mpr ⟨p, hp, hj⟩
    rw [hcovers.right] at hmem
    exact List.mem_range.mp hmem
  obtain ⟨before, after⟩ := p
  cases before with
  | none =>
    have hnone : printedChange left right (none, after) ≠ none := by
      rw [printedChange]
      cases (after.bind (right[·]?)) <;> exact nofun
    exact iff_of_false hnone (by simp)
  | some i =>
    have hi := hin i rfl
    cases after with
    | none =>
      have hnone : printedChange left right (some i, none) ≠ none := by
        rw [printedChange, Option.bind_some, List.getElem?_eq_getElem hi]
        exact nofun
      exact iff_of_false hnone (by simp)
    | some j =>
      have hj := hout j rfl
      simp only [printedChange, Option.bind_some, List.getElem?_eq_getElem hi,
        List.getElem?_eq_getElem hj, List.getElem?_map, Option.some.injEq, Prod.mk.injEq,
        ite_eq_left_iff, reduceCtorEq, imp_false, not_not]
      constructor
      · intro h
        refine ⟨i, j, ⟨rfl, rfl⟩, ?_⟩
        rw [List.getElem?_eq_getElem hi, List.getElem?_eq_getElem hj]
        exact congrArg some h
      · intro h
        obtain ⟨i', j', ⟨rfl, rfl⟩, h⟩ := h
        rw [List.getElem?_eq_getElem hi, List.getElem?_eq_getElem hj] at h
        exact Option.some.inj h

theorem actionChanges_eq_ok {before after : Option (List EventEnvelope)}
    (hl : Printable (actionEvents before)) (hr : Printable (actionEvents after)) :
    actionChanges before after = .ok
      ((printedAlignment (actionEvents before) (actionEvents after)).filterMap
        (printedChange (actionEvents before) (actionEvents after))) := by
  rw [actionChanges, actionAlignment_eq_ok hl hr, ok_bind,
    mapM_eq_ok_map fun p _ ↦ pairChange_eq_printed hl hr p, ok_bind, List.filterMap_map]
  rfl

/-- There is no change exactly when the actions of both sides have equal payloads in order. -/
theorem actionChanges_eq_nil_iff {before after : Option (List EventEnvelope)}
    (hl : Printable (actionEvents before)) (hr : Printable (actionEvents after)) :
    actionChanges before after = .ok [] ↔
      ((actionEvents before).map fun e ↦ payloadOf (printed e)) =
        (actionEvents after).map fun e ↦ payloadOf (printed e) := by
  rw [actionChanges_eq_ok hl hr, Except.ok.injEq, List.filterMap_eq_nil_iff]
  have hpairs := fun p (hp : p ∈ printedAlignment (actionEvents before) (actionEvents after)) ↦
    printedChange_eq_none hp
  exact (forall₂_congr hpairs).trans Alignment.forall_align_iff

end Changes

/-! ### The alignment as a whole -/

theorem printable_cases (events : List EventEnvelope) : Printable events ∨
    ∃ e ∈ events, ∃ error, e.val.toDict = .error error ∧
      events.mapM actionPayload = .error error := by
  rcases mapM_cases actionPayload events with hall | ⟨e, he, error, herror, hfail⟩
  · left
    intro e he
    obtain ⟨payload, hpayload⟩ := hall e he
    obtain ⟨d, hd, -⟩ := bind_eq_ok.mp hpayload
    exact ⟨d, hd⟩
  · right
    refine ⟨e, he, error, ?_, hfail⟩
    cases hd : e.val.toDict with
    | error error' =>
      rw [actionPayload, hd] at herror
      cases herror
      rfl
    | ok d =>
      rw [actionPayload, hd] at herror
      cases herror

/-- What an alignment of two lists of actions with these keys is: it has every position of either
list once and in order, and every match of the two passes. -/
structure Aligned (left right : List EventEnvelope) (leftKeys rightKeys : List (Dict Json))
    (alignment : Alignment.Pairs Nat Nat) : Prop where
  covers : Alignment.Covers (List.range left.length) (List.range right.length) alignment
  exact : ∀ m ∈ Alignment.lcsMatches leftKeys rightKeys, (some m.1, some m.2) ∈ alignment
  identified : ∀ g ∈ Alignment.gaps (List.range left.length) (List.range right.length) 0 0
      (Alignment.lcsMatches leftKeys rightKeys),
    ∀ m ∈ Alignment.lcsMatches (g.1.map (identityAt left)) (g.2.map (identityAt right)),
      ∃ i j, g.1[m.1]? = some i ∧ g.2[m.2]? = some j ∧ (some i, some j) ∈ alignment

/-- What the changes of an alignment are: the representations of its pairs in order, but for the
pairs of equal keys. -/
structure Reported (leftDicts rightDicts leftKeys rightKeys : List (Dict Json))
    (alignment : Alignment.Pairs Nat Nat) (changes : List ActionChange) : Prop where
  reported : ∃ changed : Alignment.Pairs Nat Nat, changed.Sublist alignment ∧
    (∀ p ∈ alignment, p ∉ changed ↔
      ∃ i j, p = (some i, some j) ∧ leftKeys[i]? = rightKeys[j]?) ∧
    changes.map (fun c ↦ (c.before, c.after)) =
      changed.map fun p ↦ (actionAt leftDicts p.1, actionAt rightDicts p.2)

theorem aligned_printedAlignment (left right : List EventEnvelope) :
    Aligned left right (left.map fun e ↦ payloadOf (printed e))
      (right.map fun e ↦ payloadOf (printed e)) (printedAlignment left right) := by
  constructor
  · exact covers_printedAlignment left right
  · intro m hm
    have h := Alignment.pair_mem_align (identityAt left) (identityAt right) hm
    exact h
  · intro g hg m hm
    rw [← @List.length_map _ _ left fun e ↦ payloadOf (printed e),
      ← @List.length_map _ _ right fun e ↦ payloadOf (printed e)] at hg
    exact Alignment.pair_mem_align_of_gap hg hm

theorem reported_printedAlignment (left right : List EventEnvelope) :
    Reported (left.map printed) (right.map printed) (left.map fun e ↦ payloadOf (printed e))
      (right.map fun e ↦ payloadOf (printed e)) (printedAlignment left right)
      ((printedAlignment left right).filterMap (printedChange left right)) := by
  refine ⟨(printedAlignment left right).filter fun p ↦ (printedChange left right p).isSome,
    List.filter_sublist, fun p hp ↦ ?_, ?_⟩
  · rw [List.mem_filter, and_iff_right hp, Bool.not_eq_true, Option.isSome_eq_false_iff,
      Option.isNone_iff_eq_none]
    exact printedChange_eq_none hp
  · generalize printedAlignment left right = pairs
    induction pairs with
    | nil => rfl
    | cons p pairs ih =>
      cases hchange : printedChange left right p with
      | none =>
        rw [List.filterMap_cons_none hchange, ih, List.filter_cons_of_neg (by rw [hchange]; simp)]
      | some c =>
        rw [List.filterMap_cons_some hchange, List.map_cons, ih,
          List.filter_cons_of_pos (by rw [hchange]; rfl), List.map_cons,
          actionAt_of_printedChange hchange]

end StateWake.Reliability
