import StateWake.Reliability.Transition
import StateWake.Base.KeyedHistory

/-!
# What a reliability-state store is for

The abstract store both adapters implement: a list of transitions in which every subject
has its own digest-linked path. `accepts` is the purpose of `append` stated once, over
lists; `StateStore` is the protocol of `adapters/reliability_state.py:17–29` and
`Implements` says that a concrete store behaves as the list it represents.
-/

namespace StateWake.Reliability

open StateWake.Base Text KeyedHistory

namespace ReliabilityStateTransition

/-- The digest of a transition, empty where `computed_digest` raises. -/
def digestText (t : ReliabilityStateTransition) : Text := t.computedDigest.toOption.getD []

/-- Every text of the transition can be encoded, so its digest exists. -/
def Encodable (t : ReliabilityStateTransition) : Prop := t.computedDigest.toBool = true

instance (t : ReliabilityStateTransition) : Decidable t.Encodable := by
  unfold Encodable
  infer_instance

theorem encodable_iff (t : ReliabilityStateTransition) :
    t.Encodable ↔ ∃ digest, t.computedDigest = .ok digest := by
  rw [Encodable]
  cases t.computedDigest with
  | ok digest => simp [Except.toBool]
  | error e => simp [Except.toBool]

/-- A transition is encodable exactly when UTF-8 can encode its free texts. -/
theorem encodable_iff_surrogateFree (t : ReliabilityStateTransition) :
    t.Encodable ↔ SurrogateFree t.transitionId ∧ SurrogateFree t.subjectId ∧
      SurrogateFree t.actor ∧ SurrogateFree t.evidenceChainId ∧
        ∀ s ∈ t.rationale, SurrogateFree s := by
  have hdigest := surrogateFree_of_isSha256 t.chainDigest
  have hprevious : SurrogateFree t.previousTransitionDigest := by
    rcases t.previousDigest with hp | hp
    · rw [hp]
      exact surrogateFree_lit ""
    · exact surrogateFree_of_isSha256 hp
  have hstate : ∀ s : ReliabilityState, SurrogateFree s.text := fun s ↦ by
    cases s <;> exact surrogateFree_lit _
  have hdecision : SurrogateFree t.decision.text := by
    cases t.decision <;> exact surrogateFree_lit _
  rw [encodable_iff, computedDigest_isOk_iff]
  simp [payload, or_imp, forall_and, hdigest, hprevious, hstate, hdecision,
    surrogateFree_isoformat, and_assoc]

theorem Encodable.computedDigest {t : ReliabilityStateTransition} (h : t.Encodable) :
    t.computedDigest = .ok t.digestText := by
  obtain ⟨digest, hd⟩ := (encodable_iff t).mp h
  rw [digestText, hd]
  rfl

theorem Encodable.toDict {t : ReliabilityStateTransition} (h : t.Encodable) :
    t.toDict = .ok (t.payload ++ [(lit "digest", .str t.digestText)]) := by
  rw [ReliabilityStateTransition.toDict, h.computedDigest]
  rfl

theorem Encodable.isSha256 {t : ReliabilityStateTransition} (h : t.Encodable) :
    isSha256 t.digestText = true := isSha256_of_computedDigest h.computedDigest

theorem Encodable.digestText_ne_nil {t : ReliabilityStateTransition} (h : t.Encodable) :
    t.digestText ≠ [] := by
  intro hn
  have := h.isSha256
  rw [hn] at this
  cases this

theorem not_encodable {t : ReliabilityStateTransition} (h : ¬t.Encodable) :
    ∃ e, t.toDict = .error e := by
  rw [ReliabilityStateTransition.toDict]
  cases hd : t.computedDigest with
  | ok digest => exact absurd ((encodable_iff t).mpr ⟨digest, hd⟩) h
  | error e => exact ⟨e, rfl⟩

end ReliabilityStateTransition

open ReliabilityStateTransition

/-- The transitions of one subject, or all of them. -/
def select (subjectId : Option Text) (h : List ReliabilityStateTransition) :
    List ReliabilityStateTransition :=
  match subjectId with
  | none => h
  | some s => ofKey ReliabilityStateTransition.subjectId s h

/-- The last transition of a subject. -/
def tip? (s : Text) (h : List ReliabilityStateTransition) : Option ReliabilityStateTransition :=
  KeyedHistory.tip? subjectId s h

/-- The digest a transition after a tip must name: empty where there is none. -/
def digestOfTip (tip : Option ReliabilityStateTransition) : Text := (tip.map digestText).getD []

/-- A transition extends the tip of its subject: it names the tip's digest and starts from
the tip's state. -/
def Extends (tip : Option ReliabilityStateTransition) (t : ReliabilityStateTransition) : Prop :=
  t.previousTransitionDigest = digestOfTip tip ∧ ∀ p ∈ tip, t.fromState = p.toState

instance (tip : Option ReliabilityStateTransition) (t : ReliabilityStateTransition) :
    Decidable (Extends tip t) := by
  unfold Extends
  infer_instance

@[simp] theorem digestOfTip_none : digestOfTip none = [] := rfl

@[simp] theorem digestOfTip_some (t : ReliabilityStateTransition) :
    digestOfTip (some t) = t.digestText := rfl

theorem tip?_append_singleton (s : Text) (h : List ReliabilityStateTransition)
    (t : ReliabilityStateTransition) :
    tip? s (h ++ [t]) = if t.subjectId = s then some t else tip? s h :=
  KeyedHistory.tip?_append_singleton s h t

/-- The histories an empty store can reach. -/
structure Valid (h : List ReliabilityStateTransition) : Prop where
  encodable : ∀ t ∈ h, t.Encodable
  linked : Stepwise subjectId Extends h
  identities : (h.map transitionId).Nodup

/-- The history after an accepted append: a repeated transition changes nothing, a new
one extends the tip of its subject. `none` where the append is rejected. -/
def accepts (h : List ReliabilityStateTransition) (t : ReliabilityStateTransition) :
    Option (List ReliabilityStateTransition) :=
  if t.Encodable then
    match h.find? fun e ↦ decide (e.transitionId = t.transitionId) with
    | some existing => if existing = t then some h else none
    | none => if Extends (tip? t.subjectId h) t then some (h ++ [t]) else none
  else none

theorem valid_nil : Valid [] := ⟨fun _ h ↦ (by cases h), stepwise_nil _, List.nodup_nil⟩

private theorem find?_id_eq_none {h : List ReliabilityStateTransition} {id : Text} :
    (h.find? fun e ↦ decide (e.transitionId = id)) = none ↔ id ∉ h.map transitionId := by
  simp only [List.find?_eq_none, decide_eq_true_eq, List.mem_map, not_exists, not_and]

/-- An accepted append leaves the history or extends it by the transition. -/
theorem accepts_cases {h h' : List ReliabilityStateTransition} {t : ReliabilityStateTransition}
    (ha : accepts h t = some h') : t.Encodable ∧
      ((h' = h ∧ t ∈ h) ∨
        (h' = h ++ [t] ∧ t.transitionId ∉ h.map transitionId ∧ Extends (tip? t.subjectId h) t)) := by
  unfold accepts at ha
  split at ha
  · next he =>
    refine ⟨he, ?_⟩
    cases hf : h.find? fun e ↦ decide (e.transitionId = t.transitionId) with
    | some existing =>
      simp only [hf] at ha
      split at ha
      · next heq =>
        cases ha
        exact .inl ⟨rfl, heq ▸ List.mem_of_find?_eq_some hf⟩
      · cases ha
    | none =>
      simp only [hf] at ha
      split at ha
      · next hext =>
        cases ha
        exact .inr ⟨rfl, find?_id_eq_none.mp hf, hext⟩
      · cases ha
  · cases ha

/-- Appends keep a history valid. -/
theorem Valid.accepts {h h' : List ReliabilityStateTransition} {t : ReliabilityStateTransition}
    (hv : Valid h) (ha : accepts h t = some h') : Valid h' := by
  obtain ⟨he, ⟨rfl, -⟩ | ⟨rfl, hid, hext⟩⟩ := accepts_cases ha
  · exact hv
  · refine ⟨?_, stepwise_append_singleton.mpr ⟨hv.linked, hext⟩, ?_⟩
    · intro u hu
      rcases List.mem_append.mp hu with hu | hu
      · exact hv.encodable u hu
      · rw [List.mem_singleton.mp hu]
        exact he
    · rw [List.map_append, List.nodup_append]
      refine ⟨hv.identities, List.nodup_singleton _, fun a ha b hb ↦ ?_⟩
      rw [List.map_cons, List.map_nil, List.mem_singleton] at hb
      rintro rfl
      exact hid (hb ▸ ha)

/-- A transition with a new identifier that extends the tip of its subject is accepted. -/
theorem accepts_of_extends {h : List ReliabilityStateTransition} {t : ReliabilityStateTransition}
    (he : t.Encodable) (hid : t.transitionId ∉ h.map transitionId)
    (hext : Extends (tip? t.subjectId h) t) : accepts h t = some (h ++ [t]) := by
  rw [accepts, if_pos he, find?_id_eq_none.mpr hid]
  simp only [hext, ↓reduceIte]

/-- An initial part of a valid history is valid. -/
theorem Valid.of_append {h g : List ReliabilityStateTransition} (hv : Valid (h ++ g)) : Valid h where
  encodable t ht := hv.encodable t (List.mem_append_left g ht)
  linked := hv.linked.of_append
  identities := by
    have := hv.identities
    rw [List.map_append, List.nodup_append] at this
    exact this.1

/-! ### The store protocol -/

/-- The check of the named tip, worded alike in both adapters,
`adapters/reliability_state.py:113–117,294–299`. -/
def requireTip (transition : ReliabilityStateTransition) (expected : Text) : Except PyError Unit :=
  require ⟨.valueError, lit "stale reliability-state tip for " ++ transition.subjectId ++
    lit ": expected " ++ (if expected = [] then lit "<empty>" else expected) ++ lit ", got " ++
    if transition.previousTransitionDigest = [] then lit "<empty>"
    else transition.previousTransitionDigest⟩ (transition.previousTransitionDigest = expected)

/-- The check of the predecessor's state, worded alike in both adapters,
`adapters/reliability_state.py:118–122,300–308`. -/
def requirePredecessor (transition previous : ReliabilityStateTransition) : Except PyError Unit :=
  require ⟨.valueError, lit "reliability-state predecessor mismatch for " ++
    transition.subjectId ++ lit ": expected from_state " ++ previous.toState.text ++
    lit ", got " ++ transition.fromState.text⟩ (transition.fromState = previous.toState)

/-- `ReliabilityStateStore`, `adapters/reliability_state.py:17–29`: each operation is one
atomic step on the stored data. -/
structure StateStore (σ : Type) where
  append : σ → ReliabilityStateTransition → Except PyError ReliabilityStateTransition × σ
  read : σ → Option Text → Except PyError (List ReliabilityStateTransition) × σ

/-- A store behaves as the valid history it represents. A read may fail only on a subject
UTF-8 cannot encode. -/
structure Implements {σ : Type} (store : StateStore σ)
    (represents : σ → List ReliabilityStateTransition → Prop) : Prop where
  append_ok : ∀ {s h t h'}, Valid h → represents s h → accepts h t = some h' →
    ∃ s', store.append s t = (.ok t, s') ∧ represents s' h'
  append_error : ∀ {s h t}, Valid h → represents s h → accepts h t = none →
    ∃ e s', store.append s t = (.error e, s') ∧ represents s' h
  read_ok : ∀ {s h} (subjectId : Option Text), Valid h → represents s h →
    (∀ s ∈ subjectId, SurrogateFree s) →
    ∃ s', store.read s subjectId = (.ok (select subjectId h), s') ∧ represents s' h
  read_any : ∀ {s h} (subjectId : Option Text), Valid h → represents s h →
    ∃ r s', store.read s subjectId = (r, s') ∧ represents s' h ∧
      ∀ l, r = .ok l → l = select subjectId h

/-- A store answers the read of all subjects with the history it represents. -/
theorem Implements.read_all {σ : Type} {store : StateStore σ}
    {represents : σ → List ReliabilityStateTransition → Prop} (hi : Implements store represents)
    {s : σ} {h : List ReliabilityStateTransition} (hv : Valid h) (hr : represents s h) :
    (store.read s none).1 = .ok h := by
  obtain ⟨s', hread, -⟩ := hi.read_ok none hv hr fun s hs ↦ by cases hs
  rw [hread]
  rfl

end StateWake.Reliability
