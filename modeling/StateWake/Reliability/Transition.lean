import StateWake.Utils.JsonSupport
import StateWake.Base.Datetime
import StateWake.Base.Sha256

/-!
# Reliability-state transitions

`domain/reliability_state.py`. A transition value exists only when its constructor
accepted it, so the allowed edges and the decision each edge requires are fields. The
persisted form is the payload with its digest; reading it back gives the transition.
-/

namespace StateWake.Reliability

open StateWake.Base Text Utils

/-- `RELIABILITY_STATES`, `domain/reliability_state.py:15`. -/
inductive ReliabilityState where
  | unknown
  | reliable
  | degraded
  | unreliable
  | recovered
  deriving DecidableEq, Repr

namespace ReliabilityState

/-- The name a state is stored under. -/
def text : ReliabilityState → Text
  | unknown => lit "unknown"
  | reliable => lit "reliable"
  | degraded => lit "degraded"
  | unreliable => lit "unreliable"
  | recovered => lit "recovered"

/-- The state a name denotes. -/
def ofText? (s : Text) : Option ReliabilityState :=
  if s = lit "unknown" then some unknown
  else if s = lit "reliable" then some reliable
  else if s = lit "degraded" then some degraded
  else if s = lit "unreliable" then some unreliable
  else if s = lit "recovered" then some recovered
  else none

@[simp] theorem ofText?_text (s : ReliabilityState) : ofText? s.text = some s := by
  cases s <;> simp [ofText?, text]

/-- `ALLOWED_TRANSITIONS`, `domain/reliability_state.py:17–23`. -/
def allowedTransitions : ReliabilityState → List ReliabilityState
  | unknown => [reliable, degraded, unreliable]
  | reliable => [degraded, unreliable]
  | degraded => [reliable, unreliable]
  | unreliable => [recovered, reliable, degraded]
  | recovered => [reliable, degraded, unreliable]

/-- Only an unreliable subject recovers. -/
theorem unreliable_of_recovered_mem {s : ReliabilityState}
    (h : recovered ∈ s.allowedTransitions) : s = unreliable := by
  cases s <;> simp [allowedTransitions] at h ⊢

/-- Every state can be left. -/
theorem exists_allowed (s : ReliabilityState) : ∃ t, t ∈ s.allowedTransitions := by
  cases s <;> exact ⟨_, List.mem_cons_self⟩

end ReliabilityState

/-- The decisions of an evidence chain, `domain/reliability_evidence.py:17`. -/
inductive Decision where
  | undecided
  | accept
  | review
  | reject
  deriving DecidableEq, Repr

namespace Decision

/-- The name a decision is stored under. -/
def text : Decision → Text
  | undecided => lit "undecided"
  | accept => lit "accept"
  | review => lit "review"
  | reject => lit "reject"

/-- The decision a name denotes. -/
def ofText? (s : Text) : Option Decision :=
  if s = lit "undecided" then some undecided
  else if s = lit "accept" then some accept
  else if s = lit "review" then some review
  else if s = lit "reject" then some reject
  else none

@[simp] theorem ofText?_text (d : Decision) : ofText? d.text = some d := by
  cases d <;> simp [ofText?, text]

end Decision

/-- `ReliabilityStateTransition`, `domain/reliability_state.py:41–91`, with what its
constructor checked. `occurredAt` is normalized to UTC. -/
@[ext]
structure ReliabilityStateTransition where
  transitionId : Text
  subjectId : Text
  fromState : ReliabilityState
  toState : ReliabilityState
  occurredAt : Datetime
  actor : Text
  evidenceChainId : Text
  evidenceChainDigest : Text
  decision : Decision
  rationale : List Text
  previousTransitionDigest : Text
  named : ¬(blank transitionId = true ∨ blank subjectId = true ∨ blank actor = true)
  allowed : toState ∈ fromState.allowedTransitions
  chainNamed : blank evidenceChainId = false
  chainDigest : isSha256 evidenceChainDigest = true
  previousDigest : previousTransitionDigest = [] ∨ isSha256 previousTransitionDigest = true
  decided : decision ≠ .undecided
  accepts : toState = .reliable ∨ toState = .recovered → decision = .accept
  reviews : toState = .degraded → decision = .review
  rejects : toState = .unreliable → decision = .reject

/-- The first transition of a subject follows no other. -/
theorem ReliabilityStateTransition.unpreceded : ([] : Text) = [] ∨ isSha256 [] = true := .inl rfl

instance : DecidableEq ReliabilityStateTransition := fun _ _ ↦
  decidable_of_iff' _ ReliabilityStateTransition.ext_iff

namespace ReliabilityStateTransition

/-- The constructor, `__post_init__` at `domain/reliability_state.py:58–89`. The check that
`occurred_at` has a time zone is the type of the argument. -/
def create (transitionId subjectId fromState toState : Text) (occurredAt : AwareDatetime)
    (actor evidenceChainId evidenceChainDigest decision : Text) (rationale : List Text)
    (previousTransitionDigest : Text) : Except PyError ReliabilityStateTransition :=
  if named : blank transitionId = true ∨ blank subjectId = true ∨ blank actor = true then
    valueError (lit "transition_id, subject_id, and actor must not be empty.")
  else
  match ReliabilityState.ofText? fromState with
  | none => valueError (lit "unsupported from_state: " ++ fromState)
  | some source =>
  match ReliabilityState.ofText? toState with
  | none => valueError (lit "unsupported to_state: " ++ toState)
  | some target =>
  if allowed : target ∈ source.allowedTransitions then
    if chainNamed : blank evidenceChainId = false then
      if chainDigest : isSha256 evidenceChainDigest = true then
        if previousDigest : previousTransitionDigest = [] ∨
            isSha256 previousTransitionDigest = true then
          match Decision.ofText? decision with
          | none => valueError (lit "decision must be accept, review, or reject.")
          | some choice =>
          if decided : choice ≠ .undecided then
            if accepts : target = .reliable ∨ target = .recovered → choice = .accept then
              if reviews : target = .degraded → choice = .review then
                if rejects : target = .unreliable → choice = .reject then do
                  let utc ← occurredAt.toUtc
                  .ok ⟨transitionId, subjectId, source, target, utc, actor, evidenceChainId,
                    evidenceChainDigest, choice, rationale, previousTransitionDigest, named,
                    allowed, chainNamed, chainDigest, previousDigest, decided, accepts, reviews,
                    rejects⟩
                else valueError (lit "unreliable transitions require a reject decision.")
              else valueError (lit "degraded transitions require a review decision.")
            else valueError (lit "reliable/recovered transitions require an accept decision.")
          else valueError (lit "decision must be accept, review, or reject.")
        else valueError (lit "previous_transition_digest must be lowercase SHA-256 hex.")
      else valueError (lit "evidence_chain_digest must be lowercase SHA-256 hex.")
    else valueError (lit "evidence_chain_id must not be empty.")
  else
    valueError (lit "invalid reliability-state transition: " ++ fromState ++ lit " -> " ++ toState)

/-- A transition passes its own constructor. -/
@[simp] theorem create_self (t : ReliabilityStateTransition) :
    create t.transitionId t.subjectId t.fromState.text t.toState.text (.ofUtc t.occurredAt) t.actor
      t.evidenceChainId t.evidenceChainDigest t.decision.text t.rationale
      t.previousTransitionDigest = .ok t := by
  rw [create, dif_neg t.named]
  simp only [ReliabilityState.ofText?_text, Decision.ofText?_text]
  rw [dif_pos t.allowed, dif_pos t.chainNamed, dif_pos t.chainDigest, dif_pos t.previousDigest,
    dif_pos t.decided, dif_pos t.accepts, dif_pos t.reviews, dif_pos t.rejects,
    AwareDatetime.toUtc_ofUtc, ok_bind]

/-- What a constructed transition holds: the arguments, the state names read and the time
in UTC. -/
theorem create_eq_ok {transitionId subjectId fromState toState actor evidenceChainId
    evidenceChainDigest decision previousTransitionDigest : Text} {occurredAt : AwareDatetime}
    {rationale : List Text} {t : ReliabilityStateTransition}
    (h : create transitionId subjectId fromState toState occurredAt actor evidenceChainId
      evidenceChainDigest decision rationale previousTransitionDigest = .ok t) :
    t.transitionId = transitionId ∧ t.subjectId = subjectId ∧
      ReliabilityState.ofText? fromState = some t.fromState ∧
      ReliabilityState.ofText? toState = some t.toState ∧ t.evidenceChainId = evidenceChainId ∧
      t.evidenceChainDigest = evidenceChainDigest ∧
      t.previousTransitionDigest = previousTransitionDigest := by
  have hguard : ∀ {p : Prop} [Decidable p] {a : p → Except PyError ReliabilityStateTransition}
      {message : Text}, (if hp : p then a hp else valueError message) = .ok t →
        ∃ hp, a hp = .ok t := by
    intro p _ a message hp
    by_cases hc : p
    · exact ⟨hc, by rwa [dif_pos hc] at hp⟩
    · rw [dif_neg hc] at hp
      cases hp
  unfold create at h
  by_cases hnamed : blank transitionId = true ∨ blank subjectId = true ∨ blank actor = true
  · rw [dif_pos hnamed] at h
    cases h
  rw [dif_neg hnamed] at h
  cases hsource : ReliabilityState.ofText? fromState with
  | none =>
    simp only [hsource] at h
    cases h
  | some source =>
    cases htarget : ReliabilityState.ofText? toState with
    | none =>
      simp only [hsource, htarget] at h
      cases h
    | some target =>
      simp only [hsource, htarget] at h
      obtain ⟨_, h⟩ := hguard h
      obtain ⟨_, h⟩ := hguard h
      obtain ⟨_, h⟩ := hguard h
      obtain ⟨_, h⟩ := hguard h
      cases hdecision : Decision.ofText? decision with
      | none =>
        simp only [hdecision] at h
        cases h
      | some choice =>
        simp only [hdecision] at h
        obtain ⟨_, h⟩ := hguard h
        obtain ⟨_, h⟩ := hguard h
        obtain ⟨_, h⟩ := hguard h
        obtain ⟨_, h⟩ := hguard h
        obtain ⟨utc, -, hutc⟩ := bind_eq_ok.mp h
        cases hutc
        exact ⟨rfl, rfl, rfl, rfl, rfl, rfl, rfl⟩

/-- `payload()`, `domain/reliability_state.py:93–107`. -/
def payload (t : ReliabilityStateTransition) : Dict Json :=
  [(lit "transition_id", .str t.transitionId),
    (lit "subject_id", .str t.subjectId),
    (lit "from_state", .str t.fromState.text),
    (lit "to_state", .str t.toState.text),
    (lit "occurred_at", .str (isoformat t.occurredAt)),
    (lit "actor", .str t.actor),
    (lit "evidence_chain_id", .str t.evidenceChainId),
    (lit "evidence_chain_digest", .str t.evidenceChainDigest),
    (lit "decision", .str t.decision.text),
    (lit "rationale", .arr (t.rationale.map .str)),
    (lit "previous_transition_digest", .str t.previousTransitionDigest)]

/-- `sha256(_canonical(payload)).hexdigest()`, `domain/reliability_state.py:26–30,109–112`. -/
def payloadDigest (members : Dict Json) : Except PyError Text := do
  let content ← Utf8.toBytes (Json.dumps Json.canonical (.obj members))
  pure (sha256 content)

/-- `computed_digest`: raises on a text UTF-8 cannot encode. -/
def computedDigest (t : ReliabilityStateTransition) : Except PyError Text :=
  payloadDigest t.payload

/-- `to_dict()`, `domain/reliability_state.py:114–119`. -/
def toDict (t : ReliabilityStateTransition) : Except PyError (Dict Json) := do
  let digest ← t.computedDigest
  pure (t.payload ++ [(lit "digest", .str digest)])

/-- `from_dict`, `domain/reliability_state.py:121–152`. -/
def fromDict (members : Dict Json) : Except PyError ReliabilityStateTransition := do
  let mismatch : PyError := ⟨.valueError, lit "reliability-state transition digest mismatch."⟩
  let supplied := optionalText members (lit "digest")
  if supplied ≠ [] then
    let expected ← payloadDigest (members.erase (lit "digest"))
    require mismatch (supplied = expected)
  let transitionId ← requiredText members (lit "transition_id")
  let subjectId ← requiredText members (lit "subject_id")
  let fromState ← requiredText members (lit "from_state")
  let toState ← requiredText members (lit "to_state")
  let occurredText ← requiredText members (lit "occurred_at")
  let occurredAt ← parseDatetime occurredText (lit "occurred_at")
  let actor ← requiredText members (lit "actor")
  let evidenceChainId ← requiredText members (lit "evidence_chain_id")
  let evidenceChainDigest ← requiredText members (lit "evidence_chain_digest")
  let decision ← requiredText members (lit "decision")
  let rationale ← stringSequence ((members.get? (lit "rationale")).getD (.arr [])) (lit "rationale")
  let item ← create transitionId subjectId fromState toState (.ofUtc occurredAt) actor
    evidenceChainId evidenceChainDigest decision rationale
    (optionalText members (lit "previous_transition_digest"))
  if supplied ≠ [] then
    let digest ← item.computedDigest
    require mismatch (supplied = digest)
  pure item

/-! ### Reading back -/

/-- What `to_dict` returned: the payload and the digest of its canonical form. -/
theorem toDict_eq_ok {t : ReliabilityStateTransition} {members : Dict Json}
    (h : t.toDict = .ok members) :
    ∃ digest, t.computedDigest = .ok digest ∧
      members = t.payload ++ [(lit "digest", .str digest)] := by
  simp only [toDict, bind_eq_ok] at h
  obtain ⟨digest, hd, hm⟩ := h
  cases hm
  exact ⟨digest, hd, rfl⟩

private theorem payloadDigest_eq_ok {members : Dict Json} {digest : Text}
    (h : payloadDigest members = .ok digest) :
    ∃ content, Utf8.encode (Json.dumps Json.canonical (.obj members)) = some content ∧
      digest = sha256 content := by
  simp only [payloadDigest, bind_eq_ok, Utf8.toBytes, orRaise_eq_ok] at h
  obtain ⟨content, hc, hd⟩ := h
  cases hd
  exact ⟨content, hc, rfl⟩

/-- A digest is in digest form. -/
theorem isSha256_of_computedDigest {t : ReliabilityStateTransition} {digest : Text}
    (h : t.computedDigest = .ok digest) : isSha256 digest = true := by
  obtain ⟨content, -, rfl⟩ := payloadDigest_eq_ok h
  exact isSha256_sha256 content

theorem writable_payload (t : ReliabilityStateTransition) :
    Json.Writable (.obj t.payload) := by
  simp [payload, Dict.Distinct]

theorem writable_toDict (t : ReliabilityStateTransition) (digest : Text) :
    Json.Writable (.obj (t.payload ++ [(lit "digest", .str digest)])) := by
  simp [payload, Dict.Distinct]

/-- A transition has a digest exactly when UTF-8 can encode every text of it. -/
theorem computedDigest_isOk_iff (t : ReliabilityStateTransition) :
    (∃ digest, t.computedDigest = .ok digest) ↔
      ∀ s ∈ Json.texts (.obj t.payload), SurrogateFree s := by
  rw [← Json.surrogateFree_canonical_iff t.writable_payload, ← Utf8.encode_isSome_iff,
    Option.isSome_iff_exists]
  constructor
  · rintro ⟨digest, h⟩
    obtain ⟨content, hc, -⟩ := payloadDigest_eq_ok h
    exact ⟨content, hc⟩
  · rintro ⟨content, hc⟩
    exact ⟨_, by rw [computedDigest, payloadDigest, Utf8.toBytes, hc]; rfl⟩

/-- A transition with a digest is free of surrogates, its dictionary included. -/
theorem surrogateFree_texts {t : ReliabilityStateTransition} {digest : Text}
    (h : t.computedDigest = .ok digest) :
    ∀ s ∈ Json.texts (.obj (t.payload ++ [(lit "digest", .str digest)])), SurrogateFree s := by
  obtain ⟨content, hcontent⟩ := (canonicalBytes_isOk_iff t.writable_payload).mpr
    ((computedDigest_isOk_iff t).mp ⟨digest, h⟩)
  exact surrogateFree_digested hcontent (isSha256_of_computedDigest h)

/-- A transition is read from what reads as its payload, where the digest supplied, if any, is its
own and that of the members read. -/
theorem fromDict_of_readsAs {t : ReliabilityStateTransition} {members : Dict Json}
    (h : ReadsAs members t.payload)
    (hdigest : optionalText members (lit "digest") ≠ [] →
      payloadDigest (members.erase (lit "digest")) = .ok (optionalText members (lit "digest")) ∧
        t.computedDigest = .ok (optionalText members (lit "digest"))) :
    fromDict members = .ok t := by
  have hrationale : members.get? (lit "rationale") = some (.arr (t.rationale.map .str)) := by
    rw [h (lit "rationale") (.arr (t.rationale.map .str)) (by simp [payload]), Json.sortKeys_arr,
      List.map_map]
    exact congrArg (fun l ↦ some (Json.arr l)) (List.map_congr_left fun _ _ ↦ Json.sortKeys_str _)
  have hprevious : optionalText members (lit "previous_transition_digest") =
      t.previousTransitionDigest :=
    optionalText_of_get? (by
      rw [h (lit "previous_transition_digest") (.str t.previousTransitionDigest)
        (by simp [payload]), Json.sortKeys_str])
  rw [fromDict]
  simp only [hprevious, hrationale, Option.getD_some, stringSequence_texts,
    h.requiredText (lit "transition_id") t.transitionId (by simp [payload]),
    h.requiredText (lit "subject_id") t.subjectId (by simp [payload]),
    h.requiredText (lit "from_state") t.fromState.text (by simp [payload]),
    h.requiredText (lit "to_state") t.toState.text (by simp [payload]),
    h.requiredText (lit "occurred_at") (isoformat t.occurredAt) (by simp [payload]),
    h.requiredText (lit "actor") t.actor (by simp [payload]),
    h.requiredText (lit "evidence_chain_id") t.evidenceChainId (by simp [payload]),
    h.requiredText (lit "evidence_chain_digest") t.evidenceChainDigest (by simp [payload]),
    h.requiredText (lit "decision") t.decision.text (by simp [payload]),
    parseDatetime_isoformat, create_self, ok_bind]
  by_cases hsupplied : optionalText members (lit "digest") = []
  · rw [if_neg (not_not.mpr hsupplied), if_neg (not_not.mpr hsupplied)]
    rfl
  · obtain ⟨hread, hown⟩ := hdigest hsupplied
    rw [if_pos hsupplied, if_pos hsupplied, hread, hown]
    simp only [ok_bind, decide_true, require_true]
    rfl

/-- Reading a written transition gives it back, in every style. -/
theorem fromDict_readMembers {t : ReliabilityStateTransition} {members : Dict Json}
    (h : t.toDict = .ok members) (style : Json.Style) :
    fromDict (Json.readMembers style members) = .ok t := by
  obtain ⟨digest, hd, rfl⟩ := toDict_eq_ok h
  have hw := t.writable_toDict digest
  have htexts := surrogateFree_texts hd
  have hreads := readsAs_readMembers style hw fun s hs ↦ (htexts s hs).pairFree
  have hsupplied : optionalText (Json.readMembers style
      (t.payload ++ [(lit "digest", .str digest)])) (lit "digest") = digest :=
    optionalText_of_get? (by
      rw [hreads (lit "digest") (.str digest) (by simp [payload]), Json.sortKeys_str])
  apply fromDict_of_readsAs hreads.append_left
  intro _
  rw [hsupplied]
  constructor
  · rw [payloadDigest, Json.dumps_erase_readMembers style Json.canonical hw
      (fun s hs ↦ (htexts s hs).pairFree) (by simp [payload])]
    exact hd
  · exact hd

/-- The dictionary determines the transition. -/
theorem toDict_inj {t u : ReliabilityStateTransition} {members : Dict Json}
    (ht : t.toDict = .ok members) (hu : u.toDict = .ok members) : t = u := by
  have h := fromDict_readMembers ht Json.compact
  rw [fromDict_readMembers hu Json.compact] at h
  exact (Except.ok.inj h).symm

attribute [irreducible] computedDigest

end ReliabilityStateTransition
end StateWake.Reliability
