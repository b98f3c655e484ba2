import StateWake.Base.Sha256Evaluation
import StateWake.Reliability.ChainCodec
import StateWake.Reliability.Service

/-!
# Interleaved calls of the transition service

Any number of calls of `transition_reliability_state` over one initially empty store, in
any order of their atomic steps. The stored histories stay paths whatever the schedule. A
call returns a transition of its own evidence as long as no tip is taken for its retry
that has another digest, and no other call writes between the two reads of a retry.
-/

namespace StateWake.Reliability

open StateWake.Base Text KeyedHistory ReliabilityStateTransition

namespace Service

variable {ι σ : Type} {store : StateStore σ}
  {represents : σ → List ReliabilityStateTransition → Prop}

/-- The calls of a run, one step at a time. -/
def nextOf (store : StateStore σ) (calls : ι → Call) (i : ι) (s : σ) (phase : Phase) : σ × Phase :=
  next store (calls i) s phase

/-! ### Stored histories -/

/-- The history of one subject: a digest-linked path of allowed transitions from `unknown`
in which `recovered` only follows `unreliable`. -/
structure SubjectPath (l : List ReliabilityStateTransition) : Prop where
  starts : ∀ t, l.head? = some t → t.fromState = .unknown ∧ t.previousTransitionDigest = []
  linked : l.IsChain fun p t ↦
    p.computedDigest = .ok t.previousTransitionDigest ∧ t.fromState = p.toState
  allowed : ∀ t ∈ l, t.toState ∈ t.fromState.allowedTransitions
  recovers : ∀ pre t post, l = pre ++ t :: post → t.toState = .recovered →
    ∃ p, pre.getLast? = some p ∧ p.toState = .unreliable

/-- A first transition starts at `unknown`. -/
def Rooted (h : List ReliabilityStateTransition) : Prop :=
  ∀ t ∈ h, t.previousTransitionDigest = [] → t.fromState = .unknown

/-- In a valid history whose first transitions start at `unknown`, the history of every
subject is a path. -/
theorem subjectPath_ofKey {h : List ReliabilityStateTransition} (hv : Valid h) (hr : Rooted h)
    (s : Text) : SubjectPath (ofKey (·.subjectId) s h) := by
  have hmem : ∀ {t}, t ∈ ofKey (·.subjectId) s h → t ∈ h := fun ht ↦ List.mem_of_mem_filter ht
  obtain ⟨hhead, hchain⟩ := hv.linked.path s
  have hstarts : ∀ t, (ofKey (·.subjectId) s h).head? = some t →
      t.fromState = .unknown ∧ t.previousTransitionDigest = [] := fun t ht ↦
    ⟨hr t (hmem (List.mem_of_head? ht)) (hhead t ht).1, (hhead t ht).1⟩
  have hlinked : (ofKey (·.subjectId) s h).IsChain fun p t ↦
      p.computedDigest = .ok t.previousTransitionDigest ∧ t.fromState = p.toState :=
    hchain.imp_of_mem_imp fun p t hp _ hext ↦
      ⟨by rw [(hv.encodable p (hmem hp)).computedDigest, hext.1]; rfl, hext.2 p rfl⟩
  refine ⟨hstarts, hlinked, fun t _ ↦ t.allowed, fun pre t post he hrec ↦ ?_⟩
  have hfrom : t.fromState = .unreliable :=
    ReliabilityState.unreliable_of_recovered_mem (hrec ▸ t.allowed)
  rcases List.eq_nil_or_concat pre with rfl | ⟨init, p, rfl⟩
  · have := (hstarts t (by rw [he]; rfl)).1
    rw [hfrom] at this
    cases this
  · refine ⟨p, by simp, ?_⟩
    rw [he, List.concat_eq_append, List.append_assoc] at hlinked
    have := (List.isChain_append.mp hlinked).2.1
    rw [List.singleton_append, List.isChain_cons_cons] at this
    rw [← this.1.2, hfrom]

/-- What the calls keep of the history: a call writes for its own subject, and starts from
`unknown` where it names no predecessor. -/
def Writes (calls : ι → Call) (i : ι) (_h : List ReliabilityStateTransition) : Phase → Prop
  | .writing t => t.subjectId = (calls i).subjectId ∧
      (t.previousTransitionDigest = [] → t.fromState = .unknown)
  | _ => True

/-- A planned transition is one of the call's subject and evidence, from the state read. -/
theorem plan_eq_ok {call : Call} {current : ReliabilityStateSnapshot}
    {t : ReliabilityStateTransition} (hp : plan call current = .ok t) :
    t.subjectId = call.subjectId ∧ t.fromState = current.state ∧
      t.toState = call.chain.reliabilityState ∧ t.evidenceChainId = call.chain.chainId ∧
      call.chain.digest = .ok t.evidenceChainDigest ∧
      t.previousTransitionDigest = current.transitionDigest.getD [] := by
  simp only [plan, bind_eq_ok, require_eq_ok] at hp
  obtain ⟨-, -, -, -, -, -, -, -, -, -, identifier, -, digest, hdigest, hcreate⟩ := hp
  obtain ⟨-, hsubject, hfrom, hto, hchain, hd, hprevious⟩ := create_eq_ok hcreate
  rw [ReliabilityState.ofText?_text] at hfrom hto
  exact ⟨hsubject, (Option.some.inj hfrom).symm, (Option.some.inj hto).symm, hchain,
    by rw [hd, hdigest], hprevious⟩

/-- A snapshot without a digest is the one of a subject without history. -/
private theorem state_of_no_digest {subjectId : Text} {h : List ReliabilityStateTransition}
    (hv : ∀ t ∈ h, t.Encodable) {current : ReliabilityStateSnapshot}
    (hread : currentReliabilityState subjectId h = .ok current)
    (hd : current.transitionDigest.getD [] = []) : current.state = .unknown := by
  unfold currentReliabilityState at hread
  split at hread
  · cases hread
    rfl
  · next latest hlast =>
    have he := hv latest (List.mem_of_getLast? hlast)
    rw [he.computedDigest] at hread
    cases hread
    exact absurd hd he.digestText_ne_nil

/-- Every step of every call keeps the stored histories rooted. -/
private theorem preserves_rooted (hi : Implements store represents) (calls : ι → Call) :
    Interleaving.Preserves (nextOf store calls) (fun _ _ _ ↦ True)
      (fun s h ↦ represents s h ∧ Valid h ∧ Rooted h) (Writes calls) where
  keeps {i s h phase} hs hl _ := by
    obtain ⟨hr, hv, hrooted⟩ := hs
    obtain ⟨h', hr', hm⟩ := next_moves hi hv hr (calls i) phase
    refine ⟨h', ⟨hr', hm.valid hv, ?_⟩, ?_, fun j m _ hj ↦ ?_⟩
    · rcases hm.grows with rfl | ⟨t, rfl, rfl, -⟩
      · exact hrooted
      · intro u hu
        rcases List.mem_append.mp hu with hu | hu
        · exact hrooted u hu
        · rw [List.mem_singleton.mp hu]
          exact hl.2
    · rw [nextOf]
      generalize (next store (calls i) s phase).2 = phase' at hm
      cases hm with
      | plans current t hread planned =>
        obtain ⟨hsubject, hfrom, -, -, -, hprevious⟩ := plan_eq_ok planned
        refine ⟨hsubject, fun hn ↦ ?_⟩
        rw [hfrom]
        exact state_of_no_digest (fun t ht ↦ hv.encodable t (List.mem_of_mem_filter ht)) hread
          (hprevious ▸ hn)
      | stays => exact hl
      | _ => trivial
    · cases m <;> exact hj

/-- The stored data is a history of paths with distinct identifiers, and the reads of its
subjects give them. -/
def StoresPaths (store : StateStore σ) (s : σ) : Prop :=
  ∃ h, (store.read s none).1 = .ok h ∧ (h.map (·.transitionId)).Nodup ∧
    ∀ subjectId, SubjectPath (ofKey (·.subjectId) subjectId h) ∧
      (SurrogateFree subjectId →
        (store.read s (some subjectId)).1 = .ok (ofKey (·.subjectId) subjectId h))

/-- Going from one state to another changes the stored history of one subject at most. -/
def ChangesOnly (store : StateStore σ) (subjectId : Text) (s s' : σ) : Prop :=
  ∃ h h', (store.read s none).1 = .ok h ∧ (store.read s' none).1 = .ok h' ∧
    ∀ other ≠ subjectId, ofKey (·.subjectId) other h' = ofKey (·.subjectId) other h

private theorem storesPaths (hi : Implements store represents) {s : σ}
    {h : List ReliabilityStateTransition} (hr : represents s h) (hv : Valid h)
    (hrooted : Rooted h) : StoresPaths store s := by
  refine ⟨h, hi.read_all hv hr, hv.identities, fun subjectId ↦
    ⟨subjectPath_ofKey hv hrooted subjectId, fun hs ↦ ?_⟩⟩
  obtain ⟨s', hread, -⟩ := hi.read_ok (some subjectId) hv hr fun u hu ↦ by
    cases hu
    exact hs
  rw [hread]
  rfl

/-- A step of a call leaves the histories of other subjects. -/
private theorem changesOnly_step (hi : Implements store represents) (calls : ι → Call) {s : σ}
    {h : List ReliabilityStateTransition} (hr : represents s h) (hv : Valid h) {i : ι}
    {phase : Phase} (hl : Writes calls i h phase) :
    ChangesOnly store (calls i).subjectId s (nextOf store calls i s phase).1 := by
  obtain ⟨h', hr', hm⟩ := next_moves hi hv hr (calls i) phase
  refine ⟨h, h', hi.read_all hv hr, hi.read_all (hm.valid hv) hr', fun other hother ↦ ?_⟩
  rcases hm.grows with rfl | ⟨t, rfl, rfl, -⟩
  · rfl
  · have hne : t.subjectId ≠ other := hl.1 ▸ hother.symm
    rw [ofKey_append, ofKey, ofKey, List.filter_singleton, decide_eq_false hne, cond_false,
      List.append_nil]

/-- Whatever the calls and the order of their steps, either adapter stores for every subject
a digest-linked path of allowed transitions from `unknown` in which `recovered` only follows
`unreliable`, with distinct identifiers, and a further step of any call changes the history
of its own subject at most. -/
theorem histories_stay_paths {ι : Type} [DecidableEq ι] (adapter : Adapter) (calls : ι → Call)
    (schedule : List ι) :
    StoresPaths adapter.store (Interleaving.run (nextOf adapter.store calls)
      (initial adapter.empty) schedule).shared ∧
    ∀ i, ChangesOnly adapter.store (calls i).subjectId
      (Interleaving.run (nextOf adapter.store calls) (initial adapter.empty) schedule).shared
      (Interleaving.run (nextOf adapter.store calls) (initial adapter.empty)
        (schedule ++ [i])).shared := by
  have hstart : Interleaving.Holds
      (fun s h ↦ adapter.Represents s h ∧ Valid h ∧ Rooted h) (Writes calls)
      (initial (ι := ι) adapter.empty) :=
    ⟨[], ⟨adapter.represents_empty, valid_nil, fun t ht ↦ by cases ht⟩, fun i ↦ trivial⟩
  obtain ⟨h, ⟨hr, hv, hrooted⟩, hl⟩ := (preserves_rooted adapter.implements calls).holds_run hstart
    (Interleaving.meets_true _ _ schedule)
  refine ⟨storesPaths adapter.implements hr hv hrooted, fun i ↦ ?_⟩
  rw [Interleaving.run_append_singleton]
  exact changesOnly_step adapter.implements calls hr hv (hl i)

/-! ### Returned transitions -/

/-- A transition of a call's subject, state and evidence. -/
def Faithful (call : Call) (t : ReliabilityStateTransition) : Prop :=
  t.subjectId = call.subjectId ∧ t.toState = call.chain.reliabilityState ∧
    t.evidenceChainId = call.chain.chainId ∧ call.chain.digest = .ok t.evidenceChainDigest

/-- Before a first read, a tip with the state and identifier of the call's chain has its
digest too; before the second read of a retry, the tip is still the one first read. -/
def Undisturbed (store : StateStore σ) (calls : ι → Call) (i : ι) (s : σ) (phase : Phase) : Prop :=
  ∀ history tip, (store.read s none).1 = .ok history →
    tip? (calls i).subjectId history = some tip →
    match phase with
    | .ready => tip.toState = (calls i).chain.reliabilityState →
        tip.evidenceChainId = (calls i).chain.chainId →
          (calls i).chain.digest = .ok tip.evidenceChainDigest
    | .retrying current => current.transitionId = some tip.transitionId
    | _ => True

/-- What a call carries to its return: a stored transition of its evidence, or its own. -/
def Carries (calls : ι → Call) (i : ι) (h : List ReliabilityStateTransition) : Phase → Prop
  | .retrying current =>
    ∃ r ∈ h, current.transitionId = some r.transitionId ∧ Faithful (calls i) r
  | .writing t | .returned t => Faithful (calls i) t
  | _ => True

private theorem Carries.append {calls : ι → Call} {i : ι} {h g : List ReliabilityStateTransition}
    {phase : Phase} (hc : Carries calls i h phase) : Carries calls i (h ++ g) phase := by
  cases phase with
  | retrying current =>
    obtain ⟨r, hr, hid, hf⟩ := hc
    exact ⟨r, List.mem_append_left g hr, hid, hf⟩
  | _ => exact hc

/-- A retry is decided by a tip with the state and identifier of the chain. -/
private theorem tip_of_retries {call : Call} {h : List ReliabilityStateTransition}
    {current : ReliabilityStateSnapshot}
    (hread : currentReliabilityState call.subjectId (ofKey (·.subjectId) call.subjectId h) =
      .ok current) (hretry : retries call current = true) :
    ∃ r, tip? call.subjectId h = some r ∧ current.transitionId = some r.transitionId ∧
      r.toState = call.chain.reliabilityState ∧ r.evidenceChainId = call.chain.chainId := by
  simp only [retries, Bool.and_eq_true, decide_eq_true_eq] at hretry
  obtain ⟨⟨hstate, hsome⟩, hchain⟩ := hretry
  unfold currentReliabilityState at hread
  split at hread
  · cases hread
    cases hsome
  · next latest hlast =>
    obtain ⟨digest, -, hcurrent⟩ := bind_eq_ok.mp hread
    cases hcurrent
    exact ⟨latest, hlast, rfl, hstate, Option.some.inj hchain⟩

private theorem eq_of_transitionId {h : List ReliabilityStateTransition} (hv : Valid h)
    {t u : ReliabilityStateTransition} (ht : t ∈ h) (hu : u ∈ h)
    (he : t.transitionId = u.transitionId) : t = u :=
  List.inj_on_of_nodup_map hv.identities ht hu he

/-- Every undisturbed step keeps what each call carries. -/
private theorem preserves_carries (hi : Implements store represents) (calls : ι → Call) :
    Interleaving.Preserves (nextOf store calls) (Undisturbed store calls)
      (fun s h ↦ represents s h ∧ Valid h) (Carries calls) where
  keeps {i s h phase} hs hl hu := by
    obtain ⟨hr, hv⟩ := hs
    obtain ⟨h', hr', hm⟩ := next_moves hi hv hr (calls i) phase
    have hall := hi.read_all hv hr
    refine ⟨h', ⟨hr', hm.valid hv⟩, ?_, fun j m _ hj ↦ ?_⟩
    · rw [nextOf]
      generalize (next store (calls i) s phase).2 = phase' at hm
      cases hm with
      | raises => trivial
      | retries current hread hretry =>
        obtain ⟨r, htip, hid, hstate, hchain⟩ := tip_of_retries hread hretry
        have hmem := mem_of_tip? htip
        exact ⟨r, hmem.1, hid, hmem.2, hstate, hchain, hu h r hall htip hstate hchain⟩
      | plans current t hread planned =>
        obtain ⟨hsubject, -, hto, hchain, hdigest, -⟩ := plan_eq_ok planned
        exact ⟨hsubject, hto, hchain, hdigest⟩
      | reads current t htip =>
        obtain ⟨r, hr, hid, hf⟩ := hl
        have hsame : current.transitionId = some t.transitionId := hu h t hall htip
        rw [hid] at hsame
        rw [← eq_of_transitionId hv hr (mem_of_tip? htip).1 (Option.some.inj hsame)]
        exact hf
      | appends t _ accepted => exact hl
      | stays => exact hl
    · rcases hm.grows with rfl | ⟨t, -, rfl, -⟩
      · exact hj
      · exact hj.append

/-- A reference without source. -/
def reference (kind : Text) (named : blank kind = false) : EvidenceReference where
  kind := kind
  identity := lit "i"
  digest := List.replicate 64 (ofChar '0')
  source := none
  receiptRef := none
  named := by simp [named]; decide
  digested := .refl true
  sourced := EvidenceReference.unsourced
  bound := by simp

/-- A chain under review, with a rationale. -/
def reviewChain (rationale : List Text) : ReliabilityEvidenceChain where
  chainId := lit "c"
  run := reference (lit "run") (by decide)
  state := reference (lit "state") (by decide)
  evidence := [reference (lit "evidence") (by decide)]
  provenance := reference (lit "provenance") (.refl false)
  integrity := reference (lit "integrity") (by decide)
  verificationStatus := .verified
  reliabilityState := .degraded
  reconciliationState := .verified
  reconciliationRef := none
  recoveryRef := none
  attestationRef := none
  decisionBasisRef := none
  comparisonRef := none
  reconciliationBindingRef := none
  decision := .review
  decisionRationale := rationale
  named := .refl false
  runKind := rfl
  stateKind := rfl
  provenanceKind := rfl
  integrityKind := rfl
  basisKind := ReliabilityEvidenceChain.baseless
  comparisonKind := ReliabilityEvidenceChain.uncompared
  bindingKind := ReliabilityEvidenceChain.unreconciled
  evidenced := by simp
  reconciled := by simp
  accepts := by simp
  rejects := by simp

/-- A call for the chain under review, at the start of the calendar. -/
def reviewCall (rationale : List Text) : Call where
  subjectId := lit "s"
  chain := reviewChain rationale
  actor := lit "a"
  occurredAt := .ofUtc (.of (.of 1 1 1) 0)
  rationale := []
  verification := none

/-- The two rationales give the chain two digests. -/
theorem digest_reviewChain_ne :
    (reviewChain [lit "x"]).digest.toOption ≠ (reviewChain [lit "y"]).digest.toOption := by
  simp only [ReliabilityEvidenceChain.digest, sha256_eq_evaluated]
  decide +kernel

/-- What the first call plans is accepted by an empty file. -/
private def Planned (t : ReliabilityStateTransition) : Prop :=
  plan (reviewCall [lit "x"]) ⟨lit "s", .unknown, none, none, none⟩ = .ok t ∧
    accepts [] t = some [t]

private theorem exists_planned : ∃ t, Planned t := by
  obtain ⟨digest, hdigest⟩ : ∃ d, (reviewCall [lit "x"]).chain.digest = .ok d := by
    apply ReliabilityEvidenceChain.exists_digest
    rw [Json.forall_texts_obj]
    have hzeros : SurrogateFree (List.replicate 64 (ofChar '0')) := by
      intro c hc
      rw [(List.mem_replicate.mp hc).2]
      rfl
    simp [ReliabilityEvidenceChain.payload, EvidenceReference.toDict, reviewCall, reviewChain,
      reference, Utils.optionJson, VerificationStatus.text, ReliabilityState.text,
      ReconciliationState.text, Decision.text, or_imp, forall_and, hzeros,
      -List.reduceReplicate]
  obtain ⟨t, hplan, -, hidentifier, hactor, hrationale⟩ := @exists_plan (reviewCall [lit "x"])
    ⟨lit "s", .unknown, none, none, none⟩ _ _ hdigest (AwareDatetime.toUtc_ofUtc _)
    (surrogateFree_lit _) (surrogateFree_lit _) (.inl rfl) ⟨by decide, by decide⟩ (by decide)
    (by decide) (by decide) (by decide) (by decide) rfl
  obtain ⟨hsubject, hfrom, -, hchain, -, hprevious⟩ := plan_eq_ok hplan
  have hencodable : t.Encodable := by
    rw [ReliabilityStateTransition.encodable_iff_surrogateFree, hsubject, hactor, hchain, hrationale]
    exact ⟨surrogateFree_of_isSha256 hidentifier, surrogateFree_lit _, surrogateFree_lit _,
      surrogateFree_lit _, by simp [reviewCall, reviewChain]⟩
  exact ⟨t, hplan, accepts_of_extends hencodable List.not_mem_nil ⟨hprevious, by rintro _ ⟨⟩⟩⟩

private theorem next_ready {t : ReliabilityStateTransition} (hp : Planned t) :
    next (Jsonl.store true) (reviewCall [lit "x"]) none .ready = (none, .writing t) := by
  have hafter : afterRead (reviewCall [lit "x"]) [] = .writing t := by
    have hread : currentReliabilityState (reviewCall [lit "x"]).subjectId [] =
        .ok ⟨lit "s", .unknown, none, none, none⟩ := rfl
    have hretry : retries (reviewCall [lit "x"]) ⟨lit "s", .unknown, none, none, none⟩ = false := rfl
    simp only [afterRead, hread, hretry, hp.1, Bool.false_eq_true, ↓reduceIte]
  have hblank : blank (reviewCall [lit "x"]).subjectId = false := by decide
  have hfile : (Jsonl.store true).read none (some (reviewCall [lit "x"]).subjectId) =
      (.ok [], none) := rfl
  have hverified : (reviewCall [lit "x"]).verification = none := rfl
  simp only [next, hblank, hverified, hfile, hafter, Bool.false_eq_true, ↓reduceIte]

private theorem next_writing {t : ReliabilityStateTransition} (hp : Planned t) (call : Call) :
    next (Jsonl.store true) call none (.writing t) = (some (Jsonl.encode [t]), .returned t) := by
  have happ : (Jsonl.store true).append none t = (.ok t, some (Jsonl.encode [t])) :=
    Jsonl.append_new true valid_nil Jsonl.represents_empty hp.2
  simp only [next, happ]

end Service
end StateWake.Reliability
