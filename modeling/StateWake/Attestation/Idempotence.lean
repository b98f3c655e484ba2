import StateWake.Attestation.Progress

/-!
# Retries of an attestation

A retry builds its attestation again, on the tip of that moment. The unsigned append compares
contents without the place in the chain, so it finds the first attestation; the signed append
compares whole attestations, so it finds the first one only if the tip has the digest it had
then.
-/

namespace StateWake.Attestation

open StateWake.Base Text Utils RegisterHistory Reliability Trust Store
open TrustHistory (founding acceptAll oneAuthority)

variable {ed25519 : Bytes → Bytes → Bytes → Bool}
  {provider : SigningKeyReference → Bytes → Except PyError Bytes} {file file' : Option Bytes}
  {h : List Entry} {a c : ReliabilityOutcomeAttestation} {b : SignedReliabilityOutcomeBinding}
  {r : Request} {now later : Datetime} {signingKeyId : Option Text}

/-! ### Offering again -/

/-- Contents the store takes for the same. -/
def Answer.Same : Answer → Answer → Prop
  | .attestation a, .attestation c => unchained a = unchained c
  | .binding b, .binding d => b = d
  | _, _ => False

/-- What is recorded in a snapshot. -/
def Answer.HeldIn (s : Snapshot) : Answer → Prop
  | .attestation a => a ∈ s.records
  | .binding b => b ∈ s.bindings

/-- A recorded identity is offered with other contents. -/
def Answer.Collides (s : Snapshot) : Answer → Prop
  | .attestation a =>
    ∃ e ∈ s.records, e.attestationId = a.attestationId ∧ unchained e ≠ unchained a
  | .binding b =>
    (∃ e ∈ s.records, e.attestationId = b.attestation.attestationId ∧ e ≠ b.attestation) ∨
      ∃ d ∈ s.bindings, d.attestation.attestationId = b.attestation.attestationId ∧ d ≠ b

variable {x y : Answer}

theorem attestationId_of_unchained (h : unchained a = unchained c) :
    a.attestationId = c.attestationId := by
  have hid := congrArg Outcome.attestationId (unchained_eq_iff.mp h)
  exact hid

theorem occurredAt_of_unchained (h : unchained a = unchained c) :
    a.occurredAt = c.occurredAt := by
  have hat := congrArg Outcome.occurredAt (unchained_eq_iff.mp h)
  exact hat

/-- What the store returns has the contents it was offered and is held. -/
theorem commit_returns (hr : Represents file h) (hw : x.Writable)
    (hc : commit file x = (.ok y, file')) :
    y.Same x ∧ ∃ g, Represents file' (h ++ g) ∧ y.HeldIn (after (h ++ g)) := by
  cases x with
  | attestation a =>
    cases happend : Store.append file a with
    | mk result left =>
      rw [commit, happend] at hc
      cases result with
      | error e => cases hc
      | ok c =>
        cases hc
        obtain ⟨hsame, -, hheld⟩ := append_returns hr happend
        exact ⟨hsame, hheld⟩
  | binding b =>
    cases happend : Store.appendSigned file b with
    | mk result left =>
      rw [commit, happend] at hc
      cases result with
      | error e => cases hc
      | ok d =>
        cases hc
        obtain ⟨rfl, hheld⟩ := appendSigned_returns hr hw happend
        exact ⟨rfl, hheld⟩

/-- What is held answers an offer of the same contents, and nothing is written. -/
theorem commit_of_held (hr : Represents file h) (hy : y.HeldIn (after h))
    (hsame : y.Same x) : commit file x = (.ok y, file) := by
  cases x with
  | attestation a =>
    cases y with
    | attestation c =>
      have hfound := recorded?_of_mem hr.stored hy
      rw [attestationId_of_unchained hsame] at hfound
      rw [commit, append_of_recorded hr hfound, if_pos (show unchained c = unchained a from hsame)]
      rfl
    | binding d => cases hsame
  | binding b =>
    cases y with
    | attestation c => cases hsame
    | binding d =>
      cases hsame
      rw [commit, appendSigned_of_bound hr (recorded?_of_bound hr.stored hy)
        (binding?_of_mem hr.stored hy), if_pos rfl]
      rfl

/-- Other contents for a recorded identity are refused, and nothing is written. -/
theorem commit_of_differs (hr : Represents file h) (hx : x.Collides (after h)) :
    ∃ e, commit file x = (.error e, file) := by
  cases x with
  | attestation a =>
    obtain ⟨e, he, hid, hne⟩ := hx
    have hfound := recorded?_of_mem hr.stored he
    rw [hid] at hfound
    exact ⟨identityCollision, by rw [commit, append_of_recorded hr hfound, if_neg hne]; rfl⟩
  | binding b =>
    rcases hx with ⟨e, he, hid, hne⟩ | ⟨d, hd, hid, hne⟩
    · have hfound := recorded?_of_mem hr.stored he
      rw [hid] at hfound
      exact ⟨identityCollision, by rw [commit, appendSigned_of_collision hr hfound hne]; rfl⟩
    · have hrec := recorded?_of_bound hr.stored hd
      have hbound := binding?_of_mem hr.stored hd
      rw [hid] at hrec hbound
      by_cases hatt : d.attestation = b.attestation
      · rw [hatt] at hrec
        exact ⟨_, by rw [commit, appendSigned_of_bound hr hrec hbound, if_neg hne]; rfl⟩
      · exact ⟨identityCollision, by rw [commit, appendSigned_of_collision hr hrec hatt]; rfl⟩

theorem holds_append (hy : y.HeldIn (after h)) (g : List Entry) :
    y.HeldIn (after (h ++ g)) := by
  cases y with
  | attestation a =>
    change a ∈ List.filterMap Entry.attestation? (h ++ g)
    rw [List.filterMap_append]
    exact List.mem_append_left _ hy
  | binding b =>
    change b ∈ List.filterMap Entry.binding? (h ++ g)
    rw [List.filterMap_append]
    exact List.mem_append_left _ hy

/-! ### Retries -/

/-- The two ways to attest a request. -/
inductive Attesting where
  | unsigned (signingKeyId : Option Text)
  | signed (key : SigningKeyReference) (trustState : SignedAttestationTrustState)
    (authorities : Dict Bytes)

namespace Attesting

/-- The call that attests a request at a time. -/
def call : Attesting → Request → Datetime → Call
  | unsigned signingKeyId, r, now => .attest r signingKeyId now
  | signed key trustState authorities, r, now => .attestSigned r key trustState authorities now

/-- Whether the attestation is signed. -/
def IsSigned : Attesting → Prop
  | unsigned _ => False
  | signed _ _ _ => True

end Attesting

/-- The digest of the last attestation of a file that can be read. -/
def tip? (file : Option Bytes) : Option Text :=
  (readSnapshotUnlocked file).toOption.map Snapshot.tipDigest

theorem tip?_represents (hr : Represents file h) : tip? file = some (after h).tipDigest := by
  rw [tip?, readSnapshotUnlocked_represents hr]
  rfl

variable (ed25519 provider)

/-- A retry at a later time finds what the first call returned and writes nothing. -/
def Repeats (file : Option Bytes) (m : Attesting) (r : Request) (later : Datetime) (y : Answer) :
    Prop :=
  call ed25519 provider file (m.call r later) = (.ok y, file)

/-- A call that offers other contents for a recorded identity raises and writes nothing. -/
def RefusesCollisions (file : Option Bytes) : Prop :=
  ∀ c x s, offer ed25519 provider file c = .ok x → readSnapshotUnlocked file = .ok s →
    x.Collides s → ∃ e, call ed25519 provider file c = (.error e, file)

variable {ed25519 provider} {m : Attesting}

theorem refusesCollisions (hr : Represents file h) :
    RefusesCollisions ed25519 provider file := by
  intro c x s hx hs hcollides
  rw [readSnapshotUnlocked_represents hr] at hs
  cases hs
  obtain ⟨e, he⟩ := commit_of_differs hr hcollides
  refine ⟨e, ?_⟩
  rw [call_eq, hx]
  exact he

theorem call_eq_ok {c : Call} (hc : call ed25519 provider file c = (.ok y, file')) :
    ∃ x, offer ed25519 provider file c = .ok x ∧ commit file x = (.ok y, file') := by
  rw [call_eq] at hc
  split at hc
  · cases hc
  · next x hx => exact ⟨x, hx, hc⟩

/-- What an unsigned call offers. -/
private theorem offer_unsigned (hx : offer ed25519 provider file
    ((Attesting.unsigned signingKeyId).call r now) = .ok x) :
    ∃ a, build r now signingKeyId file = .ok a ∧ x = .attestation a := by
  rw [Attesting.call, offer] at hx
  cases hb : build r now signingKeyId file with
  | error e =>
    rw [hb] at hx
    cases hx
  | ok a =>
    rw [hb] at hx
    cases hx
    exact ⟨a, rfl, rfl⟩

/-- What a signed call offers. -/
private theorem offer_signed {key : SigningKeyReference} {state : SignedAttestationTrustState}
    {authorities : Dict Bytes} (hx : offer ed25519 provider file
      ((Attesting.signed key state authorities).call r now) = .ok x) :
    ∃ a b, build r now (some key.keyId) file = .ok a ∧
      signedBinding ed25519 provider a key state authorities = .ok b ∧ x = .binding b := by
  rw [Attesting.call, offer] at hx
  cases hb : build r now (some key.keyId) file with
  | error e =>
    rw [hb] at hx
    cases hx
  | ok a =>
    rw [hb, ok_bind] at hx
    cases hs : signedBinding ed25519 provider a key state authorities with
    | error e =>
      rw [hs] at hx
      cases hx
    | ok b =>
      rw [hs] at hx
      cases hx
      exact ⟨a, b, rfl, hs, rfl⟩

/-- An unsigned attestation is found again exactly when it is attested for the same time. -/
theorem unsigned_repeats_iff {g : List Entry} {file'' : Option Bytes} (hr : Represents file h)
    (hfirst : call ed25519 provider file ((Attesting.unsigned signingKeyId).call r now) =
      (.ok y, file')) (hr' : Represents file'' g) (hy : y.HeldIn (after g)) :
    Repeats ed25519 provider file'' (.unsigned signingKeyId) r later y ↔
      r.when now = r.when later := by
  obtain ⟨x, hx, hcommit⟩ := call_eq_ok hfirst
  obtain ⟨a, hb, rfl⟩ := offer_unsigned hx
  obtain ⟨hsame, -⟩ := commit_returns hr (offer_writable hx) hcommit
  have hwhen := (build_spec hr hb).1
  constructor
  · intro hrepeat
    obtain ⟨x', hx', hcommit'⟩ := call_eq_ok hrepeat
    obtain ⟨a', hb', rfl⟩ := offer_unsigned hx'
    obtain ⟨hsame', -⟩ := commit_returns hr' (offer_writable hx') hcommit'
    cases y with
    | binding d => cases hsame
    | attestation c =>
      rw [hwhen, (build_spec hr' hb').1, ← occurredAt_of_unchained hsame,
        occurredAt_of_unchained hsame']
  · intro heq
    obtain ⟨a', hb', hcontent⟩ := build_again hb heq hr'
    have hsame' : y.Same (.attestation a') := by
      cases y with
      | binding d => cases hsame
      | attestation c =>
        have ha : unchained a = unchained a' := unchained_eq_iff.mpr (by rw [hcontent]; rfl)
        exact Eq.trans hsame ha
    rw [Repeats, call_eq, Attesting.call, offer, hb']
    exact commit_of_held hr' hy hsame'

/-- A signed attestation is found again exactly when it is attested for the same time and on a
tip with the same digest. -/
theorem signed_repeats_iff {g : List Entry} {file'' : Option Bytes} {key : SigningKeyReference}
    {state : SignedAttestationTrustState} {authorities : Dict Bytes} (hr : Represents file h)
    (hfirst : call ed25519 provider file ((Attesting.signed key state authorities).call r now) =
      (.ok y, file')) (hr' : Represents file'' g) (hy : y.HeldIn (after g)) :
    Repeats ed25519 provider file'' (.signed key state authorities) r later y ↔
      r.when now = r.when later ∧ (after h).tipDigest = (after g).tipDigest := by
  obtain ⟨x, hx, hcommit⟩ := call_eq_ok hfirst
  obtain ⟨a, b, hb, hs, rfl⟩ := offer_signed hx
  have hatt := (signedBinding_eq_ok hs).1
  obtain ⟨hsame, -⟩ := commit_returns hr (offer_writable hx) hcommit
  obtain ⟨hwhen, hprevious⟩ := build_spec hr hb
  constructor
  · intro hrepeat
    obtain ⟨x', hx', hcommit'⟩ := call_eq_ok hrepeat
    obtain ⟨a', b', hb', hs', rfl⟩ := offer_signed hx'
    have hatt' := (signedBinding_eq_ok hs').1
    obtain ⟨hsame', -⟩ := commit_returns hr' (offer_writable hx') hcommit'
    obtain ⟨hwhen', hprevious'⟩ := build_spec hr' hb'
    cases y with
    | attestation c => cases hsame
    | binding d =>
      cases hsame
      cases hsame'
      rw [hwhen, hwhen', ← hprevious, ← hprevious', ← hatt, ← hatt']
      exact ⟨rfl, rfl⟩
  · rintro ⟨heq, htip⟩
    obtain ⟨a', hb', hcontent⟩ := build_again hb heq hr'
    have ha : a' = a := by
      apply ReliabilityOutcomeAttestation.toOutcome_injective
      rw [hcontent, ← htip, ← hprevious]
      rfl
    rw [Repeats, call_eq, Attesting.call, offer, hb', ok_bind, ha, hs]
    exact commit_of_held hr' hy hsame

/-- An empty store takes the first outcome. -/
private theorem first_unsigned : ∃ y file',
    call acceptAll stamp none ((Attesting.unsigned none).call firstRequest firstReview.occurredAt) =
      (.ok y, file') := by
  have hready : Attestable firstRequest none firstReview.occurredAt :=
    attestable_firstRequest _ (by simp)
  obtain ⟨a, hb, -⟩ := build_isOk represents_none hready
  have hfresh : Fresh [] a := ⟨rfl, (build_spec represents_none hb).2⟩
  have hoffer : offer acceptAll stamp none
      ((Attesting.unsigned none).call firstRequest firstReview.occurredAt) =
        .ok (.attestation a) := by
    rw [Attesting.call, offer, hb]
    rfl
  refine ⟨.attestation a, (commit none (.attestation a)).2, ?_⟩
  rw [call_eq, hoffer]
  change commit none (.attestation a) = _
  rw [commit, append_of_fresh represents_none hfresh]
  rfl

/-- An empty store takes the first outcome signed, and its tip moves. -/
theorem first_signed {state : SignedAttestationTrustState} {authorities : Dict Bytes}
    {anchor : AttestationTrustAnchor}
    (hs : Signable acceptAll stamp rootReference state authorities anchor) : ∃ b file' h,
    call acceptAll stamp none ((Attesting.signed rootReference state authorities).call
        firstRequest firstReview.occurredAt) = (.ok (.binding b), file') ∧
      Represents file' h ∧ b ∈ (after h).bindings ∧ (after h).tipDigest ≠ [] := by
  obtain ⟨a, b, hb, hsigned, hunbound, -⟩ := exists_unbound hs
  have hoffer : offer acceptAll stamp none
      ((Attesting.signed rootReference state authorities).call firstRequest
        firstReview.occurredAt) = .ok (.binding b) := by
    rw [Attesting.call, offer, hb, ok_bind, hsigned]
    rfl
  have hcommit : commit none (.binding b) =
      (.ok (.binding b), appendBytes none (some (LineLog.encode Entry.line (added [] b)))) := by
    rw [commit, appendSigned_of_unbound represents_none hunbound]
    rfl
  obtain ⟨-, g, hg, hheld⟩ := commit_returns represents_none (offer_writable hoffer) hcommit
  refine ⟨b, _, g, by rw [call_eq, hoffer]; exact hcommit, hg, hheld, ?_⟩
  have hrecorded := List.mem_of_find?_eq_some (recorded?_of_bound hg.stored hheld)
  rw [Snapshot.tipDigest]
  cases hlast : (after g).records.getLast? with
  | none =>
    have hempty : (after g).records = [] := List.getLast?_eq_none_iff.mp hlast
    rw [List.nil_append, hempty] at hrecorded
    cases hrecorded
  | some c => exact c.digest_ne_nil

end StateWake.Attestation
