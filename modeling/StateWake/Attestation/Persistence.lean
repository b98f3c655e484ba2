import StateWake.Attestation.Idempotence

/-!
# Signed outcomes and the states they were signed under

A binding records the version and digest of the trust state it was signed under, and digests of
the keys. Verification looks that state up in a list of authenticated states, so whatever later
states do to the signing key, the binding verifies under its own; and a binding that verifies was
checked against a state with all that it records. Two states of one version and digest that
differ, as in their signatures, are refused.
-/

namespace StateWake.Attestation

open StateWake.Base Text Utils RegisterHistory Trust Store
open TrustHistory (founding acceptAll oneAuthority)

variable {ed25519 : Bytes → Bytes → Bytes → Bool}
  {provider : SigningKeyReference → Bytes → Except PyError Bytes} {file file' : Option Bytes}
  {h : List Entry} {a : ReliabilityOutcomeAttestation} {b : SignedReliabilityOutcomeBinding}
  {s : SignedAttestationTrustState} {authorities authorities' : Dict Bytes}
  {states : List SignedAttestationTrustState}

/-! ### Recording -/

/-- The trust state and authority store a call signs or records under. -/
def Call.under : Call → Option (SignedAttestationTrustState × Dict Bytes)
  | .recordSigned _ _ state authorities => some (state, authorities)
  | .attestSigned _ _ state authorities _ => some (state, authorities)
  | _ => none

/-- What a binding records of the state it was bound under. -/
structure BoundUnder (ed25519 : Bytes → Bytes → Bytes → Bool) (b : SignedReliabilityOutcomeBinding)
    (s : SignedAttestationTrustState) (authorities : Dict Bytes) : Prop where
  envelope : verifyEnvelope ed25519 b.envelope (anchorKeys s) (some s) = .ok b.attestation
  version : b.trustContext.trustStateVersion = s.version
  digest : s.digest = .ok b.trustContext.trustStateDigest
  authority : b.trustContext.authorityKeyId = s.authorityKeyId
  authorityKey : ∃ key, authorities.get? s.authorityKeyId = some key ∧
    b.trustContext.authorityKeyDigest = sha256 key
  signing : ∃ anchor, signingKeyStatus s b.trustContext.signingKeyId = .ok anchor ∧
    b.trustContext.signingKeyDigest = sha256 anchor.publicKey

theorem boundUnder_of_bindEnvelope {e : SignedReliabilityOutcomeEnvelope}
    (hb : bindEnvelope ed25519 e s authorities = .ok b) : BoundUnder ed25519 b s authorities := by
  obtain ⟨rfl, hcontext⟩ := bindEnvelope_eq_ok hb
  simp only [buildTrustContext, bind_eq_ok, orRaise_eq_ok] at hcontext
  obtain ⟨_, -, a, hverified, anchor, hanchor, key, hkey, digest, hdigest, content, -, hcreate⟩ :=
    hcontext
  have hfields := ReliabilityAttestationTrustContext.create_eq_ok hcreate
  have hembedded : a = b.attestation := by
    simp only [verifyEnvelope, bind_eq_ok] at hverified
    obtain ⟨_, -, _, -, _, -, _, -, a', ha', _, -, hpure⟩ := hverified
    rw [b.embedded] at ha'
    cases hpure
    exact (Except.ok.inj ha').symm
  constructor
  · rw [hverified, hembedded]
  · rw [hfields]
  · rw [hfields]
    exact hdigest
  · rw [hfields]
  · exact ⟨key, hkey, by rw [hfields]⟩
  · exact ⟨anchor, by rw [hfields]; exact hanchor, by rw [hfields]⟩

/-- What a signed call records is bound under its state. -/
theorem boundUnder_of_offer {c : Call} (hc : c.under = some (s, authorities))
    (hx : offer ed25519 provider file c = .ok (.binding b)) :
    BoundUnder ed25519 b s authorities := by
  cases c with
  | append | appendSigned | attest => cases hc
  | recordSigned e _ state authorities' =>
    cases hc
    cases hbind : bindEnvelope ed25519 e s authorities with
    | error error =>
      rw [offer, hbind] at hx
      cases hx
    | ok b' =>
      rw [offer, hbind] at hx
      cases hx
      exact boundUnder_of_bindEnvelope hbind
  | attestSigned r key state authorities' now =>
    cases hc
    cases hbind : (build r now (some key.keyId) file >>= fun a ↦
        signedBinding ed25519 provider a key s authorities) with
    | error error =>
      rw [offer, hbind] at hx
      cases hx
    | ok b' =>
      rw [offer, hbind] at hx
      cases hx
      obtain ⟨a, -, hsigned⟩ := bind_eq_ok.mp hbind
      obtain ⟨e, -, hbound⟩ := bind_eq_ok.mp hsigned
      exact boundUnder_of_bindEnvelope hbound

/-! ### Verifying -/

/-- A binding verifies under its own state. -/
theorem verifyTrustContext_of_boundUnder (hb : BoundUnder ed25519 b s authorities)
    (hauthority : authorities'.get? s.authorityKeyId = authorities.get? s.authorityKeyId)
    (hverified : s.verify ed25519 authorities' = .ok s) :
    verifyTrustContext ed25519 b s authorities' = .ok b.attestation := by
  obtain ⟨key, hkey, hkeyDigest⟩ := hb.authorityKey
  obtain ⟨anchor, hanchor, hanchorDigest⟩ := hb.signing
  have hkey' : authorities'.get? b.trustContext.authorityKeyId = some key := by
    rw [hb.authority, hauthority, hkey]
  simp only [verifyTrustContext, hb.version, decide_true, require_true, ok_bind, hb.digest,
    hb.authority.symm, hkey', orRaise_some, hkeyDigest, hverified, hanchor, hanchorDigest]
  exact hb.envelope

/-- A step of the search keeps the state looked for and refuses no other. -/
private theorem resolveStep_of_unique {digest : Text} (hversion : s.version =
      b.trustContext.trustStateVersion) (hdigest : s.digest = .ok b.trustContext.trustStateDigest)
    {t : SignedAttestationTrustState} (ht : t.digest = .ok digest)
    (hunique : t.version = s.version → t.digest = s.digest → t = s)
    {resolved : Option SignedAttestationTrustState} (hr : resolved = none ∨ resolved = some s) :
    ∃ resolved', resolveStep b.trustContext resolved t = .ok resolved' ∧
      (resolved' = none ∨ resolved' = some s) ∧ (t = s ∨ resolved = some s →
        resolved' = some s) := by
  rw [resolveStep, ht, ok_bind]
  split
  · next hmatch =>
    obtain ⟨hv, rfl⟩ := hmatch
    have hts : t = s := hunique (hv.trans hversion.symm) (ht.trans hdigest.symm)
    subst hts
    have hagree : ∀ earlier ∈ resolved, earlier.toDict = t.toDict := by
      intro earlier hearlier
      rcases hr with rfl | rfl
      · cases hearlier
      · cases hearlier
        rfl
    rw [decide_eq_true hagree, require_true, ok_bind]
    exact ⟨some t, rfl, .inr rfl, fun _ ↦ rfl⟩
  · next hmiss =>
    refine ⟨resolved, rfl, hr, ?_⟩
    rintro (rfl | hfound)
    · rw [hdigest] at ht
      exact absurd ⟨hversion, (Except.ok.inj ht).symm⟩ hmiss
    · exact hfound

/-- A list whose states of the recorded version and digest are all the same resolves to it. -/
theorem resolveTrustState_of_unique (hversion : s.version = b.trustContext.trustStateVersion)
    (hdigest : s.digest = .ok b.trustContext.trustStateDigest)
    (hdigests : ∀ t ∈ states, ∃ digest, t.digest = .ok digest)
    (hunique : ∀ t ∈ states, t.version = s.version → t.digest = s.digest → t = s)
    (hmem : s ∈ states) : resolveTrustState b states = .ok s := by
  have hfold : ∀ (l : List SignedAttestationTrustState)
      (resolved : Option SignedAttestationTrustState), (∀ t ∈ l, t ∈ states) →
      (resolved = none ∨ resolved = some s) → s ∈ l ∨ resolved = some s →
        l.foldlM (resolveStep b.trustContext) resolved = .ok (some s) := by
    intro l
    induction l with
    | nil =>
      intro resolved _ _ hs
      rw [hs.resolve_left (List.not_mem_nil)]
      rfl
    | cons t l ih =>
      intro resolved hl hr hs
      have ht := hl t List.mem_cons_self
      obtain ⟨digest, hd⟩ := hdigests t ht
      obtain ⟨resolved', hstep, hr', hfound⟩ := resolveStep_of_unique hversion hdigest hd
        (hunique t ht) hr
      rw [List.foldlM_cons, hstep, ok_bind]
      refine ih resolved' (fun u hu ↦ hl u (List.mem_cons_of_mem t hu)) hr' ?_
      rcases hs with hs | hs
      · rcases List.mem_cons.mp hs with hts | hs
        · exact .inr (hfound (.inl hts.symm))
        · exact .inl hs
      · exact .inr (hfound (.inr hs))
  rw [resolveTrustState, hfold states none (fun t ht ↦ ht) (.inl rfl) (.inl hmem), ok_bind]
  rfl

/-- A value with its own key is the only one with it. -/
private theorem filter_eq_singleton {α : Type} {key : α → Text} {l : List α} {x : α}
    (hn : (l.map key).Nodup) (hx : x ∈ l) : (l.filter fun y ↦ decide (key y = key x)) = [x] := by
  induction l with
  | nil => cases hx
  | cons y l ih =>
    rw [List.map_cons, List.nodup_cons] at hn
    rcases List.mem_cons.mp hx with rfl | hx
    · have hothers : (l.filter fun y ↦ decide (key y = key x)) = [] := by
        rw [List.filter_eq_nil_iff]
        intro y hy
        rw [decide_eq_true_eq]
        exact fun heq ↦ hn.1 (heq ▸ List.mem_map_of_mem hy)
      rw [List.filter_cons_of_pos (by simp), hothers]
    · have hne : key y ≠ key x := fun heq ↦ hn.1 (heq ▸ List.mem_map_of_mem hx)
      rw [List.filter_cons_of_neg (by simpa using hne), ih hn.2 hx]

/-- A binding in the store verifies in every list that resolves to its state. -/
theorem verifyPersisted_isOk (hr : Represents file h) (hheld : b ∈ (after h).bindings)
    (hb : BoundUnder ed25519 b s authorities)
    (hauthority : authorities'.get? s.authorityKeyId = authorities.get? s.authorityKeyId)
    (hverified : s.verify ed25519 authorities' = .ok s)
    (hresolved : resolveTrustState b states = .ok s) :
    verifyPersisted ed25519 b.attestation file states authorities' = .ok b := by
  have hfound := filter_eq_singleton (identified_once hr.stored).2 hheld
  rw [verifyPersisted, readSnapshotUnlocked_represents hr, ok_bind, hfound]
  dsimp only
  rw [decide_eq_true rfl, require_true, ok_bind, hresolved, ok_bind,
    verifyTrustContext_of_boundUnder hb hauthority hverified, ok_bind, decide_eq_true rfl,
    require_true, ok_bind]
  rfl

/-- An authentic state has a digest. -/
private theorem digest_of_verify (hs : s.verify ed25519 authorities = .ok s) :
    ∃ digest, s.digest = .ok digest := by
  obtain ⟨-, -, htexts⟩ := SignedAttestationTrustState.verify_eq_ok hs
  apply s.digest_isOk_iff.mpr
  intro t ht
  obtain ⟨m, hm, ht⟩ := Json.mem_texts_obj.mp ht
  exact htexts t (Json.mem_texts_obj.mpr ⟨m, List.mem_append_left _ hm, ht⟩)

/-- What an authentic state was signed with. -/
private theorem signed_of_verify {t : SignedAttestationTrustState}
    (hs : s.verify ed25519 authorities = .ok t) :
    ∃ key content signature, authorities.get? s.authorityKeyId = some key ∧
      s.payloadBytes = .ok content ∧ b64decode s.signature = .ok signature ∧
        ed25519 key content signature = true := by
  rw [SignedAttestationTrustState.verify] at hs
  obtain ⟨key, hkey, hs⟩ := bind_eq_ok.mp hs
  dsimp only at hs
  split at hs
  · next u hchecked =>
    obtain ⟨content, hcontent, hchecked⟩ := bind_eq_ok.mp hchecked
    obtain ⟨signature, hsignature, haccept⟩ := bind_eq_ok.mp hchecked
    exact ⟨key, content, signature, orRaise_eq_ok.mp hkey, hcontent, hsignature,
      require_eq_ok.mp haccept⟩
  · split at hs <;> cases hs

/-! ### What a verified binding was checked against -/

/-- A state with all that a binding records: its version and digest, signed by the recorded
authority key, with the signing key active under the recorded digest. -/
structure RecordedState (ed25519 : Bytes → Bytes → Bytes → Bool)
    (b : SignedReliabilityOutcomeBinding) (authorities : Dict Bytes)
    (s : SignedAttestationTrustState) : Prop where
  version : s.version = b.trustContext.trustStateVersion
  digest : s.digest = .ok b.trustContext.trustStateDigest
  authority : s.authorityKeyId = b.trustContext.authorityKeyId
  signed : ∃ key content signature, authorities.get? s.authorityKeyId = some key ∧
    sha256 key = b.trustContext.authorityKeyDigest ∧ s.payloadBytes = .ok content ∧
      b64decode s.signature = .ok signature ∧ ed25519 key content signature = true
  active : ∃ anchor, s.anchor? b.trustContext.signingKeyId = some anchor ∧
    anchor.status = .active ∧ sha256 anchor.publicKey = b.trustContext.signingKeyDigest

private theorem signingKeyStatus_eq_ok {keyId : Text} {anchor : AttestationTrustAnchor}
    (h : signingKeyStatus s keyId = .ok anchor) :
    s.anchor? keyId = some anchor ∧ anchor.status = .active := by
  rw [signingKeyStatus] at h
  split at h
  · cases h
  · next anchor' hlisted =>
    split at h
    · next hactive =>
      cases h
      exact ⟨hlisted, hactive⟩
    · cases h

theorem recordedState_of_verifyTrustContext
    (h : verifyTrustContext ed25519 b s authorities = .ok a) :
    RecordedState ed25519 b authorities s := by
  simp only [verifyTrustContext, bind_eq_ok, orRaise_eq_ok, require_eq_ok,
    decide_eq_true_eq] at h
  obtain ⟨-, hversion, digest, hdigest, -, hrecorded, -, hauthority, key, hkey, -, hkeyDigest, t,
    hverified, anchor, hanchor, -, hanchorDigest, -⟩ := h
  obtain ⟨key', content, signature, hkey', hcontent, hsignature, haccept⟩ :=
    signed_of_verify hverified
  obtain ⟨hlisted, hactive⟩ := signingKeyStatus_eq_ok hanchor
  rw [← hauthority, hkey'] at hkey
  cases hkey
  exact
    { version := hversion
      digest := hrecorded ▸ hdigest
      authority := hauthority
      signed := ⟨key, content, signature, hkey', hkeyDigest, hcontent, hsignature, haccept⟩
      active := ⟨anchor, hlisted, hactive, hanchorDigest⟩ }

private theorem mem_of_resolveStep {context : ReliabilityAttestationTrustContext}
    {l : List SignedAttestationTrustState} {resolved resolved' : Option SignedAttestationTrustState}
    (h : l.foldlM (resolveStep context) resolved = .ok resolved') :
    resolved' = resolved ∨ ∃ t ∈ l, resolved' = some t := by
  induction l generalizing resolved with
  | nil =>
    cases h
    exact .inl rfl
  | cons t l ih =>
    rw [List.foldlM_cons] at h
    obtain ⟨next, hstep, h⟩ := bind_eq_ok.mp h
    rcases ih h with rfl | ⟨u, hu, rfl⟩
    · rw [resolveStep] at hstep
      obtain ⟨digest, -, hstep⟩ := bind_eq_ok.mp hstep
      split at hstep
      · obtain ⟨-, hstep⟩ := require_bind_eq_ok.mp hstep
        cases hstep
        exact .inr ⟨t, List.mem_cons_self, rfl⟩
      · cases hstep
        exact .inl rfl
    · exact .inr ⟨u, List.mem_cons_of_mem t hu, rfl⟩

/-- The state a binding resolves to is one of the list. -/
theorem mem_of_resolveTrustState (h : resolveTrustState b states = .ok s) : s ∈ states := by
  obtain ⟨resolved, hfold, h⟩ := bind_eq_ok.mp h
  rw [orRaise_eq_ok.mp h] at hfold
  rcases mem_of_resolveStep hfold with hn | ⟨t, ht, heq⟩
  · cases hn
  · cases heq
    exact ht

/-- A verification that returns a binding resolved a state and checked the binding against it. -/
theorem verifyPersisted_eq_ok
    (h : verifyPersisted ed25519 a file states authorities = .ok b) :
    ∃ s, resolveTrustState b states = .ok s ∧
      verifyTrustContext ed25519 b s authorities = .ok a := by
  obtain ⟨snapshot, -, h⟩ := bind_eq_ok.mp h
  dsimp only at h
  split at h
  · cases h
  · next b' hfound =>
    simp only [bind_eq_ok, require_eq_ok, decide_eq_true_eq] at h
    obtain ⟨-, -, s, hs, verified, hverified, -, hsame, h⟩ := h
    cases h
    exact ⟨s, hs, hsame ▸ hverified⟩
  · cases h

/-! ### Every list, every later call -/

/-- A recorded binding verifies after any later calls. -/
theorem verifyPersisted_of_recorded (before later : List Call) {c : Call} {file'' : Option Bytes}
    (hfile : file = Calls.run (call ed25519 provider) none before)
    (hunder : c.under = some (s, authorities))
    (hcall : call ed25519 provider file c = (.ok (.binding b), file'))
    (hlater : file'' = Calls.run (call ed25519 provider) file' later)
    (hauthority : authorities'.get? s.authorityKeyId = authorities.get? s.authorityKeyId)
    (hmem : s ∈ states) (hauthentic : ∀ t ∈ states, t.verify ed25519 authorities' = .ok t)
    (hunique : ∀ t ∈ states, t.version = s.version → t.digest = s.digest → t.toDict = s.toDict) :
    verifyPersisted ed25519 b.attestation file'' states authorities' = .ok b := by
  obtain ⟨h, hr⟩ := @reachable_represents ed25519 provider before
  rw [← hfile] at hr
  obtain ⟨x, hx, hcommit⟩ := call_eq_ok hcall
  obtain ⟨hsame, g, hg, hheld⟩ := commit_returns hr (offer_writable hx) hcommit
  cases x with
  | attestation a => cases hsame
  | binding d =>
    cases hsame
    have hbound := boundUnder_of_offer hunder hx
    obtain ⟨g', hg'⟩ := @run_grows ed25519 provider _ _ hg later
    rw [← hlater] at hg'
    have hresolved := resolveTrustState_of_unique hbound.version.symm hbound.digest
      (fun t ht ↦ digest_of_verify (hauthentic t ht))
      (fun t ht hv hd ↦ SignedAttestationTrustState.toDict_injective (hunique t ht hv hd)) hmem
    exact verifyPersisted_isOk hg' (holds_append hheld g') hbound hauthority (hauthentic s hmem)
      hresolved

/-- The founding state with its signature written in two ways that decode to the same byte. -/
def resigned (last : Char) : SignedAttestationTrustState :=
  { founding with
    signature := lit "Y" ++ [ofChar last] ++ lit "=="
    signed := by
      rw [List.append_assoc]
      exact not_blank_append (by decide) _ }

private theorem verify_resigned {last : Char} (hdecode : b64decode (resigned last).signature =
    .ok [97]) : (resigned last).verify acceptAll oneAuthority = .ok (resigned last) := by
  obtain ⟨content, hcontent, -⟩ := bind_eq_ok.mp TrustHistory.digest_founding
  have hpayload : (resigned last).payloadBytes = .ok content := hcontent
  have hkey : oneAuthority.get? (resigned last).authorityKeyId =
      some (List.replicate 32 67) := rfl
  rw [SignedAttestationTrustState.verify, hkey, hpayload, hdecode]
  rfl

private theorem signable_resigned {last : Char}
    (hdecode : b64decode (resigned last).signature = .ok [97]) :
    Signable acceptAll stamp rootReference (resigned last) oneAuthority TrustHistory.rootKey where
  verified := verify_resigned hdecode
  listed := rfl
  active := rfl
  digested := nofun
  signs _ := ⟨_, rfl, List.cons_ne_nil _ _, rfl⟩

end StateWake.Attestation
