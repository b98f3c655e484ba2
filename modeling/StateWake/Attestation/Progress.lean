import StateWake.Attestation.Building
import StateWake.Reliability.Interleaved
import StateWake.Trust.TrustHistory

/-!
# When an attestation succeeds

A request that binds a verified chain to an encodable transition is attested on every readable
store; with a signer whose key an authenticated state lists as active, it is signed and bound as
well.
-/

namespace StateWake.Attestation

open StateWake.Base Text Utils RegisterHistory Reliability Trust Store
open TrustHistory (rootKey founding acceptAll oneAuthority digest_founding verify_acceptAll)

/-- What a request needs to be attested under a signing key. -/
structure Attestable (r : Request) (signingKeyId : Option Text) (now : Datetime) : Prop where
  identified : r.transition.evidenceChainId = r.chain.chainId
  digested : r.chain.digest = .ok r.transition.evidenceChainDigest
  encodable : ∃ digest, r.transition.computedDigest = .ok digest
  timely : ∃ occurredAt, r.when now = .ok occurredAt
  acted : blank r.actor = false ∧ SurrogateFree r.actor
  verified : r.chain.verificationStatus = .verified
  reconciled : r.chain.reconciliationState = .verified ∨ r.chain.reconciliationState = .recovered
  recovers : r.transition.toState = .recovered → r.chain.reconciliationState = .recovered
  rationale : ∀ t ∈ r.chain.decisionRationale, SurrogateFree t
  keyed : ∀ k ∈ signingKeyId, SurrogateFree k

/-- A transition calls for the decision it carries. -/
theorem expectedDecision_of_transition (t : ReliabilityStateTransition) :
    expectedDecision t.toState = some t.decision := by
  have hallowed := t.allowed
  have haccepts := t.accepts
  have hreviews := t.reviews
  have hrejects := t.rejects
  cases hstate : t.toState with
  | unknown =>
    rw [hstate] at hallowed
    cases hfrom : t.fromState <;> rw [hfrom] at hallowed <;>
      simp [ReliabilityState.allowedTransitions] at hallowed
  | reliable => rw [haccepts (.inl hstate)]; rfl
  | recovered => rw [haccepts (.inr hstate)]; rfl
  | degraded => rw [hreviews hstate]; rfl
  | unreliable => rw [hrejects hstate]; rfl

variable {ed25519 : Bytes → Bytes → Bytes → Bool}
  {provider : SigningKeyReference → Bytes → Except PyError Bytes} {file : Option Bytes}
  {h : List Entry} {a : ReliabilityOutcomeAttestation} {r : Request} {signingKeyId : Option Text}
  {now : Datetime}

/-- An identifier of ASCII texts can be hashed. -/
theorem stableId_isOk {transitionDigest : Text} (occurredAt : Text)
    (ha : Attestable r signingKeyId now) (hd : r.transition.computedDigest = .ok transitionDigest) :
    ∃ id, stableId r.transition.subjectId r.chain r.transition occurredAt = .ok id := by
  rw [stableId, ha.digested, ok_bind, hd, ok_bind,
    Utf8.toBytes_of_isAscii (Json.isAscii_dumps rfl (by simp [Dict.Distinct])), ok_bind]
  exact ⟨_, rfl⟩

private theorem isSha256_of_stableId {subjectId occurredAt id : Text}
    {chain : ReliabilityEvidenceChain} {transition : ReliabilityStateTransition}
    (h : stableId subjectId chain transition occurredAt = .ok id) : isSha256 id = true := by
  simp only [stableId, bind_eq_ok] at h
  obtain ⟨_, -, _, -, content, -, hid⟩ := h
  rw [← Except.ok.inj hid]
  exact isSha256_sha256 content

/-- An attestable request has an outline, which the constructor accepts on every tip. -/
theorem outline_isOk (ha : Attestable r signingKeyId now) {occurredAt : Text}
    (hwhen : r.when now = .ok occurredAt) :
    ∃ o, outline r signingKeyId occurredAt = .ok o ∧ o.signingKeyId = signingKeyId ∧
      ∃ a, ReliabilityOutcomeAttestation.create o [] = .ok a := by
  obtain ⟨transitionDigest, hdigest⟩ := ha.encodable
  have hnamed : blank r.transition.subjectId = false := by
    have hn := r.transition.named
    simp only [not_or, Bool.not_eq_true] at hn
    exact hn.2.1
  obtain ⟨htransition, hsubject, -, hchain, hrationale⟩ :=
    (ReliabilityStateTransition.encodable_iff_surrogateFree _).mp
      ((ReliabilityStateTransition.encodable_iff _).mpr ⟨transitionDigest, hdigest⟩)
  obtain ⟨utc, -, hutc⟩ := bind_eq_ok.mp hwhen
  cases hutc
  obtain ⟨id, hid⟩ := stableId_isOk (isoformat utc) ha hdigest
  have hidentified : isSha256 id = true := isSha256_of_stableId hid
  have hoccurred := surrogateFree_isoformat utc
  have hdigested := ReliabilityStateTransition.isSha256_of_computedDigest hdigest
  obtain ⟨o, hcontent, houtline⟩ : ∃ o : Outcome, o =
      ⟨id, r.transition.subjectId, isoformat utc, r.actor, r.chain.chainId,
        r.transition.evidenceChainDigest, r.transition.transitionId, transitionDigest,
        r.transition.toState, r.transition.decision, r.chain.verificationStatus,
        r.chain.reconciliationState,
        if r.transition.rationale = [] then r.chain.decisionRationale else r.transition.rationale,
        signingKeyId, []⟩ ∧ outline r signingKeyId (isoformat utc) = .ok o := by
    refine ⟨_, rfl, ?_⟩
    simp only [outline, ha.identified, decide_true, require_true, ok_bind, ha.digested, hnamed,
      hid, hdigest, Bool.not_false]
    rfl
  have hknown : r.transition.toState ≠ .unknown := by
    intro hu
    have hexpected := expectedDecision_of_transition r.transition
    rw [hu] at hexpected
    cases hexpected
  have hlawful : o.Lawful := by
    rw [hcontent]
    exact
      { chainDigested := r.transition.chainDigest
        transitionDigested := hdigested
        linked := .inl rfl
        named := ⟨not_blank_of_isSha256 hidentified, hnamed, ha.acted.1⟩
        known := hknown
        decided := r.transition.decided
        verified := ha.verified
        reconciled := ha.reconciled
        expected := expectedDecision_of_transition r.transition
        recovers := ha.recovers }
  have hencodable : ∃ digest, o.computedDigest = .ok digest := by
    apply (Outcome.computedDigest_isOk_iff _).mpr
    rw [hcontent]
    refine ⟨surrogateFree_nil, ?_⟩
    have hreasons : ∀ t ∈ (if r.transition.rationale = [] then r.chain.decisionRationale
        else r.transition.rationale), SurrogateFree t := by
      split
      · exact ha.rationale
      · exact hrationale
    simp only [Outcome.contents, List.forall_mem_append, List.forall_mem_cons, List.not_mem_nil,
      IsEmpty.forall_iff, implies_true, and_true, Option.mem_toList]
    exact ⟨⟨⟨surrogateFree_of_isSha256 hidentified, hsubject, hoccurred, ha.acted.2,
      ha.identified ▸ hchain, surrogateFree_of_isSha256 r.transition.chainDigest, htransition,
      surrogateFree_of_isSha256 hdigested⟩, hreasons⟩, ha.keyed⟩
  refine ⟨o, houtline, ?_, ⟨o, hlawful, hencodable⟩,
    ReliabilityOutcomeAttestation.create_self ⟨o, hlawful, hencodable⟩ (.inl rfl)⟩
  rw [hcontent]

/-- An attestable request is built on every store that can be read. -/
theorem build_isOk (hr : Represents file h) (ha : Attestable r signingKeyId now) :
    ∃ a, build r now signingKeyId file = .ok a ∧ a.signingKeyId = signingKeyId := by
  obtain ⟨occurredAt, hwhen⟩ := ha.timely
  obtain ⟨o, ho, hkey, a, hcreate⟩ := outline_isOk ha hwhen
  obtain ⟨hcontent, -⟩ := ReliabilityOutcomeAttestation.create_eq_ok hcreate
  obtain ⟨c, hc, hrelinked⟩ := create_relinked a (tipDigest_form (after h))
  rw [hcontent] at hc hrelinked
  refine ⟨c, build_eq_ok.mpr ⟨occurredAt, after h, o, hwhen, readSnapshotUnlocked_represents hr,
    ho, hc⟩, ?_⟩
  rw [hrelinked]
  exact hkey

/-! ### Signing -/

/-- What a signing key needs to sign under a trust state. -/
structure Signable (ed25519 : Bytes → Bytes → Bytes → Bool)
    (provider : SigningKeyReference → Bytes → Except PyError Bytes) (key : SigningKeyReference)
    (state : SignedAttestationTrustState) (authorities : Dict Bytes)
    (anchor : AttestationTrustAnchor) : Prop where
  verified : state.verify ed25519 authorities = .ok state
  listed : state.anchor? key.keyId = some anchor
  active : anchor.status = .active
  digested : ∀ d ∈ key.publicKeyDigest, d = sha256 anchor.publicKey
  signs : ∀ payload, ∃ signature, provider key payload = .ok signature ∧ signature ≠ [] ∧
    ed25519 anchor.publicKey payload signature = true

variable {key : SigningKeyReference} {state : SignedAttestationTrustState}
  {authorities : Dict Bytes} {anchor : AttestationTrustAnchor}

theorem Signable.status (hs : Signable ed25519 provider key state authorities anchor) :
    signingKeyStatus state key.keyId = .ok anchor := by
  rw [signingKeyStatus, hs.listed]
  exact if_pos hs.active

theorem Signable.keyId_eq (hs : Signable ed25519 provider key state authorities anchor) :
    anchor.keyId = key.keyId :=
  (SignedAttestationTrustState.anchor?_eq_some_iff.mp hs.listed).2

/-- The key dictionary of a state answers as its anchors do. -/
theorem get?_anchorKeys (state : SignedAttestationTrustState) (keyId : Text) :
    (anchorKeys state).get? keyId = (state.anchor? keyId).map AttestationTrustAnchor.publicKey := by
  rw [anchorKeys, SignedAttestationTrustState.anchor?]
  induction state.anchors with
  | nil => rfl
  | cons a anchors ih =>
    rw [List.map_cons, Dict.get?_cons, List.find?_cons]
    by_cases ha : a.keyId = keyId
    · rw [if_pos ha.symm, decide_eq_true ha]
      rfl
    · rw [if_neg (Ne.symm ha), decide_eq_false ha]
      exact ih

/-- An envelope can be made of an attestation under any key and signature. -/
theorem createEnvelope_isOk (a : ReliabilityOutcomeAttestation) (key : SigningKeyReference)
    {signature : Bytes} (hsignature : signature ≠ []) :
    ∃ e, createEnvelope a key.keyId signature = .ok e := by
  obtain ⟨content, hcontent⟩ :=
    (canonicalBytes_isOk_iff a.writable_toDict).mpr a.surrogateFree_texts
  have hnamed : blank key.keyId = false := by
    have hn := key.named
    simp only [not_or, Bool.not_eq_true] at hn
    exact hn.1
  rw [createEnvelope, strictBytes_eq a.writable_toDict, hcontent, ok_bind]
  exact SignedReliabilityOutcomeEnvelope.create_isOk hnamed hcontent
    (Base64.not_blank_encode hsignature)

/-- What an envelope of an attestation signs does not depend on the signature. -/
theorem payloadBytes_createEnvelope {keyId keyId' : Text} {signature signature' : Bytes}
    {e e' : SignedReliabilityOutcomeEnvelope} (he : createEnvelope a keyId signature = .ok e)
    (he' : createEnvelope a keyId' signature' = .ok e') : e.payloadBytes = e'.payloadBytes := by
  obtain ⟨content, hcontent, hcreate⟩ := bind_eq_ok.mp he
  obtain ⟨content', hcontent', hcreate'⟩ := bind_eq_ok.mp he'
  rw [hcontent] at hcontent'
  cases hcontent'
  obtain ⟨-, hattestation, hdigest, -⟩ := SignedReliabilityOutcomeEnvelope.create_eq_ok hcreate
  obtain ⟨-, hattestation', hdigest', -⟩ := SignedReliabilityOutcomeEnvelope.create_eq_ok hcreate'
  rw [SignedReliabilityOutcomeEnvelope.payloadBytes, hattestation, hdigest,
    SignedReliabilityOutcomeEnvelope.payloadBytes, hattestation', hdigest']

private theorem surrogateFree_payloadDigest (e : SignedReliabilityOutcomeEnvelope) :
    SurrogateFree e.payloadDigest := by
  obtain ⟨content, -, hdigest⟩ := e.digested
  rw [hdigest]
  exact surrogateFree_of_isSha256 (isSha256_sha256 content)

/-- The bytes an envelope signs exist. -/
theorem payloadBytes_isOk (e : SignedReliabilityOutcomeEnvelope)
    (hw : Json.Writable (.obj e.attestation)) : ∃ content, e.payloadBytes = .ok content := by
  have hwritable : Json.Writable (.obj [(lit "attestation", Json.obj e.attestation),
      (lit "payload_digest", Json.str e.payloadDigest)]) := by
    simpa [Dict.Distinct] using hw
  obtain ⟨content, hcontent, -⟩ := e.digested
  have htexts := (canonicalBytes_isOk_iff hw).mp ⟨content, hcontent⟩
  apply (canonicalBytes_isOk_iff hwritable).mpr
  intro t ht
  obtain ⟨m, hm, ht⟩ := Json.mem_texts_obj.mp ht
  simp only [List.mem_cons, List.not_mem_nil, or_false] at hm
  rcases hm with rfl | rfl
  · rcases ht with rfl | ht
    · exact surrogateFree_lit _
    · exact htexts t ht
  · rcases ht with rfl | ht
    · exact surrogateFree_lit _
    · rw [Json.mem_texts_str.mp ht]
      exact surrogateFree_payloadDigest e

/-- The record of an envelope whose key is encodable can be encoded. -/
theorem strictBytes_toDict_isOk (e : SignedReliabilityOutcomeEnvelope)
    (hw : Json.Writable (.obj e.attestation)) (hkey : SurrogateFree e.keyId)
    (hsignature : SurrogateFree e.signature) : ∃ content, strictBytes e.toDict = .ok content := by
  have hwritable := SignedReliabilityOutcomeEnvelope.writable_toDict hw
  obtain ⟨content, hcontent, -⟩ := e.digested
  have htexts := (canonicalBytes_isOk_iff hw).mp ⟨content, hcontent⟩
  rw [strictBytes_eq hwritable]
  apply (canonicalBytes_isOk_iff hwritable).mpr
  intro t ht
  obtain ⟨m, hm, ht⟩ := Json.mem_texts_obj.mp ht
  simp only [SignedReliabilityOutcomeEnvelope.toDict, List.mem_cons, List.not_mem_nil,
    or_false] at hm
  rcases ht with rfl | ht
  · rcases hm with rfl | rfl | rfl | rfl | rfl <;> exact surrogateFree_lit _
  · rcases hm with rfl | rfl | rfl | rfl | rfl
    · rw [Json.mem_texts_str.mp ht]
      exact surrogateFree_lit _
    · rw [Json.mem_texts_str.mp ht]
      exact hkey
    · exact htexts t ht
    · rw [Json.mem_texts_str.mp ht]
      exact surrogateFree_payloadDigest e
    · rw [Json.mem_texts_str.mp ht]
      exact hsignature

/-- An attestation under a signing key that can sign is signed. -/
theorem signedEnvelope_isOk (hs : Signable ed25519 provider key state authorities anchor)
    (hkey : a.signingKeyId = some key.keyId) :
    ∃ e signature content, signedEnvelope ed25519 provider a key state authorities = .ok e ∧
      createEnvelope a key.keyId signature = .ok e ∧ e.payloadBytes = .ok content ∧
        ed25519 anchor.publicKey content signature = true := by
  have hfiller : Utf8.ascii (lit "placeholder") ≠ [] := by decide
  obtain ⟨placeholder, hplaceholder⟩ := createEnvelope_isOk a key hfiller
  obtain ⟨content, hcontent⟩ := payloadBytes_isOk placeholder
    (writable_createEnvelope hplaceholder)
  obtain ⟨signature, hsign, hne, haccept⟩ := hs.signs content
  obtain ⟨e, he⟩ := createEnvelope_isOk a key hne
  have hsigned : sign provider key content = .ok signature := by
    rw [sign, hsign, ok_bind, List.isEmpty_eq_false_iff.mpr hne]
    rfl
  refine ⟨e, signature, content, ?_, he, ?_, haccept⟩
  · rw [signedEnvelope, decide_eq_true hkey, require_true, ok_bind, hs.verified, ok_bind,
      hs.status, ok_bind, decide_eq_true hs.digested, require_true, ok_bind, hplaceholder,
      ok_bind, hcontent, ok_bind, hsigned, ok_bind, he]
  · rw [payloadBytes_createEnvelope he hplaceholder, hcontent]

/-- An envelope with an accepted signature under a listed key verifies. -/
theorem verifyEnvelope_isOk (hs : Signable ed25519 provider key state authorities anchor)
    (hkey : a.signingKeyId = some key.keyId) {e : SignedReliabilityOutcomeEnvelope}
    {signature content : Bytes} (he : createEnvelope a key.keyId signature = .ok e)
    (hcontent : e.payloadBytes = .ok content)
    (haccept : ed25519 anchor.publicKey content signature = true) :
    verifyEnvelope ed25519 e (anchorKeys state) (some state) = .ok a := by
  obtain ⟨hkeyId, hattestation, hsignature⟩ := createEnvelope_eq_ok he
  have hpublic : (anchorKeys state).get? anchor.keyId = some anchor.publicKey := by
    rw [get?_anchorKeys, hs.keyId_eq, hs.listed]
    rfl
  have hverification : verificationKey (anchorKeys state) (some state) e.keyId =
      .ok anchor.publicKey := by
    rw [hkeyId, verificationKey, hs.status, ok_bind, decide_eq_true hpublic, require_true]
    rfl
  rw [verifyEnvelope, hverification, ok_bind, hsignature, Base64.decode_encode, orRaise_some,
    ok_bind, hcontent, ok_bind, haccept, require_true, ok_bind, fromDict_createEnvelope he,
    ok_bind, hkeyId, decide_eq_true hkey]
  rfl

private theorem artifactIds_nodup (x y z : Text) :
    [lit "attestation-envelope:" ++ x, lit "attestation-trust-state:" ++ y,
      lit "attestation-authority:" ++ z].Nodup := by
  have hdiffers : ∀ {p q x y : Text}, p.take 14 ≠ q.take 14 → 14 ≤ p.length → 14 ≤ q.length →
      p ++ x ≠ q ++ y := by
    intro p q x y hne hp hq heq
    apply hne
    rw [← List.take_append_of_le_length hp, heq, List.take_append_of_le_length hq]
  rw [List.nodup_cons, List.nodup_cons]
  refine ⟨?_, ?_, List.nodup_singleton _⟩
  · simp only [List.mem_cons, List.not_mem_nil, or_false, not_or]
    exact ⟨hdiffers (by decide) (by decide) (by decide), hdiffers (by decide) (by decide) (by decide)⟩
  · rw [List.mem_singleton]
    exact hdiffers (by decide) (by decide) (by decide)

/-- A context whose identifiers can be encoded has a digest. -/
theorem digest_isOk_of_texts {c : ReliabilityAttestationTrustContext}
    (hnames : ∀ f ∈ c.names, SurrogateFree f.2) : ∃ d, c.digest = .ok d := by
  have hdigests : ∀ f ∈ c.digests, SurrogateFree f.2 := fun f hf ↦
    surrogateFree_of_isSha256 (c.lawful.digested f hf)
  simp only [TrustContextFields.names, TrustContextFields.digests, List.forall_mem_cons,
    List.not_mem_nil, IsEmpty.forall_iff, implies_true, and_true] at hnames hdigests
  obtain ⟨henvelope, hattestation, hsigning, hstate, hstore, hauthority⟩ := hnames
  obtain ⟨henvelope', hattestation', hsigning', hstate', hauthority'⟩ := hdigests
  obtain ⟨content, hcontent⟩ : ∃ content, canonicalBytes c.payload = .ok content := by
    apply (canonicalBytes_isOk_iff
      (ReliabilityAttestationTrustContext.writable_payload c.toTrustContextFields)).mpr
    intro t ht
    obtain ⟨m, hm, ht⟩ := Json.mem_texts_obj.mp ht
    simp only [TrustContextFields.payload, List.mem_cons, List.not_mem_nil, or_false] at hm
    rcases hm with rfl | rfl | rfl | rfl | rfl | rfl | rfl | rfl | rfl | rfl | rfl | rfl | rfl
    all_goals
      rcases ht with rfl | ht
      · exact surrogateFree_lit _
      · simp only [Json.mem_texts_str, Json.mem_texts_int] at ht <;>
          (rw [ht]; first | assumption | exact surrogateFree_lit _)
  exact ⟨sha256 content, by rw [ReliabilityAttestationTrustContext.digest, hcontent]; rfl⟩

/-- A signed attestation is given a trust context under the state it was signed under. -/
theorem buildTrustContext_isOk (hs : Signable ed25519 provider key state authorities anchor)
    (hkey : a.signingKeyId = some key.keyId) {e : SignedReliabilityOutcomeEnvelope}
    {signature content : Bytes} (he : createEnvelope a key.keyId signature = .ok e)
    (hcontent : e.payloadBytes = .ok content)
    (haccept : ed25519 anchor.publicKey content signature = true) :
    ∃ context record, buildTrustContext ed25519 e state authorities = .ok context ∧
      strictBytes e.toDict = .ok record ∧ context.envelopeDigest = sha256 record ∧
        context.attestationId = a.attestationId ∧ context.attestationDigest = a.digest ∧
          context.signingKeyId = e.keyId ∧ ∃ d, context.digest = .ok d := by
  obtain ⟨hkeyId, -, hsignature⟩ := createEnvelope_eq_ok he
  obtain ⟨-, hauthority, htexts⟩ := SignedAttestationTrustState.verify_eq_ok hs.verified
  obtain ⟨authorityKey, hauthorityKey⟩ := Option.isSome_iff_exists.mp hauthority
  have hpayload : ∀ t ∈ Json.texts (.obj state.payload), SurrogateFree t := by
    intro t ht
    obtain ⟨m, hm, ht⟩ := Json.mem_texts_obj.mp ht
    exact htexts t (Json.mem_texts_obj.mpr ⟨m, List.mem_append_left _ hm, ht⟩)
  obtain ⟨stateDigest, hstateDigest⟩ := state.digest_isOk_iff.mpr hpayload
  obtain ⟨stateContent, -, hstate⟩ := bind_eq_ok.mp hstateDigest
  have hstateForm : isSha256 stateDigest = true := by
    rw [← Except.ok.inj hstate]
    exact isSha256_sha256 stateContent
  have hcontents := ((Outcome.computedDigest_isOk_iff _).mp a.encodable).2
  have hfree : SurrogateFree e.keyId := by
    apply hcontents
    rw [hkeyId, Outcome.contents, hkey]
    simp
  have hid : SurrogateFree a.attestationId := hcontents _ (by simp [Outcome.contents])
  have hauthorityFree : SurrogateFree state.authorityKeyId :=
    hpayload _ (Json.mem_texts_obj.mpr ⟨(lit "authority_key_id", .str state.authorityKeyId),
      by simp [SignedAttestationTrustState.payload], .inr (Json.mem_texts_str.mpr rfl)⟩)
  obtain ⟨record, hrecord⟩ := strictBytes_toDict_isOk e (writable_createEnvelope he) hfree
    (by rw [hsignature]; exact (Base64.isAscii_encode _).surrogateFree)
  have hlawful : TrustContextFields.Lawful
      ⟨lit "attestation-envelope:" ++ a.attestationId, sha256 record, a.attestationId, a.digest,
        e.keyId, sha256 anchor.publicKey,
        lit "attestation-trust-state:" ++ Json.intText state.version ++ lit ":" ++ stateDigest,
        stateDigest, state.version, lit "attestation-authority:" ++ state.authorityKeyId,
        state.authorityKeyId, sha256 authorityKey⟩ :=
    { named := by
        simp only [TrustContextFields.names, List.forall_mem_cons, List.not_mem_nil,
          IsEmpty.forall_iff, implies_true, and_true]
        exact ⟨not_blank_append (by decide) _, a.lawful.named.1, e.named,
          not_blank_append (not_blank_append (not_blank_append (by decide) _) _) _,
          not_blank_append (by decide) _, state.authorityNamed⟩
      digested := by
        simp only [TrustContextFields.digests, List.forall_mem_cons, List.not_mem_nil,
          IsEmpty.forall_iff, implies_true, and_true]
        exact ⟨isSha256_sha256 _, a.isSha256_digest, isSha256_sha256 _, hstateForm,
          isSha256_sha256 _⟩
      versioned := state.versionPositive
      unique := by
        rw [TrustContextFields.artifactIds, List.append_assoc, List.append_assoc]
        exact artifactIds_nodup _ _ _ }
  have hstatus : signingKeyStatus state e.keyId = .ok anchor := by
    rw [hkeyId]
    exact hs.status
  have hcreate := ReliabilityAttestationTrustContext.create_of_lawful hlawful
  refine ⟨⟨_, hlawful⟩, record, ?_, hrecord, rfl, rfl, rfl, rfl, digest_isOk_of_texts ?_⟩
  rotate_left
  · simp only [TrustContextFields.names, List.forall_mem_cons, List.not_mem_nil,
      IsEmpty.forall_iff, implies_true, and_true]
    exact ⟨surrogateFree_append (surrogateFree_lit _) hid, hid, hfree,
      surrogateFree_append (surrogateFree_append (surrogateFree_append (surrogateFree_lit _)
        (Json.surrogateFree_intText _)) (surrogateFree_lit _)) (surrogateFree_of_isSha256 hstateForm),
      surrogateFree_append (surrogateFree_lit _) hauthorityFree, hauthorityFree⟩
  rw [buildTrustContext, hs.verified, ok_bind, verifyEnvelope_isOk hs hkey he hcontent haccept,
    ok_bind, hstatus, ok_bind, hauthorityKey, orRaise_some, ok_bind, hstateDigest, ok_bind,
    hrecord, ok_bind]
  exact hcreate

/-- An attestation under a signing key that can sign is signed and bound. -/
theorem signedBinding_isOk (hs : Signable ed25519 provider key state authorities anchor)
    (hkey : a.signingKeyId = some key.keyId) :
    ∃ b, signedBinding ed25519 provider a key state authorities = .ok b ∧ b.attestation = a ∧
      ∃ record, b.toRecordDict = .ok record := by
  obtain ⟨e, signature, content, hsigned, he, hcontent, haccept⟩ := signedEnvelope_isOk hs hkey
  obtain ⟨context, record, hcontext, hrecord, hdigest, hid, hattested, hsigning, d, hd⟩ :=
    buildTrustContext_isOk hs hkey he hcontent haccept
  have hkeyId := (createEnvelope_eq_ok he).1
  have hcreate : SignedReliabilityOutcomeBinding.create e context = .ok
      ⟨e, context, a, fromDict_createEnvelope he, by rw [hkey, hkeyId], hid, hattested, hsigning,
        record, hrecord, hdigest⟩ :=
    SignedReliabilityOutcomeBinding.create_self ⟨e, context, a, fromDict_createEnvelope he,
      by rw [hkey, hkeyId], hid, hattested, hsigning, record, hrecord, hdigest⟩
  have hbinding : signedBinding ed25519 provider a key state authorities = .ok
      ⟨e, context, a, fromDict_createEnvelope he, by rw [hkey, hkeyId], hid, hattested, hsigning,
        record, hrecord, hdigest⟩ := by
    rw [signedBinding, hsigned, ok_bind, bindEnvelope, hcontext, ok_bind, hcreate]
  refine ⟨_, hbinding, rfl, ?_⟩
  rw [SignedReliabilityOutcomeBinding.toRecordDict, ReliabilityAttestationTrustContext.toDict, hd]
  exact ⟨_, rfl⟩

/-! ### A first outcome -/

/-- The digest of a chain that has one. -/
theorem digest_of_toBool {chain : ReliabilityEvidenceChain} (h : chain.digest.toBool = true) :
    chain.digest = .ok (chain.digest.toOption.getD []) := by
  cases hd : chain.digest with
  | error e =>
    rw [hd] at h
    cases h
  | ok d => rfl

/-- The digest of the chain under review. -/
def reviewDigest : Text := (Service.reviewChain []).digest.toOption.getD []

theorem digest_reviewChain : (Service.reviewChain []).digest = .ok reviewDigest :=
  digest_of_toBool (by decide +kernel)

theorem named_firstReview :
    ¬(blank (lit "t") = true ∨ blank (lit "s") = true ∨ blank (lit "a") = true) := by
  decide

private theorem review_allowed :
    ReliabilityState.degraded ∈ ReliabilityState.unknown.allowedTransitions := by
  decide

private theorem review_decided : Decision.review ≠ .undecided := nofun

private theorem review_accepts : ReliabilityState.degraded = .reliable ∨
    ReliabilityState.degraded = .recovered → Decision.review = .accept := by
  decide

private theorem review_reviews :
    ReliabilityState.degraded = .degraded → Decision.review = .review := fun _ ↦ rfl

private theorem review_rejects :
    ReliabilityState.degraded = .unreliable → Decision.review = .reject := nofun

/-- The first transition of a subject, to the state its chain under review records. -/
def firstReview : ReliabilityStateTransition where
  transitionId := lit "t"
  subjectId := lit "s"
  fromState := .unknown
  toState := .degraded
  occurredAt := .of (.of 1 1 1) 0
  actor := lit "a"
  evidenceChainId := lit "c"
  evidenceChainDigest := reviewDigest
  decision := .review
  rationale := []
  previousTransitionDigest := []
  named := named_firstReview
  allowed := review_allowed
  chainNamed := .refl false
  chainDigest := ReliabilityEvidenceChain.isSha256_of_digest digest_reviewChain
  previousDigest := ReliabilityStateTransition.unpreceded
  decided := review_decided
  accepts := review_accepts
  reviews := review_reviews
  rejects := review_rejects

/-- A request that attests it at a given time. -/
def firstRequest : Request where
  chain := Service.reviewChain []
  transition := firstReview
  actor := lit "a"
  occurredAt := some (.ofUtc firstReview.occurredAt)

theorem attestable_firstRequest {signingKeyId : Option Text} (now : Datetime)
    (hkey : ∀ k ∈ signingKeyId, SurrogateFree k) : Attestable firstRequest signingKeyId now where
  identified := rfl
  digested := digest_reviewChain
  encodable := (ReliabilityStateTransition.encodable_iff _).mp
    ((ReliabilityStateTransition.encodable_iff_surrogateFree _).mpr ⟨surrogateFree_lit _,
      surrogateFree_lit _, surrogateFree_lit _, surrogateFree_lit _, nofun⟩)
  timely := by
    refine ⟨isoformat firstReview.occurredAt, ?_⟩
    rw [Request.when, firstRequest, Option.getD_some, AwareDatetime.toUtc_ofUtc]
    rfl
  acted := ⟨by decide, surrogateFree_lit _⟩
  verified := rfl
  reconciled := .inl rfl
  recovers := nofun
  rationale := nofun
  keyed := hkey

/-- A signer that gives every payload the same signature. -/
def stamp : SigningKeyReference → Bytes → Except PyError Bytes := fun _ _ ↦ .ok [115, 105, 103]

/-- The reference to the key the founding state lists. -/
def rootReference : SigningKeyReference :=
  ⟨lit "key-1", lit "stamp", none, none, by decide, isSha256_of_mem_none⟩

theorem signable_rootReference :
    Signable acceptAll stamp rootReference founding oneAuthority rootKey where
  verified := verify_acceptAll digest_founding rfl rfl
  listed := rfl
  active := rfl
  digested := nofun
  signs _ := ⟨_, rfl, List.cons_ne_nil _ _, rfl⟩

/-- The first outcome can be signed and bound in an empty store. -/
theorem exists_unbound (hs : Signable acceptAll stamp rootReference state authorities anchor) :
    ∃ a b, build firstRequest firstReview.occurredAt (some rootReference.keyId) none = .ok a ∧
      signedBinding acceptAll stamp a rootReference state authorities = .ok b ∧
        Unbound [] b ∧ Fresh [] b.attestation := by
  have hready : Attestable firstRequest (some rootReference.keyId) firstReview.occurredAt :=
    attestable_firstRequest _ (by simp [rootReference])
  obtain ⟨a, hb, hkey⟩ := build_isOk represents_none hready
  obtain ⟨b, hsigned, hatt, hwritten⟩ := signedBinding_isOk hs hkey
  have hfresh : Fresh [] b.attestation := ⟨rfl, by
    rw [hatt]
    exact (build_spec represents_none hb).2⟩
  exact ⟨a, b, hb, hsigned, ⟨(signedBinding_eq_ok hsigned).2, hwritten, .inr hfresh, rfl⟩, hfresh⟩

end StateWake.Attestation
