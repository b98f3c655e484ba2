import StateWake.Attestation.Outcome

/-!
# Signed outcomes and their trust contexts

`SignedReliabilityOutcomeEnvelope` of `domain/reliability_attestation.py`,
`domain/reliability_attestation_trust_context.py` and `SignedReliabilityOutcomeBinding` of
`adapters/reliability_attestation.py`. The attestation inside an envelope is a dictionary; it
is kept in the order serializers write, since equality, digests and lookups do not depend on
the order.
-/

namespace StateWake.Attestation

open StateWake.Base Text Utils

/-! ### Envelopes -/

/-- `SignedReliabilityOutcomeEnvelope`, `domain/reliability_attestation.py:169–191`, with what
its constructor checked. The algorithm is always `Ed25519`. -/
@[ext]
structure SignedReliabilityOutcomeEnvelope where
  keyId : Text
  attestation : Dict Json
  payloadDigest : Text
  signature : Text
  named : blank keyId = false
  digested : ∃ content, canonicalBytes attestation = .ok content ∧ payloadDigest = sha256 content
  signed : blank signature = false
  inOrder : ordered attestation = attestation

instance : DecidableEq SignedReliabilityOutcomeEnvelope := fun _ _ ↦
  decidable_of_iff' _ SignedReliabilityOutcomeEnvelope.ext_iff

namespace SignedReliabilityOutcomeEnvelope

/-- The constructor, `__post_init__` at `domain/reliability_attestation.py:179–191`. -/
def create (algorithm keyId : Text) (attestation : Dict Json) (payloadDigest signature : Text) :
    Except PyError SignedReliabilityOutcomeEnvelope :=
  if algorithm = lit "Ed25519" then
    if named : blank keyId = false then
      match digested : canonicalBytes (ordered attestation) with
      | .error e => .error e
      | .ok content =>
        if expected : payloadDigest = sha256 content then
          if signed : blank signature = false then
            .ok ⟨keyId, ordered attestation, payloadDigest, signature, named,
              ⟨content, digested, expected⟩, signed, ordered_ordered attestation⟩
          else valueError (lit "signature must not be empty.")
        else valueError (lit
          "signed reliability outcome payload digest does not match contents.")
    else valueError (lit "key_id must not be empty.")
  else valueError (lit "unsupported signature algorithm; expected Ed25519.")

/-- `payload_bytes()`, `domain/reliability_attestation.py:193–199`. -/
def payloadBytes (e : SignedReliabilityOutcomeEnvelope) : Except PyError Bytes :=
  canonicalBytes
    [(lit "attestation", .obj e.attestation), (lit "payload_digest", .str e.payloadDigest)]

/-- `to_dict()`, `domain/reliability_attestation.py:201–209`. -/
def toDict (e : SignedReliabilityOutcomeEnvelope) : Dict Json :=
  [(lit "algorithm", .str (lit "Ed25519")),
    (lit "key_id", .str e.keyId),
    (lit "attestation", .obj e.attestation),
    (lit "payload_digest", .str e.payloadDigest),
    (lit "signature", .str e.signature)]

/-- `from_dict`, `domain/reliability_attestation.py:211–225`. -/
def fromDict (members : Dict Json) : Except PyError SignedReliabilityOutcomeEnvelope := do
  let attestation ← orRaise ⟨.valueError, lit "attestation payload must be an object."⟩
    ((members.get? (lit "attestation")).bind Json.asObject)
  let algorithm ← requiredText members (lit "algorithm")
  let keyId ← requiredText members (lit "key_id")
  let payloadDigest ← requiredText members (lit "payload_digest")
  let signature ← requiredText members (lit "signature")
  create algorithm keyId attestation payloadDigest signature

/-- The constructor keeps its arguments, the dictionary up to its order. -/
theorem create_eq_ok {algorithm keyId payloadDigest signature : Text} {attestation : Dict Json}
    {e : SignedReliabilityOutcomeEnvelope}
    (h : create algorithm keyId attestation payloadDigest signature = .ok e) :
    e.keyId = keyId ∧ e.attestation = ordered attestation ∧ e.payloadDigest = payloadDigest ∧
      e.signature = signature := by
  unfold create at h
  split at h
  · split at h
    · split at h
      · cases h
      · split at h
        · split at h
          · cases h
            exact ⟨rfl, rfl, rfl, rfl⟩
          · cases h
        · cases h
    · cases h
  · cases h

/-- An envelope can be built around every dictionary with a canonical form. -/
theorem create_isOk {keyId signature : Text} {attestation : Dict Json} {content : Bytes}
    (hkey : blank keyId = false) (hcontent : canonicalBytes attestation = .ok content)
    (hsignature : blank signature = false) :
    ∃ e, create (lit "Ed25519") keyId attestation (sha256 content) signature = .ok e := by
  rw [← canonicalBytes_ordered] at hcontent
  unfold create
  rw [if_pos rfl, dif_pos hkey]
  split
  · next e he =>
    rw [hcontent] at he
    cases he
  · next content' hcontent' =>
    rw [hcontent] at hcontent'
    cases hcontent'
    rw [dif_pos rfl, dif_pos hsignature]
    exact ⟨_, rfl⟩

/-- An envelope passes its own constructor. -/
theorem create_self (e : SignedReliabilityOutcomeEnvelope) :
    create (lit "Ed25519") e.keyId e.attestation e.payloadDigest e.signature = .ok e := by
  obtain ⟨content, hcontent, hdigest⟩ := e.digested
  obtain ⟨e', he⟩ := create_isOk e.named hcontent e.signed
  rw [← hdigest] at he
  obtain ⟨hkey, hattestation, hpayload, hsignature⟩ := create_eq_ok he
  rw [e.inOrder] at hattestation
  rw [he]
  cases e
  cases e'
  cases hkey
  cases hattestation
  cases hpayload
  cases hsignature
  rfl

/-- Members that read as a written envelope give it back. -/
theorem fromDict_of_readsAs {members : Dict Json} {e : SignedReliabilityOutcomeEnvelope}
    (h : ReadsAs members e.toDict) : fromDict members = .ok e := by
  have hattestation : members.get? (lit "attestation") = some (.obj e.attestation) := by
    rw [h (lit "attestation") (.obj e.attestation) (by simp [toDict]), sortKeys_eq_ordered,
      e.inOrder]
  rw [fromDict, hattestation, h.requiredText (lit "algorithm") (lit "Ed25519") (by simp [toDict]),
    h.requiredText (lit "key_id") e.keyId (by simp [toDict]),
    h.requiredText (lit "payload_digest") e.payloadDigest (by simp [toDict]),
    h.requiredText (lit "signature") e.signature (by simp [toDict])]
  exact e.create_self

theorem writable_toDict {e : SignedReliabilityOutcomeEnvelope}
    (h : Json.Writable (.obj e.attestation)) : Json.Writable (.obj e.toDict) := by
  simpa [toDict, Dict.Distinct] using h

end SignedReliabilityOutcomeEnvelope

/-! ### Trust contexts -/

/-- The fields of a trust context, `domain/reliability_attestation_trust_context.py:33–45`. The
format version is always `1`. -/
structure TrustContextFields where
  envelopeArtifactId : Text
  envelopeDigest : Text
  attestationId : Text
  attestationDigest : Text
  signingKeyId : Text
  signingKeyDigest : Text
  trustStateArtifactId : Text
  trustStateDigest : Text
  trustStateVersion : Int
  authorityStoreArtifactId : Text
  authorityKeyId : Text
  authorityKeyDigest : Text
  deriving DecidableEq

namespace TrustContextFields

/-- The fields that must not be blank,
`domain/reliability_attestation_trust_context.py:53–62`. -/
def names (c : TrustContextFields) : Dict Text :=
  [(lit "envelope_artifact_id", c.envelopeArtifactId),
    (lit "attestation_id", c.attestationId),
    (lit "signing_key_id", c.signingKeyId),
    (lit "trust_state_artifact_id", c.trustStateArtifactId),
    (lit "authority_store_artifact_id", c.authorityStoreArtifactId),
    (lit "authority_key_id", c.authorityKeyId)]

/-- The fields in digest form, `domain/reliability_attestation_trust_context.py:63–70`. -/
def digests (c : TrustContextFields) : Dict Text :=
  [(lit "envelope_digest", c.envelopeDigest),
    (lit "attestation_digest", c.attestationDigest),
    (lit "signing_key_digest", c.signingKeyDigest),
    (lit "trust_state_digest", c.trustStateDigest),
    (lit "authority_key_digest", c.authorityKeyDigest)]

/-- The identifiers that must differ, `domain/reliability_attestation_trust_context.py:73–77`. -/
def artifactIds (c : TrustContextFields) : List Text :=
  [c.envelopeArtifactId, c.trustStateArtifactId, c.authorityStoreArtifactId]

/-- What the constructor raises, `domain/reliability_attestation_trust_context.py:53–79`. -/
def defect? (c : TrustContextFields) : Option Text :=
  match c.names.find? fun f ↦ blank f.2 with
  | some f => some (f.1 ++ lit " must not be empty.")
  | none =>
    match c.digests.find? fun f ↦ !isSha256 f.2 with
    | some f => some (f.1 ++ lit " must be lowercase SHA-256 hex.")
    | none =>
      if c.trustStateVersion < 1 then some (lit "trust_state_version must be >= 1.")
      else if ¬c.artifactIds.Nodup then some (lit "trust-context artifact IDs must be unique.")
      else none

/-- What the constructor checks. -/
structure Lawful (c : TrustContextFields) : Prop where
  named : ∀ f ∈ c.names, blank f.2 = false
  digested : ∀ f ∈ c.digests, isSha256 f.2 = true
  versioned : 1 ≤ c.trustStateVersion
  unique : c.artifactIds.Nodup

theorem defect?_eq_none_iff {c : TrustContextFields} : c.defect? = none ↔ c.Lawful := by
  unfold defect?
  constructor
  · intro h
    split at h
    · cases h
    · next hnames =>
      split at h
      · cases h
      · next hdigests =>
        split at h
        · cases h
        · next hversion =>
          split at h
          · cases h
          · next hunique =>
            exact ⟨by simpa using List.find?_eq_none.mp hnames,
              by simpa using List.find?_eq_none.mp hdigests, not_lt.mp hversion,
              not_not.mp hunique⟩
  · intro h
    have hnames : c.names.find? (fun f ↦ blank f.2) = none :=
      List.find?_eq_none.mpr fun f hf ↦ by simp [h.named f hf]
    have hdigests : c.digests.find? (fun f ↦ !isSha256 f.2) = none :=
      List.find?_eq_none.mpr fun f hf ↦ by simp [h.digested f hf]
    rw [hnames, hdigests]
    dsimp only
    rw [if_neg (not_lt.mpr h.versioned), if_neg (not_not.mpr h.unique)]

/-- `payload()`, `domain/reliability_attestation_trust_context.py:81–97`. -/
def payload (c : TrustContextFields) : Dict Json :=
  [(lit "format_version", .str (lit "1")),
    (lit "envelope_artifact_id", .str c.envelopeArtifactId),
    (lit "envelope_digest", .str c.envelopeDigest),
    (lit "attestation_id", .str c.attestationId),
    (lit "attestation_digest", .str c.attestationDigest),
    (lit "signing_key_id", .str c.signingKeyId),
    (lit "signing_key_digest", .str c.signingKeyDigest),
    (lit "trust_state_artifact_id", .str c.trustStateArtifactId),
    (lit "trust_state_digest", .str c.trustStateDigest),
    (lit "trust_state_version", .int c.trustStateVersion),
    (lit "authority_store_artifact_id", .str c.authorityStoreArtifactId),
    (lit "authority_key_id", .str c.authorityKeyId),
    (lit "authority_key_digest", .str c.authorityKeyDigest)]

end TrustContextFields

/-- `ReliabilityAttestationTrustContext`,
`domain/reliability_attestation_trust_context.py:29–79`, with what its constructor checked. -/
structure ReliabilityAttestationTrustContext extends TrustContextFields where
  lawful : toTrustContextFields.Lawful
  deriving DecidableEq

namespace ReliabilityAttestationTrustContext

/-- The constructor, `__post_init__` at
`domain/reliability_attestation_trust_context.py:47–79`. -/
def create (formatVersion : Text) (c : TrustContextFields) :
    Except PyError ReliabilityAttestationTrustContext :=
  if formatVersion = lit "1" then
    match lawful : c.defect? with
    | some message => valueError message
    | none => .ok ⟨c, TrustContextFields.defect?_eq_none_iff.mp lawful⟩
  else valueError (lit "unsupported reliability attestation trust-context format version.")

/-- `digest`, `domain/reliability_attestation_trust_context.py:99–102`. -/
def digest (c : ReliabilityAttestationTrustContext) : Except PyError Text := do
  let content ← canonicalBytes c.payload
  pure (sha256 content)

/-- `to_dict()`, `domain/reliability_attestation_trust_context.py:104–109`. -/
def toDict (c : ReliabilityAttestationTrustContext) : Except PyError (Dict Json) := do
  let digest ← c.digest
  pure (c.payload ++ [(lit "digest", .str digest)])

/-- `from_dict`, `domain/reliability_attestation_trust_context.py:111–138`. -/
def fromDict (members : Dict Json) : Except PyError ReliabilityAttestationTrustContext := do
  let formatVersion ← requiredText members (lit "format_version")
  let envelopeArtifactId ← requiredText members (lit "envelope_artifact_id")
  let envelopeDigest ← requiredText members (lit "envelope_digest")
  let attestationId ← requiredText members (lit "attestation_id")
  let attestationDigest ← requiredText members (lit "attestation_digest")
  let signingKeyId ← requiredText members (lit "signing_key_id")
  let signingKeyDigest ← requiredText members (lit "signing_key_digest")
  let trustStateArtifactId ← requiredText members (lit "trust_state_artifact_id")
  let trustStateDigest ← requiredText members (lit "trust_state_digest")
  let version ← Json.index members (lit "trust_state_version")
  let trustStateVersion ← requireInt version (lit "trust_state_version")
  let authorityStoreArtifactId ← requiredText members (lit "authority_store_artifact_id")
  let authorityKeyId ← requiredText members (lit "authority_key_id")
  let authorityKeyDigest ← requiredText members (lit "authority_key_digest")
  let context ← create formatVersion
    ⟨envelopeArtifactId, envelopeDigest, attestationId, attestationDigest, signingKeyId,
      signingKeyDigest, trustStateArtifactId, trustStateDigest, trustStateVersion,
      authorityStoreArtifactId, authorityKeyId, authorityKeyDigest⟩
  let supplied := optionalText members (lit "digest")
  if supplied ≠ [] then do
    let digest ← context.digest
    require ⟨.valueError, lit "reliability attestation trust-context digest mismatch."⟩
      (supplied = digest)
  pure context

/-- A context passes its own constructor. -/
theorem create_self (c : ReliabilityAttestationTrustContext) :
    create (lit "1") c.toTrustContextFields = .ok c := by
  unfold create
  rw [if_pos rfl]
  split
  · next message hm =>
    rw [TrustContextFields.defect?_eq_none_iff.mpr c.lawful] at hm
    cases hm
  · rfl

/-- The constructor keeps its arguments. -/
theorem create_eq_ok {version : Text} {fields : TrustContextFields}
    {c : ReliabilityAttestationTrustContext} (h : create version fields = .ok c) :
    c.toTrustContextFields = fields := by
  unfold create at h
  split at h
  · split at h
    · cases h
    · cases h
      rfl
  · cases h

theorem create_of_lawful {fields : TrustContextFields} (h : fields.Lawful) :
    create (lit "1") fields = .ok ⟨fields, h⟩ :=
  create_self ⟨fields, h⟩

theorem writable_payload (c : TrustContextFields) : Json.Writable (.obj c.payload) := by
  simp [TrustContextFields.payload, Dict.Distinct]

theorem writable_toDict {c : ReliabilityAttestationTrustContext} {members : Dict Json}
    (h : c.toDict = .ok members) : Json.Writable (.obj members) := by
  obtain ⟨digest, -, hm⟩ := bind_eq_ok.mp h
  cases hm
  simp [TrustContextFields.payload, Dict.Distinct]

/-- Every text of a context with a digest can be encoded. -/
theorem surrogateFree_texts {c : ReliabilityAttestationTrustContext} {members : Dict Json}
    (h : c.toDict = .ok members) : ∀ t ∈ Json.texts (.obj members), SurrogateFree t := by
  obtain ⟨digest, hdigest, hm⟩ := bind_eq_ok.mp h
  cases hm
  obtain ⟨content, hcontent, hd⟩ := bind_eq_ok.mp hdigest
  cases hd
  have hpayload := (canonicalBytes_isOk_iff (writable_payload c.toTrustContextFields)).mp
    ⟨content, hcontent⟩
  intro t ht
  rw [Json.mem_texts_obj] at ht
  obtain ⟨m, hm, ht⟩ := ht
  rcases List.mem_append.mp hm with hm | hm
  · exact hpayload t (Json.mem_texts_obj.mpr ⟨m, hm, ht⟩)
  · rw [List.mem_singleton.mp hm] at ht
    rcases ht with rfl | ht
    · exact surrogateFree_lit _
    · rw [Json.mem_texts_str.mp ht]
      exact surrogateFree_of_isSha256 (isSha256_sha256 content)

/-- Members that read as a written context give it back. -/
theorem fromDict_of_readsAs {c : ReliabilityAttestationTrustContext} {members written : Dict Json}
    (hw : c.toDict = .ok written) (h : ReadsAs members written) : fromDict members = .ok c := by
  obtain ⟨digest, hdigest, hm⟩ := bind_eq_ok.mp hw
  cases hm
  have hsupplied : optionalText members (lit "digest") = digest :=
    optionalText_of_get? (h (lit "digest") (.str digest) (by simp [TrustContextFields.payload]))
  have htext : ∀ (key value : Text), Dict.get? (c.payload ++ [(lit "digest", .str digest)]) key =
      some (.str value) → requiredText members key = .ok value := h.requiredText
  rw [fromDict,
    htext (lit "format_version") (lit "1") (by simp [TrustContextFields.payload]),
    htext (lit "envelope_artifact_id") c.envelopeArtifactId (by simp [TrustContextFields.payload]),
    htext (lit "envelope_digest") c.envelopeDigest (by simp [TrustContextFields.payload]),
    htext (lit "attestation_id") c.attestationId (by simp [TrustContextFields.payload]),
    htext (lit "attestation_digest") c.attestationDigest (by simp [TrustContextFields.payload]),
    htext (lit "signing_key_id") c.signingKeyId (by simp [TrustContextFields.payload]),
    htext (lit "signing_key_digest") c.signingKeyDigest (by simp [TrustContextFields.payload]),
    htext (lit "trust_state_artifact_id") c.trustStateArtifactId
      (by simp [TrustContextFields.payload]),
    htext (lit "trust_state_digest") c.trustStateDigest (by simp [TrustContextFields.payload]),
    h.index (lit "trust_state_version") (.int c.trustStateVersion)
      (by simp [TrustContextFields.payload]),
    htext (lit "authority_store_artifact_id") c.authorityStoreArtifactId
      (by simp [TrustContextFields.payload]),
    htext (lit "authority_key_id") c.authorityKeyId (by simp [TrustContextFields.payload]),
    htext (lit "authority_key_digest") c.authorityKeyDigest (by simp [TrustContextFields.payload]),
    hsupplied]
  have hself : create (lit "1") ⟨c.envelopeArtifactId, c.envelopeDigest, c.attestationId,
      c.attestationDigest, c.signingKeyId, c.signingKeyDigest, c.trustStateArtifactId,
      c.trustStateDigest, c.trustStateVersion, c.authorityStoreArtifactId, c.authorityKeyId,
      c.authorityKeyDigest⟩ = .ok c := c.create_self
  simp only [ok_bind, Json.sortKeys_int, requireInt_int, hself, hdigest, decide_true,
    require_true]
  split <;> rfl

end ReliabilityAttestationTrustContext

/-! ### Bindings -/

/-- `SignedReliabilityOutcomeBinding`, `adapters/reliability_attestation.py:37–68`, with what its
constructor checked. The attestation is the one the envelope embeds. -/
structure SignedReliabilityOutcomeBinding where
  envelope : SignedReliabilityOutcomeEnvelope
  trustContext : ReliabilityAttestationTrustContext
  attestation : ReliabilityOutcomeAttestation
  embedded : ReliabilityOutcomeAttestation.fromDict envelope.attestation = .ok attestation
  keyed : attestation.signingKeyId = some envelope.keyId
  identified : trustContext.attestationId = attestation.attestationId
  digested : trustContext.attestationDigest = attestation.digest
  trusted : trustContext.signingKeyId = envelope.keyId
  sealed : ∃ content, strictBytes envelope.toDict = .ok content ∧
    trustContext.envelopeDigest = sha256 content
  deriving DecidableEq

namespace SignedReliabilityOutcomeBinding

/-- The constructor, `__post_init__` at `adapters/reliability_attestation.py:44–68`. -/
def create (envelope : SignedReliabilityOutcomeEnvelope)
    (context : ReliabilityAttestationTrustContext) :
    Except PyError SignedReliabilityOutcomeBinding :=
  match embedded : ReliabilityOutcomeAttestation.fromDict envelope.attestation with
  | .error e => .error e
  | .ok attestation =>
    if attestation.signingKeyId = none then
      valueError (lit "signed reliability attestation must record signing_key_id")
    else if keyed : attestation.signingKeyId = some envelope.keyId then
      if identified : context.attestationId = attestation.attestationId then
        if digested : context.attestationDigest = attestation.digest then
          if trusted : context.signingKeyId = envelope.keyId then
            match hsealed : strictBytes envelope.toDict with
            | .error e => .error e
            | .ok content =>
              if expected : context.envelopeDigest = sha256 content then
                .ok ⟨envelope, context, attestation, embedded, keyed, identified, digested,
                  trusted, content, hsealed, expected⟩
              else valueError (lit
                "signed reliability trust context envelope digest mismatch.")
          else valueError (lit "signed reliability trust context signing key mismatch")
        else valueError (lit "signed reliability trust context attestation digest mismatch")
      else valueError (lit "signed reliability trust context attestation_id mismatch")
    else valueError (lit
      "signed reliability envelope key does not match attestation signing_key_id")

/-- `to_record_dict()`, `adapters/reliability_attestation.py:75–81`. -/
def toRecordDict (b : SignedReliabilityOutcomeBinding) : Except PyError (Dict Json) := do
  let context ← b.trustContext.toDict
  pure [(lit "record_type", .str (lit "signed-reliability-outcome-binding.v1")),
    (lit "envelope", .obj b.envelope.toDict),
    (lit "trust_context", .obj context)]

/-- The constructor keeps its arguments. -/
theorem create_eq_ok {envelope : SignedReliabilityOutcomeEnvelope}
    {context : ReliabilityAttestationTrustContext} {b : SignedReliabilityOutcomeBinding}
    (h : create envelope context = .ok b) : b.envelope = envelope ∧ b.trustContext = context := by
  unfold create at h
  split at h
  · cases h
  · split at h
    · cases h
    · split at h
      · split at h
        · split at h
          · split at h
            · split at h
              · cases h
              · split at h
                · cases h
                  exact ⟨rfl, rfl⟩
                · cases h
            · cases h
          · cases h
        · cases h
      · cases h

/-- A binding passes its own constructor. -/
theorem create_self (b : SignedReliabilityOutcomeBinding) :
    create b.envelope b.trustContext = .ok b := by
  have hkey : b.attestation.signingKeyId ≠ none := by
    rw [b.keyed]
    exact Option.some_ne_none _
  obtain ⟨content, hcontent, hdigest⟩ := b.sealed
  unfold create
  split
  · next e he =>
    rw [b.embedded] at he
    cases he
  · next a ha =>
    rw [b.embedded] at ha
    cases ha
    rw [if_neg hkey, dif_pos b.keyed, dif_pos b.identified, dif_pos b.digested, dif_pos b.trusted]
    split
    · next e he =>
      rw [hcontent] at he
      cases he
    · next content' hcontent' =>
      rw [hcontent] at hcontent'
      cases hcontent'
      rw [dif_pos hdigest]

end SignedReliabilityOutcomeBinding
end StateWake.Attestation
