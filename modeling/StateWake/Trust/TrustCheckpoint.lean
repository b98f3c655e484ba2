import StateWake.Base.Base64
import StateWake.Base.Sha256
import StateWake.Utils.JsonSupport

/-!
# Trust checkpoints

`domain/trust_anchor.py`. A checkpoint exists only when its constructor accepted it. Its
digest covers every member but the signature; an authentic checkpoint can be written and read
back.
-/

namespace StateWake.Trust

open StateWake.Base Text Utils

/-- `raise TrustAnchorError(message)`. -/
def trustAnchorError {α : Type} (message : Text) : Except PyError α :=
  .error ⟨.trustAnchorError, message⟩

/-- `TrustCheckpoint`, `domain/trust_anchor.py:55–90`, with what its constructor checked. The
format version is `"1"`, the only one it accepts. -/
@[ext]
structure TrustCheckpoint where
  checkpointId : Text
  subjectId : Text
  issuedAt : Text
  historyTipDigest : Text
  historyRecordCount : Int
  signingKeyId : Text
  signingKeyDigest : Text
  signature : Text
  previousCheckpointDigest : Option Text
  checkpointNamed : blank checkpointId = false
  subjectNamed : blank subjectId = false
  issued : blank issuedAt = false
  keyNamed : blank signingKeyId = false
  signed : blank signature = false
  tipDigest : isSha256 historyTipDigest = true
  keyDigest : isSha256 signingKeyDigest = true
  countNonneg : 0 ≤ historyRecordCount
  previousDigest : ∀ d ∈ previousCheckpointDigest, isSha256 d = true

instance : DecidableEq TrustCheckpoint := fun _ _ ↦ decidable_of_iff' _ TrustCheckpoint.ext_iff

namespace TrustCheckpoint

/-- The constructor, `__post_init__` at `domain/trust_anchor.py:70–90`. -/
def create (formatVersion checkpointId subjectId issuedAt historyTipDigest : Text)
    (historyRecordCount : Int) (signingKeyId signingKeyDigest signature : Text)
    (previousCheckpointDigest : Option Text) : Except PyError TrustCheckpoint :=
  if formatVersion = lit "1" then
    if checkpointNamed : blank checkpointId = false then
      if subjectNamed : blank subjectId = false then
        if issued : blank issuedAt = false then
          if keyNamed : blank signingKeyId = false then
            if signed : blank signature = false then
              if tipDigest : isSha256 historyTipDigest = true then
                if keyDigest : isSha256 signingKeyDigest = true then
                  if countNonneg : 0 ≤ historyRecordCount then
                    if previousDigest : ∀ d ∈ previousCheckpointDigest, isSha256 d = true then
                      .ok ⟨checkpointId, subjectId, issuedAt, historyTipDigest,
                        historyRecordCount, signingKeyId, signingKeyDigest, signature,
                        previousCheckpointDigest, checkpointNamed, subjectNamed, issued, keyNamed,
                        signed, tipDigest, keyDigest, countNonneg, previousDigest⟩
                    else trustAnchorError (lit
                      "previous_checkpoint_digest must be lowercase SHA-256 hex.")
                  else trustAnchorError (lit "history_record_count must be >= 0.")
                else trustAnchorError (lit "signing_key_digest must be lowercase SHA-256 hex.")
              else trustAnchorError (lit "history_tip_digest must be lowercase SHA-256 hex.")
            else trustAnchorError (lit "signature must not be empty.")
          else trustAnchorError (lit "signing_key_id must not be empty.")
        else trustAnchorError (lit "issued_at must not be empty.")
      else trustAnchorError (lit "subject_id must not be empty.")
    else trustAnchorError (lit "checkpoint_id must not be empty.")
  else trustAnchorError (lit "unsupported trust-checkpoint format version.")

/-- A checkpoint passes its own constructor. -/
@[simp] theorem create_self (c : TrustCheckpoint) :
    create (lit "1") c.checkpointId c.subjectId c.issuedAt c.historyTipDigest c.historyRecordCount
      c.signingKeyId c.signingKeyDigest c.signature c.previousCheckpointDigest = .ok c := by
  rw [create, if_pos rfl, dif_pos c.checkpointNamed, dif_pos c.subjectNamed, dif_pos c.issued,
    dif_pos c.keyNamed, dif_pos c.signed, dif_pos c.tipDigest, dif_pos c.keyDigest,
    dif_pos c.countNonneg, dif_pos c.previousDigest]

/-- `payload()`, `domain/trust_anchor.py:92–104`. -/
def payload (c : TrustCheckpoint) : Dict Json :=
  [(lit "format_version", .str (lit "1")),
    (lit "checkpoint_id", .str c.checkpointId),
    (lit "subject_id", .str c.subjectId),
    (lit "issued_at", .str c.issuedAt),
    (lit "history_tip_digest", .str c.historyTipDigest),
    (lit "history_record_count", .int c.historyRecordCount),
    (lit "signing_key_id", .str c.signingKeyId),
    (lit "signing_key_digest", .str c.signingKeyDigest),
    (lit "previous_checkpoint_digest", optionJson c.previousCheckpointDigest)]

/-- `payload_bytes()`, `domain/trust_anchor.py:106–108`. -/
def payloadBytes (c : TrustCheckpoint) : Except PyError Bytes := canonicalBytes c.payload

/-- `digest()`, `domain/trust_anchor.py:110–112`. -/
def digest (c : TrustCheckpoint) : Except PyError Text := do
  let content ← c.payloadBytes
  pure (sha256 content)

/-- `to_dict()`, `domain/trust_anchor.py:114–116`. -/
def toDict (c : TrustCheckpoint) : Dict Json := c.payload ++ [(lit "signature", .str c.signature)]

/-- A member that must be a text: `require_string(payload[key], field=key)`. -/
def requiredString (members : Dict Json) (key : Text) : Except PyError Text := do
  let value ← Json.index members key
  requireString value key

/-- `from_dict`, `domain/trust_anchor.py:118–149`. -/
def fromDict (members : Dict Json) : Except PyError TrustCheckpoint := do
  let formatVersion ← requireString
    ((members.get? (lit "format_version")).getD (.str (lit "1"))) (lit "format_version")
  let checkpointId ← requiredString members (lit "checkpoint_id")
  let subjectId ← requiredString members (lit "subject_id")
  let issuedAt ← requiredString members (lit "issued_at")
  let historyTipDigest ← requiredString members (lit "history_tip_digest")
  let count ← Json.index members (lit "history_record_count")
  let historyRecordCount ← requireInt count (lit "history_record_count")
  let signingKeyId ← requiredString members (lit "signing_key_id")
  let signingKeyDigest ← requiredString members (lit "signing_key_digest")
  let signature ← requiredString members (lit "signature")
  let previousCheckpointDigest ← match members.get? (lit "previous_checkpoint_digest") with
    | none | some .null => pure none
    | some value => do
      let previous ← requireString value (lit "previous_checkpoint_digest")
      pure (some previous)
  create formatVersion checkpointId subjectId issuedAt historyTipDigest historyRecordCount
    signingKeyId signingKeyDigest signature previousCheckpointDigest

theorem writable_payload (c : TrustCheckpoint) : Json.Writable (.obj c.payload) := by
  simp [payload, Dict.Distinct]

theorem writable_toDict (c : TrustCheckpoint) : Json.Writable (.obj c.toDict) := by
  simp [toDict, payload, Dict.Distinct]

private theorem requiredString_of_readsAs {members record : Dict Json}
    (h : ReadsAs members record) (key s : Text) (hv : record.get? key = some (.str s)) :
    requiredString members key = .ok s := by
  rw [requiredString, h.index key _ hv, ok_bind, Json.sortKeys_str, requireString_str]

/-- Members that read as a written checkpoint give it back. -/
theorem fromDict_of_readsAs {members : Dict Json} {c : TrustCheckpoint}
    (h : ReadsAs members c.toDict) : fromDict members = .ok c := by
  have hstring := fun key s ↦ requiredString_of_readsAs h key s
  have hversion := h (lit "format_version") (.str (lit "1")) (by simp [toDict, payload])
  have hprevious := h (lit "previous_checkpoint_digest") (optionJson c.previousCheckpointDigest)
    (by simp [toDict, payload])
  rw [fromDict, hversion, Option.getD_some, Json.sortKeys_str, requireString_str, ok_bind,
    hstring (lit "checkpoint_id") c.checkpointId (by simp [toDict, payload]), ok_bind,
    hstring (lit "subject_id") c.subjectId (by simp [toDict, payload]), ok_bind,
    hstring (lit "issued_at") c.issuedAt (by simp [toDict, payload]), ok_bind,
    hstring (lit "history_tip_digest") c.historyTipDigest (by simp [toDict, payload]), ok_bind,
    h.index (lit "history_record_count") (.int c.historyRecordCount) (by simp [toDict, payload]),
    ok_bind, Json.sortKeys_int, requireInt_int, ok_bind,
    hstring (lit "signing_key_id") c.signingKeyId (by simp [toDict, payload]), ok_bind,
    hstring (lit "signing_key_digest") c.signingKeyDigest (by simp [toDict, payload]), ok_bind,
    hstring (lit "signature") c.signature (by simp [toDict, payload]), ok_bind, hprevious,
    sortKeys_optionJson]
  have hself := create_self c
  cases hp : c.previousCheckpointDigest with
  | none =>
    rw [hp] at hself
    exact hself
  | some d =>
    rw [hp] at hself
    exact hself

/-! ### Authentication -/

/-- `_b64decode`, `domain/trust_anchor.py:39–46`. -/
def b64decode (value field : Text) : Except PyError Bytes :=
  if value = [] then trustAnchorError (field ++ lit " must not be empty.")
  else orRaise ⟨.trustAnchorError, field ++ lit " contains invalid base64."⟩ (Base64.decode value)

/-- `Ed25519TrustCheckpointVerifier.verify`, `domain/trust_anchor.py:184–211`.
`ed25519 publicKey message signature` is the answer of the signature library. -/
def verify (ed25519 : Bytes → Bytes → Bytes → Bool) (publicKeys : Dict Bytes)
    (c : TrustCheckpoint) : Except PyError TrustCheckpoint := do
  let publicKey ← orRaise
    ⟨.trustAnchorError, lit "unknown trust-checkpoint signing key: " ++ c.signingKeyId⟩
    (publicKeys.get? c.signingKeyId)
  require ⟨.trustAnchorError, lit "trust-checkpoint signing key digest mismatch."⟩
    (sha256 publicKey = c.signingKeyDigest)
  let checked : Except PyError Unit := do
    let content ← c.payloadBytes
    let signature ← b64decode c.signature (lit "signature")
    require ⟨.valueError, lit "Ed25519 signature verification failed."⟩
      (ed25519 publicKey content signature)
  match checked with
  | .ok _ => .ok c
  | .error e =>
    if e.kind.isValueError then
      trustAnchorError (lit "trust-checkpoint signature verification failed.")
    else .error e

/-- What an authentic checkpoint guarantees: it is returned as it is, it has a digest, and
every text of it can be encoded. -/
theorem verify_eq_ok {ed25519 : Bytes → Bytes → Bytes → Bool} {publicKeys : Dict Bytes}
    {c d : TrustCheckpoint} (h : c.verify ed25519 publicKeys = .ok d) :
    d = c ∧ (∃ digest, c.digest = .ok digest) ∧
      ∀ u ∈ Json.texts (.obj c.toDict), SurrogateFree u := by
  rw [verify] at h
  obtain ⟨publicKey, -, h⟩ := bind_eq_ok.mp h
  obtain ⟨-, h⟩ := require_bind_eq_ok.mp h
  dsimp only at h
  split at h
  · next u hchecked =>
    obtain ⟨content, hcontent, hchecked⟩ := bind_eq_ok.mp hchecked
    obtain ⟨signature, hsignature, -⟩ := bind_eq_ok.mp hchecked
    have hpayload := (canonicalBytes_isOk_iff c.writable_payload).mp ⟨content, hcontent⟩
    refine ⟨(Except.ok.inj h).symm, ⟨sha256 content, by rw [digest, hcontent]; rfl⟩,
      fun u hu ↦ ?_⟩
    simp only [toDict, Json.mem_texts_obj, List.mem_append, List.mem_singleton] at hpayload hu
    obtain ⟨m, hm | rfl, hu⟩ := hu
    · exact hpayload u ⟨m, hm, hu⟩
    · rcases hu with rfl | hu
      · exact surrogateFree_lit _
      · rw [Json.mem_texts_str.mp hu]
        rw [b64decode] at hsignature
        split at hsignature
        · cases hsignature
        · exact (Base64.isAscii_of_decode (orRaise_eq_ok.mp hsignature)).surrogateFree
  · split at h <;> cases h

/-! ### Sequences -/

/-- `ensure_checkpoint_sequence`, `domain/trust_anchor.py:260–274`. -/
def ensureCheckpointSequence (previous : Option TrustCheckpoint) (current : TrustCheckpoint) :
    Except PyError Unit :=
  match previous with
  | none =>
    require ⟨.anchorDiscrepancyError,
      lit "first checkpoint unexpectedly references a previous checkpoint."⟩
      (current.previousCheckpointDigest = none)
  | some previous => do
    let digest ← previous.digest
    require ⟨.anchorDiscrepancyError, lit "trust checkpoint sequence is discontinuous."⟩
      (current.previousCheckpointDigest = some digest)
    require ⟨.anchorDiscrepancyError, lit "trust checkpoint sequence rolled back history."⟩
      (previous.historyRecordCount ≤ current.historyRecordCount)

/-- A checkpoint continues a predecessor, if there is one. -/
def Continues : Option TrustCheckpoint → TrustCheckpoint → Prop
  | none, current => current.previousCheckpointDigest = none
  | some previous, current =>
    (∃ digest, previous.digest = .ok digest ∧ current.previousCheckpointDigest = some digest) ∧
      previous.historyRecordCount ≤ current.historyRecordCount

@[simp] theorem ensureCheckpointSequence_eq_ok {previous : Option TrustCheckpoint}
    {current : TrustCheckpoint} :
    ensureCheckpointSequence previous current = .ok () ↔ Continues previous current := by
  cases previous with
  | none => rw [ensureCheckpointSequence, require_eq_ok, decide_eq_true_eq, Continues]
  | some previous =>
    simp only [ensureCheckpointSequence, bind_eq_ok (x := digest _), require_bind_eq_ok,
      require_eq_ok, decide_eq_true_eq, Continues]
    constructor
    · rintro ⟨digest, hdigest, hlinked, hcount⟩
      exact ⟨⟨digest, hdigest, hlinked⟩, hcount⟩
    · rintro ⟨⟨digest, hdigest, hlinked⟩, hcount⟩
      exact ⟨digest, hdigest, hlinked, hcount⟩

end TrustCheckpoint

end StateWake.Trust
