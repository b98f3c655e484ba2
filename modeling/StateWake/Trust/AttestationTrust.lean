import StateWake.Base.Base64
import StateWake.Base.Datetime
import StateWake.Base.RegisterHistory
import StateWake.Base.Sha256
import StateWake.Utils.JsonSupport

/-!
# Attestation trust states

`domain/attestation_trust.py`. An anchor and a state exist only when their constructors
accepted them. A transition between states carries every anchor that stays listed over,
lists new keys as active and lets superseded keys name active successors. Timestamps are
compared as the instants `datetime.fromisoformat` reads from them; the results hold for any
such reading, which is the parameter `fromisoformat`.
-/

namespace StateWake.Trust

open StateWake.Base Text Utils

/-- `_b64decode`, `domain/attestation_trust.py:34–41`. -/
def b64decode (value : Text) : Except PyError Bytes :=
  if value = [] then valueError (lit "base64 value must not be empty.")
  else orRaise ⟨.valueError, lit "invalid base64 value."⟩ (Base64.decode value)

theorem b64decode_encode {bytes : Bytes} (h : bytes ≠ []) :
    b64decode (Base64.encode bytes) = .ok bytes := by
  rw [b64decode, if_neg (Base64.encode_ne_nil h), Base64.decode_encode, orRaise_some]

theorem isAscii_of_b64decode {value : Text} {bytes : Bytes} (h : b64decode value = .ok bytes) :
    Utf8.IsAscii value := by
  rw [b64decode] at h
  split at h
  · cases h
  · exact Base64.isAscii_of_decode (orRaise_eq_ok.mp h)

/-- The statuses of an anchor, `domain/attestation_trust.py:58`. -/
inductive AnchorStatus where
  | active
  | revoked
  | superseded
  deriving DecidableEq, Repr

namespace AnchorStatus

/-- The name a status is stored under. -/
def text : AnchorStatus → Text
  | active => lit "active"
  | revoked => lit "revoked"
  | superseded => lit "superseded"

/-- The status a name denotes. -/
def ofText? (s : Text) : Option AnchorStatus :=
  if s = lit "active" then some active
  else if s = lit "revoked" then some revoked
  else if s = lit "superseded" then some superseded
  else none

@[simp] theorem ofText?_text (s : AnchorStatus) : ofText? s.text = some s := by
  cases s <;> simp [ofText?, text]

end AnchorStatus

/-- `AttestationTrustAnchor`, `domain/attestation_trust.py:47–70`, with what its constructor
checked. -/
@[ext]
structure AttestationTrustAnchor where
  keyId : Text
  publicKey : Bytes
  status : AnchorStatus
  supersededBy : Option Text
  named : blank keyId = false
  keyLength : publicKey.length = 32
  replaced : status = .superseded → blank (supersededBy.getD []) = false
  kept : status ≠ .superseded → supersededBy = none

instance : DecidableEq AttestationTrustAnchor := fun _ _ ↦
  decidable_of_iff' _ AttestationTrustAnchor.ext_iff

namespace AttestationTrustAnchor

/-- The constructor, `__post_init__` at `domain/attestation_trust.py:54–70`. -/
def create (keyId : Text) (publicKey : Bytes) (status : Text) (supersededBy : Option Text) :
    Except PyError AttestationTrustAnchor :=
  if named : blank keyId = false then
    match AnchorStatus.ofText? status with
    | none => valueError (lit "unsupported attestation trust-anchor status.")
    | some status =>
    if keyLength : publicKey.length = 32 then
      if replaced : status = .superseded → blank (supersededBy.getD []) = false then
        if kept : status ≠ .superseded → supersededBy = none then
          .ok ⟨keyId, publicKey, status, supersededBy, named, keyLength, replaced, kept⟩
        else valueError (lit
          "only superseded attestation trust anchors may declare superseded_by.")
      else valueError (lit
        "superseded attestation trust anchors must identify a replacement key.")
    else valueError (lit "Ed25519 public key must be 32 bytes.")
  else valueError (lit "key_id must not be empty.")

/-- An anchor passes its own constructor. -/
@[simp] theorem create_self (a : AttestationTrustAnchor) :
    create a.keyId a.publicKey a.status.text a.supersededBy = .ok a := by
  rw [create, dif_pos a.named, AnchorStatus.ofText?_text]
  dsimp only
  rw [dif_pos a.keyLength, dif_pos a.replaced, dif_pos a.kept]

/-- `to_dict()`, `domain/attestation_trust.py:72–79`. -/
def toDict (a : AttestationTrustAnchor) : Dict Json :=
  [(lit "key_id", .str a.keyId),
    (lit "public_key", .str (Base64.encode a.publicKey)),
    (lit "status", .str a.status.text),
    (lit "superseded_by", optionJson a.supersededBy)]

/-- `from_dict`, `domain/attestation_trust.py:81–91`. -/
def fromDict (members : Dict Json) : Except PyError AttestationTrustAnchor := do
  let keyId ← requiredText members (lit "key_id")
  let encoded ← requiredText members (lit "public_key")
  let publicKey ← b64decode encoded
  create keyId publicKey (((members.get? (lit "status")).map Json.pyStr).getD (lit "active"))
    (nullableText members (lit "superseded_by"))

/-- Members that read as a written anchor give it back. -/
theorem fromDict_of_readsAs {members : Dict Json} {a : AttestationTrustAnchor}
    (h : ReadsAs members a.toDict) : fromDict members = .ok a := by
  have hkey : a.publicKey ≠ [] := by
    intro hk
    have hl := a.keyLength
    rw [hk] at hl
    cases hl
  have hstatus : members.get? (lit "status") = some (.str a.status.text) :=
    h (lit "status") (.str a.status.text) (by simp [toDict])
  rw [fromDict, h.requiredText (lit "key_id") a.keyId (by simp [toDict]), ok_bind,
    h.requiredText (lit "public_key") (Base64.encode a.publicKey) (by simp [toDict]), ok_bind,
    b64decode_encode hkey, ok_bind, hstatus,
    h.nullableText (lit "superseded_by") a.supersededBy (by simp [toDict])]
  exact create_self a

theorem distinct_toDict (a : AttestationTrustAnchor) : Dict.Distinct a.toDict := by
  simp [toDict, Dict.Distinct]

theorem writable_toDict (a : AttestationTrustAnchor) : Json.Writable (.obj a.toDict) := by
  simp [toDict, Dict.Distinct]

/-- The dictionary determines the anchor. -/
theorem toDict_injective : Function.Injective toDict := fun a b hab ↦ by
  have ha := fromDict_of_readsAs (readsAs_sorted a.distinct_toDict)
  rw [hab, fromDict_of_readsAs (readsAs_sorted b.distinct_toDict)] at ha
  exact (Except.ok.inj ha).symm

end AttestationTrustAnchor

/-- `SignedAttestationTrustState`, `domain/attestation_trust.py:94–129`, with what its
constructor checked. -/
@[ext]
structure SignedAttestationTrustState where
  authorityKeyId : Text
  version : Int
  issuedAt : Text
  anchors : List AttestationTrustAnchor
  signature : Text
  previousDigest : Option Text
  authorityNamed : blank authorityKeyId = false
  versionPositive : 1 ≤ version
  issued : blank issuedAt = false
  uniqueKeys : (anchors.map AttestationTrustAnchor.keyId).Nodup
  signed : blank signature = false
  digestForm : ∀ d ∈ previousDigest, isSha256 d = true
  successorsListed : ∀ a ∈ anchors, a.status = .superseded →
    ∃ b ∈ anchors, some b.keyId = a.supersededBy

instance : DecidableEq SignedAttestationTrustState := fun _ _ ↦
  decidable_of_iff' _ SignedAttestationTrustState.ext_iff

namespace SignedAttestationTrustState

/-- The constructor, `__post_init__` at `domain/attestation_trust.py:104–129`. -/
def create (authorityKeyId : Text) (version : Int) (issuedAt : Text)
    (anchors : List AttestationTrustAnchor) (signature : Text) (previousDigest : Option Text) :
    Except PyError SignedAttestationTrustState :=
  if authorityNamed : blank authorityKeyId = false then
    if versionPositive : 1 ≤ version then
      if issued : blank issuedAt = false then
        if uniqueKeys : (anchors.map AttestationTrustAnchor.keyId).Nodup then
          if signed : blank signature = false then
            if digestForm : ∀ d ∈ previousDigest, isSha256 d = true then
              if successorsListed : ∀ a ∈ anchors, a.status = .superseded →
                  ∃ b ∈ anchors, some b.keyId = a.supersededBy then
                .ok ⟨authorityKeyId, version, issuedAt, anchors, signature, previousDigest,
                  authorityNamed, versionPositive, issued, uniqueKeys, signed, digestForm,
                  successorsListed⟩
              else valueError (lit
                "superseded attestation trust anchor references unknown replacement.")
            else valueError (lit "previous_digest must be lowercase SHA-256 hex.")
          else valueError (lit "signature must not be empty.")
        else valueError (lit "attestation trust state contains duplicate key ids.")
      else valueError (lit "issued_at must not be empty.")
    else valueError (lit "attestation trust state version must be >= 1.")
  else valueError (lit "authority_key_id must not be empty.")

/-- A state passes its own constructor. -/
@[simp] theorem create_self (s : SignedAttestationTrustState) :
    create s.authorityKeyId s.version s.issuedAt s.anchors s.signature s.previousDigest =
      .ok s := by
  rw [create, dif_pos s.authorityNamed, dif_pos s.versionPositive, dif_pos s.issued,
    dif_pos s.uniqueKeys, dif_pos s.signed, dif_pos s.digestForm, dif_pos s.successorsListed]

/-- `payload()`, `domain/attestation_trust.py:131–139`. -/
def payload (s : SignedAttestationTrustState) : Dict Json :=
  [(lit "authority_key_id", .str s.authorityKeyId),
    (lit "version", .int s.version),
    (lit "issued_at", .str s.issuedAt),
    (lit "previous_digest", optionJson s.previousDigest),
    (lit "anchors", .arr (s.anchors.map fun a ↦ .obj a.toDict))]

/-- `payload_bytes()`, `domain/attestation_trust.py:141–143`. -/
def payloadBytes (s : SignedAttestationTrustState) : Except PyError Bytes :=
  canonicalBytes s.payload

/-- `digest()`, `domain/attestation_trust.py:145–147`. -/
def digest (s : SignedAttestationTrustState) : Except PyError Text := do
  let content ← s.payloadBytes
  pure (sha256 content)

/-- `to_dict()`, `domain/attestation_trust.py:149–151`. -/
def toDict (s : SignedAttestationTrustState) : Dict Json :=
  s.payload ++ [(lit "signature", .str s.signature)]

/-- `from_dict`, `domain/attestation_trust.py:153–170`. -/
def fromDict (members : Dict Json) : Except PyError SignedAttestationTrustState := do
  let authorityKeyId ← requiredText members (lit "authority_key_id")
  let version ← Json.index members (lit "version")
  let version ← requireInt version (lit "version")
  let issuedAt ← requiredText members (lit "issued_at")
  let items ← orRaise ⟨.valueError, lit "anchors must be a JSON array."⟩
    ((members.get? (lit "anchors")).getD (.arr [])).asList
  let anchors ← items.mapM fun item ↦ do
    let anchor ← requireObject item (lit "anchors[]")
    AttestationTrustAnchor.fromDict anchor
  let signature ← requiredText members (lit "signature")
  create authorityKeyId version issuedAt anchors signature
    (nullableText members (lit "previous_digest"))

theorem writable_toDict (s : SignedAttestationTrustState) : Json.Writable (.obj s.toDict) := by
  have hanchors : ∀ a ∈ s.anchors, Json.Writable (.obj a.toDict) := fun a _ ↦ a.writable_toDict
  simpa [toDict, payload, Dict.Distinct] using hanchors

theorem writable_payload (s : SignedAttestationTrustState) : Json.Writable (.obj s.payload) := by
  have hanchors : ∀ a ∈ s.anchors, Json.Writable (.obj a.toDict) := fun a _ ↦ a.writable_toDict
  simpa [payload, Dict.Distinct] using hanchors

/-- Members that read as a written state give it back. -/
theorem fromDict_of_readsAs {members : Dict Json} {s : SignedAttestationTrustState}
    (h : ReadsAs members s.toDict) : fromDict members = .ok s := by
  have hanchors : members.get? (lit "anchors") = some (.arr (s.anchors.map fun a ↦
      .obj (ordered a.toDict))) := by
    rw [h (lit "anchors") (.arr (s.anchors.map fun a ↦ .obj a.toDict))
      (by simp [toDict, payload]), Json.sortKeys_arr, List.map_map]
    exact congrArg (fun l ↦ some (Json.arr l)) (List.map_congr_left fun a _ ↦
      sortKeys_eq_ordered a.toDict)
  have hread : (s.anchors.map fun a ↦ Json.obj (ordered a.toDict)).mapM
        (fun item ↦ do
          let anchor ← requireObject item (lit "anchors[]")
          AttestationTrustAnchor.fromDict anchor) = .ok s.anchors :=
    mapM_map_eq_ok fun a _ ↦ by
      rw [requireObject_obj, ok_bind,
        AttestationTrustAnchor.fromDict_of_readsAs (readsAs_sorted a.distinct_toDict)]
  rw [fromDict,
    h.requiredText (lit "authority_key_id") s.authorityKeyId (by simp [toDict, payload]), ok_bind,
    h.index (lit "version") (.int s.version) (by simp [toDict, payload]), ok_bind,
    Json.sortKeys_int, requireInt_int, ok_bind,
    h.requiredText (lit "issued_at") s.issuedAt (by simp [toDict, payload]), ok_bind, hanchors,
    Option.getD_some, Json.asList_arr, orRaise_some, ok_bind, hread, ok_bind,
    h.requiredText (lit "signature") s.signature (by simp [toDict, payload]), ok_bind,
    h.nullableText (lit "previous_digest") s.previousDigest (by simp [toDict, payload]),
    create_self]

/-- The dictionary determines the state. -/
theorem toDict_injective : Function.Injective toDict := fun s t hst ↦ by
  have hread : ∀ s : SignedAttestationTrustState,
      fromDict (ordered s.toDict) = .ok s := fun s ↦
    fromDict_of_readsAs (readsAs_sorted ((Json.writable_obj _).mp s.writable_toDict).1)
  have hs := hread s
  rw [hst, hread t] at hs
  exact (Except.ok.inj hs).symm

/-- A state has a digest exactly when UTF-8 can encode its payload. -/
theorem digest_isOk_iff (s : SignedAttestationTrustState) :
    (∃ d, s.digest = .ok d) ↔ ∀ t ∈ Json.texts (.obj s.payload), SurrogateFree t := by
  rw [← canonicalBytes_isOk_iff s.writable_payload]
  constructor
  · rintro ⟨d, h⟩
    obtain ⟨content, hc, -⟩ := bind_eq_ok.mp h
    exact ⟨content, hc⟩
  · rintro ⟨content, hc⟩
    exact ⟨sha256 content, by rw [digest, payloadBytes, hc, ok_bind]; rfl⟩

/-- The digest of a state that has one. -/
def digestText (s : SignedAttestationTrustState) : Text :=
  (s.payloadBytes.toOption.map sha256).getD (sha256 [])

theorem isSha256_digestText (s : SignedAttestationTrustState) : isSha256 s.digestText = true := by
  rw [digestText]
  cases s.payloadBytes.toOption with
  | none => exact isSha256_sha256 _
  | some content => exact isSha256_sha256 _

theorem digest_eq_digestText {s : SignedAttestationTrustState} (h : ∃ d, s.digest = .ok d) :
    s.digest = .ok s.digestText := by
  obtain ⟨d, h⟩ := h
  obtain ⟨content, hc, hd⟩ := bind_eq_ok.mp h
  rw [h, digestText, hc]
  exact hd.symm

/-- The state after a tip with given time and anchors, under the same authority. -/
def next (tip : SignedAttestationTrustState) (issuedAt : Text)
    (anchors : List AttestationTrustAnchor) (issued : blank issuedAt = false)
    (uniqueKeys : (anchors.map AttestationTrustAnchor.keyId).Nodup)
    (successorsListed : ∀ a ∈ anchors, a.status = .superseded →
      ∃ b ∈ anchors, some b.keyId = a.supersededBy) : SignedAttestationTrustState where
  authorityKeyId := tip.authorityKeyId
  version := tip.version + 1
  issuedAt := issuedAt
  anchors := anchors
  signature := tip.signature
  previousDigest := some tip.digestText
  authorityNamed := tip.authorityNamed
  versionPositive := by have := tip.versionPositive; omega
  issued := issued
  uniqueKeys := uniqueKeys
  signed := tip.signed
  digestForm d hd := by
    cases hd
    exact tip.isSha256_digestText
  successorsListed := successorsListed

/-- A state can be encoded when its authority, time and anchors can. -/
theorem digest_isOk_of_texts {s : SignedAttestationTrustState}
    (hauthority : SurrogateFree s.authorityKeyId) (hissued : SurrogateFree s.issuedAt)
    (hanchors : ∀ a ∈ s.anchors, SurrogateFree a.keyId ∧ ∀ k ∈ a.supersededBy, SurrogateFree k) :
    ∃ d, s.digest = .ok d := by
  have hstatus : ∀ a : AnchorStatus, SurrogateFree a.text := fun a ↦ by
    cases a <;> exact surrogateFree_lit _
  have hanchor : ∀ a ∈ s.anchors, ∀ t ∈ Json.texts (.obj a.toDict), SurrogateFree t := by
    intro a ha t ht
    simp only [AttestationTrustAnchor.toDict, Json.mem_texts_obj, List.mem_cons,
      List.not_mem_nil, or_false, exists_eq_or_imp, exists_eq_left, Json.mem_texts_str,
      mem_texts_optionJson] at ht
    rcases ht with (rfl | rfl) | (rfl | rfl) | (rfl | rfl) | rfl | ht
    · exact surrogateFree_lit _
    · exact (hanchors a ha).1
    · exact surrogateFree_lit _
    · exact (Base64.isAscii_encode _).surrogateFree
    · exact surrogateFree_lit _
    · exact hstatus _
    · exact surrogateFree_lit _
    · exact (hanchors a ha).2 t ht
  rw [digest_isOk_iff]
  intro t ht
  simp only [payload, Json.mem_texts_obj, List.mem_cons, List.not_mem_nil, or_false,
    exists_eq_or_imp, exists_eq_left, Json.mem_texts_str, Json.mem_texts_int,
    mem_texts_optionJson, Json.mem_texts_arr, List.mem_map, exists_exists_and_eq_and] at ht
  rcases ht with (rfl | rfl) | rfl | (rfl | rfl) | (rfl | ht) | rfl | ⟨a, ha, ht⟩
  · exact surrogateFree_lit _
  · exact hauthority
  · exact surrogateFree_lit _
  · exact surrogateFree_lit _
  · exact hissued
  · exact surrogateFree_lit _
  · exact surrogateFree_of_isSha256 (s.digestForm t ht)
  · exact surrogateFree_lit _
  · exact hanchor a ha t (Json.mem_texts_obj.mpr ht)

/-- The anchor a state lists under a key identifier. Key identifiers are unique, so the
dictionary `{anchor.key_id: anchor for anchor in state.anchors}` answers alike. -/
def anchor? (s : SignedAttestationTrustState) (keyId : Text) : Option AttestationTrustAnchor :=
  s.anchors.find? fun a ↦ decide (a.keyId = keyId)

theorem anchor?_eq_some_iff {s : SignedAttestationTrustState} {keyId : Text}
    {a : AttestationTrustAnchor} : s.anchor? keyId = some a ↔ a ∈ s.anchors ∧ a.keyId = keyId := by
  constructor
  · intro h
    exact ⟨List.mem_of_find?_eq_some h, by simpa [anchor?] using List.find?_some h⟩
  · rintro ⟨ha, rfl⟩
    cases h : s.anchor? a.keyId with
    | none =>
      have hn := List.find?_eq_none.mp h a ha
      simp at hn
    | some b =>
      have hb := List.mem_of_find?_eq_some h
      have hk : b.keyId = a.keyId := by simpa [anchor?] using List.find?_some h
      rw [List.inj_on_of_nodup_map s.uniqueKeys hb ha hk]

theorem anchor?_eq_none_iff {s : SignedAttestationTrustState} {keyId : Text} :
    s.anchor? keyId = none ↔ ∀ a ∈ s.anchors, a.keyId ≠ keyId := by
  simp [anchor?]

/-! ### Authentication -/

/-- `Ed25519AttestationTrustStateVerifier.verify`, `domain/attestation_trust.py:181–205`.
`ed25519 publicKey message signature` is the answer of the signature library. -/
def verify (ed25519 : Bytes → Bytes → Bytes → Bool) (authorityKeys : Dict Bytes)
    (s : SignedAttestationTrustState) : Except PyError SignedAttestationTrustState := do
  let rawKey ← orRaise ⟨.valueError,
    lit "unknown attestation trust-state authority key: " ++ s.authorityKeyId⟩
    (authorityKeys.get? s.authorityKeyId)
  let checked : Except PyError Unit := do
    let content ← s.payloadBytes
    let signature ← b64decode s.signature
    require ⟨.valueError, lit "Ed25519 signature verification failed."⟩
      (ed25519 rawKey content signature)
  match checked with
  | .ok _ => .ok s
  | .error e =>
    if e.kind.isValueError then
      valueError (lit "attestation trust-state signature verification failed.")
    else .error e

/-- What an authenticated state guarantees: it is returned as it is, its authority is known
and every text of it can be encoded. -/
theorem verify_eq_ok {ed25519 : Bytes → Bytes → Bytes → Bool} {authorityKeys : Dict Bytes}
    {s t : SignedAttestationTrustState} (h : s.verify ed25519 authorityKeys = .ok t) :
    t = s ∧ (authorityKeys.get? s.authorityKeyId).isSome = true ∧
      ∀ u ∈ Json.texts (.obj s.toDict), SurrogateFree u := by
  rw [verify] at h
  obtain ⟨rawKey, hkey, h⟩ := bind_eq_ok.mp h
  dsimp only at h
  split at h
  · next u hchecked =>
    obtain ⟨content, hcontent, hchecked⟩ := bind_eq_ok.mp hchecked
    obtain ⟨signature, hsignature, -⟩ := bind_eq_ok.mp hchecked
    have hpayload := (canonicalBytes_isOk_iff s.writable_payload).mp ⟨content, hcontent⟩
    have hascii := isAscii_of_b64decode hsignature
    refine ⟨(Except.ok.inj h).symm, by rw [orRaise_eq_ok.mp hkey]; rfl, fun u hu ↦ ?_⟩
    simp only [toDict, Json.mem_texts_obj, List.mem_append, List.mem_singleton] at hpayload hu
    obtain ⟨m, hm | rfl, hu⟩ := hu
    · exact hpayload u ⟨m, hm, hu⟩
    · rcases hu with rfl | hu
      · exact surrogateFree_lit _
      · rw [Json.mem_texts_str.mp hu]
        exact hascii.surrogateFree
  · split at h <;> cases h

end SignedAttestationTrustState

end StateWake.Trust
