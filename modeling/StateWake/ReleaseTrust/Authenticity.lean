import Mathlib.Data.List.Infix
import StateWake.ReleaseTrust.Bundle

/-!
# Release authenticity

`release_trust/content_verification.py` and `release_trust/authenticity.py`. The files a bundle
names are read below a root; then a detached signature over the bundle is checked against the keys
the caller trusts.
-/

namespace StateWake.ReleaseTrust

open StateWake.Base Text Utils

/-! ### The evidence root -/

/-- What stands at a path. -/
inductive Entry where
  | file (content : Bytes)
  | directory (members : List (Text × Entry))
  | symlink (target : Text)

namespace Entry

/-- The entries of a directory. -/
def members : Entry → Dict Entry
  | .directory entries => entries
  | .file _ | .symlink _ => []

/-- What stands below an entry, without following a symbolic link. -/
def at? : Entry → List Text → Option Entry
  | e, [] => some e
  | e, name :: rest => do
    let inner ← e.members.get? name
    inner.at? rest

/-- `is_symlink`. -/
def isSymlink : Entry → Bool
  | .symlink _ => true
  | .file _ | .directory _ => false

/-- A path below the root meets a symbolic link. -/
def meetsSymlink (root : Entry) (parts : List Text) : Bool :=
  parts.inits.any fun path ↦ !path.isEmpty && (root.at? path).any isSymlink

/-- The content of a regular file. -/
def content? : Entry → Option Bytes
  | .file content => some content
  | .directory _ | .symlink _ => none

end Entry

/-- The slash. -/
def pathSlash : CodePoint := ofChar '/'

/-- `PurePosixPath(relative).parts`, of a relative path. -/
def posixParts (relative : Text) : List Text :=
  (relative.splitOn pathSlash).filter fun part ↦ part ≠ [] ∧ part ≠ lit "."

/-- A path that the verifier follows, `release_trust/content_verification.py:56–64`. -/
def safeRelative (relative : Text) : Bool :=
  relative.head? ≠ some pathSlash && !(posixParts relative).isEmpty &&
    !(posixParts relative).any (fun part ↦ part ∈ [[], lit ".", lit ".."]) &&
    !decide (lit "\\\\" <:+: relative)

/-! ### The content of a release -/

/-- `ReleaseContentVerification`. -/
structure ReleaseContentVerification where
  bundleDigest : Text
  matched : List Text
  missing : List Text
  mismatched : List Text
  limitations : List Text

/-- `content_complete`. -/
def ReleaseContentVerification.contentComplete (v : ReleaseContentVerification) : Bool :=
  v.missing.isEmpty && v.mismatched.isEmpty

/-- What the verifier says of a referenced file. -/
inductive FileClass where
  | matched
  | missing
  | mismatched
  deriving DecidableEq, Repr

/-- A file that a bundle refers to. -/
structure FileReference where
  name : Text
  relative : Option Text
  digest : Text
  size : Option Int

/-- `check`, `release_trust/content_verification.py:48–79`. -/
def FileReference.check (root : Entry) (r : FileReference) : FileClass :=
  match r.relative with
  | none => .missing
  | some relative =>
    if relative.isEmpty then .missing
    else if !safeRelative relative then .mismatched
    else if root.meetsSymlink (posixParts relative) then .mismatched
    else match (root.at? (posixParts relative)).bind Entry.content? with
      | none => .missing
      | some data =>
        if sha256 data ≠ r.digest ∨ r.size.any fun size ↦ (data.length : Int) ≠ size then
          .mismatched
        else .matched

/-- The reference of an artifact. -/
def ArtifactDigest.fileReference (a : ArtifactDigest) : FileReference :=
  ⟨lit "artifact:" ++ a.name, some a.name, a.sha256, some a.sizeBytes⟩

/-- `f"{evidence_type}:{name}"`. -/
def ExternalEvidence.referenceName (e : ExternalEvidence) : Text :=
  e.evidenceType ++ lit ":" ++ e.name

/-- The reference of an evidence item. -/
def ExternalEvidence.fileReference (e : ExternalEvidence) : FileReference :=
  ⟨e.referenceName, e.reference, e.digest, none⟩

/-- The files that a bundle refers to, in the order they are checked. -/
def ReleaseTrustBundle.fileReferences (b : ReleaseTrustBundle) : List FileReference :=
  b.artifacts.map ArtifactDigest.fileReference ++
    (b.evidence.filter fun e ↦ e.status ≠ .limitation).map ExternalEvidence.fileReference

/-- `verify_release_trust_files`, `release_trust/content_verification.py:32–121`. -/
def verifyReleaseTrustFiles (bundle : ReleaseTrustBundle) (root : Entry) :
    Except PyError ReleaseContentVerification := do
  let names := fun c ↦
    (bundle.fileReferences.filter fun r ↦ r.check root = c).map FileReference.name
  let limitations := bundle.limitations ++
    (bundle.evidence.filter fun e ↦ e.status = .limitation).map (fun e ↦
      e.evidenceType ++ lit ": " ++ e.limitation.getD (lit "None")) ++
    [lit "External evidence status was asserted by its producer, not independently replayed.",
      lit "Signature authenticity and trust anchor were not verified by this digest check."]
  let digest ← bundle.digest
  pure ⟨digest, names .matched, names .missing, names .mismatched, limitations⟩

/-! ### The signature -/

/-- `release_signature_payload`, `release_trust/authenticity.py:36–52`. -/
def releaseSignaturePayload (bundle : ReleaseTrustBundle) : Except PyError Bytes :=
  canonicalBytes [(lit "domain", .str (lit "statewake-release-signature-v1")),
    (lit "bundle", .obj (bundle.payloadWith .null))]

/-- The value of a hexadecimal digit. -/
def hexValue (c : CodePoint) : Option Nat :=
  if 48 ≤ c.val ∧ c.val ≤ 57 then some (c.val - 48)
  else if 97 ≤ c.val ∧ c.val ≤ 102 then some (c.val - 87)
  else if 65 ≤ c.val ∧ c.val ≤ 70 then some (c.val - 55)
  else none

/-- The white space that `bytes.fromhex` skips. -/
def isHexSpace (c : CodePoint) : Bool := 9 ≤ c.val && c.val ≤ 13 || c.val == 32

/-- `bytes.fromhex`: pairs of digits, with white space between them. -/
def fromHex : Text → Option Bytes
  | [] => some []
  | c :: rest =>
    if isHexSpace c then fromHex rest
    else match rest with
      | [] => none
      | d :: rest => do
        let high ← hexValue c
        let low ← hexValue d
        let content ← fromHex rest
        pure (.ofNat (high * 16 + low) :: content)

/-- What the verifier asks of libraries: `json.loads` of bytes, whose encoding it detects, and the
answer of Ed25519 to a key, a message and a signature. -/
structure Libraries where
  loads : Bytes → Except PyError Json
  ed25519 : Bytes → Bytes → Bytes → Bool

/-- The key and the signature that a signature document states,
`release_trust/authenticity.py:82–95`. -/
def parseSignatureDocument (document : Json) : Except PyError (Text × Bytes) := do
  let invalid : PyError :=
    ⟨.valueError, lit "release signature document has invalid structure"⟩
  let members ← orRaise invalid document.asObject
  require invalid (members.keys.all (· ∈ [lit "key_id", lit "signature_hex"]) &&
    [lit "key_id", lit "signature_hex"].all (· ∈ members.keys))
  let keyId ← Json.index members (lit "key_id")
  let signatureHex ← Json.index members (lit "signature_hex")
  let keyId ← orRaise ⟨.valueError, lit "release signature key_id must be nonblank"⟩
    (keyId.asText.filter fun text ↦ !blank text)
  let signatureHex ← orRaise ⟨.valueError, lit "release signature must be 64 bytes of hex"⟩
    (signatureHex.asText.filter fun text ↦ text.length = 128)
  let signature ← orRaise ⟨.valueError, lit "release signature is not valid hex"⟩
    (fromHex signatureHex)
  pure (keyId, signature)

/-- The bytes of the signature file of a bundle. -/
def readSignatureFile (bundle : ReleaseTrustBundle) (root : Entry) : Except PyError Bytes := do
  let relative ← orRaise ⟨.valueError, lit "release signature reference is missing"⟩
    (bundle.signature.reference.filter fun relative ↦ !relative.isEmpty)
  orRaise ⟨.fileNotFoundError, []⟩ ((root.at? (posixParts relative)).bind Entry.content?)

/-- `ReleaseAuthenticityVerification`. -/
structure ReleaseAuthenticityVerification where
  bundleDigest : Text
  signerKeyId : Text
  content : ReleaseContentVerification
  signatureAuthenticated : Bool
  humanApprovalAuthenticated : Bool
  ciExecutionVerified : Bool
  scanFindingsIndependentlyVerified : Bool

/-- `verify_release_authenticity`, `release_trust/authenticity.py:55–105`. -/
def verifyReleaseAuthenticity (libraries : Libraries) (bundle : ReleaseTrustBundle) (root : Entry)
    (trustedSigners : Dict Bytes) : Except PyError ReleaseAuthenticityVerification := do
  let content ← verifyReleaseTrustFiles bundle root
  require ⟨.valueError, lit "release referenced content is not verified"⟩ content.contentComplete
  require ⟨.valueError, lit "release has no signature evidence for authentication"⟩
    (bundle.signature.status = .present)
  require ⟨.valueError, lit "release signature reference is missing"⟩
    (bundle.signature.reference.any fun relative ↦ !relative.isEmpty)
  require ⟨.valueError, lit "release signature bytes are not content verified"⟩
    (bundle.signature.referenceName ∈ content.matched)
  let signedFile ← readSignatureFile bundle root
  require ⟨.valueError, lit "release signature file changed after content verification"⟩
    (sha256 signedFile = bundle.signature.digest)
  let document ← libraries.loads signedFile
  let (keyId, signature) ← parseSignatureDocument document
  let key ← orRaise ⟨.valueError, lit "release signer is not independently trusted"⟩
    ((trustedSigners.get? keyId).filter fun key ↦ key.length = 32)
  let message ← releaseSignaturePayload bundle
  require ⟨.valueError, lit "Ed25519 signature verification failed."⟩
    (libraries.ed25519 key message signature)
  let digest ← bundle.digest
  pure ⟨digest, keyId, content, true, false, false, false⟩

end StateWake.ReleaseTrust
