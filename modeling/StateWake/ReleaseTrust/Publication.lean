import StateWake.Base.Datetime
import StateWake.Base.Sha256
import StateWake.Utils.JsonSupport

/-!
# Release publication

The publication basis and the execution permit of `release_trust/publication.py`, with the
artifact digests of `release_trust/model.py` they list.
-/

namespace StateWake.ReleaseTrust

open StateWake.Base Text Utils

/-- `PublicationTarget`. -/
inductive PublicationTarget where
  | testpypi
  | pypi
  deriving DecidableEq, Repr

/-- The name of a target. -/
def PublicationTarget.text : PublicationTarget → Text
  | .testpypi => lit "testpypi"
  | .pypi => lit "pypi"

/-- One safe basename: `PurePosixPath(name).name == name`, no dots alone, no backslash. -/
def safeBasename (name : Text) : Bool :=
  !(name ∈ [[], lit ".", lit ".."]) && !(ofChar '/' ∈ name) && !(ofChar '\\' ∈ name)

/-- `ArtifactDigest`, `release_trust/model.py:36–59`, with its checks. -/
@[ext]
structure ArtifactDigest where
  name : Text
  sha256 : Text
  sizeBytes : Int
  mediaType : Text
  named : blank name = false
  typed : blank mediaType = false
  digested : isSha256 sha256 = true
  sized : 0 < sizeBytes

instance : DecidableEq ArtifactDigest := fun _ _ ↦ decidable_of_iff' _ ArtifactDigest.ext_iff

namespace ArtifactDigest

/-- `to_dict`. -/
def toDict (a : ArtifactDigest) : Json :=
  .obj [(lit "name", .str a.name), (lit "sha256", .str a.sha256),
    (lit "size_bytes", .int a.sizeBytes), (lit "media_type", .str a.mediaType)]

end ArtifactDigest

/-- `ReleasePublicationBasis`, `release_trust/publication.py:73–128`, with its checks. -/
structure ReleasePublicationBasis where
  distribution : Text
  version : Text
  targetRepository : PublicationTarget
  sourceRevision : Text
  sourceTreeSha256 : Text
  verificationEvidenceKind : Text
  verificationEvidenceSha256 : Text
  artifacts : List ArtifactDigest
  releaseBundleDigest : Option Text
  caveats : List Text
  stated : ∀ text ∈ [distribution, version, sourceRevision, verificationEvidenceKind],
    blank text = false
  digested : isSha256 sourceTreeSha256 = true ∧ isSha256 verificationEvidenceSha256 = true
  bundled : ∀ digest ∈ releaseBundleDigest, isSha256 digest = true
  nonempty : artifacts ≠ []
  safe : ∀ a ∈ artifacts, safeBasename a.name = true
  unique : (artifacts.map ArtifactDigest.name).Nodup
  cautioned : ∀ caveat ∈ caveats, blank caveat = false

namespace ReleasePublicationBasis

/-- `to_dict`, `release_trust/publication.py:145–161`. -/
def toDict (b : ReleasePublicationBasis) : Dict Json :=
  [(lit "schema_version", .str (lit "release-publication-basis.v1")),
    (lit "distribution", .str b.distribution), (lit "version", .str b.version),
    (lit "target_repository", .str b.targetRepository.text),
    (lit "source_revision", .str b.sourceRevision),
    (lit "source_tree_sha256", .str b.sourceTreeSha256),
    (lit "verification_evidence", .obj [(lit "kind", .str b.verificationEvidenceKind),
      (lit "sha256", .str b.verificationEvidenceSha256)]),
    (lit "artifacts", .arr (b.artifacts.map ArtifactDigest.toDict)),
    (lit "release_bundle_digest", optionJson b.releaseBundleDigest),
    (lit "caveats", .arr (b.caveats.map .str))]

/-- `digest`. -/
def digest (b : ReleasePublicationBasis) : Except PyError Text := do
  let content ← canonicalBytes b.toDict
  pure (sha256 content)

end ReleasePublicationBasis

/-- `PublicationExecutionPermit`, `release_trust/publication.py:266–302`, with its checks. -/
structure PublicationExecutionPermit where
  basisDigest : Text
  targetRepository : PublicationTarget
  sourceRevision : Text
  artifactSha256 : List (Text × Text)
  authorizationReceiptIds : List Text
  authorizationReceiptDigests : List Text
  issuedAt : AwareDatetime
  bound : isSha256 basisDigest = true
  stated : blank sourceRevision = false
  authorized : authorizationReceiptIds ≠ []
  aligned : authorizationReceiptIds.length = authorizationReceiptDigests.length
  receipts : ∀ value ∈ authorizationReceiptIds ++ authorizationReceiptDigests,
    isSha256 value = true
  listed : ∀ item ∈ artifactSha256, blank item.1 = false ∧ isSha256 item.2 = true

namespace PublicationExecutionPermit

/-- The limitations of a permit. -/
def limitations : List Text :=
  [lit "This permit authorizes only the exact basis and target repository recorded here.",
    lit "The external publisher must re-run this gate immediately before publication; " ++
      lit "a later revocation or changed artifact invalidates a fresh permit.",
    lit "The permit records authorization to execute but is not evidence that the package " ++
      lit "registry accepted or published the release."]

/-- `to_dict`, `release_trust/publication.py:373–395`. -/
def toDict (p : PublicationExecutionPermit) : Except PyError (Dict Json) := do
  let issued ← p.issuedAt.toUtc
  pure [(lit "schema_version", .str (lit "release-publication-permit.v1")),
    (lit "basis_digest", .str p.basisDigest),
    (lit "target_repository", .str p.targetRepository.text),
    (lit "source_revision", .str p.sourceRevision),
    (lit "artifacts", .arr (p.artifactSha256.map fun item ↦
      .obj [(lit "name", .str item.1), (lit "sha256", .str item.2)])),
    (lit "authorization_receipt_ids", .arr (p.authorizationReceiptIds.map .str)),
    (lit "authorization_receipt_digests", .arr (p.authorizationReceiptDigests.map .str)),
    (lit "issued_at", .str (isoformat issued)), (lit "publication_authorized", .bool true),
    (lit "release_published", .bool false), (lit "external_execution_required", .bool true),
    (lit "limitations", .arr (limitations.map .str))]

/-- `digest`. -/
def digest (p : PublicationExecutionPermit) : Except PyError Text := do
  let members ← p.toDict
  let content ← canonicalBytes members
  pure (sha256 content)

end PublicationExecutionPermit

end StateWake.ReleaseTrust
