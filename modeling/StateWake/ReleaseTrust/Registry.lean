import StateWake.ReleaseTrust.Publication

/-!
# Registry reconciliation

`release_trust/registry.py`. A registry payload and the downloaded files are reconciled with a
publication basis twice: once for the publication receipt, and again and again for the lifecycle of
the release. What the standard library makes of URLs and of case is given.
-/

namespace StateWake.ReleaseTrust

open StateWake.Base Text Utils

/-- What the code asks of the standard library: `str.lower`, the scheme and host name of
`urlparse`, and `quote(value, safe="")`, which gives ASCII. -/
structure Platform where
  lower : Text → Text
  urlparse : Text → Except PyError (Text × Option Text)
  quote : Text → Except PyError Text
  quote_ascii : ∀ s t, quote s = .ok t → Utf8.IsAscii t

/-- A boolean. -/
def asBool : Json → Option Bool
  | .bool b => some b
  | _ => none

/-! ### Artifacts -/

/-- `_require_digest`. -/
def requireDigest (value : Text) (field : String) : Except PyError Unit :=
  require ⟨.valueError, lit field ++ lit " must be a lowercase SHA-256 digest"⟩ (isSha256 value)

/-- `_normalize_project`, `release_trust/registry.py:59–70`. -/
def normalizeProject (platform : Platform) (value : Text) : Text :=
  (go false (platform.lower value)).2
where
  /-- Runs of separators become one dash. -/
  go : Bool → Text → Bool × Text
    | separator, [] => (separator, [])
    | separator, c :: rest =>
      if c ∈ lit "-_." then
        (true, (if separator then [] else lit "-") ++ (go true rest).2)
      else (false, c :: (go false rest).2)

/-- The base of the registry of a target. -/
def registryBase : PublicationTarget → Text
  | .pypi => lit "https://pypi.org"
  | .testpypi => lit "https://test.pypi.org"

/-- `registry_release_api_url`, `release_trust/registry.py:73–79`. -/
def registryReleaseApiUrl (platform : Platform) (target : PublicationTarget)
    (distribution version : Text) : Except PyError Text := do
  let project ← platform.quote distribution
  let release ← platform.quote version
  pure (registryBase target ++ lit "/pypi/" ++ project ++ lit "/" ++ release ++ lit "/json")

/-- `RegistryPublishedArtifact`, `release_trust/registry.py:82–93`. -/
structure RegistryPublishedArtifact where
  name : Text
  sha256 : Text
  sizeBytes : Int
  url : Text
  packageType : Text
  uploadTime : Option Datetime
  yanked : Bool
  yankedReason : Option Text
  deriving DecidableEq

namespace RegistryPublishedArtifact

/-- `__post_init__`, `release_trust/registry.py:95–120`. -/
def create (platform : Platform) (a : RegistryPublishedArtifact) :
    Except PyError RegistryPublishedArtifact := do
  require ⟨.valueError, lit "registry artifact name must be one safe basename"⟩
    (safeBasename a.name)
  requireDigest a.sha256 "registry_artifact.sha256"
  require ⟨.valueError, lit "registry_artifact.size_bytes must be non-negative"⟩ (0 ≤ a.sizeBytes)
  let (scheme, hostname) ← platform.urlparse a.url
  require ⟨.valueError, lit "registry artifact URL must use HTTPS"⟩
    (scheme = lit "https" ∧ hostname.any fun host ↦ !host.isEmpty)
  require ⟨.valueError, lit "registry artifact URL must use the Python package CDN"⟩
    (hostname.any fun host ↦ (lit "pythonhosted.org").isSuffixOf host)
  require ⟨.valueError, lit "registry artifact package_type must not be blank"⟩
    (!blank a.packageType)
  require ⟨.valueError, lit "unyanked registry artifact cannot carry a yank reason"⟩
    (a.yanked || a.yankedReason.isNone)
  require ⟨.valueError, lit "registry artifact yanked_reason must not be blank"⟩
    (!a.yankedReason.any blank)
  pure a

/-- `to_dict`, `release_trust/registry.py:122–140`. -/
def toDict (a : RegistryPublishedArtifact) : Json :=
  .obj [(lit "name", .str a.name), (lit "sha256", .str a.sha256),
    (lit "size_bytes", .int a.sizeBytes), (lit "url", .str a.url),
    (lit "package_type", .str a.packageType),
    (lit "upload_time", optionJson (a.uploadTime.map isoformat)), (lit "yanked", .bool a.yanked),
    (lit "yanked_reason", optionJson a.yankedReason), (lit "public_bytes_verified", .bool true)]

end RegistryPublishedArtifact

/-! ### Receipts -/

/-- `RegistryPublicationReceipt`, `release_trust/registry.py:173–185`. -/
structure RegistryPublicationReceipt where
  basisDigest : Text
  permitDigest : Text
  targetRepository : PublicationTarget
  distribution : Text
  version : Text
  registryApiUrl : Text
  observedAt : Datetime
  artifacts : List RegistryPublishedArtifact

namespace RegistryPublicationReceipt

/-- `__post_init__`, `release_trust/registry.py:187–210`. -/
def create (platform : Platform) (r : RegistryPublicationReceipt) :
    Except PyError RegistryPublicationReceipt := do
  requireDigest r.basisDigest "registry_receipt.basis_digest"
  requireDigest r.permitDigest "registry_receipt.permit_digest"
  require ⟨.valueError, lit "registry receipt distribution/version must not be blank"⟩
    (!blank r.distribution && !blank r.version)
  let url ← registryReleaseApiUrl platform r.targetRepository r.distribution r.version
  require ⟨.valueError, lit "registry receipt API URL does not match target identity"⟩
    (r.registryApiUrl = url)
  require ⟨.valueError, lit "registry receipt requires published artifacts"⟩ (!r.artifacts.isEmpty)
  require ⟨.valueError, lit "registry receipt artifact names must be unique"⟩
    (r.artifacts.map RegistryPublishedArtifact.name).Nodup
  require ⟨.valueError, lit "registry receipt cannot claim a yanked release as published"⟩
    (!r.artifacts.any RegistryPublishedArtifact.yanked)
  pure r

/-- The limitations of a receipt. -/
def limitations : List Text :=
  [lit "This receipt proves the registry API and public download bytes matched the exact " ++
      lit "authorized publication basis at the recorded observation time.",
    lit "It does not independently authenticate the human approver or registry operator; " ++
      lit "those remain separate trust boundaries.",
    lit "It does not guarantee that the registry entry will remain available, unyanked, or " ++
      lit "unchanged after the observation time."]

/-- `to_dict`, `release_trust/registry.py:217–240`. -/
def toDict (r : RegistryPublicationReceipt) : Dict Json :=
  [(lit "schema_version", .str (lit "release-registry-publication-receipt.v1")),
    (lit "basis_digest", .str r.basisDigest), (lit "permit_digest", .str r.permitDigest),
    (lit "target_repository", .str r.targetRepository.text),
    (lit "distribution", .str r.distribution), (lit "version", .str r.version),
    (lit "registry_api_url", .str r.registryApiUrl),
    (lit "observed_at", .str (isoformat r.observedAt)),
    (lit "artifacts", .arr (r.artifacts.map RegistryPublishedArtifact.toDict)),
    (lit "publication_authorized_at_execution", .bool true), (lit "release_published", .bool true),
    (lit "registry_reconciled", .bool true), (lit "public_bytes_verified", .bool true),
    (lit "limitations", .arr (limitations.map .str))]

/-- `digest`. -/
def digest (r : RegistryPublicationReceipt) : Except PyError Text := do
  let content ← canonicalBytes r.toDict
  pure (sha256 content)

end RegistryPublicationReceipt

/-- `tuple(sorted(pairs))`. -/
def sortedPairs (pairs : List (Text × Text)) : List (Text × Text) :=
  pairs.insertionSort fun a b ↦ a.1 < b.1 ∨ a.1 = b.1 ∧ a.2 ≤ b.2

/-- `_validate_permit_binding`, `release_trust/registry.py:291–306`. -/
def validatePermitBinding (basis : ReleasePublicationBasis) (permit : PublicationExecutionPermit) :
    Except PyError Unit := do
  let digest ← basis.digest
  require ⟨.valueError, lit "publication permit is not bound to the registry basis"⟩
    (permit.basisDigest = digest)
  require ⟨.valueError, lit "publication permit target does not match registry basis"⟩
    (permit.targetRepository = basis.targetRepository)
  require ⟨.valueError, lit "publication permit source revision does not match registry basis"⟩
    (permit.sourceRevision = basis.sourceRevision)
  require ⟨.valueError, lit "publication permit artifact digests do not match registry basis"⟩
    (sortedPairs permit.artifactSha256 =
      sortedPairs (basis.artifacts.map fun item ↦ (item.name, item.sha256)))

/-- The digest and the size of each artifact of a basis, by name. -/
def expectedContent (basis : ReleasePublicationBasis) : Dict (Text × Int) :=
  Dict.ofPairs (basis.artifacts.map fun item ↦ (item.name, item.sha256, item.sizeBytes))

/-- The digest and the size of each observed artifact, by name. -/
def observedContent (artifacts : List RegistryPublishedArtifact) : Dict (Text × Int) :=
  Dict.ofPairs (artifacts.map fun item ↦ (item.name, item.sha256, item.sizeBytes))

/-- `verify_registry_publication_receipt`, `release_trust/registry.py:309–336`. -/
def verifyRegistryPublicationReceipt (receipt : RegistryPublicationReceipt)
    (basis : ReleasePublicationBasis) (permit : PublicationExecutionPermit) :
    Except PyError Unit := do
  validatePermitBinding basis permit
  let basisDigest ← basis.digest
  require ⟨.valueError, lit "registry receipt basis digest does not match publication basis"⟩
    (receipt.basisDigest = basisDigest)
  let permitDigest ← permit.digest
  require ⟨.valueError, lit "registry receipt permit digest does not match execution permit"⟩
    (receipt.permitDigest = permitDigest)
  require ⟨.valueError, lit "registry receipt target does not match publication basis"⟩
    (receipt.targetRepository = basis.targetRepository)
  require ⟨.valueError, lit "registry receipt release identity does not match publication basis"⟩
    (receipt.distribution = basis.distribution ∧ receipt.version = basis.version)
  require ⟨.valueError, lit "registry receipt artifact set does not match publication basis"⟩
    ((observedContent receipt.artifacts).sorted = (expectedContent basis).sorted)

/-! ### The payload -/

/-- `require_object(payload.get(key))`. -/
def memberObject (members : Dict Json) (key field : Text) : Except PyError (Dict Json) :=
  requireObject ((members.get? key).getD .null) field

/-- `require_string(payload.get(key))`. -/
def memberString (members : Dict Json) (key field : Text) : Except PyError Text :=
  requireString ((members.get? key).getD .null) field

/-- The identity of the release and its files, `release_trust/registry.py:350–365` and
`794–806`. -/
def releaseFiles (platform : Platform) (basis : ReleasePublicationBasis)
    (payload : Dict Json) : Except PyError (List Json) := do
  let info ← memberObject payload (lit "info") (lit "registry.info")
  let name ← memberString info (lit "name") (lit "registry.info.name")
  let version ← memberString info (lit "version") (lit "registry.info.version")
  require ⟨.valueError, lit "registry project identity does not match publication basis"⟩
    (normalizeProject platform name = normalizeProject platform basis.distribution)
  require ⟨.valueError, lit "registry release version does not match publication basis"⟩
    (version = basis.version)
  orRaise ⟨.valueError, lit "registry release urls must be a JSON array"⟩
    ((payload.get? (lit "urls")).bind Json.asList)

/-- `f"registry.urls[{index}]"` and a field below it. -/
def urlField (index : Nat) (below : String) : Text :=
  lit "registry.urls[" ++ Decimal.decimal index ++ lit "]" ++ lit below

/-- The artifact of the basis that a file names, `release_trust/registry.py:369–378` and
`810–819`. -/
def expectedFor (basis : ReleasePublicationBasis) (parsed : Dict RegistryPublishedArtifact)
    (index : Nat) (item : Dict Json) : Except PyError (Text × ArtifactDigest) := do
  let name ← memberString item (lit "filename") (urlField index ".filename")
  require ⟨.valueError, lit "registry returned duplicate artifact filenames"⟩
    (parsed.get? name).isNone
  let expected ← orRaise ⟨.valueError, lit "registry contains an unauthorized release artifact"⟩
    ((Dict.ofPairs (basis.artifacts.map fun a ↦ (a.name, a))).get? name)
  pure (name, expected)

/-- The digest of a file, `release_trust/registry.py:379–384`. -/
def fileDigest (index : Nat) (item : Dict Json) : Except PyError Text := do
  let digests ← memberObject item (lit "digests") (urlField index ".digests")
  memberString digests (lit "sha256") (urlField index ".digests.sha256")

/-- The size of a file. A boolean is no integer here. -/
def fileSize (item : Dict Json) : Except PyError Int :=
  orRaise ⟨.valueError, lit "registry artifact size must be an integer"⟩
    ((item.get? (lit "size")).bind Json.asInt)

/-- `item.get("yanked", False)`, which must be a boolean. -/
def fileYanked (item : Dict Json) : Except PyError Bool :=
  orRaise ⟨.valueError, lit "registry artifact yanked must be boolean"⟩
    (asBool ((item.get? (lit "yanked")).getD (.bool false)))

/-- The metadata of a file are those of its artifact. -/
def requireMetadata (name digest : Text) (size : Int) (expected : ArtifactDigest) :
    Except PyError Unit :=
  require ⟨.valueError, lit "registry metadata does not match authorized artifact: " ++ name⟩
    (digest = expected.sha256 ∧ size = expected.sizeBytes)

/-- The bytes of a file are those of its artifact, `release_trust/registry.py:397–406`. -/
def requireBytes (files : Dict Bytes) (name : Text) (expected : ArtifactDigest) :
    Except PyError Unit := do
  let data ← orRaise ⟨.valueError, lit "public registry bytes were not read back: " ++ name⟩
    (files.get? name)
  require ⟨.valueError, lit "public registry bytes do not match authorized artifact: " ++ name⟩
    ((data.length : Int) = expected.sizeBytes ∧ sha256 data = expected.sha256)

/-- The upload time of a file, `release_trust/registry.py:407–415`. -/
def fileUploadTime (index : Nat) (item : Dict Json) : Except PyError (Option Datetime) :=
  match item.get? (lit "upload_time_iso_8601") with
  | none | some .null => .ok none
  | some raw => do
    let text ← requireString raw (urlField index ".upload_time_iso_8601")
    let time ← parseDatetime text (urlField index ".upload_time_iso_8601")
    pure (some time)

/-- The reason of a yank. -/
def fileYankedReason (index : Nat) (item : Dict Json) : Except PyError (Option Text) :=
  match item.get? (lit "yanked_reason") with
  | none | some .null => .ok none
  | some raw => do
    let reason ← requireString raw (urlField index ".yanked_reason")
    pure (some reason)

/-- The artifact of a file whose metadata are those of the basis: its bytes are read back and its
remaining members are parsed, `release_trust/registry.py:397–428` and `845–876`. -/
def readBack (platform : Platform) (files : Dict Bytes) (index : Nat) (item : Dict Json)
    (name digest : Text) (size : Int) (expected : ArtifactDigest) (yanked : Bool)
    (yankedReason : Option Text) : Except PyError RegistryPublishedArtifact := do
  requireBytes files name expected
  let uploadTime ← fileUploadTime index item
  let url ← memberString item (lit "url") (urlField index ".url")
  let packageType ← memberString item (lit "packagetype") (urlField index ".packagetype")
  RegistryPublishedArtifact.create platform
    ⟨name, digest, size, url, packageType, uploadTime, yanked, yankedReason⟩

/-- One file of a publication, `release_trust/registry.py:369–429`. -/
def publishedFile (platform : Platform) (basis : ReleasePublicationBasis) (files : Dict Bytes)
    (parsed : Dict RegistryPublishedArtifact) (index : Nat) (raw : Json) :
    Except PyError RegistryPublishedArtifact := do
  let item ← requireObject raw (urlField index "")
  let (name, expected) ← expectedFor basis parsed index item
  let digest ← fileDigest index item
  let size ← fileSize item
  let yanked ← fileYanked item
  require ⟨.valueError, lit "registry artifact is yanked: " ++ name⟩ (!yanked)
  requireMetadata name digest size expected
  readBack platform files index item name digest size expected false none

/-- One file of a lifecycle observation, `release_trust/registry.py:810–877`. -/
def observedFile (platform : Platform) (basis : ReleasePublicationBasis) (files : Dict Bytes)
    (parsed : Dict RegistryPublishedArtifact) (index : Nat) (raw : Json) :
    Except PyError RegistryPublishedArtifact := do
  let item ← requireObject raw (urlField index "")
  let (name, expected) ← expectedFor basis parsed index item
  let digest ← fileDigest index item
  let size ← fileSize item
  requireMetadata name digest size expected
  let yanked ← fileYanked item
  let reason ← fileYankedReason index item
  require ⟨.valueError, lit "registry artifact cannot carry a yank reason while unyanked"⟩
    (yanked || reason.isNone)
  readBack platform files index item name digest size expected yanked reason

/-- `for index, raw in enumerate(urls_raw)`: each file is parsed knowing those before it. -/
def parseFiles (file : Dict RegistryPublishedArtifact → Nat → Json →
      Except PyError RegistryPublishedArtifact) :
    Nat → Dict RegistryPublishedArtifact → List Json →
      Except PyError (Dict RegistryPublishedArtifact)
  | _, parsed, [] => .ok parsed
  | index, parsed, raw :: rest => do
    let artifact ← file parsed index raw
    parseFiles file (index + 1) (parsed.set artifact.name artifact) rest

/-- `set(xs) == set(ys)`. -/
def sameSet (xs ys : List Text) : Bool := xs.all (· ∈ ys) && ys.all (· ∈ xs)

/-- The names of the artifacts of a basis. -/
def expectedNames (basis : ReleasePublicationBasis) : List Text :=
  basis.artifacts.map ArtifactDigest.name

/-- `tuple(parsed[name] for name in sorted(parsed))`. -/
def sortedArtifacts (parsed : Dict RegistryPublishedArtifact) : List RegistryPublishedArtifact :=
  parsed.sorted.map Prod.snd

/-- `reconcile_registry_publication`, `release_trust/registry.py:338–454`. The clock is what
`observed_at or datetime.now(UTC)` gives, and nothing where that has no time zone. -/
def reconcileRegistryPublication (platform : Platform) (basis : ReleasePublicationBasis)
    (permit : PublicationExecutionPermit) (payload : Dict Json) (files : Dict Bytes)
    (clock : Option AwareDatetime) : Except PyError RegistryPublicationReceipt := do
  validatePermitBinding basis permit
  let urls ← releaseFiles platform basis payload
  require ⟨.valueError, lit "registry artifact set does not match publication basis"⟩
    (urls.length = basis.artifacts.length)
  let parsed ← parseFiles (publishedFile platform basis files) 0 [] urls
  require ⟨.valueError, lit "registry read-back artifact set does not match publication basis"⟩
    (sameSet parsed.keys (expectedNames basis) && sameSet files.keys (expectedNames basis))
  let timestamp ← orRaise
    ⟨.valueError, lit "registry reconciliation clock must be timezone-aware"⟩ clock
  let basisDigest ← basis.digest
  let permitDigest ← permit.digest
  let url ← registryReleaseApiUrl platform basis.targetRepository basis.distribution basis.version
  let observedAt ← timestamp.toUtc
  RegistryPublicationReceipt.create platform
    ⟨basisDigest, permitDigest, basis.targetRepository, basis.distribution, basis.version, url,
      observedAt, sortedArtifacts parsed⟩

/-! ### The lifecycle -/

/-- `RegistryLifecycleStatus`. -/
inductive RegistryLifecycleStatus where
  | available
  | yanked
  | partiallyAvailable
  | unavailable
  deriving DecidableEq, Repr

/-- The name of a status. -/
def RegistryLifecycleStatus.text : RegistryLifecycleStatus → Text
  | .available => lit "available"
  | .yanked => lit "yanked"
  | .partiallyAvailable => lit "partially_available"
  | .unavailable => lit "unavailable"

/-- `RegistryPublicationLifecycleObservation`, `release_trust/registry.py:463–479`. -/
structure RegistryPublicationLifecycleObservation where
  publicationReceiptDigest : Text
  predecessorDigest : Text
  basisDigest : Text
  permitDigest : Text
  targetRepository : PublicationTarget
  distribution : Text
  version : Text
  registryApiUrl : Text
  observedAt : Datetime
  status : RegistryLifecycleStatus
  artifacts : List RegistryPublishedArtifact
  missingArtifacts : List Text
  unavailableReason : Option Text

/-- `yanked_values == {True}`. -/
def allYanked (artifacts : List RegistryPublishedArtifact) : Bool :=
  !artifacts.isEmpty && artifacts.all RegistryPublishedArtifact.yanked

/-- `len(yanked_values) > 1`. -/
def mixedYanked (artifacts : List RegistryPublishedArtifact) : Bool :=
  artifacts.any RegistryPublishedArtifact.yanked && artifacts.any fun a ↦ !a.yanked

namespace RegistryPublicationLifecycleObservation

/-- What `__post_init__` asks of the entry that is there, `release_trust/registry.py:538–569`. -/
def checkPresent (o : RegistryPublicationLifecycleObservation) : Except PyError Unit := do
  require ⟨.valueError, lit "available/yanked/partial registry lifecycle observation cannot " ++
    lit "carry an unavailable reason"⟩ o.unavailableReason.isNone
  if o.status = .partiallyAvailable then
    require ⟨.valueError, lit "partially available registry lifecycle observation requires " ++
      lit "missing artifacts"⟩ (!o.missingArtifacts.isEmpty)
  else
    require ⟨.valueError, lit "complete registry lifecycle observation cannot report missing " ++
      lit "artifacts"⟩ o.missingArtifacts.isEmpty
  require ⟨.valueError, lit "available/yanked registry lifecycle observation requires artifacts"⟩
    (!(o.status = .available ∨ o.status = .yanked) || !o.artifacts.isEmpty)
  require ⟨.valueError, lit "mixed yanked state is unsupported for the PyPI release lifecycle"⟩
    (!mixedYanked o.artifacts)
  require ⟨.valueError, lit "available registry lifecycle observation cannot contain yanked " ++
    lit "artifacts"⟩ (!(o.status = .available && allYanked o.artifacts))
  require ⟨.valueError, lit "yanked registry lifecycle observation requires yanked artifacts"⟩
    (o.status ≠ .yanked || allYanked o.artifacts)

/-- `__post_init__`, `release_trust/registry.py:481–569`. -/
def create (platform : Platform) (o : RegistryPublicationLifecycleObservation) :
    Except PyError RegistryPublicationLifecycleObservation := do
  requireDigest o.publicationReceiptDigest "registry_lifecycle.publication_receipt_digest"
  requireDigest o.predecessorDigest "registry_lifecycle.predecessor_digest"
  requireDigest o.basisDigest "registry_lifecycle.basis_digest"
  requireDigest o.permitDigest "registry_lifecycle.permit_digest"
  require ⟨.valueError, lit "registry lifecycle distribution/version must not be blank"⟩
    (!blank o.distribution && !blank o.version)
  let url ← registryReleaseApiUrl platform o.targetRepository o.distribution o.version
  require ⟨.valueError, lit "registry lifecycle API URL does not match release identity"⟩
    (o.registryApiUrl = url)
  require ⟨.valueError, lit "registry lifecycle artifact names must be unique"⟩
    (o.artifacts.map RegistryPublishedArtifact.name).Nodup
  require ⟨.valueError, lit "registry lifecycle missing_artifacts must be unique"⟩
    o.missingArtifacts.Nodup
  require ⟨.valueError, lit "registry lifecycle missing_artifacts must not contain blanks"⟩
    (!o.missingArtifacts.any blank)
  require ⟨.valueError, lit "observed and missing registry lifecycle artifacts must be disjoint"⟩
    (!o.artifacts.any fun a ↦ a.name ∈ o.missingArtifacts)
  if o.status = .unavailable then
    require ⟨.valueError, lit "unavailable registry lifecycle observation cannot contain " ++
      lit "artifact state"⟩ (o.artifacts.isEmpty && o.missingArtifacts.isEmpty)
    require ⟨.valueError, lit "unavailable registry lifecycle observation requires a reason"⟩
      (o.unavailableReason.any fun reason ↦ !blank reason)
  else o.checkPresent
  pure o

/-- The limitations of an observation. -/
def limitations : List Text :=
  [lit "This is a point-in-time registry observation chained to the original publication " ++
      lit "receipt; it does not mutate historical publication evidence.",
    lit "A yanked observation records registry selection state, not deletion; exact pins may " ++
      lit "still resolve yanked files according to installer policy.",
    lit "A partially available observation proves only that some previously authorized " ++
      lit "artifacts were absent from the official release endpoint at observation time; it " ++
      lit "does not prove deletion intent, actor identity, or cause.",
    lit "An unavailable observation proves only that the official release-specific registry " ++
      lit "endpoint was unavailable at observation time; it does not prove why the release " ++
      lit "disappeared or who caused it."]

/-- `to_dict`, `release_trust/registry.py:581–608`. -/
def toDict (o : RegistryPublicationLifecycleObservation) : Dict Json :=
  [(lit "schema_version", .str (lit "release-registry-publication-lifecycle.v1")),
    (lit "publication_receipt_digest", .str o.publicationReceiptDigest),
    (lit "predecessor_digest", .str o.predecessorDigest),
    (lit "basis_digest", .str o.basisDigest), (lit "permit_digest", .str o.permitDigest),
    (lit "target_repository", .str o.targetRepository.text),
    (lit "distribution", .str o.distribution), (lit "version", .str o.version),
    (lit "registry_api_url", .str o.registryApiUrl),
    (lit "observed_at", .str (isoformat o.observedAt)), (lit "status", .str o.status.text),
    (lit "registry_entry_present", .bool (o.status ≠ .unavailable)),
    (lit "default_install_eligible", .bool (o.status = .available)),
    (lit "public_bytes_verified", .bool (o.status = .available || o.status = .yanked)),
    (lit "missing_artifacts", .arr (o.missingArtifacts.map .str)),
    (lit "unavailable_reason", optionJson o.unavailableReason),
    (lit "artifacts", .arr (o.artifacts.map RegistryPublishedArtifact.toDict)),
    (lit "limitations", .arr (limitations.map .str))]

/-- `digest`. -/
def digest (o : RegistryPublicationLifecycleObservation) : Except PyError Text := do
  let content ← canonicalBytes o.toDict
  pure (sha256 content)

end RegistryPublicationLifecycleObservation

/-- The digest of the tip of the chain: the receipt's, or that of the previous observation. -/
def tipDigest (receipt : RegistryPublicationReceipt) :
    Option RegistryPublicationLifecycleObservation → Except PyError Text
  | none => receipt.digest
  | some previous => previous.digest

/-- The time of the tip of the chain. -/
def tipTime (receipt : RegistryPublicationReceipt)
    (previous : Option RegistryPublicationLifecycleObservation) : Datetime :=
  previous.elim receipt.observedAt RegistryPublicationLifecycleObservation.observedAt

/-- `tuple(sorted(set(expected) - set(observed)))`. -/
def missingNames (basis : ReleasePublicationBasis) (observed : List Text) : List Text :=
  ((expectedNames basis).filter fun name ↦ !(name ∈ observed)).insertionSort (· ≤ ·)

/-- The artifact state of an observation, `release_trust/registry.py:725–746`. -/
def checkArtifactState (observation : RegistryPublicationLifecycleObservation)
    (basis : ReleasePublicationBasis) : Except PyError Unit := do
  let expected := expectedContent basis
  let observed := observedContent observation.artifacts
  require ⟨.valueError, lit "registry lifecycle artifact set does not match publication basis"⟩
    (!observed.any fun item ↦ expected.get? item.1 ≠ some item.2)
  let missing := missingNames basis observed.keys
  if observation.status = .partiallyAvailable then
    require ⟨.valueError, lit "registry lifecycle missing artifact set does not match " ++
      lit "publication basis"⟩
      (!missing.isEmpty && missing = observation.missingArtifacts.insertionSort (· ≤ ·))
  else
    require ⟨.valueError, lit "registry lifecycle artifact set does not match publication basis"⟩
      (observed.sorted = expected.sorted && observation.missingArtifacts.isEmpty)

/-- `verify_registry_publication_lifecycle_observation`, `release_trust/registry.py:686–746`. -/
def verifyRegistryPublicationLifecycleObservation
    (observation : RegistryPublicationLifecycleObservation) (receipt : RegistryPublicationReceipt)
    (basis : ReleasePublicationBasis) (permit : PublicationExecutionPermit)
    (previous : Option RegistryPublicationLifecycleObservation) : Except PyError Unit := do
  verifyRegistryPublicationReceipt receipt basis permit
  let receiptDigest ← receipt.digest
  require ⟨.valueError, lit "registry lifecycle observation is not bound to the publication " ++
    lit "receipt"⟩ (observation.publicationReceiptDigest = receiptDigest)
  let basisDigest ← basis.digest
  let permitDigest ← permit.digest
  require ⟨.valueError, lit "registry lifecycle observation is not bound to publication evidence"⟩
    (observation.basisDigest = basisDigest ∧ observation.permitDigest = permitDigest)
  require ⟨.valueError, lit "registry lifecycle target does not match publication basis"⟩
    (observation.targetRepository = basis.targetRepository)
  require ⟨.valueError, lit "registry lifecycle release identity does not match publication " ++
    lit "basis"⟩ (observation.distribution = basis.distribution ∧
      observation.version = basis.version)
  let tip ← tipDigest receipt previous
  require ⟨.valueError, lit "registry lifecycle predecessor digest does not match canonical " ++
    lit "chain tip"⟩ (observation.predecessorDigest = tip)
  require ⟨.valueError, lit "registry lifecycle observation time cannot move backwards"⟩
    ((tipTime receipt previous).instant ≤ observation.observedAt.instant)
  if observation.status = .unavailable then pure ()
  else checkArtifactState observation basis

/-- The observation that either branch of the lifecycle builds and verifies,
`release_trust/registry.py:774–793` and `893–913`. -/
def observe (platform : Platform) (receipt : RegistryPublicationReceipt)
    (basis : ReleasePublicationBasis) (permit : PublicationExecutionPermit)
    (previous : Option RegistryPublicationLifecycleObservation) (timestamp : AwareDatetime)
    (predecessor : Text) (status : RegistryLifecycleStatus)
    (artifacts : List RegistryPublishedArtifact) (missing : List Text) (reason : Option Text) :
    Except PyError RegistryPublicationLifecycleObservation := do
  let receiptDigest ← receipt.digest
  let basisDigest ← basis.digest
  let permitDigest ← permit.digest
  let url ← registryReleaseApiUrl platform basis.targetRepository basis.distribution basis.version
  let observedAt ← timestamp.toUtc
  let observation ← RegistryPublicationLifecycleObservation.create platform
    ⟨receiptDigest, predecessor, basisDigest, permitDigest, basis.targetRepository,
      basis.distribution, basis.version, url, observedAt, status, artifacts, missing, reason⟩
  verifyRegistryPublicationLifecycleObservation observation receipt basis permit previous
  pure observation

/-- The status of an entry that is there, `release_trust/registry.py:886–892`. -/
def presentStatus (missing : List Text) (artifacts : List RegistryPublishedArtifact) :
    RegistryLifecycleStatus :=
  if !missing.isEmpty then .partiallyAvailable
  else if allYanked artifacts then .yanked
  else .available

/-- `reconcile_registry_publication_lifecycle`, `release_trust/registry.py:749–913`. -/
def reconcileRegistryPublicationLifecycle (platform : Platform)
    (receipt : RegistryPublicationReceipt) (basis : ReleasePublicationBasis)
    (permit : PublicationExecutionPermit) (payload : Option (Dict Json)) (files : Dict Bytes)
    (previous : Option RegistryPublicationLifecycleObservation) (unavailableReason : Option Text)
    (clock : Option AwareDatetime) :
    Except PyError RegistryPublicationLifecycleObservation := do
  verifyRegistryPublicationReceipt receipt basis permit
  let timestamp ← orRaise ⟨.valueError, lit "registry lifecycle clock must be timezone-aware"⟩ clock
  let predecessor ← tipDigest receipt previous
  match payload with
  | none =>
    require ⟨.valueError, lit "unavailable registry lifecycle observation cannot contain " ++
      lit "public bytes"⟩ files.isEmpty
    observe platform receipt basis permit previous timestamp predecessor .unavailable [] []
      (some (if unavailableReason.any (!·.isEmpty) then unavailableReason.getD []
        else lit "release-specific registry API returned HTTP 404"))
  | some payload =>
    let urls ← releaseFiles platform basis payload
    let parsed ← parseFiles (observedFile platform basis files) 0 [] urls
    require ⟨.valueError, lit "registry lifecycle read-back bytes do not match observed " ++
      lit "artifact set"⟩ (sameSet files.keys parsed.keys)
    let artifacts := sortedArtifacts parsed
    require ⟨.valueError, lit "mixed yanked state is unsupported for the PyPI release lifecycle"⟩
      (!mixedYanked artifacts)
    let missing := missingNames basis parsed.keys
    observe platform receipt basis permit previous timestamp predecessor
      (presentStatus missing artifacts) artifacts missing none

end StateWake.ReleaseTrust
