import StateWake.Provenance.Graph

/-!
# Building and verifying a bundle file

`build_bundle` and `verify_bundle` of `services/operations_service.py`, with the provenance of a
bundle from `services/provenance_service.py`. A bundle file is its bytes with the members that
`zipfile` reads from them.
-/

namespace StateWake.Operations

open StateWake.Base Text Utils Lifecycle Provenance

-- the built-in `int` of a decoded value
variable (int : Json → Except PyError Int)

/-- `_safe_member_name`, `services/operations_service.py:29–34`. -/
def safeMemberName (name : Text) : Except PyError Text := do
  require ⟨.valueError, lit "artifact path must be relative and must not contain '..'."⟩
    (slashes name ≠ [] ∧ absolute (slashes name) = false ∧
      lit ".." ∉ components (slashes name))
  pure (slashes name)

/-- `_safe_artifact_id`, `services/operations_service.py:37–47`. -/
def safeArtifactId (value : Text) : Except PyError Text := do
  require ⟨.valueError, lit "artifact_id must be a single relative path component."⟩
    (blank (slashes value) = false ∧ absolute (slashes value) = false ∧
      ofChar '/' ∉ slashes value ∧ slashes value ∉ [lit ".", lit ".."])
  pure (slashes value)

/-- The constructor of a retention policy, `__post_init__` at `domain/operations.py:43–53`. -/
def RetentionPolicy.create (policyId : Text) (maxAgeDays : Option Int) (maxSensitivity : Text) :
    Except PyError RetentionPolicy :=
  if hn : blank policyId = false then do
    require ⟨.valueError, lit "max_age_days must be non-negative when provided."⟩
      (maxAgeDays.all fun days ↦ 0 ≤ days)
    let level ← Sensitivity.validate maxSensitivity (lit "max_sensitivity")
    pure ⟨policyId, maxAgeDays.map Int.toNat, level, hn⟩
  else valueError (lit "policy_id must not be empty.")

/-- `int(payload["max_age_days"])` of a member that is there and not `None`,
`services/operations_service.py:58–60`. -/
def parseMaxAge (members : Dict Json) : Except PyError (Option Int) :=
  match members.get? (lit "max_age_days") with
  | none | some .null => .ok none
  | some days => some <$> int days

/-- `_parse_retention`, `services/operations_service.py:50–62`. -/
def parseRetention (payload : Json) : Except PyError (Option RetentionPolicy) :=
  if payload = .null then .ok none else do
    let members ← orRaise ⟨.valueError, lit "retention_policy must be a JSON object or null."⟩
      payload.asObject
    let maxAgeDays ← parseMaxAge int members
    let sensitivity := ((members.get? (lit "max_sensitivity")).map Json.pyStr).getD
      (lit "restricted")
    some <$> RetentionPolicy.create (optionalText members (lit "policy_id")) maxAgeDays sensitivity

/-! ### Building -/

/-- `load_bundle_spec`, `services/operations_service.py:65–70`, of a file's bytes. -/
def loadBundleSpec (raw : Bytes) : Except PyError (Dict Json) := do
  let text ← Utf8.ofBytes raw
  let payload ← Json.loads (Lines.translateNewlines text)
  orRaise ⟨.valueError, lit "Bundle spec root must be a JSON object."⟩ payload.asObject

/-- The folder of a specification, and the kind a file of it has by its suffix. -/
structure SpecFolder extends SourceRoot where
  kind : Text → Text

/-- One entry of `artifacts` with its content, `services/operations_service.py:90–131`. -/
def buildArtifact (folder : SpecFolder) (item : Json) :
    Except PyError (OperationalArtifact × Bytes) := do
  let members ← orRaise ⟨.valueError, lit "Each artifact entry must be a JSON object."⟩
    item.asObject
  let artifactId ← safeArtifactId (optionalText members (lit "artifact_id"))
  let path ← safeMemberName (optionalText members (lit "path"))
  require ⟨.valueError, lit "Artifact path escapes the bundle-spec directory: " ++ path⟩
    (folder.inside path)
  let content ← orRaise ⟨.fileNotFoundError, lit "Artifact not found: " ++ path⟩ (folder.file path)
  let digest := sha256 content
  let expected := nullableText members (lit "sha256")
  require ⟨.valueError, lit "Artifact digest mismatch for " ++ artifactId ++ lit ": expected " ++
    expected.getD [] ++ lit ", got " ++ digest⟩ (expected.all fun d ↦ d = digest)
  let kind := ((members.get? (lit "kind")).map Json.pyStr).getD (folder.kind path)
  let sensitivity := ((members.get? (lit "sensitivity")).map Json.pyStr).getD (lit "internal")
  let derivedFrom ← iterTexts ((members.get? (lit "derived_from")).getD (.arr []))
  let artifact ← OperationalArtifact.create artifactId path kind digest content.length sensitivity
    derivedFrom
  pure (artifact, content)

/-- A bundle under its computed manifest identity, or under the one it was given,
`services/operations_service.py:143–157`. -/
def withManifestId (b : OperationalBundle) : Except PyError OperationalBundle := do
  let computed ← b.computedManifestId
  if b.manifestId = lit "pending" then do
    let b := { b with manifestId := computed }
    b.check
    pure b
  else do
    require ⟨.valueError, lit "manifest_id mismatch: expected " ++ computed ++ lit ", got " ++
      b.manifestId⟩ (b.manifestId = computed)
    pure b

/-- A bundle under its computed identity, or under the one it was given,
`services/operations_service.py:158–171`. -/
def withBundleId (b : OperationalBundle) : Except PyError OperationalBundle := do
  let computed ← b.computedBundleId
  if b.bundleId = lit "pending" then do
    let b := { b with bundleId := computed }
    b.check
    pure b
  else do
    require ⟨.valueError, lit "bundle_id mismatch: expected " ++ computed ++ lit ", got " ++
      b.bundleId⟩ (b.bundleId = computed)
    pure b

/-- The fields a specification must have. -/
def requiredFields : List Text :=
  [lit "bundle_id", lit "agent_name", lit "created_at", lit "artifacts"]

/-- `build_bundle`, `services/operations_service.py:73–177`: the bundle and its files by member
name. -/
def buildBundle (folder : SpecFolder) (raw : Bytes) :
    Except PyError (OperationalBundle × Dict Bytes) := do
  let payload ← loadBundleSpec raw
  let missing := requiredFields.filter fun key ↦ (payload.get? key).isNone
  require ⟨.valueError, lit "Missing required bundle fields: " ++
    List.intercalate (lit ", ") missing⟩ missing.isEmpty
  let items ← orRaise ⟨.valueError, lit "artifacts must be a non-empty JSON array."⟩
    ((payload.get? (lit "artifacts")).bind Json.asList)
  require ⟨.valueError, lit "artifacts must be a non-empty JSON array."⟩ (!items.isEmpty)
  let entries ← items.mapM (buildArtifact folder)
  let created ← requiredText payload (lit "created_at")
  let createdAt ← parseDatetime created (lit "created_at")
  let bundleId ← requiredText payload (lit "bundle_id")
  let agentName ← requiredText payload (lit "agent_name")
  let retentionPolicy ← parseRetention int ((payload.get? (lit "retention_policy")).getD .null)
  let manifestId := ((payload.get? (lit "manifest_id")).map Json.pyStr).getD (lit "pending")
  let engineVersion := ((payload.get? (lit "engine_version")).map Json.pyStr).getD (lit "0.5.1")
  let draft : OperationalBundle := ⟨bundleId, manifestId, agentName, engineVersion,
    .ofUtc createdAt, entries.map Prod.fst, retentionPolicy⟩
  draft.check
  let identified ← withManifestId draft
  let bundle ← withBundleId identified
  let text ← bundle.manifestText
  let manifest ← Utf8.toBytes text
  pure (bundle, (Dict.ofPairs (entries.map fun e ↦ (e.1.memberName, e.2))).set
    (lit "manifest.json") manifest)

/-! ### Reading -/

/-- A bundle file: its bytes, the members in it, and the verdict of `validate_archive_envelope` on
their number and sizes. -/
structure BundleFile where
  raw : Bytes
  members : Archive
  contained : Except PyError Unit

/-- One artifact of a manifest, `services/operations_service.py:204–216`. -/
def readArtifact (item : Json) : Except PyError OperationalArtifact := do
  let members ← orRaise ⟨.valueError, lit "Bundle artifact entry must be a JSON object."⟩
    item.asObject
  let id ← requiredText members (lit "artifact_id")
  let artifactId ← safeArtifactId id
  let name ← requiredText members (lit "path")
  let path ← safeMemberName name
  let kind ← requiredText members (lit "kind")
  let digest ← requiredText members (lit "sha256")
  let size ← Json.index members (lit "size_bytes")
  let sizeBytes ← int size
  let sensitivity ← requiredText members (lit "sensitivity")
  let derivedFrom ← iterTexts ((members.get? (lit "derived_from")).getD (.arr []))
  OperationalArtifact.create artifactId path kind digest sizeBytes sensitivity derivedFrom

/-- The bundle of a manifest, `services/operations_service.py:199–226`. -/
def readBundle (payload : Dict Json) : Except PyError OperationalBundle := do
  let retentionPolicy ← parseRetention int ((payload.get? (lit "retention_policy")).getD .null)
  let items ← iterItems ((payload.get? (lit "artifacts")).getD (.arr []))
  let artifacts ← items.mapM (readArtifact int)
  let bundleId ← requiredText payload (lit "bundle_id")
  let manifestId ← requiredText payload (lit "manifest_id")
  let agentName ← requiredText payload (lit "agent_name")
  let engineVersion ← requiredText payload (lit "engine_version")
  let created ← requiredText payload (lit "created_at")
  let createdAt ← parseDatetime created (lit "created_at")
  let bundle : OperationalBundle := ⟨bundleId, manifestId, agentName, engineVersion,
    .ofUtc createdAt, artifacts, retentionPolicy⟩
  bundle.check
  pure bundle

/-- The member names of a bundle's artifacts. -/
def OperationalBundle.memberNames (b : OperationalBundle) : List Text :=
  b.artifacts.map OperationalArtifact.memberName

/-- The check that a bundle's artifacts are the files there are. -/
def checkContents (b : OperationalBundle) (names : List Text) : Except PyError Unit :=
  require ⟨.valueError, lit "Bundle contents do not match manifest; missing=['" ++
      List.intercalate (lit "', '") (b.memberNames.filter fun name ↦ name ∉ names) ++
      lit "'], unexpected=['" ++
      List.intercalate (lit "', '") (names.filter fun name ↦ name ∉ b.memberNames) ++ lit "']"⟩
    ((∀ name ∈ names, name ∈ b.memberNames) ∧ ∀ name ∈ b.memberNames, name ∈ names)

/-- `_read_manifest`, `services/operations_service.py:191–244`. -/
def readManifest (file : BundleFile) : Except PyError (OperationalBundle × Dict Bytes) := do
  require ⟨.valueError, lit "Operational bundle contains duplicate ZIP member names."⟩
    file.members.Distinct
  let manifest ← orRaise ⟨.valueError, lit "Operational bundle is missing manifest.json."⟩
    (file.members.get? (lit "manifest.json"))
  let text ← Utf8.ofBytes manifest
  let value ← Json.loads text
  let payload ← orRaise ⟨.valueError, lit "Bundle manifest must be a JSON object."⟩ value.asObject
  let bundle ← readBundle int payload
  checkContents bundle (file.members.erase (lit "manifest.json")).keys
  file.contained
  forM bundle.artifacts fun a ↦ do
    let content ← orRaise ⟨.keyError, a.memberName⟩ (file.members.get? a.memberName)
    require ⟨.valueError, lit "ZIP member size mismatch for artifact " ++ a.artifactId ++
      lit ": manifest=" ++ Json.intText a.sizeBytes ++ lit ", archive=" ++
      Json.intText content.length⟩ ((content.length : Int) = a.sizeBytes)
  let extracted ← (bundle.memberNames.dedup.insertionSort (· ≤ ·)).mapM fun name ↦ do
    let content ← orRaise ⟨.keyError, name⟩ (file.members.get? name)
    pure (name, content)
  pure (bundle, Dict.ofPairs extracted)

/-! ### Provenance of a bundle -/

/-- The node of the bundle itself. -/
def bundleNode (raw : Bytes) (b : OperationalBundle) : ProvenanceNode :=
  ⟨lit "bundle", lit "operational_bundle", sha256 raw, lit "bundle:" ++ b.bundleId, b.ids, none⟩

/-- The node of an artifact. -/
def artifactNode (a : OperationalArtifact) : ProvenanceNode :=
  ⟨a.artifactId, a.kind, a.sha256, lit "artifact:" ++ a.artifactId, a.derivedFrom, none⟩

/-- `build_provenance_graph_for_bundle`, `services/provenance_service.py:59–88`. -/
def provenanceGraphForBundle (raw : Bytes) (b : OperationalBundle) :
    Except PyError ProvenanceGraph := do
  let nodes := b.artifacts.map artifactNode ++ [bundleNode raw b]
  forM nodes ProvenanceNode.check
  ProvenanceGraph.create nodes
    ((nodes.flatMap fun n ↦ n.derivedFrom.map fun parent ↦ (n.nodeId, parent)) ++
      b.ids.map fun id ↦ (lit "bundle", id))

/-- `build_integrity_proof` of a graph and pairs, `services/provenance_service.py:152–194`: whether
its edges are in order and each pair is connected. -/
def integrityVerified (g : ProvenanceGraph) (pairs : List (Text × Text)) : Except PyError Bool := do
  let edges := g.validateRequiredEdges.toBool
  let connected := pairs.all fun p ↦ (g.reachable p.1 p.2).toOption.getD false
  let _ ← g.graphDigest
  pure (edges && connected)

/-- The check of one node against the artifact of its name,
`services/provenance_service.py:111–126`. -/
def checkArtifactNode (b : OperationalBundle) (n : ProvenanceNode) : Except PyError Unit :=
  if n.nodeId = lit "bundle" then .ok () else do
    let artifact ← orRaise ⟨.valueError, lit "operational bundle provenance artifact mismatch: " ++
      n.nodeId⟩ (b.artifact? n.nodeId)
    require ⟨.valueError, lit "operational bundle provenance artifact mismatch: " ++ n.nodeId⟩
      (n.kind = artifact.kind ∧ n.digest = artifact.sha256)
    require ⟨.valueError, lit "operational bundle provenance artifact identity mismatch: " ++
      n.nodeId⟩ (n.identity = lit "artifact:" ++ artifact.artifactId)

/-- `verify_bundle_provenance`, `services/provenance_service.py:91–126`. -/
def verifyBundleProvenance (raw : Bytes) (b : OperationalBundle) : Except PyError Unit := do
  let graph ← provenanceGraphForBundle raw b
  let verified ← integrityVerified graph (b.ids.map fun id ↦ (lit "bundle", id))
  require ⟨.valueError, lit "operational bundle provenance integrity verification failed."⟩ verified
  let node ← graph.node (lit "bundle")
  require ⟨.valueError, lit "operational bundle provenance identity or digest mismatch."⟩
    (node.digest = sha256 raw ∧ node.identity = lit "bundle:" ++ b.bundleId)
  forM graph.nodes (checkArtifactNode b)

/-! ### Verifying -/

/-- `DEFAULT_MAX_INPUT_BYTES`, `domain/runtime_containment.py:13`. -/
def maxInputBytes : Nat := 64 * 1024 * 1024

/-- The check of an artifact's content, `services/operations_service.py:269–279`. -/
def checkArtifactContent (files : Dict Bytes) (a : OperationalArtifact) : Except PyError Unit := do
  let content ← orRaise ⟨.keyError, a.memberName⟩ (files.get? a.memberName)
  require ⟨.valueError, lit "Size mismatch for artifact " ++ a.artifactId ++ lit "."⟩
    ((content.length : Int) = a.sizeBytes)
  require ⟨.valueError, lit "Digest mismatch for artifact " ++ a.artifactId ++ lit ": expected " ++
    a.sha256 ++ lit ", got " ++ sha256 content⟩ (sha256 content = a.sha256)

/-- `verify_bundle`, `services/operations_service.py:247–280`. -/
def verifyBundle (file : BundleFile) : Except PyError OperationalBundle := do
  require ⟨.valueError, lit "bundle exceeds maximum input size of 67108864 bytes"⟩
    (file.raw.length ≤ maxInputBytes)
  let (bundle, files) ← readManifest int file
  let manifestId ← bundle.computedManifestId
  require ⟨.valueError, lit "Bundle manifest_id integrity check failed."⟩
    (bundle.manifestId = manifestId)
  let bundleId ← bundle.computedBundleId
  require ⟨.valueError, lit "Bundle bundle_id integrity check failed."⟩ (bundle.bundleId = bundleId)
  checkContents bundle files.keys
  forM bundle.artifacts (checkArtifactContent files)
  verifyBundleProvenance file.raw bundle
  pure bundle

end StateWake.Operations
