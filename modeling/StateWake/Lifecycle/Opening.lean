import StateWake.Base.Calls
import StateWake.Base.JsonRoundTrip
import StateWake.Lifecycle.RunIndex

/-!
# Opening a workspace

`StateWakeWorkspace.open` of `workspace/workspace.py:97–138`. The identity of a workspace stands
in a manifest file and in a row of the database, which also records the package version. The row
is compared whole when a workspace is opened again, so a workspace opens again under the version
of its row and under no other.
-/

namespace StateWake.Lifecycle

open StateWake.Base Text Utils

/-! ### Identities -/

/-- `__version__` of a release of the package: a text of the source that can be encoded. -/
structure PackageVersion where
  text : Text
  whole : SurrogateFree text

/-- `WorkspaceIdentity`, `workspace/models.py:11–31`. -/
structure WorkspaceIdentity where
  workspaceId : Text
  createdAt : Text
  schemaVersion : Text
  publicApiContractVersion : Text
  deriving DecidableEq

namespace WorkspaceIdentity

/-- The checks of `__post_init__`. -/
def create (i : WorkspaceIdentity) : Except PyError WorkspaceIdentity := do
  require ⟨.valueError, lit "workspace_id must not be blank."⟩ (!blank i.workspaceId)
  require ⟨.valueError, lit "created_at must not be blank."⟩ (!blank i.createdAt)
  require ⟨.valueError, lit "schema_version must not be blank."⟩ (!blank i.schemaVersion)
  require ⟨.valueError, lit "statewake_public_api_contract_version must not be blank."⟩
    (!blank i.publicApiContractVersion)
  pure i

/-- The texts of an identity. -/
def texts (i : WorkspaceIdentity) : List Text :=
  [i.workspaceId, i.createdAt, i.schemaVersion, i.publicApiContractVersion]

end WorkspaceIdentity

instance Draw.instNeZero : NeZero (2 ^ 128) := ⟨by decide⟩

/-- `'%032x' % n`. -/
def hexText (n : Nat) : Text := (List.range 32).map fun i ↦ hexDigit (n / 16 ^ (31 - i))

/-- `str(uuid4())` for 128 random bits. -/
def uuidText (bits : Fin (2 ^ 128)) : Text :=
  let hex := hexText bits.val
  hex.take 8 ++ lit "-" ++ (hex.drop 8).take 4 ++ lit "-" ++ (hex.drop 12).take 4 ++ lit "-" ++
    (hex.drop 16).take 4 ++ lit "-" ++ hex.drop 20

/-- What `open` draws where it creates a workspace: random bits and the time. -/
structure Draw where
  bits : Fin (2 ^ 128)
  now : Datetime

/-- `_create_identity`, `workspace/workspace.py:588–596`, under the configuration's default schema
version. -/
def createIdentity (draw : Draw) : Except PyError WorkspaceIdentity :=
  WorkspaceIdentity.create ⟨uuidText draw.bits, isoformat draw.now, lit "1", lit "1"⟩

/-! ### The manifest -/

/-- The payload of `_write_manifest`, `workspace/workspace.py:598–625`. -/
def manifestMembers (i : WorkspaceIdentity) (version : PackageVersion) : Dict Json :=
  [(lit "workspace_id", .str i.workspaceId), (lit "schema_version", .str i.schemaVersion),
    (lit "statewake_version", .str version.text),
    (lit "public_api_contract_version", .str i.publicApiContractVersion),
    (lit "created_at", .str i.createdAt), (lit "storage_backend", .str (lit "sqlite")),
    (lit "artifact_store", .str (lit "content-addressed-sha256")), (lit "policy_ids", .arr []),
    (lit "features", .arr [])]

/-- `json.dumps(payload, ensure_ascii=False, indent=2, sort_keys=True)`. -/
def manifestStyle : Json.Style := ⟨false, some 2⟩

/-- The bytes of `_write_manifest`. -/
def manifestBytes (i : WorkspaceIdentity) (version : PackageVersion) : Except PyError Bytes :=
  Utf8.toBytes (Json.dumps manifestStyle (.obj (manifestMembers i version)) ++ [Lines.newline])

/-- `_read_manifest`, `workspace/workspace.py:627–662`. -/
def readManifest (content : Bytes) : Except PyError WorkspaceIdentity := do
  let text ← Utf8.ofBytes content
  let payload ← orRaise ⟨.workspaceManifestError, lit "workspace manifest could not be read."⟩
    (Json.loads text).toOption
  let members ← orRaise ⟨.attributeError, []⟩ payload.asObject
  let identityText (field : Text) : Except PyError Text :=
    orRaise ⟨.workspaceManifestError, lit "workspace manifest has invalid identity fields."⟩
      ((members.get? field).bind Json.asText)
  let workspaceId ← identityText (lit "workspace_id")
  let createdAt ← identityText (lit "created_at")
  let schemaVersion ← identityText (lit "schema_version")
  let contract ← identityText (lit "public_api_contract_version")
  require ⟨.workspaceSchemaError, lit "unsupported workspace schema version: " ++ schemaVersion⟩
    (schemaVersion = lit "1")
  WorkspaceIdentity.create ⟨workspaceId, createdAt, schemaVersion, contract⟩

/-! ### The database -/

/-- A row of `workspace`, `workspace/schema.py:8–14`. -/
structure WorkspaceRow where
  workspaceId : Text
  schemaVersion : Text
  createdAt : Text
  statewakeVersion : Text
  publicApiContract : Text
  deriving DecidableEq

/-- The values of `set_workspace_metadata`. -/
def metadataRow (i : WorkspaceIdentity) (version : PackageVersion) : WorkspaceRow :=
  ⟨i.workspaceId, i.schemaVersion, i.createdAt, version.text, i.publicApiContractVersion⟩

/-- The names of `EXPECTED_TABLES`, in order. -/
def expectedTables : List Text :=
  [lit "deletions", lit "exports", lit "records", lit "relationships", lit "retention",
    lit "runs", lit "state_transitions", lit "workspace"]

/-- The names of `EXPECTED_INDEXES`, in order. -/
def expectedIndexes : List Text :=
  [lit "idx_deletions_deleted_at", lit "idx_exports_created", lit "idx_records_artifact_digest",
    lit "idx_records_producer_captured", lit "idx_records_receipt_id",
    lit "idx_records_run_captured", lit "idx_relationships_target", lit "idx_retention_policy",
    lit "idx_runs_producer_started", lit "idx_state_transitions_subject_occurred"]

/-- The database file but for the tables of the index: the schema, and the rows of `workspace` in
the order of insertion. The names are those of `sqlite_master`, in order. -/
structure Database where
  userVersion : Nat
  tables : List Text
  indexes : List Text
  workspace : List WorkspaceRow
  deriving DecidableEq

/-- `SCHEMA_VERSION`. -/
def supportedSchema : Nat := 1

/-- A database that SQLite has just created. -/
def newDatabase : Database := ⟨0, [], [], []⟩

/-- A database after `SCHEMA_SQL`. -/
def createdDatabase : Database := ⟨supportedSchema, expectedTables, expectedIndexes, []⟩

/-- A workspace folder: the directories made in it, the manifest file, the database file, and the
evidence with its index. -/
structure WorkspaceRoot where
  directories : List Text
  manifest : Option Bytes
  database : Option Database
  content : Workspace

namespace WorkspaceRoot

/-- A folder before it is opened for the first time. -/
def absent : WorkspaceRoot := ⟨[], none, none, Workspace.empty⟩

/-- `required_directories`, `workspace/configuration.py:74–89`, below the root. -/
def requiredDirectories : List Text :=
  [lit ".", lit "artifacts", lit "receipts", lit "state", lit "proofs", lit "exports",
    lit "exports/parquet", lit "exports/csv", lit "exports/xlsx", lit "exports/json",
    lit "manifests", lit "locks"]

/-- `_initialize_directories`, `workspace/workspace.py:582–586`. -/
def initializeDirectories (s : WorkspaceRoot) : WorkspaceRoot :=
  { s with directories := s.directories ++ requiredDirectories.filter (· ∉ s.directories) }

/-- The identity of a folder, read from its manifest or created with one,
`workspace/workspace.py:110–114`. -/
def ensureManifest (version : PackageVersion) (draw : Draw) (s : WorkspaceRoot) :
    Except PyError (WorkspaceIdentity × WorkspaceRoot) :=
  match s.manifest with
  | some content => do
    let identity ← readManifest content
    pure (identity, s)
  | none => do
    let identity ← createIdentity draw
    let content ← manifestBytes identity version
    pure (identity, { s with manifest := some content })

/-- `initialize`, `workspace/sqlite_repository.py:49–96`, for a writable repository. -/
def initializeSchema (s : WorkspaceRoot) : Except PyError WorkspaceRoot :=
  let database := s.database.getD newDatabase
  if supportedSchema < database.userVersion then
    .error ⟨.unsupportedWorkspaceSchemaError,
      lit "workspace database schema " ++ Decimal.decimal database.userVersion ++
        lit " is newer than supported schema " ++ Decimal.decimal supportedSchema⟩
  else if database.userVersion = 0 then
    if database.tables ≠ [] then
      .error ⟨.corruptWorkspaceDatabaseError, lit "workspace database has unversioned tables"⟩
    else .ok { s with database := some createdDatabase }
  else if database.userVersion ≠ supportedSchema ∨ database.tables ≠ expectedTables ∨
      database.indexes ≠ expectedIndexes then
    .error ⟨.unsupportedWorkspaceSchemaError,
      lit "workspace database schema is incomplete or unsupported"⟩
  else if !s.content.foreignKeysHold then
    .error ⟨.corruptWorkspaceDatabaseError, lit "workspace database foreign-key check failed"⟩
  else .ok { s with database := some database }

/-- `set_workspace_metadata`, `workspace/sqlite_repository.py:772–810`, in its transaction. -/
def setWorkspaceMetadata (identity : WorkspaceIdentity) (version : PackageVersion)
    (s : WorkspaceRoot) : Except PyError WorkspaceRoot :=
  match s.database with
  | none => .error ⟨.corruptWorkspaceDatabaseError, lit "workspace metadata could not be stored"⟩
  | some database =>
    match database.workspace with
    | [] => do
      bindTexts (version.text :: identity.texts)
      pure { s with database := some { database with workspace := [metadataRow identity version] } }
    | row :: _ => do
      require ⟨.corruptWorkspaceDatabaseError,
        lit "workspace metadata does not match the workspace identity"⟩
        (row = metadataRow identity version)
      pure s

/-! ### Opening -/

/-- The steps of `open` after which it can stop. -/
inductive Step where
  | directories
  | manifest
  | schema
  | metadata
  deriving DecidableEq, Repr

/-- The rest of `open` once the identity is known, whole or stopped after a step. The last step is
`recover`. -/
def completeOpening (identity : WorkspaceIdentity) (version : PackageVersion) (stop : Option Step)
    (s : WorkspaceRoot) : Except PyError (Option WorkspaceIdentity) × WorkspaceRoot :=
  match s.initializeSchema with
  | .error e => (.error e, s)
  | .ok s =>
    if stop = some .schema then (.ok none, s)
    else
      match s.setWorkspaceMetadata identity version with
      | .error e => (.error e, s)
      | .ok s =>
        if stop = some .metadata then (.ok none, s)
        else
          match s.initializeSchema with
          | .error e => (.error e, s)
          | .ok s => (.ok (some identity), s)

/-- `open`, `workspace/workspace.py:97–138`, whole or stopped after a step. It gives the identity
of the opened workspace, or none where it was stopped. -/
def openWorkspace (version : PackageVersion) (draw : Draw) (stop : Option Step)
    (s : WorkspaceRoot) : Except PyError (Option WorkspaceIdentity) × WorkspaceRoot :=
  let s := s.initializeDirectories
  if stop = some .directories then (.ok none, s)
  else
    match s.ensureManifest version draw with
    | .error e => (.error e, s)
    | .ok (identity, s) =>
      if stop = some .manifest then (.ok none, s)
      else s.completeOpening identity version stop

/-- What happens to a workspace folder. -/
inductive Event where
  | opened (version : PackageVersion) (draw : Draw) (stop : Option Step)
  | worked (governance : Option PrivacyGovernance) (op : Workspace.Operation)

/-- One event. Only an opened workspace can be worked in: its row is stored. -/
def step (s : WorkspaceRoot) : Event → Except PyError (Option WorkspaceIdentity) × WorkspaceRoot
  | .opened version draw stop => s.openWorkspace version draw stop
  | .worked governance op =>
    if s.database.any fun database ↦ database.workspace ≠ [] then
      (.ok none, { s with content := (Workspace.apply governance s.content op).2 })
    else (.ok none, s)

/-- The identity in the manifest. -/
def identity? (s : WorkspaceRoot) : Option WorkspaceIdentity :=
  s.manifest.bind fun content ↦ (readManifest content).toOption

/-- The rows of `workspace`. -/
def rows (s : WorkspaceRoot) : List WorkspaceRow := s.database.elim [] Database.workspace

/-- The manifest holds the identity and the database one row, of the same identity. -/
structure Agrees (s : WorkspaceRoot) (identity : WorkspaceIdentity) : Prop where
  manifest : s.identity? = some identity
  row : ∃ version, s.rows = [metadataRow identity version]

/-- An opening does not raise. One that is not stopped gives the identity the folder had, and
leaves manifest and row in agreement. -/
def Reopens (s : WorkspaceRoot) : Event → Prop
  | .opened version draw stop =>
    match s.openWorkspace version draw stop with
    | (.error _, _) => False
    | (.ok none, _) => stop ≠ none
    | (.ok (some identity), s') => (∀ i, s.identity? = some i → i = identity) ∧ s'.Agrees identity
  | .worked _ _ => True

/-- An opening that comes to the row finds none, or the one of its own version. -/
def SameVersion (s : WorkspaceRoot) : Event → Prop
  | .opened version _ stop => (stop = none ∨ stop = some .metadata) →
      ∀ row ∈ s.rows, row.statewakeVersion = version.text
  | .worked _ _ => True

/-! ### Written manifests -/

/-- An identity as `open` creates it: it passes its checks and can be stored. -/
structure Sound (i : WorkspaceIdentity) : Prop where
  valid : WorkspaceIdentity.create i = .ok i
  supported : i.schemaVersion = lit "1"
  encodable : ∀ s ∈ i.texts, SurrogateFree s

private theorem isAscii_uuidText (bits : Fin (2 ^ 128)) : Utf8.IsAscii (uuidText bits) := by
  have hhex : Utf8.IsAscii (hexText bits.val) := by
    intro c hc
    obtain ⟨i, -, rfl⟩ := List.mem_map.mp hc
    rw [val_hexDigit]
    split <;> omega
  have hdash : Utf8.IsAscii (lit "-") := by
    intro c hc
    rw [List.mem_singleton.mp hc]
    decide
  have happend {s t : Text} (hs : Utf8.IsAscii s) (ht : Utf8.IsAscii t) : Utf8.IsAscii (s ++ t) :=
    fun c hc ↦ (List.mem_append.mp hc).elim (hs c) (ht c)
  have htake (k n : Nat) : Utf8.IsAscii (((hexText bits.val).drop k).take n) :=
    fun c hc ↦ hhex c (List.mem_of_mem_drop (List.mem_of_mem_take hc))
  have hdrop : Utf8.IsAscii ((hexText bits.val).drop 20) :=
    fun c hc ↦ hhex c (List.mem_of_mem_drop hc)
  exact happend (happend (happend (happend (happend (happend (happend (happend (htake 0 8) hdash)
    (htake 8 4)) hdash) (htake 12 4)) hdash) (htake 16 4)) hdash) hdrop

private theorem not_blank_uuidText (bits : Fin (2 ^ 128)) : blank (uuidText bits) = false := by
  rw [← Bool.not_eq_true, blank_iff]
  intro h
  exact absurd (h 0x2D (by simp [uuidText, show lit "-" = [0x2D] from rfl])) (by decide)

/-- A new identity is sound. -/
theorem createIdentity_sound (draw : Draw) : ∃ i, createIdentity draw = .ok i ∧ Sound i := by
  have hone : blank (lit "1") = false := by decide
  have hvalid : createIdentity draw =
      .ok ⟨uuidText draw.bits, isoformat draw.now, lit "1", lit "1"⟩ := by
    simp [createIdentity, WorkspaceIdentity.create, not_blank_uuidText, not_blank_isoformat, hone]
  refine ⟨_, hvalid, hvalid, rfl, ?_⟩
  simp only [WorkspaceIdentity.texts, List.forall_mem_cons]
  exact ⟨(isAscii_uuidText _).surrogateFree, surrogateFree_isoformat _, surrogateFree_lit _,
    surrogateFree_lit _, nofun⟩

private theorem writable_manifest (i : WorkspaceIdentity) (version : PackageVersion) :
    Json.Writable (.obj (manifestMembers i version)) := by
  simp [manifestMembers, Dict.Distinct]

/-- A manifest can be written, and its text is that of an object with its members. -/
theorem loads_manifestBytes {i : WorkspaceIdentity} (hi : Sound i) (version : PackageVersion) :
    ∃ content text members, manifestBytes i version = .ok content ∧
      Utf8.ofBytes content = .ok text ∧ Json.loads text = .ok (.obj members) ∧
      ∀ key, Dict.get? members key = (Dict.get? (manifestMembers i version) key).map
        fun v ↦ Json.readback manifestStyle v.sortKeys := by
  have hw := writable_manifest i version
  have htexts : ∀ s ∈ Json.texts (.obj (manifestMembers i version)), SurrogateFree s := by
    have hencodable := hi.encodable
    simp only [WorkspaceIdentity.texts, List.forall_mem_cons] at hencodable
    rw [Json.forall_texts_obj]
    simp [manifestMembers, hencodable, version.whole]
  have hsf : SurrogateFree
      (Json.dumps manifestStyle (.obj (manifestMembers i version)) ++ [Lines.newline]) :=
    surrogateFree_append (Json.surrogateFree_dumps _ hw htexts) fun c hc ↦ by
      rw [List.mem_singleton.mp hc]
      rfl
  obtain ⟨content, hcontent⟩ := Option.isSome_iff_exists.mp ((Utf8.encode_isSome_iff _).mpr hsf)
  have hbytes : manifestBytes i version = .ok content := by
    rw [manifestBytes, Utf8.toBytes, hcontent, orRaise_some]
  have hd : (manifestMembers i version).Distinct := ((Json.writable_obj _).mp hw).1
  exact ⟨content, _, _, hbytes, Utf8.ofBytes_of_toBytes hbytes,
    Json.loads_dumps_obj_append manifestStyle hw Json.isBlank_newline,
    fun key ↦ Json.get?_readMembers _ hd key⟩

/-- A manifest can be written, and is read back as the identity it was written for. -/
theorem readManifest_manifestBytes {i : WorkspaceIdentity} (hi : Sound i)
    (version : PackageVersion) :
    ∃ content, manifestBytes i version = .ok content ∧ readManifest content = .ok i := by
  obtain ⟨content, text, members, hbytes, htext, hloads, hget⟩ := loads_manifestBytes hi version
  refine ⟨content, hbytes, ?_⟩
  rw [readManifest, htext, ok_bind, hloads]
  simp only [Except.toOption, orRaise_some, ok_bind, Json.asObject, hget]
  simp [manifestMembers, Json.readback, manifestStyle, Json.asText, hi.supported]
  rw [← hi.supported]
  exact hi.valid

/-! ### The phases of a folder -/

/-- How far the openings of a folder have come. -/
inductive Phase (s : WorkspaceRoot) : Prop where
  | fresh (hm : s.manifest = none) (hd : s.database = none)
  | named (i : WorkspaceIdentity) (hi : Sound i) (hm : s.identity? = some i)
      (hd : s.database = none)
  | created (i : WorkspaceIdentity) (hi : Sound i) (hm : s.identity? = some i)
      (hd : s.database = some createdDatabase)
  | stored (i : WorkspaceIdentity) (version : PackageVersion) (hm : s.identity? = some i)
      (hd : s.database = some { createdDatabase with workspace := [metadataRow i version] })

/-- A folder that only openings and the work of opened workspaces have touched. -/
structure Kept (s : WorkspaceRoot) : Prop where
  phase : Phase s
  foreignKeys : s.content.foreignKeysHold = true

theorem kept_absent : absent.Kept := ⟨.fresh rfl rfl, rfl⟩

private theorem readManifest_of_identity? {s : WorkspaceRoot} {i : WorkspaceIdentity}
    (h : s.identity? = some i) : ∃ content, s.manifest = some content ∧
      readManifest content = .ok i := by
  obtain ⟨content, hcontent, hread⟩ := Option.bind_eq_some_iff.mp h
  refine ⟨content, hcontent, ?_⟩
  cases hr : readManifest content with
  | error e =>
    rw [hr] at hread
    cases hread
  | ok j =>
    rw [hr] at hread
    cases hread
    rfl

/-- A folder with a manifest keeps it. -/
theorem ensureManifest_of_identity? {s : WorkspaceRoot} {i : WorkspaceIdentity}
    (h : s.identity? = some i) (version : PackageVersion) (draw : Draw) :
    s.ensureManifest version draw = .ok (i, s) := by
  obtain ⟨content, hcontent, hread⟩ := readManifest_of_identity? h
  rw [ensureManifest, hcontent]
  dsimp only
  rw [hread]
  rfl

/-- A folder without a manifest is given one, with a new identity. -/
theorem ensureManifest_of_fresh {s : WorkspaceRoot} (h : s.manifest = none)
    (version : PackageVersion) (draw : Draw) :
    ∃ i content, Sound i ∧ readManifest content = .ok i ∧
      s.ensureManifest version draw = .ok (i, { s with manifest := some content }) := by
  obtain ⟨i, hcreate, hi⟩ := createIdentity_sound draw
  obtain ⟨content, hcontent, hread⟩ := readManifest_manifestBytes hi version
  refine ⟨i, content, hi, hread, ?_⟩
  rw [ensureManifest, h]
  dsimp only
  rw [hcreate, ok_bind, hcontent]
  rfl

theorem initializeSchema_of_none {s : WorkspaceRoot} (h : s.database = none) :
    s.initializeSchema = .ok { s with database := some createdDatabase } := by
  rw [initializeSchema, h]
  rfl

/-- A schema that was created is found complete. -/
theorem initializeSchema_of_created {s : WorkspaceRoot} {rows : List WorkspaceRow}
    (h : s.database = some { createdDatabase with workspace := rows })
    (hf : s.content.foreignKeysHold = true) : s.initializeSchema = .ok s := by
  obtain ⟨directories, manifest, database, content⟩ := s
  cases h
  simp [initializeSchema, createdDatabase, supportedSchema, hf]

theorem setWorkspaceMetadata_of_created {s : WorkspaceRoot} {i : WorkspaceIdentity}
    (h : s.database = some createdDatabase) (hi : Sound i) (version : PackageVersion) :
    s.setWorkspaceMetadata i version =
      .ok { s with
        database := some { createdDatabase with workspace := [metadataRow i version] } } := by
  have hbind : bindTexts (version.text :: i.texts) = .ok () := by
    rw [bindTexts_eq_ok, List.forall_mem_cons]
    exact ⟨version.whole, hi.encodable⟩
  rw [setWorkspaceMetadata, h]
  simp only [createdDatabase]
  rw [hbind]
  rfl

theorem metadataRow_inj {i : WorkspaceIdentity} {v w : PackageVersion} :
    metadataRow i v = metadataRow i w ↔ v.text = w.text := by
  simp [metadataRow]

/-- A stored row passes under the version it was stored by, and under no other. -/
theorem setWorkspaceMetadata_of_stored {s : WorkspaceRoot} {i : WorkspaceIdentity}
    {stored : PackageVersion}
    (h : s.database = some { createdDatabase with workspace := [metadataRow i stored] })
    (version : PackageVersion) :
    s.setWorkspaceMetadata i version =
      if stored.text = version.text then .ok s
      else .error ⟨.corruptWorkspaceDatabaseError,
        lit "workspace metadata does not match the workspace identity"⟩ := by
  rw [setWorkspaceMetadata, h]
  dsimp only
  by_cases hv : stored.text = version.text
  · rw [if_pos hv, decide_eq_true (metadataRow_inj.mpr hv), require_true]
    rfl
  · rw [if_neg hv, decide_eq_false (mt metadataRow_inj.mp hv)]
    rfl

/-- The folder once the row of an identity is stored under a version. -/
def withRow (s : WorkspaceRoot) (i : WorkspaceIdentity) (version : PackageVersion) :
    WorkspaceRoot :=
  { s with database := some { createdDatabase with workspace := [metadataRow i version] } }

/-- Without a row, an opening goes through. -/
theorem completeOpening_of_rowless {s : WorkspaceRoot} {i : WorkspaceIdentity}
    (hd : s.database = none ∨ s.database = some createdDatabase)
    (hf : s.content.foreignKeysHold = true) (hi : Sound i) (version : PackageVersion)
    (stop : Option Step) :
    s.completeOpening i version stop =
      if stop = some .schema then (.ok none, { s with database := some createdDatabase })
      else if stop = some .metadata then (.ok none, s.withRow i version)
      else (.ok (some i), s.withRow i version) := by
  have hschema : s.initializeSchema = .ok { s with database := some createdDatabase } := by
    rcases hd with hd | hd
    · exact initializeSchema_of_none hd
    · rw [initializeSchema_of_created hd hf, ← hd]
  have hmetadata : ({ s with database := some createdDatabase }).setWorkspaceMetadata i version =
      .ok (s.withRow i version) := setWorkspaceMetadata_of_created rfl hi version
  have hrecover : (s.withRow i version).initializeSchema = .ok (s.withRow i version) :=
    initializeSchema_of_created rfl hf
  rw [completeOpening, hschema]
  dsimp only
  rw [hmetadata]
  dsimp only
  rw [hrecover]

/-- With a row, an opening goes through under the version of the row. -/
theorem completeOpening_of_stored {s : WorkspaceRoot} {i : WorkspaceIdentity}
    {stored : PackageVersion}
    (hd : s.database = some { createdDatabase with workspace := [metadataRow i stored] })
    (hf : s.content.foreignKeysHold = true) (version : PackageVersion) (stop : Option Step) :
    s.completeOpening i version stop =
      if stop = some .schema then (.ok none, s)
      else if stored.text = version.text then
        if stop = some .metadata then (.ok none, s) else (.ok (some i), s)
      else (.error ⟨.corruptWorkspaceDatabaseError,
        lit "workspace metadata does not match the workspace identity"⟩, s) := by
  rw [completeOpening, initializeSchema_of_created hd hf]
  dsimp only
  rw [setWorkspaceMetadata_of_stored hd]
  by_cases hv : stored.text = version.text
  · rw [if_pos hv, if_pos hv]
    dsimp only
    rw [initializeSchema_of_created hd hf]
  · rw [if_neg hv, if_neg hv]

/-- An opening that is not stopped gives the identity of the manifest. -/
private theorem completeOpening_identity {s : WorkspaceRoot} {i j : WorkspaceIdentity}
    {version : PackageVersion} {stop : Option Step}
    (h : (s.completeOpening i version stop).1 = .ok (some j)) : j = i := by
  unfold completeOpening at h
  split at h
  · cases h
  split at h
  · cases h
  split at h
  · cases h
  split at h
  · cases h
  split at h
  · cases h
  · cases h
    rfl

/-- The rest of an opening, from a folder whose manifest holds the identity. -/
private theorem completeOpening_reopens {s : WorkspaceRoot} {i : WorkspaceIdentity}
    (hm : s.identity? = some i) (hf : s.content.foreignKeysHold = true)
    (hp : (Sound i ∧ (s.database = none ∨ s.database = some createdDatabase)) ∨
      ∃ stored, s.database = some { createdDatabase with workspace := [metadataRow i stored] })
    (version : PackageVersion) {stop : Option Step} (hstop : stop ≠ some .directories)
    (hstop' : stop ≠ some .manifest) :
    (match s.completeOpening i version stop with
      | (.error _, _) => False
      | (.ok none, _) => stop ≠ none
      | (.ok (some j), s') => i = j ∧ s'.Agrees j) ↔
    ((stop = none ∨ stop = some .metadata) →
      ∀ row ∈ s.rows, row.statewakeVersion = version.text) := by
  rcases hp with ⟨hi, hd⟩ | ⟨stored, hd⟩
  · have hrows : s.rows = [] := by rcases hd with hd | hd <;> simp [rows, hd, createdDatabase]
    rw [completeOpening_of_rowless hd hf hi, hrows]
    refine iff_of_true ?_ fun _ _ hrow ↦ absurd hrow List.not_mem_nil
    cases stop with
    | none => exact ⟨rfl, hm, version, rfl⟩
    | some step => cases step <;> simp at hstop hstop' ⊢
  · have hrows : s.rows = [metadataRow i stored] := by rw [rows, hd]; rfl
    rw [completeOpening_of_stored hd hf, hrows]
    by_cases hv : stored.text = version.text
    · refine iff_of_true ?_ fun _ row hrow ↦ ?_
      · cases stop with
        | none =>
          simp only [hv]
          exact ⟨rfl, hm, stored, hrows⟩
        | some step => cases step <;> simp [hv] at hstop hstop' ⊢
      · rw [List.mem_singleton.mp hrow]
        exact hv
    · have hrow : ¬∀ row ∈ [metadataRow i stored], row.statewakeVersion = version.text :=
        fun h ↦ hv (h _ (List.mem_singleton_self _))
      cases stop with
      | none => simp [hv, metadataRow]
      | some step => cases step <;> simp [hv, metadataRow] at hstop hstop' ⊢

/-- The rest of an opening leaves one of the phases. -/
private theorem completeOpening_kept {s : WorkspaceRoot} {i : WorkspaceIdentity}
    (hm : s.identity? = some i) (hf : s.content.foreignKeysHold = true)
    (hp : (Sound i ∧ (s.database = none ∨ s.database = some createdDatabase)) ∨
      ∃ stored, s.database = some { createdDatabase with workspace := [metadataRow i stored] })
    (version : PackageVersion) (stop : Option Step) :
    (s.completeOpening i version stop).2.Kept := by
  rcases hp with ⟨hi, hd⟩ | ⟨stored, hd⟩
  · rw [completeOpening_of_rowless hd hf hi]
    split
    · exact ⟨.created i hi hm rfl, hf⟩
    split
    · exact ⟨.stored i version hm rfl, hf⟩
    · exact ⟨.stored i version hm rfl, hf⟩
  · rw [completeOpening_of_stored hd hf]
    have hkept : s.Kept := ⟨.stored i stored hm hd, hf⟩
    split
    · exact hkept
    split
    · split
      · exact hkept
      · exact hkept
    · exact hkept

/-! ### Runs -/

/-- What the first two steps of an opening leave. -/
structure Named (s s' : WorkspaceRoot) (i : WorkspaceIdentity) : Prop where
  identity : s'.identity? = some i
  same : ∀ j, s.identity? = some j → j = i
  database : s'.database = s.database
  foreignKeys : s'.content.foreignKeysHold = true
  phase : (Sound i ∧ (s'.database = none ∨ s'.database = some createdDatabase)) ∨
    ∃ stored, s'.database = some { createdDatabase with workspace := [metadataRow i stored] }

/-- The first two steps of an opening go through. -/
theorem ensureManifest_spec {s : WorkspaceRoot} (hs : s.Kept) (version : PackageVersion)
    (draw : Draw) : ∃ i s', s.initializeDirectories.ensureManifest version draw = .ok (i, s') ∧
      Named s s' i ∧ s'.Kept := by
  have hnamed {i : WorkspaceIdentity} (hm : s.identity? = some i) :
      s.initializeDirectories.ensureManifest version draw = .ok (i, s.initializeDirectories) :=
    ensureManifest_of_identity? (s := s.initializeDirectories) hm version draw
  have hsame {i : WorkspaceIdentity} (hm : s.identity? = some i) :
      ∀ j, s.identity? = some j → j = i := by
    intro j hj
    rw [hm] at hj
    exact (Option.some.inj hj).symm
  cases hs.phase with
  | fresh hm hd =>
    obtain ⟨i, content, hi, hread, h⟩ :=
      ensureManifest_of_fresh (s := s.initializeDirectories) hm version draw
    have hidentity : ({ s.initializeDirectories with manifest := some content }).identity? =
        some i := by simp [identity?, hread, Except.toOption]
    refine ⟨i, _, h, ⟨hidentity, ?_, rfl, hs.foreignKeys, .inl ⟨hi, .inl hd⟩⟩,
      .named i hi hidentity hd, hs.foreignKeys⟩
    intro j hj
    rw [identity?, hm] at hj
    cases hj
  | named i hi hm hd =>
    exact ⟨i, _, hnamed hm, ⟨hm, hsame hm, rfl, hs.foreignKeys, .inl ⟨hi, .inl hd⟩⟩,
      .named i hi hm hd, hs.foreignKeys⟩
  | created i hi hm hd =>
    exact ⟨i, _, hnamed hm, ⟨hm, hsame hm, rfl, hs.foreignKeys, .inl ⟨hi, .inr hd⟩⟩,
      .created i hi hm hd, hs.foreignKeys⟩
  | stored i stored hm hd =>
    exact ⟨i, _, hnamed hm, ⟨hm, hsame hm, rfl, hs.foreignKeys, .inr ⟨stored, hd⟩⟩,
      .stored i stored hm hd, hs.foreignKeys⟩

/-- In a folder that only openings and work have touched, an opening reopens the workspace
exactly when it comes to no row of another version. -/
theorem reopens_iff_of_kept {s : WorkspaceRoot} (hs : s.Kept) (event : Event) :
    s.Reopens event ↔ s.SameVersion event := by
  cases event with
  | worked governance op => exact Iff.rfl
  | opened version draw stop =>
    obtain ⟨i, s', h, hnamed, -⟩ := ensureManifest_spec hs version draw
    simp only [Reopens, SameVersion, openWorkspace]
    by_cases hdirectories : stop = some .directories
    · simp [hdirectories]
    rw [if_neg hdirectories, h]
    dsimp only
    by_cases hmanifest : stop = some .manifest
    · simp [hmanifest]
    rw [if_neg hmanifest]
    have hrows : s'.rows = s.rows := by rw [rows, hnamed.database]; rfl
    rw [← hrows, ← completeOpening_reopens hnamed.identity hnamed.foreignKeys hnamed.phase version
      hdirectories hmanifest]
    split
    · exact Iff.rfl
    · exact Iff.rfl
    · next j s'' hj =>
      have hij : j = i := completeOpening_identity (congrArg Prod.fst hj)
      rw [hij]
      exact and_congr_left fun _ ↦ ⟨fun _ ↦ rfl, fun _ ↦ hnamed.same⟩

/-- An event leaves such a folder such a folder. -/
theorem step_kept {s : WorkspaceRoot} (hs : s.Kept) (event : Event) : (s.step event).2.Kept := by
  cases event with
  | worked governance op =>
    rw [step]
    split
    · refine ⟨?_, Workspace.apply_foreignKeysHold hs.foreignKeys op⟩
      cases hs.phase with
      | fresh hm hd => exact .fresh hm hd
      | named i hi hm hd => exact .named i hi hm hd
      | created i hi hm hd => exact .created i hi hm hd
      | stored i version hm hd => exact .stored i version hm hd
    · exact hs
  | opened version draw stop =>
    obtain ⟨i, s', h, hnamed, hkept⟩ := ensureManifest_spec hs version draw
    simp only [step, openWorkspace]
    split
    · refine ⟨?_, hs.foreignKeys⟩
      cases hs.phase with
      | fresh hm hd => exact .fresh hm hd
      | named i hi hm hd => exact .named i hi hm hd
      | created i hi hm hd => exact .created i hi hm hd
      | stored i version hm hd => exact .stored i version hm hd
    · rw [h]
      dsimp only
      split
      · exact hkept
      · exact completeOpening_kept hnamed.identity hnamed.foreignKeys hnamed.phase version stop

private theorem along_reopens_iff (events : List Event) :
    Calls.Along step Reopens absent events ↔ Calls.Along step SameVersion absent events :=
  Calls.along_iff (J := Kept) (fun _ event hs ↦ reopens_iff_of_kept hs event)
    (fun _ event hs _ ↦ step_kept hs event) kept_absent events

/-- In every run of openings, whole and stopped, and of work between them, each opening reopens
the workspace under its identity exactly when each comes to no row of another version. -/
theorem reopens_iff (events : List Event) :
    Calls.Along step Reopens absent events ↔ Calls.Along step SameVersion absent events :=
  along_reopens_iff events

/-! ### An upgrade -/

private def release : PackageVersion := ⟨lit "0.5.1", surrogateFree_lit _⟩

private def nextRelease : PackageVersion := ⟨lit "0.5.2", surrogateFree_lit _⟩

private def someDraw : Draw := ⟨0, RetentionAdapter.epoch⟩

/-- A workspace created under one release does not open under the next. -/
theorem not_reopens : ¬∀ events, Calls.Along step Reopens absent events := by
  intro h
  have hsame := (along_reopens_iff [.opened release someDraw none,
    .opened nextRelease someDraw none]).mp (h _)
  have hrows : (absent.step (.opened release someDraw none)).2.rows.map
      WorkspaceRow.statewakeVersion = [release.text] := by decide +kernel
  have hversions : ∀ version ∈ [release.text], version = nextRelease.text := by
    rw [← hrows]
    intro version hversion
    obtain ⟨row, hrow, rfl⟩ := List.mem_map.mp hversion
    exact hsame.2.1 (.inl rfl) row hrow
  exact absurd (hversions _ (List.mem_singleton_self _)) (by decide)

end WorkspaceRoot
end StateWake.Lifecycle
