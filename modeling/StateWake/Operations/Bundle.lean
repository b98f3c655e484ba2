import StateWake.Lifecycle.DataLifecycle
import StateWake.Utils.JsonSupport

/-!
# Operational bundles

`domain/operations.py`: artifacts with sensitivities and sources, and the bundle of them whose
identities are digests of its manifest. An artifact is at least as sensitive as its sources.
-/

namespace StateWake.Operations

open StateWake.Base Text Utils Lifecycle

/-- `value.replace("\\", "/")`. -/
def slashes (value : Text) : Text := replaceAll value (lit "\x5c") (lit "/")

/-- `value.startswith("/")`. -/
def absolute (value : Text) : Bool := (lit "/").isPrefixOf value

/-- `value.split("/")`. -/
def components (value : Text) : List Text := value.splitOn (ofChar '/')

theorem slashes_eq (value : Text) :
    slashes value = value.map fun c ↦ if c = ofChar '\x5c' then ofChar '/' else c :=
  replaceAll_singleton value _ _

/-- A slash stays a slash. -/
theorem slash_not_mem {value : Text} (h : ofChar '/' ∉ slashes value) : ofChar '/' ∉ value := by
  rw [slashes_eq, List.mem_map] at h
  exact fun hmem ↦ h ⟨_, hmem, by rw [if_neg (by decide)]⟩

/-- A blank value has nothing to replace. -/
theorem not_blank_of_slashes {value : Text} (h : blank (slashes value) = false) :
    blank value = false := by
  by_contra hblank
  rw [Bool.not_eq_false, blank_iff] at hblank
  rw [← Bool.not_eq_true, blank_iff, slashes_eq] at h
  refine h fun c hc ↦ ?_
  obtain ⟨d, hd, rfl⟩ := List.mem_map.mp hc
  have hspace := hblank d hd
  rw [if_neg (by rintro rfl; exact absurd hspace (by decide))]
  exact hspace

/-- Texts without a separator are what stands before the first one. -/
theorem append_separator_inj {c : CodePoint} {x y u v : Text} (hx : c ∉ x) (hy : c ∉ y)
    (h : x ++ c :: u = y ++ c :: v) : x = y ∧ u = v := by
  induction x generalizing y with
  | nil =>
    cases y with
    | nil => exact ⟨rfl, List.tail_eq_of_cons_eq h⟩
    | cons d y =>
      rw [List.nil_append, List.cons_append, List.cons.injEq] at h
      exact absurd (h.1 ▸ List.mem_cons_self) hy
  | cons e x ih =>
    cases y with
    | nil =>
      rw [List.nil_append, List.cons_append, List.cons.injEq] at h
      exact absurd (h.1 ▸ List.mem_cons_self) hx
    | cons d y =>
      rw [List.cons_append, List.cons_append, List.cons.injEq] at h
      obtain ⟨hxy, huv⟩ := ih (fun hc ↦ hx (List.mem_cons_of_mem _ hc))
        (fun hc ↦ hy (List.mem_cons_of_mem _ hc)) h.2
      rw [h.1, hxy]
      exact ⟨rfl, huv⟩

/-- `RetentionPolicy`, `domain/operations.py:36–53`, with what its constructor checked. -/
@[ext]
structure RetentionPolicy where
  policyId : Text
  maxAgeDays : Option Nat
  maxSensitivity : Sensitivity
  named : blank policyId = false

instance : DecidableEq RetentionPolicy := fun _ _ ↦ decidable_of_iff' _ RetentionPolicy.ext_iff

/-- `to_dict`, `domain/operations.py:55–61`. -/
def RetentionPolicy.toDict (p : RetentionPolicy) : Dict Json :=
  [(lit "policy_id", .str p.policyId),
    (lit "max_age_days", p.maxAgeDays.elim .null fun days ↦ .int days),
    (lit "max_sensitivity", .str p.maxSensitivity.text)]

/-! ### Artifacts -/

/-- `OperationalArtifact`, `domain/operations.py:64–74`. -/
structure OperationalArtifact where
  artifactId : Text
  path : Text
  kind : Text
  sha256 : Text
  sizeBytes : Int
  sensitivity : Sensitivity
  derivedFrom : List Text
  deriving DecidableEq

namespace OperationalArtifact

/-- What the constructor checks of an artifact, `domain/operations.py:76–102`. -/
structure Lawful (a : OperationalArtifact) : Prop where
  component : blank (slashes a.artifactId) = false ∧ absolute (slashes a.artifactId) = false ∧
    ofChar '/' ∉ slashes a.artifactId ∧ slashes a.artifactId ∉ [lit ".", lit ".."]
  relative : blank (slashes a.path) = false ∧ absolute (slashes a.path) = false ∧
    lit ".." ∉ components (slashes a.path)
  sorted : blank a.kind = false
  digested : isSha256 a.sha256 = true
  sized : 0 ≤ a.sizeBytes
  sourced : ∀ s ∈ a.derivedFrom, blank s = false

/-- The constructor, `__post_init__` at `domain/operations.py:76–102`. -/
def create (artifactId path kind sha256 : Text) (sizeBytes : Int) (sensitivity : Text)
    (derivedFrom : List Text) : Except PyError OperationalArtifact := do
  require ⟨.valueError, lit "artifact_id must be a single relative path component."⟩
    (blank (slashes artifactId) = false ∧ absolute (slashes artifactId) = false ∧
      ofChar '/' ∉ slashes artifactId ∧ slashes artifactId ∉ [lit ".", lit ".."])
  require ⟨.valueError, lit "artifact path must be relative and must not contain '..'."⟩
    (blank (slashes path) = false ∧ absolute (slashes path) = false ∧
      lit ".." ∉ components (slashes path))
  require ⟨.valueError, lit "kind must not be empty."⟩ (blank kind = false)
  require ⟨.valueError, lit "sha256 must be a lowercase SHA-256 hexadecimal string."⟩
    (isSha256 sha256)
  require ⟨.valueError, lit "size_bytes must be non-negative."⟩ (0 ≤ sizeBytes)
  let level ← Sensitivity.validate sensitivity (lit "sensitivity")
  require ⟨.valueError, lit "derived_from must not contain blank values."⟩
    (∀ s ∈ derivedFrom, blank s = false)
  pure ⟨artifactId, path, kind, sha256, sizeBytes, level, derivedFrom⟩

/-- The constructor accepts exactly lawful artifacts. -/
theorem create_eq_ok {a b : OperationalArtifact} :
    create a.artifactId a.path a.kind a.sha256 a.sizeBytes a.sensitivity.text a.derivedFrom =
      .ok b ↔ a.Lawful ∧ b = a := by
  simp only [create, bind_eq_ok, require_eq_ok, exists_const, Sensitivity.validate_text,
    decide_eq_true_eq, Except.ok.injEq, exists_eq_left']
  constructor
  · rintro ⟨hcomponent, hrelative, hsorted, hdigested, hsized, hsourced, h⟩
    cases h
    exact ⟨⟨hcomponent, hrelative, hsorted, hdigested, hsized, hsourced⟩, rfl⟩
  · rintro ⟨h, rfl⟩
    exact ⟨h.component, h.relative, h.sorted, h.digested, h.sized, h.sourced, rfl⟩

/-- An artifact that was constructed is lawful. -/
theorem lawful_of_create {artifactId path kind sha256 sensitivity : Text} {sizeBytes : Int}
    {derivedFrom : List Text} {a : OperationalArtifact}
    (h : create artifactId path kind sha256 sizeBytes sensitivity derivedFrom = .ok a) :
    a.Lawful := by
  simp only [create, bind_eq_ok, require_eq_ok, exists_const, decide_eq_true_eq] at h
  obtain ⟨hcomponent, hrelative, hsorted, hdigested, hsized, level, -, hsourced, h⟩ := h
  cases h
  exact ⟨hcomponent, hrelative, hsorted, hdigested, hsized, hsourced⟩

/-- `to_dict`, `domain/operations.py:104–114`. -/
def toDict (a : OperationalArtifact) : Dict Json :=
  [(lit "artifact_id", .str a.artifactId),
    (lit "path", .str a.path),
    (lit "kind", .str a.kind),
    (lit "sha256", .str a.sha256),
    (lit "size_bytes", .int a.sizeBytes),
    (lit "sensitivity", .str a.sensitivity.text),
    (lit "derived_from", .arr (a.derivedFrom.map .str))]

/-- The name of an artifact's file in the archive. -/
def memberName (a : OperationalArtifact) : Text :=
  lit "artifacts/" ++ a.artifactId ++ lit "/" ++ a.path

theorem Lawful.not_blank {a : OperationalArtifact} (h : a.Lawful) : blank a.artifactId = false :=
  not_blank_of_slashes h.component.1

/-- A member name tells whose file it is. -/
theorem memberName_inj {a p : OperationalArtifact} (ha : a.Lawful) (hp : p.Lawful)
    (h : a.memberName = p.memberName) : a.artifactId = p.artifactId := by
  simp only [memberName, List.append_assoc] at h
  exact (append_separator_inj (slash_not_mem ha.component.2.2.1)
    (slash_not_mem hp.component.2.2.1) (List.append_cancel_left h)).1

/-- No artifact is stored under the manifest's name. -/
theorem memberName_ne (a : OperationalArtifact) : a.memberName ≠ lit "manifest.json" := by
  intro h
  have hhead := congrArg List.head? h
  rw [memberName, List.append_assoc, List.append_assoc] at hhead
  exact absurd hhead (by simp [lit]; decide)

end OperationalArtifact

/-! ### Bundles -/

/-- `OperationalBundle`, `domain/operations.py:117–127`. -/
structure OperationalBundle where
  bundleId : Text
  manifestId : Text
  agentName : Text
  engineVersion : Text
  createdAt : AwareDatetime
  artifacts : List OperationalArtifact
  retentionPolicy : Option RetentionPolicy
  deriving DecidableEq

namespace OperationalBundle

/-- The identities of the artifacts. -/
def ids (b : OperationalBundle) : List Text := b.artifacts.map OperationalArtifact.artifactId

/-- The artifact of an identity. -/
def artifact? (b : OperationalBundle) (artifactId : Text) : Option OperationalArtifact :=
  b.artifacts.find? fun a ↦ a.artifactId = artifactId

/-- The sensitivities of an artifact's sources. -/
def sourceSensitivities (b : OperationalBundle) (a : OperationalArtifact) : List Sensitivity :=
  a.derivedFrom.filterMap fun s ↦ (b.artifact? s).map OperationalArtifact.sensitivity

/-- The checks on the sources of an artifact, `domain/operations.py:140–155`. -/
def checkSources (b : OperationalBundle) (a : OperationalArtifact) : Except PyError Unit := do
  let unknown := a.derivedFrom.filter fun s ↦ s ∉ b.ids
  require ⟨.valueError, lit "artifact " ++ a.artifactId ++ lit " references unknown provenance: " ++
    List.intercalate (lit ", ") unknown⟩ unknown.isEmpty
  if a.derivedFrom.isEmpty then pure () else do
    let inherited ← inheritSensitivity (b.sourceSensitivities a) none false
    require ⟨.valueError, lit "artifact " ++ a.artifactId ++ lit " sensitivity " ++
        a.sensitivity.text ++ lit " is lower than inherited source sensitivity " ++
        inherited.text ++ lit "."⟩
      (inherited.rank ≤ a.sensitivity.rank)

/-- The constructor's checks, `__post_init__` at `domain/operations.py:129–155`. -/
def check (b : OperationalBundle) : Except PyError Unit := do
  require ⟨.valueError, lit "bundle_id must not be empty."⟩ (!blank b.bundleId)
  require ⟨.valueError, lit "manifest_id must not be empty."⟩ (!blank b.manifestId)
  require ⟨.valueError, lit "agent_name must not be empty."⟩ (!blank b.agentName)
  require ⟨.valueError, lit "engine_version must not be empty."⟩ (!blank b.engineVersion)
  require ⟨.valueError, lit "artifact IDs must be unique."⟩ b.ids.Nodup
  forM b.artifacts b.checkSources

/-- A bundle as its constructor leaves it. -/
structure Lawful (b : OperationalBundle) : Prop where
  named : blank b.bundleId = false ∧ blank b.manifestId = false ∧ blank b.agentName = false ∧
    blank b.engineVersion = false
  distinct : b.ids.Nodup
  artifacts : ∀ a ∈ b.artifacts, a.Lawful
  inherits : ∀ a ∈ b.artifacts, ∀ s ∈ a.derivedFrom, ∃ p ∈ b.artifacts, p.artifactId = s ∧
    p.sensitivity.rank ≤ a.sensitivity.rank

variable {b : OperationalBundle} {a : OperationalArtifact}

theorem mem_ids {artifactId : Text} :
    artifactId ∈ b.ids ↔ ∃ a ∈ b.artifacts, a.artifactId = artifactId := List.mem_map

/-- With distinct identities an identity finds its artifact. -/
theorem artifact?_of_mem (hd : b.ids.Nodup) (ha : a ∈ b.artifacts) :
    b.artifact? a.artifactId = some a := by
  obtain ⟨p, hp⟩ : ∃ p, b.artifact? a.artifactId = some p :=
    Option.isSome_iff_exists.mp (List.find?_isSome.mpr ⟨a, ha, decide_eq_true rfl⟩)
  have hid := List.find?_some hp
  have heq := List.inj_on_of_nodup_map hd (List.mem_of_find?_eq_some hp) ha (of_decide_eq_true hid)
  rw [hp, heq]

/-- The sources of an artifact pass exactly when each is known and no more sensitive. -/
theorem checkSources_eq_ok (hd : b.ids.Nodup) : b.checkSources a = .ok () ↔
    ∀ s ∈ a.derivedFrom, ∃ p ∈ b.artifacts, p.artifactId = s ∧
      p.sensitivity.rank ≤ a.sensitivity.rank := by
  rw [checkSources, require_bind_eq_ok, List.isEmpty_iff, List.filter_eq_nil_iff]
  simp only [decide_eq_true_eq, not_not, mem_ids]
  by_cases hempty : a.derivedFrom.isEmpty = true
  · rw [if_pos hempty]
    rw [List.isEmpty_iff] at hempty
    rw [hempty]
    exact iff_of_true ⟨nofun, rfl⟩ nofun
  rw [if_neg hempty]
  constructor
  · rintro ⟨hknown, h⟩ s hs
    rw [bind_eq_ok] at h
    obtain ⟨inherited, hinherited, h⟩ := h
    rw [require_eq_ok, decide_eq_true_eq, inheritSensitivity_le_iff hinherited] at h
    obtain ⟨p, hp, hid⟩ := hknown s hs
    refine ⟨p, hp, hid, h _ (List.mem_filterMap.mpr ⟨s, hs, ?_⟩)⟩
    rw [← hid, artifact?_of_mem hd hp]
    rfl
  · intro h
    have hknown : ∀ s ∈ a.derivedFrom, ∃ p ∈ b.artifacts, p.artifactId = s := by
      intro s hs
      obtain ⟨p, hp, hid, -⟩ := h s hs
      exact ⟨p, hp, hid⟩
    refine ⟨hknown, ?_⟩
    have hne : b.sourceSensitivities a ≠ [] := by
      obtain ⟨s, hs⟩ := List.exists_mem_of_ne_nil _ fun hnil ↦ hempty (List.isEmpty_iff.mpr hnil)
      obtain ⟨p, hp, hid⟩ := hknown s hs
      have hlevel : p.sensitivity ∈ b.sourceSensitivities a := by
        refine List.mem_filterMap.mpr ⟨s, hs, ?_⟩
        rw [← hid, artifact?_of_mem hd hp]
        rfl
      exact List.ne_nil_of_mem hlevel
    obtain ⟨first, rest, hsources⟩ := List.exists_cons_of_ne_nil hne
    have hinherited : inheritSensitivity (b.sourceSensitivities a) none false =
        .ok (rest.foldl moreSensitive first) := by rw [hsources]; rfl
    rw [hinherited, ok_bind, require_eq_ok, decide_eq_true_eq,
      inheritSensitivity_le_iff hinherited]
    intro level hlevel
    obtain ⟨s, hs, hlevel⟩ := List.mem_filterMap.mp hlevel
    obtain ⟨p, hp, hid, hrank⟩ := h s hs
    rw [← hid, artifact?_of_mem hd hp] at hlevel
    cases hlevel
    exact hrank

/-- The constructor accepts exactly lawful bundles of lawful artifacts. -/
theorem lawful_iff : b.Lawful ↔ (∀ a ∈ b.artifacts, a.Lawful) ∧ b.check = .ok () := by
  simp only [check, bind_eq_ok, require_eq_ok, exists_const, Bool.not_eq_true',
    decide_eq_true_eq, forM_eq_ok]
  constructor
  · intro h
    obtain ⟨hbundle, hmanifest, hagent, hengine⟩ := h.named
    exact ⟨h.artifacts, hbundle, hmanifest, hagent, hengine, h.distinct,
      fun a ha ↦ (checkSources_eq_ok h.distinct).mpr (h.inherits a ha)⟩
  · rintro ⟨hartifacts, hbundle, hmanifest, hagent, hengine, hdistinct, hsources⟩
    exact ⟨⟨hbundle, hmanifest, hagent, hengine⟩, hdistinct, hartifacts,
      fun a ha ↦ (checkSources_eq_ok hdistinct).mp (hsources a ha)⟩

/-! ### Identities -/

/-- The members that both identities cover. -/
def sharedPayload (b : OperationalBundle) (createdAt : Datetime) : Dict Json :=
  [(lit "agent_name", .str b.agentName),
    (lit "engine_version", .str b.engineVersion),
    (lit "created_at", .str (isoformat createdAt)),
    (lit "artifacts", .arr (b.artifacts.map fun a ↦ .obj a.toDict)),
    (lit "retention_policy", b.retentionPolicy.elim .null fun p ↦ .obj p.toDict)]

/-- `manifest_payload` with a manifest identity, `domain/operations.py:157–168`. -/
def manifestPayload (b : OperationalBundle) (manifestId : Text) : Except PyError (Dict Json) := do
  let createdAt ← b.createdAt.toUtc
  pure ((lit "manifest_id", .str manifestId) :: b.sharedPayload createdAt)

/-- `computed_manifest_id`, `domain/operations.py:170–174`: the payload without the identity. -/
def computedManifestId (b : OperationalBundle) : Except PyError Text := do
  let createdAt ← b.createdAt.toUtc
  let content ← canonicalBytes (b.sharedPayload createdAt)
  pure (Base.sha256 content)

/-- `computed_bundle_id`, `domain/operations.py:176–180`. -/
def computedBundleId (b : OperationalBundle) : Except PyError Text := do
  let manifestId ← b.computedManifestId
  let payload ← b.manifestPayload manifestId
  let content ← canonicalBytes payload
  pure (Base.sha256 content)

/-- `to_dict`, `domain/operations.py:182–187`. -/
def toDict (b : OperationalBundle) : Except PyError (Dict Json) := do
  let payload ← b.manifestPayload b.manifestId
  pure ((lit "bundle_id", .str b.bundleId) :: payload)

/-- The text of a manifest, `services/operations_service.py:167–169`. -/
def manifestText (b : OperationalBundle) : Except PyError Text := do
  let record ← b.toDict
  pure (Json.dumps Json.indented (.obj record) ++ [Lines.newline])

/-- A bundle whose identities are those of its manifest,
`services/operations_service.py:253–256`. -/
structure Valid (b : OperationalBundle) : Prop extends b.Lawful where
  manifestId : b.computedManifestId = .ok b.manifestId
  bundleId : b.computedBundleId = .ok b.bundleId

end OperationalBundle

/-- Members of an archive by name. -/
abbrev Archive := Dict Bytes

/-- `export_bundle`, `services/operations_service.py:175–188`: members in the order of their
names. -/
def exportBundle (files : Dict Bytes) : Archive := files.sorted

end StateWake.Operations
