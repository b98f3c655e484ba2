import StateWake.Base.Attempt
import StateWake.Operations.Assembly

/-!
# What a verifier reads of an archive

`_read_manifest` and `verify_bundle` of `services/operations_service.py`, and the reading part of
`verify_reliability_proof_bundle` of `services/reliability_proof_bundle_service.py`, with the
envelope of `domain/runtime_containment.py`. A run notes which members it decompresses and which
list of members the envelope accepts. The manifest is decompressed before the envelope is asked, and
every other member after it has accepted.
-/

namespace StateWake.Operations.ArchiveReading

open StateWake.Base Text Utils

/-! ### The envelope -/

/-- What the directory of an archive says of a member. -/
structure ZipInfo where
  filename : Text
  fileSize : Nat
  compressSize : Nat
  externalAttr : Nat
  deriving DecidableEq

/-- The limits on archives, `domain/runtime_containment.py:29–31`. The ratio is a whole number, as
the default is. -/
structure ArchiveLimits where
  maxArchiveMembers : Nat
  maxArchiveUncompressedBytes : Nat
  maxArchiveCompressionRatio : Nat

/-- `RuntimeContainmentLimits()`. -/
def ArchiveLimits.defaults : ArchiveLimits := ⟨256, 128 * 1024 * 1024, 100⟩

section Envelope

variable (limits : ArchiveLimits)

/-- `validate_archive_metadata`, `domain/runtime_containment.py:156–174`. The quotient of sizes up
to the limit exceeds the ratio as a `float` exactly where it does. -/
def validateArchiveMetadata (info : ZipInfo) : Except PyError Unit := do
  require ⟨.valueError, lit "unsafe archive path: '" ++ info.filename ++ lit "'"⟩
    (!absolute info.filename && !(components info.filename).contains (lit ".."))
  require ⟨.valueError, lit "archive member exceeds maximum size of " ++
    Json.intText limits.maxArchiveUncompressedBytes ++ lit " bytes"⟩
    (info.fileSize ≤ limits.maxArchiveUncompressedBytes)
  require ⟨.valueError, lit "archive compression ratio exceeds containment limit"⟩
    (info.fileSize ≤ limits.maxArchiveCompressionRatio * max info.compressSize 1)
  let externalMode := info.externalAttr >>> 16 &&& 0xFFFF
  require ⟨.valueError, lit "archive symlinks are not permitted"⟩
    (!(externalMode != 0 && externalMode &&& 0o170000 == 0o120000))

/-- The loop over the members, `domain/runtime_containment.py:186–193`. -/
def validateMembers (totalSize : Nat) : List ZipInfo → Except PyError Unit
  | [] => .ok ()
  | info :: infos => do
    validateArchiveMetadata limits info
    require ⟨.valueError, lit "archive aggregate uncompressed size exceeds containment limit"⟩
      (totalSize + info.fileSize ≤ limits.maxArchiveUncompressedBytes)
    validateMembers (totalSize + info.fileSize) infos

/-- `validate_archive_envelope`, `domain/runtime_containment.py:177–193`. -/
def validateArchiveEnvelope (infos : List ZipInfo) : Except PyError Unit := do
  require ⟨.valueError, lit "archive contains more than " ++
    Json.intText limits.maxArchiveMembers ++ lit " members"⟩
    (infos.length ≤ limits.maxArchiveMembers)
  validateMembers limits 0 infos

end Envelope

/-! ### Reading -/

/-- An open archive. A member that is read is opened first, which checks that there is one of the
name, its header and its method; it is then decompressed, which may fail too. -/
structure ZipArchive where
  infolist : List ZipInfo
  member : Text → Except PyError (Except PyError Bytes)

/-- What a run notes: the list of members that the envelope accepted, and the members it
decompressed. -/
inductive Event where
  | accepted (infos : List ZipInfo)
  | decompressed (name : Text)
  deriving DecidableEq

/-- A run with what it noted. -/
abbrev Run : Type → Type := Attempt (List Event)

def note (event : Event) : Run Unit := Attempt.modify (· ++ [event])

namespace ZipArchive

/-- `archive.namelist()`. -/
def namelist (archive : ZipArchive) : List Text := archive.infolist.map ZipInfo.filename

/-- `archive.getinfo(name)`. -/
def getinfo (archive : ZipArchive) (name : Text) : Except PyError ZipInfo :=
  orRaise ⟨.keyError, name⟩ (archive.infolist.find? fun info ↦ info.filename = name)

/-- `archive.read(name)`. -/
def read (archive : ZipArchive) (name : Text) : Run Bytes := do
  let body ← Attempt.lift (archive.member name)
  note (.decompressed name)
  Attempt.lift body

/-- Members that are read one after the other. -/
def readAll (archive : ZipArchive) : List Text → Run (List (Text × Bytes))
  | [] => pure []
  | name :: names => do
    let content ← archive.read name
    let rest ← readAll archive names
    pure ((name, content) :: rest)

/-- The call of `validate_archive_envelope`, `services/operations_service.py:231–233`. -/
def validate (archive : ZipArchive) : Run Unit := do
  Attempt.lift (validateArchiveEnvelope .defaults archive.infolist)
  note (.accepted archive.infolist)

end ZipArchive

-- the built-in `int` of a decoded value, and `zipfile.ZipFile` of a file's bytes
variable (int : Json → Except PyError Int) (zipfile : Bytes → Except PyError ZipArchive)

/-- The name of the manifest. -/
def manifestName : Text := lit "manifest.json"

/-- What is made of the manifest's bytes, `services/operations_service.py:191–220`. -/
def parseManifest (raw : Bytes) : Except PyError OperationalBundle := do
  let text ← Utf8.ofBytes raw
  let value ← Json.loads text
  let payload ← orRaise ⟨.valueError, lit "Bundle manifest must be a JSON object."⟩ value.asObject
  readBundle int payload

/-- The check of a member's declared size, `services/operations_service.py:234–241`. -/
def checkMemberSize (archive : ZipArchive) (a : OperationalArtifact) : Except PyError Unit := do
  let info ← archive.getinfo a.memberName
  require ⟨.valueError, lit "ZIP member size mismatch for artifact " ++ a.artifactId ++
    lit ": manifest=" ++ Json.intText a.sizeBytes ++ lit ", archive=" ++
    Json.intText info.fileSize⟩ ((info.fileSize : Int) = a.sizeBytes)

/-- What follows the manifest, `services/operations_service.py:221–242`. -/
def readArtifacts (archive : ZipArchive) (bundle : OperationalBundle) : Run (Dict Bytes) := do
  Attempt.lift (checkContents bundle (archive.namelist.filter fun name ↦ name ≠ manifestName))
  archive.validate
  Attempt.lift (forM bundle.artifacts (checkMemberSize archive))
  let extracted ← archive.readAll (bundle.memberNames.dedup.insertionSort (· ≤ ·))
  pure (Dict.ofPairs extracted)

/-- `_read_manifest`, `services/operations_service.py:184–243`. -/
def readManifest (raw : Bytes) : Run (OperationalBundle × Dict Bytes) := do
  let archive ← Attempt.lift (zipfile raw)
  Attempt.lift (require
    ⟨.valueError, lit "Operational bundle contains duplicate ZIP member names."⟩
    archive.namelist.Nodup)
  Attempt.lift (require ⟨.valueError, lit "Operational bundle is missing manifest.json."⟩
    (archive.namelist.contains manifestName))
  let manifest ← archive.read manifestName
  let bundle ← Attempt.lift (parseManifest int manifest)
  let files ← readArtifacts archive bundle
  pure (bundle, files)

/-- What `verify_bundle` checks of what it has read, `services/operations_service.py:253–280`. -/
def checkBundle (raw : Bytes) (bundle : OperationalBundle) (files : Dict Bytes) :
    Except PyError OperationalBundle := do
  let manifestId ← bundle.computedManifestId
  require ⟨.valueError, lit "Bundle manifest_id integrity check failed."⟩
    (bundle.manifestId = manifestId)
  let bundleId ← bundle.computedBundleId
  require ⟨.valueError, lit "Bundle bundle_id integrity check failed."⟩ (bundle.bundleId = bundleId)
  checkContents bundle files.keys
  forM bundle.artifacts (checkArtifactContent files)
  verifyBundleProvenance raw bundle
  pure bundle

/-- `verify_bundle`, `services/operations_service.py:246–280`. -/
def verifyBundle (raw : Bytes) : Run OperationalBundle := do
  Attempt.lift (require ⟨.valueError, lit "bundle exceeds maximum input size of 67108864 bytes"⟩
    (raw.length ≤ maxInputBytes))
  let (bundle, files) ← readManifest int zipfile raw
  Attempt.lift (checkBundle raw bundle files)

/-! ### Proof bundles -/

/-- What a descriptor names of a trust context, `domain/reliability_proof_bundle.py`. -/
structure TrustContextArtifacts where
  envelopeArtifactId : Text
  trustStateArtifactId : Text
  authorityStoreArtifactId : Text

/-- A source of a descriptor. -/
structure ProofSource where
  referenceKey : Text
  source : Text
  artifactId : Text

/-- What is read of a descriptor to choose the members. -/
structure ProofDescriptor where
  formatVersion : Text
  attestationArtifactId : Text
  evidenceChainArtifactId : Text
  stateHistoryArtifactId : Text
  verificationReportArtifactId : Text
  completenessArtifactId : Option Text
  completenessDigest : Option Text
  hasLineage : Bool
  trustContext : Option TrustContextArtifacts
  sources : List ProofSource

/-- The members a proof is verified from, `services/reliability_proof_bundle_service.py:633–653`. -/
structure ProofContents where
  attestation : Bytes
  chain : Bytes
  history : Bytes
  report : Bytes
  lineage : Option Bytes
  completeness : Option Bytes
  trust : Option (Bytes × Bytes × Bytes × Bytes)

/-- The parts of the verifier that read nothing of the archive: the descriptor of a decoded value,
the loading of the chain, the place of a source and its writing after those before it, and all that
follows the last member. -/
structure ProofParts where
  fromDict : Json → Except PyError ProofDescriptor
  loadChain : Bytes → Except PyError Unit
  safeSource : Text → Except PyError Unit
  materialize : List (Text × Bytes) → Except PyError Unit
  conclude : OperationalBundle → ProofDescriptor → ProofContents → List (Text × Bytes) →
    Except PyError Unit

/-- The artifacts of a kind. -/
def ofKind (bundle : OperationalBundle) (kind : Text) : List OperationalArtifact :=
  bundle.artifacts.filter fun a ↦ a.kind = kind

/-- `content_for`, `services/reliability_proof_bundle_service.py:541–546`. -/
def contentFor (archive : ZipArchive) (bundle : OperationalBundle) (artifactId : Text) :
    Run Bytes := do
  let item ← Attempt.lift (orRaise
    ⟨.valueError, lit "proof bundle is missing artifact: " ++ artifactId⟩
    (bundle.artifact? artifactId))
  archive.read item.memberName

/-- The one artifact of a kind. -/
def single (message : Text) : List OperationalArtifact → Except PyError OperationalArtifact
  | [a] => .ok a
  | _ => valueError message

/-- The members that are read by their kind. -/
structure ProofMembers where
  lineage : Option Text
  completeness : Option Text
  context : Option Text

/-- The closure of a descriptor, `services/reliability_proof_bundle_service.py:560–579`. -/
def selectLineage (bundle : OperationalBundle) (d : ProofDescriptor) :
    Except PyError (Option Text) :=
  let candidates := ofKind bundle (lit "reliability-lineage-closure")
  if d.formatVersion ∈ [lit "2", lit "3"] then do
    require ⟨.valueError, lit "format version " ++ d.formatVersion ++
      lit " reliability proof must contain a lineage closure"⟩ d.hasLineage
    let artifact ← single (lit "format version " ++ d.formatVersion ++
      lit " reliability proof must contain exactly one lineage closure artifact") candidates
    pure (some artifact.artifactId)
  else do
    require ⟨.valueError, lit "format version 1 reliability proof cannot contain lineage closure"⟩
      (!d.hasLineage && candidates.isEmpty)
    pure none

/-- The name of the completeness witness. -/
def completenessName : Text := lit "proof-completeness"

/-- The witness of a descriptor, `services/reliability_proof_bundle_service.py:580–610`. -/
def selectCompleteness (bundle : OperationalBundle) (d : ProofDescriptor) :
    Except PyError (Option Text) :=
  let candidates := ofKind bundle (lit "reliability-proof-completeness")
  if d.formatVersion = lit "3" then do
    require ⟨.valueError, lit "format version 3 reliability proof has an invalid completeness " ++
      lit "artifact identity"⟩ (d.completenessArtifactId = some completenessName)
    require ⟨.valueError,
      lit "format version 3 reliability proof is missing completeness artifact"⟩
      (bundle.artifact? completenessName).isSome
    require ⟨.valueError, lit "format version 3 reliability proof must contain exactly one " ++
      lit "completeness artifact"⟩ (candidates.map (·.artifactId) = [completenessName])
    pure (some completenessName)
  else do
    require ⟨.valueError, lit "legacy reliability proof cannot contain completeness binding"⟩
      (d.completenessArtifactId.isNone && d.completenessDigest.isNone && candidates.isEmpty)
    pure none

/-- The context of a descriptor, `services/reliability_proof_bundle_service.py:619–628`. -/
def selectContext (bundle : OperationalBundle) (d : ProofDescriptor) :
    Except PyError (Option Text) :=
  match d.trustContext with
  | none => .ok none
  | some _ => do
    let artifact ← single (lit "proof bundle with attestation trust context must contain " ++
      lit "exactly one context artifact")
      (ofKind bundle (lit "reliability-attestation-trust-context"))
    pure (some artifact.artifactId)

/-- The artifacts a trust context names. -/
def TrustContextArtifacts.ids (c : TrustContextArtifacts) : List Text :=
  [c.envelopeArtifactId, c.trustStateArtifactId, c.authorityStoreArtifactId]

/-- The members of a descriptor, `services/reliability_proof_bundle_service.py:552–631`. -/
def selectMembers (bundle : OperationalBundle) (descriptorId : Text) (d : ProofDescriptor) :
    Except PyError ProofMembers := do
  let lineage ← selectLineage bundle d
  let completeness ← selectCompleteness bundle d
  let context ← selectContext bundle d
  let required := [d.attestationArtifactId, d.evidenceChainArtifactId, d.stateHistoryArtifactId,
    d.verificationReportArtifactId, descriptorId] ++ lineage.toList ++ completeness.toList ++
    (d.trustContext.toList.flatMap TrustContextArtifacts.ids) ++ context.toList
  let missing := required.filter fun id ↦ (bundle.artifact? id).isNone
  require ⟨.valueError, lit "proof bundle is missing required artifacts: ['" ++
    List.intercalate (lit "', '") (missing.dedup.insertionSort (· ≤ ·)) ++ lit "']"⟩ missing.isEmpty
  pure ⟨lineage, completeness, context⟩

/-- An optional member. -/
def contentIf (archive : ZipArchive) (bundle : OperationalBundle) :
    Option Text → Run (Option Bytes)
  | none => pure none
  | some artifactId => do
    let content ← contentFor archive bundle artifactId
    pure (some content)

/-- The members of a trust context, `services/reliability_proof_bundle_service.py:644–653`. -/
def contentOfContext (archive : ZipArchive) (bundle : OperationalBundle) :
    Option (TrustContextArtifacts × Text) → Run (Option (Bytes × Bytes × Bytes × Bytes))
  | none => pure none
  | some (c, contextId) => do
    let envelope ← contentFor archive bundle c.envelopeArtifactId
    let trustState ← contentFor archive bundle c.trustStateArtifactId
    let authority ← contentFor archive bundle c.authorityStoreArtifactId
    let context ← contentFor archive bundle contextId
    pure (some (envelope, trustState, authority, context))

/-- The members a proof is verified from, `services/reliability_proof_bundle_service.py:633–653`. -/
def readContents (archive : ZipArchive) (bundle : OperationalBundle) (d : ProofDescriptor)
    (members : ProofMembers) : Run ProofContents := do
  let attestation ← contentFor archive bundle d.attestationArtifactId
  let chain ← contentFor archive bundle d.evidenceChainArtifactId
  let history ← contentFor archive bundle d.stateHistoryArtifactId
  let report ← contentFor archive bundle d.verificationReportArtifactId
  let lineage ← contentIf archive bundle members.lineage
  let completeness ← contentIf archive bundle members.completeness
  let trust ← contentOfContext archive bundle (d.trustContext.bind fun c ↦
    members.context.map fun id ↦ (c, id))
  pure ⟨attestation, chain, history, report, lineage, completeness, trust⟩

-- the parts that read nothing of the archive
variable (parts : ProofParts)

/-- The loop over the sources, `services/reliability_proof_bundle_service.py:670–680`. -/
def readSources (archive : ZipArchive) (bundle : OperationalBundle)
    (written : List (Text × Bytes)) : List ProofSource → Run (List (Text × Bytes))
  | [] => pure written
  | source :: sources => do
    let artifact ← Attempt.lift (orRaise
      ⟨.valueError, lit "proof source artifact missing: " ++ source.artifactId⟩
      (bundle.artifact? source.artifactId))
    Attempt.lift (parts.safeSource source.source)
    let content ← archive.read artifact.memberName
    let written := written ++ [(source.source, content)]
    Attempt.lift (parts.materialize written)
    readSources archive bundle written sources

/-- The descriptor of a bundle, `services/reliability_proof_bundle_service.py:548–551`. -/
def readDescriptor (archive : ZipArchive) (bundle : OperationalBundle)
    (artifact : OperationalArtifact) : Run ProofDescriptor := do
  let content ← contentFor archive bundle artifact.artifactId
  Attempt.lift do
    let text ← Utf8.ofBytes content
    let payload ← Json.loads text
    parts.fromDict payload

/-- What `verify_reliability_proof_bundle` does with a bundle that is verified,
`services/reliability_proof_bundle_service.py:531–865`. -/
def verifyProof (raw : Bytes) (bundle : OperationalBundle) : Run Unit := do
  let artifact ← Attempt.lift (single
    (lit "reliability proof bundle must contain exactly one descriptor")
    (ofKind bundle (lit "reliability-proof-descriptor")))
  let archive ← Attempt.lift (zipfile raw)
  let descriptor ← readDescriptor parts archive bundle artifact
  let members ← Attempt.lift (selectMembers bundle artifact.artifactId descriptor)
  let contents ← readContents archive bundle descriptor members
  Attempt.lift (parts.loadChain contents.chain)
  Attempt.lift (require ⟨.valueError, lit "duplicate proof source references"⟩
    (descriptor.sources.map ProofSource.referenceKey).Nodup)
  let again ← Attempt.lift (zipfile raw)
  let sources ← readSources parts again bundle [] descriptor.sources
  Attempt.lift (parts.conclude bundle descriptor contents sources)

/-- `verify_reliability_proof_bundle`, `services/reliability_proof_bundle_service.py:526–865`. -/
def verifyReliabilityProofBundle (raw : Bytes) : Run Unit := do
  let bundle ← verifyBundle int zipfile raw
  verifyProof zipfile parts raw bundle

/-! ### Order -/

/-- Every member that was decompressed came after the acceptance of the list. -/
def Ordered (infos : List ZipInfo) (events : List Event) : Prop :=
  ∀ pre name post, events = pre ++ .decompressed name :: post → .accepted infos ∈ pre

/-- The same but for the manifest. -/
def Guarded (infos : List ZipInfo) (events : List Event) : Prop :=
  ∀ pre name post, events = pre ++ .decompressed name :: post →
    name = manifestName ∨ .accepted infos ∈ pre

/-- A run on an archive: what it decompresses comes after the acceptance of the archive's list, and
where the list is rejected it only raises. -/
def Contained {α : Type} (infos : List ZipInfo) (m : Run α) : Prop :=
  Ordered infos (m []).2 ∧ ((validateArchiveEnvelope .defaults infos).toOption = none →
    (∃ e, (m []).1 = .error e) ∧ (m []).2 = [])

section Runs

variable {α β : Type}

/-- What a run notes is added to what was noted. -/
def Extends (s t : List Event) : Prop := s <+: t

theorem extends_trans {s t u : List Event} (h : Extends s t) (h' : Extends t u) : Extends s u :=
  List.IsPrefix.trans h h'

/-- A run that keeps members behind the acceptance of the list. -/
def Guards (infos : List ZipInfo) (s t : List Event) : Prop :=
  .accepted infos ∈ s → Guarded infos s → .accepted infos ∈ t ∧ Guarded infos t

theorem guards_trans {infos : List ZipInfo} {s t u : List Event} (h : Guards infos s t)
    (h' : Guards infos t u) : Guards infos s u := fun hmem hs ↦
  h' (h hmem hs).1 (h hmem hs).2

/-- One more event is after the events before. -/
theorem eq_append_singleton {s pre post : List Event} {event e : Event}
    (h : s ++ [event] = pre ++ e :: post) :
    (pre = s ∧ e = event) ∨ ∃ rest, s = pre ++ e :: rest := by
  rcases List.eq_nil_or_concat post with hnil | ⟨rest, last, hlast⟩
  · rw [hnil] at h
    obtain ⟨hs, he⟩ := List.append_inj' h rfl
    exact .inl ⟨hs.symm, (List.singleton_inj.mp he).symm⟩
  · rw [hlast, List.concat_eq_append, ← List.cons_append, ← List.append_assoc] at h
    exact .inr ⟨rest, (List.append_inj' h rfl).1⟩

theorem Guarded.append {infos : List ZipInfo} {s : List Event} (hs : Guarded infos s)
    {event : Event} (h : ∀ name, event = .decompressed name →
      name = manifestName ∨ .accepted infos ∈ s) : Guarded infos (s ++ [event]) := by
  intro pre name post heq
  apply (eq_append_singleton heq).elim
  · intro ⟨hpre, hevent⟩
    rw [hpre]
    exact h name hevent.symm
  · intro ⟨rest, hrest⟩
    exact hs pre name rest hrest

theorem extends_note (event : Event) : Attempt.Keeps Extends (note event) :=
  fun s ↦ List.prefix_append s [event]

theorem guards_note (infos : List ZipInfo) (event : Event) :
    Attempt.Keeps (Guards infos) (note event) := fun _ hmem hs ↦
  ⟨List.mem_append_left _ hmem, hs.append fun _ _ ↦ .inr hmem⟩

/-- What composes and is kept by each note is kept by a run. -/
structure Stable (R : List Event → List Event → Prop) : Prop where
  refl : ∀ s, R s s
  trans : ∀ {s t u}, R s t → R t u → R s u
  note : ∀ event, Attempt.Keeps R (note event)

theorem stable_extends : Stable Extends :=
  ⟨fun _ ↦ List.prefix_rfl, extends_trans, extends_note⟩

theorem stable_guards (infos : List ZipInfo) : Stable (Guards infos) :=
  ⟨fun _ hmem hs ↦ ⟨hmem, hs⟩, guards_trans, guards_note infos⟩

namespace Stable

variable {R : List Event → List Event → Prop} (h : Stable R)

include h

theorem bind {m : Run α} {f : α → Run β} (hm : Attempt.Keeps R m)
    (hf : ∀ a, Attempt.Keeps R (f a)) : Attempt.Keeps R (m >>= f) :=
  Attempt.Keeps.bind (R := R) h.trans hm hf

theorem lift (x : Except PyError α) : Attempt.Keeps R (Attempt.lift x) :=
  Attempt.Keeps.lift h.refl x

theorem pure (a : α) : Attempt.Keeps R (pure a : Run α) := fun s ↦ h.refl s

theorem read (archive : ZipArchive) (name : Text) : Attempt.Keeps R (archive.read name) :=
  h.bind (h.lift _) fun _ ↦ h.bind (h.note _) fun _ ↦ h.lift _

theorem readAll (archive : ZipArchive) (names : List Text) :
    Attempt.Keeps R (archive.readAll names) := by
  induction names with
  | nil => exact h.pure _
  | cons name names ih => exact h.bind (h.read archive name) fun _ ↦ h.bind ih fun _ ↦ h.pure _

theorem validate (archive : ZipArchive) : Attempt.Keeps R archive.validate :=
  h.bind (h.lift _) fun _ ↦ h.note _

theorem readArtifacts (archive : ZipArchive) (bundle : OperationalBundle) :
    Attempt.Keeps R (readArtifacts archive bundle) :=
  h.bind (h.lift _) fun _ ↦ h.bind (h.validate archive) fun _ ↦ h.bind (h.lift _) fun _ ↦
    h.bind (h.readAll archive _) fun _ ↦ h.pure _

theorem contentFor (archive : ZipArchive) (bundle : OperationalBundle) (id : Text) :
    Attempt.Keeps R (contentFor archive bundle id) :=
  h.bind (h.lift _) fun _ ↦ h.read archive _

theorem contentIf (archive : ZipArchive) (bundle : OperationalBundle) (id : Option Text) :
    Attempt.Keeps R (contentIf archive bundle id) := by
  cases id with
  | none => exact h.pure _
  | some id => exact h.bind (h.contentFor archive bundle id) fun _ ↦ h.pure _

theorem contentOfContext (archive : ZipArchive) (bundle : OperationalBundle)
    (context : Option (TrustContextArtifacts × Text)) :
    Attempt.Keeps R (contentOfContext archive bundle context) := by
  cases context with
  | none => exact h.pure _
  | some context =>
    exact h.bind (h.contentFor archive bundle _) fun _ ↦
      h.bind (h.contentFor archive bundle _) fun _ ↦
      h.bind (h.contentFor archive bundle _) fun _ ↦
      h.bind (h.contentFor archive bundle _) fun _ ↦ h.pure _

theorem readContents (archive : ZipArchive) (bundle : OperationalBundle) (d : ProofDescriptor)
    (members : ProofMembers) : Attempt.Keeps R (readContents archive bundle d members) :=
  h.bind (h.contentFor archive bundle _) fun _ ↦
    h.bind (h.contentFor archive bundle _) fun _ ↦
    h.bind (h.contentFor archive bundle _) fun _ ↦
    h.bind (h.contentFor archive bundle _) fun _ ↦
    h.bind (h.contentIf archive bundle _) fun _ ↦
    h.bind (h.contentIf archive bundle _) fun _ ↦
    h.bind (h.contentOfContext archive bundle _) fun _ ↦ h.pure _

theorem readSources (parts : ProofParts) (archive : ZipArchive) (bundle : OperationalBundle)
    (sources : List ProofSource) (written : List (Text × Bytes)) :
    Attempt.Keeps R (readSources parts archive bundle written sources) := by
  induction sources generalizing written with
  | nil => exact h.pure _
  | cons source sources ih =>
    exact h.bind (h.lift _) fun _ ↦ h.bind (h.lift _) fun _ ↦
      h.bind (h.read archive _) fun _ ↦ h.bind (h.lift _) fun _ ↦ ih _

theorem verifyProof (zipfile : Bytes → Except PyError ZipArchive) (parts : ProofParts)
    (raw : Bytes) (bundle : OperationalBundle) :
    Attempt.Keeps R (verifyProof zipfile parts raw bundle) :=
  h.bind (h.lift _) fun _ ↦ h.bind (h.lift _) fun archive ↦
    h.bind (h.bind (h.contentFor archive bundle _) fun _ ↦ h.lift _) fun _ ↦
    h.bind (h.lift _) fun _ ↦ h.bind (h.readContents archive bundle _ _) fun _ ↦
    h.bind (h.lift _) fun _ ↦ h.bind (h.lift _) fun _ ↦ h.bind (h.lift _) fun again ↦
    h.bind (h.readSources parts again bundle _ _) fun _ ↦ h.lift _

end Stable

end Runs

section Verification

variable {α β : Type} {int : Json → Except PyError Int}
  {zipfile : Bytes → Except PyError ZipArchive} {parts : ProofParts} {raw : Bytes}
  {archive : ZipArchive}

theorem read_apply {name : Text} {body : Except PyError Bytes} (h : archive.member name = .ok body)
    (s : List Event) : archive.read name s = (body, s ++ [.decompressed name]) := by
  rw [ZipArchive.read, h]
  rfl

/-- The first part of a run has noted the beginning of what the run notes. -/
theorem prefix_bind {m : Run α} {f : α → Run β} (hf : ∀ a, Attempt.Keeps Extends (f a))
    (s : List Event) : (m s).2 <+: ((m >>= f) s).2 := by
  cases hrun : m s with
  | mk outcome s' =>
    cases outcome with
    | error e =>
      have hbind : (m >>= f) s = (.error e, s') := Attempt.bind_of_error hrun
      simp only [hbind, List.prefix_rfl]
    | ok a =>
      rw [Attempt.bind_of_ok hrun]
      exact hf a s'

/-- A file whose manifest is opened. -/
structure ReachesManifest (zipfile : Bytes → Except PyError ZipArchive) (raw : Bytes)
    (archive : ZipArchive) : Prop where
  size : raw.length ≤ maxInputBytes
  opens : zipfile raw = .ok archive
  distinct : archive.namelist.Nodup
  listed : manifestName ∈ archive.namelist
  readable : ∃ body, archive.member manifestName = .ok body

theorem readManifest_of_reaches (h : ReachesManifest zipfile raw archive) :
    readManifest int zipfile raw = archive.read manifestName >>= fun manifest ↦
      Attempt.lift (parseManifest int manifest) >>= fun bundle ↦
        readArtifacts archive bundle >>= fun files ↦ pure (bundle, files) := by
  rw [readManifest, h.opens, Attempt.lift_ok_bind, decide_eq_true h.distinct, require_true,
    Attempt.lift_ok_bind, List.contains_iff_mem.mpr h.listed, require_true, Attempt.lift_ok_bind]

theorem verifyBundle_of_le (h : raw.length ≤ maxInputBytes) : verifyBundle int zipfile raw =
    readManifest int zipfile raw >>= fun read ↦ Attempt.lift (checkBundle raw read.1 read.2) := by
  rw [verifyBundle, decide_eq_true h, require_true, Attempt.lift_ok_bind]

/-- Where the manifest is opened, its decompression is the first that is noted. -/
theorem prefix_verifyBundle (h : ReachesManifest zipfile raw archive) :
    [.decompressed manifestName] <+: (verifyBundle int zipfile raw []).2 := by
  have hs := stable_extends
  obtain ⟨body, hbody⟩ := h.readable
  have hread := congrArg Prod.snd (read_apply hbody [])
  rw [verifyBundle_of_le h.size, readManifest_of_reaches h]
  apply List.IsPrefix.trans _ (prefix_bind (fun _ ↦ hs.lift _) [])
  apply List.IsPrefix.trans _ (prefix_bind (fun _ ↦ hs.bind (hs.lift _) fun bundle ↦
    hs.bind (hs.readArtifacts archive bundle) fun _ ↦ hs.pure _) [])
  rw [hread]
  exact List.prefix_rfl

/-- Where it is not, nothing is noted. -/
theorem verifyBundle_of_not_reaches (h : ∀ archive, ¬ReachesManifest zipfile raw archive) :
    ∃ e, verifyBundle int zipfile raw [] = (.error e, []) := by
  by_cases hsize : raw.length ≤ maxInputBytes
  · rw [verifyBundle_of_le hsize]
    have hread : ∃ e, readManifest int zipfile raw [] = (.error e, []) := by
      rw [readManifest]
      cases hopen : zipfile raw with
      | error e => exact ⟨e, rfl⟩
      | ok archive =>
        rw [Attempt.lift_ok_bind]
        by_cases hdistinct : archive.namelist.Nodup
        · rw [decide_eq_true hdistinct, require_true, Attempt.lift_ok_bind]
          by_cases hlisted : manifestName ∈ archive.namelist
          · rw [List.contains_iff_mem.mpr hlisted, require_true, Attempt.lift_ok_bind]
            cases hmember : archive.member manifestName with
            | ok body => exact absurd ⟨hsize, hopen, hdistinct, hlisted, body, hmember⟩ (h archive)
            | error e =>
              refine ⟨e, ?_⟩
              rw [ZipArchive.read, hmember, Attempt.lift_error_bind]
              rfl
          · rw [Bool.eq_false_iff.mpr fun hc ↦ hlisted (List.contains_iff_mem.mp hc)]
            exact ⟨_, rfl⟩
        · rw [decide_eq_false hdistinct]
          exact ⟨_, rfl⟩
    obtain ⟨e, he⟩ := hread
    exact ⟨e, Attempt.bind_of_error he⟩
  · rw [verifyBundle, decide_eq_false hsize]
    exact ⟨_, rfl⟩

theorem contained_of_error {infos : List ZipInfo} {m : Run α} {e : PyError}
    (h : m [] = (.error e, [])) : Contained infos m := by
  rw [Contained, h]
  refine ⟨fun pre name post heq ↦ ?_, fun _ ↦ ⟨⟨e, rfl⟩, rfl⟩⟩
  cases pre with
  | nil => cases heq
  | cons event pre => cases heq

/-- What begins with a decompression is not in order. -/
theorem not_contained_of_prefix {infos : List ZipInfo} {m : Run α} {name : Text}
    (h : [.decompressed name] <+: (m []).2) : ¬Contained infos m := by
  obtain ⟨rest, hrest⟩ := h
  intro ⟨hordered, _⟩
  exact List.not_mem_nil (hordered [] name rest hrest.symm)

/-- Both verifiers decompress only what an accepted list precedes, and only raise where the list is
rejected, if and only if the manifest is not opened. -/
theorem verifiers_contained_iff (int : Json → Except PyError Int)
    (zipfile : Bytes → Except PyError ZipArchive) (parts : ProofParts) (raw : Bytes) :
    (∀ archive, zipfile raw = .ok archive →
      Contained archive.infolist (verifyBundle int zipfile raw) ∧
        Contained archive.infolist (verifyReliabilityProofBundle int zipfile parts raw)) ↔
      ∀ archive, ¬ReachesManifest zipfile raw archive := by
  constructor
  · intro h archive hreaches
    exact not_contained_of_prefix (prefix_verifyBundle hreaches) (h archive hreaches.opens).1
  · intro h archive _
    obtain ⟨e, he⟩ := @verifyBundle_of_not_reaches int zipfile raw h
    exact ⟨contained_of_error he, contained_of_error (Attempt.bind_of_error he)⟩

/-- An archive whose one member is a manifest of a tebibyte, compressed to a mebibyte. -/
def oversized : ZipArchive where
  infolist := [⟨manifestName, 2 ^ 40, 2 ^ 20, 0⟩]
  member _ := .ok (.ok [])

/-- The manifest of a rejected archive is decompressed. -/
theorem oversized_decompressed :
    (validateArchiveEnvelope .defaults oversized.infolist).toOption = none ∧
      [.decompressed manifestName] <+:
        (verifyBundle (fun _ ↦ .ok 0) (fun _ ↦ .ok oversized) [] []).2 ∧
      ¬Contained oversized.infolist (verifyBundle (fun _ ↦ .ok 0) (fun _ ↦ .ok oversized) []) := by
  have hreaches : ReachesManifest (fun _ ↦ .ok oversized) [] oversized :=
    ⟨Nat.zero_le _, rfl, List.nodup_singleton _, List.mem_singleton_self _, _, rfl⟩
  have hprefix := @prefix_verifyBundle (fun _ ↦ .ok 0) (fun _ ↦ .ok oversized) [] oversized hreaches
  exact ⟨by decide +kernel, hprefix, not_contained_of_prefix hprefix⟩

/-- A run that keeps the members but the manifest behind the acceptance of the list, which it
reaches where it returns. -/
def Admits (infos : List ZipInfo) (m : Run α) : Prop := ∀ s, Guarded infos s →
  Guarded infos (m s).2 ∧ ∀ a, (m s).1 = .ok a → .accepted infos ∈ (m s).2

theorem admits_lift_bind {infos : List ZipInfo} {x : Except PyError α} {f : α → Run β}
    (hf : ∀ a, x = .ok a → Admits infos (f a)) : Admits infos (Attempt.lift x >>= f) := by
  cases x with
  | error e => exact fun s hs ↦ ⟨hs, fun a ha ↦ by cases ha⟩
  | ok a => exact hf a rfl

theorem admits_bind {infos : List ZipInfo} {m : Run α} {f : α → Run β} (hm : Admits infos m)
    (hf : ∀ a, Attempt.Keeps (Guards infos) (f a)) : Admits infos (m >>= f) := by
  intro s hs
  have hfirst := hm s hs
  cases hrun : m s with
  | mk outcome s' =>
    rw [hrun] at hfirst
    cases outcome with
    | error e =>
      rw [Attempt.bind_of_error hrun]
      exact ⟨hfirst.1, fun a ha ↦ by cases ha⟩
    | ok a =>
      rw [Attempt.bind_of_ok hrun]
      have hrest := hf a s' (hfirst.2 a rfl) hfirst.1
      exact ⟨hrest.2, fun _ _ ↦ hrest.1⟩

theorem admits_validate (archive : ZipArchive) : Admits archive.infolist archive.validate := by
  intro s hs
  rw [ZipArchive.validate]
  cases validateArchiveEnvelope .defaults archive.infolist with
  | error e => exact ⟨hs, fun a ha ↦ by cases ha⟩
  | ok u =>
    exact ⟨hs.append fun name hname ↦ (by cases hname),
      fun _ _ ↦ List.mem_append_right _ (List.mem_singleton_self _)⟩

theorem admits_readArtifacts (archive : ZipArchive) (bundle : OperationalBundle) :
    Admits archive.infolist (readArtifacts archive bundle) := by
  have h := stable_guards archive.infolist
  exact admits_lift_bind fun _ _ ↦ admits_bind (admits_validate archive) fun _ ↦
    h.bind (h.lift _) fun _ ↦ h.bind (h.readAll archive _) fun _ ↦ h.pure _

/-- The manifest may be read before the list is accepted. -/
theorem admits_read_manifest {infos : List ZipInfo} {f : Bytes → Run β}
    (hf : ∀ manifest, Admits infos (f manifest)) :
    Admits infos (archive.read manifestName >>= f) := by
  intro s hs
  cases hmember : archive.member manifestName with
  | error e =>
    have hread : archive.read manifestName s = (.error e, s) := by
      rw [ZipArchive.read, hmember]
      rfl
    rw [Attempt.bind_of_error hread]
    exact ⟨hs, fun a ha ↦ by cases ha⟩
  | ok body =>
    have hread := read_apply hmember s
    have hs' : Guarded infos (s ++ [.decompressed manifestName]) :=
      hs.append fun name hname ↦ .inl (Event.decompressed.inj hname).symm
    cases body with
    | error e =>
      rw [Attempt.bind_of_error hread]
      exact ⟨hs', fun a ha ↦ by cases ha⟩
    | ok manifest =>
      rw [Attempt.bind_of_ok hread]
      exact hf manifest _ hs'

theorem admits_verifyBundle (hopen : zipfile raw = .ok archive) :
    Admits archive.infolist (verifyBundle int zipfile raw) := by
  have h := stable_guards archive.infolist
  apply admits_lift_bind
  intro _ _
  apply admits_bind _ fun _ ↦ h.lift _
  apply admits_lift_bind
  intro archive' harchive
  cases hopen.symm.trans harchive
  exact admits_lift_bind fun _ _ ↦ admits_lift_bind fun _ _ ↦ admits_read_manifest fun _ ↦
    admits_lift_bind fun bundle _ ↦ admits_bind (admits_readArtifacts archive bundle) fun _ ↦
    h.pure _

/-- Every member but the manifest is decompressed after the whole list of the archive was
accepted. -/
theorem verifiers_guarded (int : Json → Except PyError Int) (parts : ProofParts)
    (hopen : zipfile raw = .ok archive) :
    Guarded archive.infolist (verifyBundle int zipfile raw []).2 ∧
      Guarded archive.infolist (verifyReliabilityProofBundle int zipfile parts raw []).2 := by
  have hnil : Guarded archive.infolist [] := by
    intro pre name post heq
    cases pre with
    | nil => cases heq
    | cons event pre => cases heq
  have hbundle := @admits_verifyBundle int zipfile raw archive hopen
  have hproof := admits_bind hbundle fun bundle ↦
    (stable_guards archive.infolist).verifyProof zipfile parts raw bundle
  exact ⟨(hbundle [] hnil).1, (hproof [] hnil).1⟩

end Verification

/-! ### What the runs give -/

section Results

variable {α β : Type}

/-- A run gives a result, whatever was noted. -/
def Gives (m : Run α) (x : Except PyError α) : Prop := ∀ s, (m s).1 = x

theorem gives_lift (x : Except PyError α) : Gives (Attempt.lift x) x := fun _ ↦ rfl

theorem gives_pure (a : α) : Gives (pure a) (.ok a) := fun _ ↦ rfl

theorem Gives.bind {m : Run α} {x : Except PyError α} {f : α → Run β} {g : α → Except PyError β}
    (hm : Gives m x) (hf : ∀ a, Gives (f a) (g a)) : Gives (m >>= f) (x >>= g) := by
  intro s
  have hfirst := hm s
  cases hrun : m s with
  | mk outcome s' =>
    rw [hrun] at hfirst
    rw [← hfirst]
    cases outcome with
    | error e =>
      rw [Attempt.bind_of_error hrun]
      rfl
    | ok a =>
      rw [Attempt.bind_of_ok hrun]
      exact hf a s'

/-- The members of an archive, each under its declared size, where all can be read. -/
structure Holds (archive : ZipArchive) (members : Archive) : Prop where
  names : archive.namelist = members.keys
  sizes : ∀ name, (archive.infolist.find? fun info ↦ info.filename = name).map ZipInfo.fileSize =
    (members.get? name).map List.length
  contents : ∀ name, archive.member name = Except.ok <$> orRaise ⟨.keyError, name⟩
    (members.get? name)

variable {archive : ZipArchive} {members : Archive}

theorem Holds.gives_read (h : Holds archive members) (name : Text) :
    Gives (archive.read name) (orRaise ⟨.keyError, name⟩ (members.get? name)) := by
  intro s
  rw [ZipArchive.read, h.contents name]
  cases members.get? name with
  | none => rfl
  | some content => rfl

theorem Holds.gives_readAll (h : Holds archive members) (names : List Text) :
    Gives (archive.readAll names) (names.mapM fun name ↦ do
      let content ← orRaise ⟨.keyError, name⟩ (members.get? name)
      pure (name, content)) := by
  induction names with
  | nil => exact gives_pure []
  | cons name names ih =>
    rw [ZipArchive.readAll, List.mapM_cons]
    simp only [bind_assoc, pure_bind]
    exact (h.gives_read name).bind fun _ ↦ ih.bind fun _ ↦ gives_pure _

theorem gives_validate (archive : ZipArchive) :
    Gives archive.validate (validateArchiveEnvelope .defaults archive.infolist) := by
  intro s
  rw [ZipArchive.validate]
  cases validateArchiveEnvelope .defaults archive.infolist with
  | error e => rfl
  | ok u => rfl

theorem Holds.checkMemberSize (h : Holds archive members) (a : OperationalArtifact) :
    checkMemberSize archive a =
      (orRaise ⟨.keyError, a.memberName⟩ (members.get? a.memberName) >>= fun content ↦
        require ⟨.valueError, lit "ZIP member size mismatch for artifact " ++ a.artifactId ++
          lit ": manifest=" ++ Json.intText a.sizeBytes ++ lit ", archive=" ++
          Json.intText content.length⟩ ((content.length : Int) = a.sizeBytes)) := by
  have hsize := h.sizes a.memberName
  rw [ArchiveReading.checkMemberSize, ZipArchive.getinfo]
  cases hfind : archive.infolist.find? fun info ↦ info.filename = a.memberName with
  | none =>
    rw [hfind] at hsize
    rw [Option.map_eq_none_iff.mp hsize.symm]
    rfl
  | some info =>
    rw [hfind] at hsize
    obtain ⟨content, hcontent, hlength⟩ := Option.map_eq_some_iff.mp hsize.symm
    rw [hcontent, orRaise_some, orRaise_some, ok_bind, ok_bind, hlength]

theorem Holds.gives_readArtifacts (h : Holds archive members) (bundle : OperationalBundle) :
    Gives (readArtifacts archive bundle) (do
      checkContents bundle (members.erase manifestName).keys
      validateArchiveEnvelope .defaults archive.infolist
      forM bundle.artifacts (ArchiveReading.checkMemberSize archive)
      let extracted ← (bundle.memberNames.dedup.insertionSort (· ≤ ·)).mapM fun name ↦ do
        let content ← orRaise ⟨.keyError, name⟩ (members.get? name)
        pure (name, content)
      pure (Dict.ofPairs extracted)) := by
  have hnames : (members.erase manifestName).keys =
      archive.namelist.filter fun name ↦ name ≠ manifestName := by
    rw [h.names, Dict.keys, Dict.keys, Dict.erase, List.filter_map]
    rfl
  rw [hnames]
  exact (gives_lift _).bind fun _ ↦ (gives_validate archive).bind fun _ ↦
    (gives_lift _).bind fun _ ↦ (h.gives_readAll _).bind fun _ ↦ gives_pure _

end Results

/-- A run on an archive whose members can be read gives what the verification of its members and of
the verdict on its envelope gives. -/
theorem verifyBundle_gives (int : Json → Except PyError Int)
    {zipfile : Bytes → Except PyError ZipArchive} {raw : Bytes} {archive : ZipArchive}
    {members : Archive} (hopen : zipfile raw = .ok archive) (h : Holds archive members) :
    Gives (verifyBundle int zipfile raw) (Operations.verifyBundle int
      ⟨raw, members, validateArchiveEnvelope .defaults archive.infolist⟩) := by
  have hmanifest : Gives (readManifest int zipfile raw) (Operations.readManifest int
      ⟨raw, members, validateArchiveEnvelope .defaults archive.infolist⟩) := by
    rw [readManifest, Operations.readManifest, hopen, Attempt.lift_ok_bind, h.names]
    apply (gives_lift _).bind
    intro _
    change Gives _ (orRaise _ (members.get? manifestName) >>= _)
    cases hmember : members.get? manifestName with
    | none =>
      have hlisted : manifestName ∉ members.keys := Dict.get?_eq_none_iff.mp hmember
      rw [Bool.eq_false_iff.mpr fun hc ↦ hlisted (List.contains_iff_mem.mp hc)]
      exact fun _ ↦ rfl
    | some manifest =>
      have hlisted : manifestName ∈ members.keys := by
        by_contra hc
        rw [Dict.get?_eq_none_iff.mpr hc] at hmember
        cases hmember
      have hread := h.gives_read manifestName
      rw [hmember] at hread
      rw [List.contains_iff_mem.mpr hlisted, require_true, Attempt.lift_ok_bind]
      apply Gives.bind hread
      intro manifest
      have hparse := (gives_lift (parseManifest int manifest)).bind fun bundle ↦
        (h.gives_readArtifacts bundle).bind fun files ↦ gives_pure (bundle, files)
      rw [funext h.checkMemberSize] at hparse
      simp only [parseManifest, bind_assoc] at hparse
      exact hparse
  by_cases hsize : raw.length ≤ maxInputBytes
  · rw [verifyBundle_of_le hsize, Operations.verifyBundle, decide_eq_true hsize, require_true,
      ok_bind]
    exact hmanifest.bind fun _ ↦ gives_lift _
  · rw [verifyBundle, Operations.verifyBundle, decide_eq_false hsize]
    exact fun _ ↦ rfl

end StateWake.Operations.ArchiveReading
