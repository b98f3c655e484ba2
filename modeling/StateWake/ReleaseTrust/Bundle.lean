import StateWake.ReleaseTrust.Publication

/-!
# Release-trust bundles

`release_trust/model.py`. A bundle states what a release was built from and which evidence there
is for it; its payload is signed without the reference to the signature, and determines the rest.
-/

namespace StateWake.ReleaseTrust

open StateWake.Base Text Utils

/-! ### The parts of a bundle -/

/-- `SourceIdentity`, `release_trust/model.py:62–90`. -/
structure SourceIdentity where
  distribution : Text
  version : Text
  sourceRevision : Text
  sourceTreeSha256 : Text
  dependencyLockSha256 : Text
  stated : ∀ text ∈ [distribution, version, sourceRevision], blank text = false
  digested : isSha256 sourceTreeSha256 = true ∧ isSha256 dependencyLockSha256 = true

/-- `to_dict`. -/
def SourceIdentity.toDict (s : SourceIdentity) : Dict Json :=
  [(lit "distribution", .str s.distribution), (lit "version", .str s.version),
    (lit "source_revision", .str s.sourceRevision),
    (lit "source_tree_sha256", .str s.sourceTreeSha256),
    (lit "dependency_lock_sha256", .str s.dependencyLockSha256)]

/-- `BuildProvenance`, `release_trust/model.py:93–135`. The environment is a mapping: its keys are
distinct, and their order does not count. -/
structure BuildProvenance where
  builder : Text
  buildType : Text
  buildSteps : List Text
  environment : Dict Text
  startedAt : Option Text
  finishedAt : Option Text
  stated : blank builder = false ∧ blank buildType = false
  stepped : buildSteps ≠ [] ∧ ∀ step ∈ buildSteps, blank step = false
  environed : environment ≠ [] ∧ ∀ m ∈ environment, blank m.1 = false ∧ blank m.2 = false
  distinct : environment.Distinct

/-- `to_dict`. -/
def BuildProvenance.toDict (b : BuildProvenance) : Dict Json :=
  [(lit "builder", .str b.builder), (lit "build_type", .str b.buildType),
    (lit "build_steps", .arr (b.buildSteps.map .str)),
    (lit "environment", .obj (Dict.mapValues .str b.environment.sorted)),
    (lit "started_at", optionJson b.startedAt), (lit "finished_at", optionJson b.finishedAt)]

/-- The statuses of external evidence. -/
inductive EvidenceStatus where
  | present
  | passed
  | failed
  | limitation
  deriving DecidableEq, Repr

/-- The name of a status. -/
def EvidenceStatus.text : EvidenceStatus → Text
  | .present => lit "present"
  | .passed => lit "passed"
  | .failed => lit "failed"
  | .limitation => lit "limitation"

/-- `ExternalEvidence`, `release_trust/model.py:138–170`. -/
structure ExternalEvidence where
  evidenceType : Text
  name : Text
  digest : Text
  status : EvidenceStatus
  reference : Option Text
  limitation : Option Text
  stated : blank evidenceType = false ∧ blank name = false
  digested : isSha256 digest = true
  explained : status = .limitation → blank (limitation.getD []) = false
  unlimited : status = .present ∨ status = .passed → blank (limitation.getD []) = true

/-- `to_dict`. -/
def ExternalEvidence.toDict (e : ExternalEvidence) : Dict Json :=
  [(lit "evidence_type", .str e.evidenceType), (lit "name", .str e.name),
    (lit "digest", .str e.digest), (lit "status", .str e.status.text),
    (lit "reference", optionJson e.reference), (lit "limitation", optionJson e.limitation)]

/-- The decisions on a release. -/
inductive ReleaseDecision where
  | approved
  | rejected
  | pending
  | notRequested
  deriving DecidableEq, Repr

/-- The name of a decision. -/
def ReleaseDecision.text : ReleaseDecision → Text
  | .approved => lit "approved"
  | .rejected => lit "rejected"
  | .pending => lit "pending"
  | .notRequested => lit "not-requested"

/-- `HumanReleaseDecision`, `release_trust/model.py:173–204`. -/
structure HumanReleaseDecision where
  actorRef : Text
  role : Text
  decision : ReleaseDecision
  decidedAt : Option Text
  scope : Text
  basisDigest : Option Text
  stated : ∀ text ∈ [actorRef, role, scope], blank text = false
  digested : ∀ digest ∈ basisDigest, isSha256 digest = true

/-- `to_dict`. -/
def HumanReleaseDecision.toDict (d : HumanReleaseDecision) : Dict Json :=
  [(lit "actor_ref", .str d.actorRef), (lit "role", .str d.role),
    (lit "decision", .str d.decision.text), (lit "decided_at", optionJson d.decidedAt),
    (lit "scope", .str d.scope), (lit "basis_digest", optionJson d.basisDigest)]

/-! ### Bundles -/

/-- `ReleaseTrustBundle`, `release_trust/model.py:207–292`. The constructor refuses a bundle
without SBOM, scan, signature or provenance evidence, and every schema version but `1`. -/
structure ReleaseTrustBundle where
  source : SourceIdentity
  artifacts : List ArtifactDigest
  build : BuildProvenance
  tests : List ExternalEvidence
  sbom : ExternalEvidence
  vulnerabilityScan : ExternalEvidence
  signature : ExternalEvidence
  provenance : ExternalEvidence
  humanDecision : HumanReleaseDecision
  limitations : List Text
  released : artifacts ≠ []
  tested : tests ≠ [] ∧ ∀ item ∈ tests, item.status = .passed
  stated : ∀ item ∈ limitations, blank item = false
  unfailed : ∀ item ∈ [sbom, vulnerabilityScan, signature, provenance], item.status ≠ .failed
  unpassed : signature.status ≠ .passed
  typed : signature.status = .present → signature.evidenceType = lit "signature"
  disclosed : signature.status = .limitation → ∃ text ∈ signature.limitation, text ∈ limitations
  decided : humanDecision.decision = .approved → humanDecision.basisDigest.isSome = true

namespace ReleaseTrustBundle

/-- The payload of a bundle with the given signature reference. -/
def payloadWith (b : ReleaseTrustBundle) (signature : Json) : Dict Json :=
  [(lit "schema_version", .str (lit "1")), (lit "source", .obj b.source.toDict),
    (lit "artifacts", .arr (b.artifacts.map ArtifactDigest.toDict)),
    (lit "build", .obj b.build.toDict),
    (lit "tests", .arr (b.tests.map fun item ↦ .obj item.toDict)),
    (lit "sbom", .obj b.sbom.toDict), (lit "vulnerability_scan", .obj b.vulnerabilityScan.toDict),
    (lit "signature", signature), (lit "provenance", .obj b.provenance.toDict),
    (lit "human_decision", .obj b.humanDecision.toDict),
    (lit "limitations", .arr (b.limitations.map .str))]

/-- `payload`, `release_trust/model.py:279–297`. -/
def payload (b : ReleaseTrustBundle) : Dict Json := b.payloadWith (.obj b.signature.toDict)

/-- `digest`. -/
def digest (b : ReleaseTrustBundle) : Except PyError Text := do
  let content ← canonicalBytes b.payload
  pure (sha256 content)

/-- The evidence items of a bundle, in the order they are checked. -/
def evidence (b : ReleaseTrustBundle) : List ExternalEvidence :=
  b.tests ++ [b.sbom, b.vulnerabilityScan, b.provenance, b.signature]

end ReleaseTrustBundle

/-! ### The payload determines the bundle -/

/-- Two objects with one ordered form have the same ordered members. -/
theorem sortKeys_member_eq {members members' : Dict Json} (hd : members.Distinct)
    (hd' : members'.Distinct)
    (h : Json.sortKeys (.obj members) = Json.sortKeys (.obj members')) {k : Text} {v w : Json}
    (hv : members.get? k = some v) (hw : members'.get? k = some w) :
    Json.sortKeys v = Json.sortKeys w := by
  rw [sortKeys_eq_ordered, sortKeys_eq_ordered, Json.obj.injEq] at h
  have hget := readsAs_sorted hd k v hv
  rw [h, readsAs_sorted hd' k w hw] at hget
  exact (Option.some.inj hget).symm

private theorem sortKeys_optionJson_inj {s t : Option Text}
    (h : Json.sortKeys (optionJson s) = Json.sortKeys (optionJson t)) : s = t := by
  cases s <;> cases t <;> simp_all [optionJson]

private theorem sortKeys_str_inj {s t : Text}
    (h : Json.sortKeys (.str s) = Json.sortKeys (.str t)) : s = t := by
  simpa using h

private theorem sortKeys_texts_inj {s t : List Text}
    (h : Json.sortKeys (.arr (s.map .str)) = Json.sortKeys (.arr (t.map .str))) : s = t := by
  rw [Json.sortKeys_arr, Json.sortKeys_arr, Json.arr.injEq, List.map_map, List.map_map] at h
  exact List.map_injective_iff.mpr (fun a b hab ↦ sortKeys_str_inj hab) h

section Members

variable {m m' : Dict Json} (hd : m.Distinct) (hd' : m'.Distinct)
  (h : Json.sortKeys (.obj m) = Json.sortKeys (.obj m'))

include hd hd' h

/-- A text member that two objects with one ordered form have. -/
theorem text_member_eq {k s t : Text} (hs : m.get? k = some (.str s))
    (ht : m'.get? k = some (.str t)) : s = t :=
  sortKeys_str_inj (sortKeys_member_eq hd hd' h hs ht)

/-- An optional text member that two objects with one ordered form have. -/
theorem optional_member_eq {k : Text} {s t : Option Text}
    (hs : m.get? k = some (optionJson s)) (ht : m'.get? k = some (optionJson t)) : s = t :=
  sortKeys_optionJson_inj (sortKeys_member_eq hd hd' h hs ht)

/-- A list of texts that two objects with one ordered form have. -/
theorem texts_member_eq {k : Text} {s t : List Text}
    (hs : m.get? k = some (.arr (s.map .str))) (ht : m'.get? k = some (.arr (t.map .str))) :
    s = t :=
  sortKeys_texts_inj (sortKeys_member_eq hd hd' h hs ht)

end Members

theorem SourceIdentity.distinct_toDict (s : SourceIdentity) : Dict.Distinct s.toDict := by
  simp [toDict, Dict.Distinct]

theorem SourceIdentity.eq_of_sortKeys {s t : SourceIdentity}
    (h : Json.sortKeys (.obj s.toDict) = Json.sortKeys (.obj t.toDict)) : s = t := by
  have hd := s.distinct_toDict
  have hd' := t.distinct_toDict
  have hdistribution : s.distribution = t.distribution :=
    text_member_eq hd hd' h (k := lit "distribution") (by simp [toDict]) (by simp [toDict])
  have hversion : s.version = t.version :=
    text_member_eq hd hd' h (k := lit "version") (by simp [toDict]) (by simp [toDict])
  have hsourcerevision : s.sourceRevision = t.sourceRevision :=
    text_member_eq hd hd' h (k := lit "source_revision") (by simp [toDict]) (by simp [toDict])
  have hsourcetreesha256 : s.sourceTreeSha256 = t.sourceTreeSha256 :=
    text_member_eq hd hd' h (k := lit "source_tree_sha256") (by simp [toDict]) (by simp [toDict])
  have hdependencylocksha256 : s.dependencyLockSha256 = t.dependencyLockSha256 :=
    text_member_eq hd hd' h (k := lit "dependency_lock_sha256") (by simp [toDict])
      (by simp [toDict])
  cases s
  cases t
  simp_all

theorem EvidenceStatus.text_injective : Function.Injective EvidenceStatus.text := by
  intro s t h
  cases s <;> cases t <;> simp_all [text]

theorem ReleaseDecision.text_injective : Function.Injective ReleaseDecision.text := by
  intro s t h
  cases s <;> cases t <;> simp_all [text]

theorem ExternalEvidence.distinct_toDict (s : ExternalEvidence) : Dict.Distinct s.toDict := by
  simp [toDict, Dict.Distinct]

theorem ExternalEvidence.eq_of_sortKeys {s t : ExternalEvidence}
    (h : Json.sortKeys (.obj s.toDict) = Json.sortKeys (.obj t.toDict)) : s = t := by
  have hd := s.distinct_toDict
  have hd' := t.distinct_toDict
  have hevidencetype : s.evidenceType = t.evidenceType :=
    text_member_eq hd hd' h (k := lit "evidence_type") (by simp [toDict]) (by simp [toDict])
  have hname : s.name = t.name :=
    text_member_eq hd hd' h (k := lit "name") (by simp [toDict]) (by simp [toDict])
  have hdigest : s.digest = t.digest :=
    text_member_eq hd hd' h (k := lit "digest") (by simp [toDict]) (by simp [toDict])
  have hstatus : s.status = t.status := EvidenceStatus.text_injective <|
    text_member_eq hd hd' h (k := lit "status") (by simp [toDict]) (by simp [toDict])
  have hreference : s.reference = t.reference :=
    optional_member_eq hd hd' h (k := lit "reference") (by simp [toDict]) (by simp [toDict])
  have hlimitation : s.limitation = t.limitation :=
    optional_member_eq hd hd' h (k := lit "limitation") (by simp [toDict]) (by simp [toDict])
  cases s
  cases t
  simp_all

theorem HumanReleaseDecision.distinct_toDict (s : HumanReleaseDecision) :
    Dict.Distinct s.toDict := by
  simp [toDict, Dict.Distinct]

theorem HumanReleaseDecision.eq_of_sortKeys {s t : HumanReleaseDecision}
    (h : Json.sortKeys (.obj s.toDict) = Json.sortKeys (.obj t.toDict)) : s = t := by
  have hd := s.distinct_toDict
  have hd' := t.distinct_toDict
  have hactorref : s.actorRef = t.actorRef :=
    text_member_eq hd hd' h (k := lit "actor_ref") (by simp [toDict]) (by simp [toDict])
  have hrole : s.role = t.role :=
    text_member_eq hd hd' h (k := lit "role") (by simp [toDict]) (by simp [toDict])
  have hdecision : s.decision = t.decision := ReleaseDecision.text_injective <|
    text_member_eq hd hd' h (k := lit "decision") (by simp [toDict]) (by simp [toDict])
  have hdecidedat : s.decidedAt = t.decidedAt :=
    optional_member_eq hd hd' h (k := lit "decided_at") (by simp [toDict]) (by simp [toDict])
  have hscope : s.scope = t.scope :=
    text_member_eq hd hd' h (k := lit "scope") (by simp [toDict]) (by simp [toDict])
  have hbasisdigest : s.basisDigest = t.basisDigest :=
    optional_member_eq hd hd' h (k := lit "basis_digest") (by simp [toDict]) (by simp [toDict])
  cases s
  cases t
  simp_all

theorem ArtifactDigest.eq_of_sortKeys {a b : ArtifactDigest}
    (h : Json.sortKeys a.toDict = Json.sortKeys b.toDict) : a = b := by
  have hd : ∀ a : ArtifactDigest, Dict.Distinct [(lit "name", Json.str a.name),
      (lit "sha256", .str a.sha256), (lit "size_bytes", .int a.sizeBytes),
      (lit "media_type", .str a.mediaType)] := by
    intro a
    simp [Dict.Distinct]
  have hname : a.name = b.name :=
    text_member_eq (hd a) (hd b) h (k := lit "name") (by simp) (by simp)
  have hsha : a.sha256 = b.sha256 :=
    text_member_eq (hd a) (hd b) h (k := lit "sha256") (by simp) (by simp)
  have htype : a.mediaType = b.mediaType :=
    text_member_eq (hd a) (hd b) h (k := lit "media_type") (by simp) (by simp)
  have hsize : Json.sortKeys (.int a.sizeBytes) = Json.sortKeys (.int b.sizeBytes) :=
    sortKeys_member_eq (hd a) (hd b) h (k := lit "size_bytes") (by simp) (by simp)
  rw [Json.sortKeys_int, Json.sortKeys_int, Json.int.injEq] at hsize
  cases a
  cases b
  simp_all

/-- Two builds are the same: the order of the environment does not count. -/
structure BuildProvenance.Same (b c : BuildProvenance) : Prop where
  builder : b.builder = c.builder
  buildType : b.buildType = c.buildType
  buildSteps : b.buildSteps = c.buildSteps
  environment : ∀ key, b.environment.get? key = c.environment.get? key
  startedAt : b.startedAt = c.startedAt
  finishedAt : b.finishedAt = c.finishedAt

theorem BuildProvenance.distinct_toDict (b : BuildProvenance) : Dict.Distinct b.toDict := by
  simp [toDict, Dict.Distinct]

/-- An environment in canonical order is in canonical order. -/
private theorem sortKeys_environment (e : Dict Text) :
    Json.sortKeys (.obj (Dict.mapValues .str e.sorted)) =
      .obj (Dict.mapValues .str e.sorted) := by
  have hvalues : Dict.mapValues Json.sortKeys (Dict.mapValues .str e.sorted) =
      Dict.mapValues .str e.sorted := by
    simp [Dict.mapValues, Function.comp_def]
  rw [sortKeys_eq_ordered, ordered, hvalues, Dict.sorted_mapValues, Dict.sorted_sorted]

theorem BuildProvenance.same_of_sortKeys {b c : BuildProvenance}
    (h : Json.sortKeys (.obj b.toDict) = Json.sortKeys (.obj c.toDict)) : b.Same c := by
  have hd := b.distinct_toDict
  have hd' := c.distinct_toDict
  constructor
  · exact text_member_eq hd hd' h (k := lit "builder") (by simp [toDict]) (by simp [toDict])
  · exact text_member_eq hd hd' h (k := lit "build_type") (by simp [toDict]) (by simp [toDict])
  · exact texts_member_eq hd hd' h (k := lit "build_steps") (by simp [toDict]) (by simp [toDict])
  · intro key
    have henvironment := sortKeys_member_eq hd hd' h (k := lit "environment")
      (v := .obj (Dict.mapValues .str b.environment.sorted))
      (w := .obj (Dict.mapValues .str c.environment.sorted)) (by simp [toDict]) (by simp [toDict])
    rw [sortKeys_environment, sortKeys_environment, Json.obj.injEq] at henvironment
    have hget := congrArg (fun d ↦ Dict.get? d key) henvironment
    rw [Dict.get?_mapValues, Dict.get?_mapValues, Dict.get?_sorted b.distinct,
      Dict.get?_sorted c.distinct] at hget
    exact Option.map_injective (fun s t hst ↦ by simpa using hst) hget
  · exact optional_member_eq hd hd' h (k := lit "started_at") (by simp [toDict]) (by simp [toDict])
  · exact optional_member_eq hd hd' h (k := lit "finished_at") (by simp [toDict])
      (by simp [toDict])

/-- Two bundles agree in every field but the signature reference. -/
structure ReleaseTrustBundle.SameUnsigned (b c : ReleaseTrustBundle) : Prop where
  source : b.source = c.source
  artifacts : b.artifacts = c.artifacts
  build : b.build.Same c.build
  tests : b.tests = c.tests
  sbom : b.sbom = c.sbom
  vulnerabilityScan : b.vulnerabilityScan = c.vulnerabilityScan
  provenance : b.provenance = c.provenance
  humanDecision : b.humanDecision = c.humanDecision
  limitations : b.limitations = c.limitations

namespace ReleaseTrustBundle

theorem distinct_payloadWith (b : ReleaseTrustBundle) (signature : Json) :
    Dict.Distinct (b.payloadWith signature) := by
  simp [payloadWith, Dict.Distinct]

/-- The payload without the signature reference determines the rest of the bundle. -/
theorem sameUnsigned_of_sortKeys {b c : ReleaseTrustBundle} {signature : Json}
    (h : Json.sortKeys (.obj (b.payloadWith signature)) =
      Json.sortKeys (.obj (c.payloadWith signature))) : b.SameUnsigned c := by
  have hd := b.distinct_payloadWith signature
  have hd' := c.distinct_payloadWith signature
  have hevidence : ∀ s t : ExternalEvidence,
      Json.sortKeys (.obj s.toDict) = Json.sortKeys (.obj t.toDict) → s = t :=
    fun _ _ ↦ ExternalEvidence.eq_of_sortKeys
  constructor
  · exact SourceIdentity.eq_of_sortKeys (sortKeys_member_eq hd hd' h (k := lit "source")
      (by simp [payloadWith]) (by simp [payloadWith]))
  · have hlist := sortKeys_member_eq hd hd' h (k := lit "artifacts")
      (v := .arr (b.artifacts.map ArtifactDigest.toDict))
      (w := .arr (c.artifacts.map ArtifactDigest.toDict)) (by simp [payloadWith])
      (by simp [payloadWith])
    rw [Json.sortKeys_arr, Json.sortKeys_arr, Json.arr.injEq, List.map_map, List.map_map] at hlist
    exact List.map_injective_iff.mpr (fun _ _ ↦ ArtifactDigest.eq_of_sortKeys) hlist
  · exact BuildProvenance.same_of_sortKeys (sortKeys_member_eq hd hd' h (k := lit "build")
      (by simp [payloadWith]) (by simp [payloadWith]))
  · have hlist := sortKeys_member_eq hd hd' h (k := lit "tests")
      (v := .arr (b.tests.map fun item ↦ .obj item.toDict))
      (w := .arr (c.tests.map fun item ↦ .obj item.toDict)) (by simp [payloadWith])
      (by simp [payloadWith])
    rw [Json.sortKeys_arr, Json.sortKeys_arr, Json.arr.injEq, List.map_map, List.map_map] at hlist
    exact List.map_injective_iff.mpr (fun _ _ ↦ ExternalEvidence.eq_of_sortKeys) hlist
  · exact hevidence _ _ (sortKeys_member_eq hd hd' h (k := lit "sbom") (by simp [payloadWith])
      (by simp [payloadWith]))
  · exact hevidence _ _ (sortKeys_member_eq hd hd' h (k := lit "vulnerability_scan")
      (by simp [payloadWith]) (by simp [payloadWith]))
  · exact hevidence _ _ (sortKeys_member_eq hd hd' h (k := lit "provenance")
      (by simp [payloadWith]) (by simp [payloadWith]))
  · exact HumanReleaseDecision.eq_of_sortKeys (sortKeys_member_eq hd hd' h
      (k := lit "human_decision") (by simp [payloadWith]) (by simp [payloadWith]))
  · exact texts_member_eq hd hd' h (k := lit "limitations") (by simp [payloadWith])
      (by simp [payloadWith])

end ReleaseTrustBundle

end StateWake.ReleaseTrust
