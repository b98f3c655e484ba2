import StateWake.Operations.Bundle

/-!
# Disclosure of a bundle

`export_disclosed_bundle` of `services/operations_service.py`: the artifacts up to a ceiling, with
their files, under identities of their own. A source is no more sensitive than what is derived
from it, so the disclosed bundle is closed; and nothing above the ceiling reaches it.
-/

namespace StateWake.Operations

open StateWake.Base Text Utils Lifecycle

namespace OperationalBundle

/-- The artifacts up to a ceiling, in order. -/
def below (b : OperationalBundle) (s : Sensitivity) : List OperationalArtifact :=
  b.artifacts.filter fun a ↦ a.sensitivity.rank ≤ s.rank

/-- The bundle to disclose before it has identities,
`services/operations_service.py:305–313`. -/
def draft (b : OperationalBundle) (artifacts : List OperationalArtifact) : OperationalBundle :=
  { b with bundleId := lit "pending", manifestId := lit "pending", artifacts }

end OperationalBundle

/-- The files of artifacts by member name. -/
def artifactFiles (files : Dict Bytes) (artifacts : List OperationalArtifact) :
    Except PyError (Dict Bytes) := do
  let members ← artifacts.mapM fun a ↦ do
    let content ← orRaise ⟨.keyError, a.memberName⟩ (files.get? a.memberName)
    pure (a.memberName, content)
  pure (Dict.ofPairs members)

/-- A draft with its identities, written with its files,
`services/operations_service.py:305–328`. -/
def sealDraft (draft : OperationalBundle) (members : Dict Bytes) :
    Except PyError (OperationalBundle × Archive) := do
  draft.check
  let bundleId ← draft.computedBundleId
  let manifestId ← draft.computedManifestId
  let disclosed := { draft with bundleId, manifestId }
  disclosed.check
  let text ← disclosed.manifestText
  let manifest ← Utf8.toBytes text
  pure (disclosed, exportBundle (members.set (lit "manifest.json") manifest))

/-- `export_disclosed_bundle`, `services/operations_service.py:283–328`. -/
def exportDisclosedBundle (b : OperationalBundle) (files : Dict Bytes) (maxSensitivity : Text) :
    Except PyError (OperationalBundle × Archive) := do
  let selected ← filterDisclosableIds (b.artifacts.map fun a ↦ (a.artifactId, a.sensitivity))
    maxSensitivity
  let artifacts := b.artifacts.filter fun a ↦ a.artifactId ∈ selected
  let members ← artifactFiles files artifacts
  sealDraft (b.draft artifacts) members

/-! ### What is selected -/

variable {b b' : OperationalBundle} {files files' : Dict Bytes} {s : Sensitivity}

/-- Identifiers are never blank and each names one artifact: the selection is by sensitivity. -/
private theorem filter_selected (hb : b.Lawful) : ∃ selected,
    filterDisclosableIds (b.artifacts.map fun a ↦ (a.artifactId, a.sensitivity)) s.text =
      .ok selected ∧ (b.artifacts.filter fun a ↦ a.artifactId ∈ selected) = b.below s := by
  have hids : (Dict.keys (b.artifacts.map fun a ↦ (a.artifactId, a.sensitivity))).any blank =
      false := by
    rw [List.any_eq_false]
    intro id hid
    obtain ⟨level, hlevel⟩ := Dict.mem_keys.mp hid
    obtain ⟨a, ha, heq⟩ := List.mem_map.mp hlevel
    cases heq
    rw [(hb.artifacts a ha).not_blank]
    exact Bool.false_ne_true
  obtain ⟨selected, hok⟩ : ∃ selected, filterDisclosableIds
      (b.artifacts.map fun a ↦ (a.artifactId, a.sensitivity)) s.text = .ok selected := by
    rw [filterDisclosableIds, Sensitivity.validate_text, ok_bind, hids]
    exact ⟨_, rfl⟩
  refine ⟨selected, hok, List.filter_congr fun a ha ↦ decide_eq_decide.mpr ?_⟩
  rw [mem_filterDisclosableIds hok]
  constructor
  · rintro ⟨level, hlevel, hrank⟩
    obtain ⟨p, hp, heq⟩ := List.mem_map.mp hlevel
    rw [Prod.mk.injEq] at heq
    rw [List.inj_on_of_nodup_map hb.distinct ha hp heq.1.symm, heq.2]
    exact hrank
  · exact fun hrank ↦ ⟨a.sensitivity, List.mem_map_of_mem ha, hrank⟩

/-- The sources of an artifact up to a ceiling are up to it too. -/
theorem source_mem_below (hb : b.Lawful) {a : OperationalArtifact} (ha : a ∈ b.below s)
    {source : Text} (hsource : source ∈ a.derivedFrom) :
    ∃ p ∈ b.below s, p.artifactId = source ∧ p.sensitivity.rank ≤ a.sensitivity.rank := by
  obtain ⟨hmem, hrank⟩ := List.mem_filter.mp ha
  obtain ⟨p, hp, hid, hle⟩ := hb.inherits a hmem source hsource
  exact ⟨p, List.mem_filter.mpr ⟨hp, decide_eq_true (le_trans hle (of_decide_eq_true hrank))⟩,
    hid, hle⟩

/-- What is disclosed of a lawful bundle is one, under any identities. -/
theorem lawful_disclosed (hb : b.Lawful) {bundleId manifestId : Text}
    (hbundle : blank bundleId = false) (hmanifest : blank manifestId = false) :
    OperationalBundle.Lawful { b with bundleId, manifestId, artifacts := b.below s } where
  named := ⟨hbundle, hmanifest, hb.named.2.2⟩
  distinct := hb.distinct.sublist (List.filter_sublist.map _)
  artifacts := fun a ha ↦ hb.artifacts a (List.mem_of_mem_filter ha)
  inherits := fun _ ha _ hsource ↦ source_mem_below hb ha hsource

/-! ### The files of artifacts -/

private theorem keys_artifactFiles {artifacts : List OperationalArtifact}
    {members : List (Text × Bytes)}
    (h : (artifacts.mapM fun a ↦ do
      let content ← orRaise ⟨.keyError, a.memberName⟩ (files.get? a.memberName)
      pure (a.memberName, content)) = .ok members) :
    members.map Prod.fst = artifacts.map OperationalArtifact.memberName := by
  refine map_of_mapM_eq_ok (fun a m hm ↦ ?_) h
  rw [bind_eq_ok] at hm
  obtain ⟨content, -, hm⟩ := hm
  cases hm
  rfl

/-- Artifacts of a lawful bundle have files of different names. -/
theorem nodup_memberNames (hb : b.Lawful) :
    (b.artifacts.map OperationalArtifact.memberName).Nodup := by
  refine List.Nodup.map_on (fun a ha p hp h ↦ ?_) (List.Nodup.of_map _ hb.distinct)
  exact List.inj_on_of_nodup_map hb.distinct ha hp
    (OperationalArtifact.memberName_inj (hb.artifacts a ha) (hb.artifacts p hp) h)

/-- The files of artifacts are found under their member names, and nothing else is. -/
theorem artifactFiles_spec (hb : b.Lawful) {members : Dict Bytes}
    (h : artifactFiles files b.artifacts = .ok members) : members.Distinct ∧
      members.keys = b.artifacts.map OperationalArtifact.memberName ∧
      ∀ name content, members.get? name = some content ↔
        ∃ a ∈ b.artifacts, a.memberName = name ∧ files.get? name = some content := by
  rw [artifactFiles, bind_eq_ok] at h
  obtain ⟨pairs, hpairs, h⟩ := h
  have hkeys := keys_artifactFiles hpairs
  have hdistinct : Dict.Distinct pairs := by
    rw [Dict.Distinct, Dict.keys, hkeys]
    exact nodup_memberNames hb
  rw [Dict.ofPairs_of_distinct hdistinct] at h
  cases h
  refine ⟨hdistinct, hkeys, fun name content ↦ ?_⟩
  rw [Dict.get?_eq_some_iff hdistinct, mem_of_mapM_eq_ok hpairs]
  simp only [bind_eq_ok, orRaise_eq_ok]
  constructor
  · rintro ⟨a, ha, found, hfound, hm⟩
    cases hm
    exact ⟨a, ha, rfl, hfound⟩
  · rintro ⟨a, ha, rfl, hcontent⟩
    exact ⟨a, ha, content, hcontent, rfl⟩

/-! ### Identities -/

namespace OperationalBundle

private theorem writable_artifact (a : OperationalArtifact) : Json.Writable (.obj a.toDict) := by
  simp [OperationalArtifact.toDict, Dict.Distinct]

private theorem writable_retention (p : Option RetentionPolicy) :
    Json.Writable (p.elim .null fun p ↦ .obj p.toDict) := by
  cases p with
  | none => exact Json.writable_null
  | some p =>
    cases hdays : p.maxAgeDays <;> simp [RetentionPolicy.toDict, Dict.Distinct, hdays]

theorem writable_sharedPayload (b : OperationalBundle) (t : Datetime) :
    Json.Writable (.obj (b.sharedPayload t)) := by
  have hartifacts : Json.Writable (.arr (b.artifacts.map fun a ↦ .obj a.toDict)) := by
    rw [Json.writable_arr]
    intro v hv
    obtain ⟨a, -, rfl⟩ := List.mem_map.mp hv
    exact writable_artifact a
  have hretention := writable_retention b.retentionPolicy
  rw [Json.writable_obj]
  simp only [sharedPayload, List.forall_mem_cons]
  refine ⟨by simp [Dict.Distinct], ?_, ?_, ?_, ⟨?_, hartifacts⟩, ⟨?_, hretention⟩, nofun⟩
  all_goals simp

/-- The manifest with its identity is written as JSON. -/
theorem writable_identified (b : OperationalBundle) (t : Datetime) (manifestId : Text) :
    Json.Writable (.obj ((lit "manifest_id", .str manifestId) :: b.sharedPayload t)) := by
  have h := b.writable_sharedPayload t
  rw [Json.writable_obj] at h ⊢
  refine ⟨List.nodup_cons.mpr ⟨?_, h.1⟩, List.forall_mem_cons.mpr ⟨by simp, h.2⟩⟩
  simp [sharedPayload]

/-- Every text that the identities cover can be encoded. -/
def Encodable (b : OperationalBundle) (t : Datetime) : Prop :=
  ∀ text ∈ Json.texts (.obj (b.sharedPayload t)), SurrogateFree text

/-- A bundle whose manifest has an identity can be encoded, at a time in the calendar. -/
theorem encodable_of_computedManifestId {b : OperationalBundle} {manifestId : Text}
    (h : b.computedManifestId = .ok manifestId) : ∃ t, b.createdAt.toUtc = .ok t ∧
      b.Encodable t := by
  simp only [computedManifestId, bind_eq_ok] at h
  obtain ⟨t, ht, content, hcontent, -⟩ := h
  exact ⟨t, ht, (canonicalBytes_isOk_iff (b.writable_sharedPayload t)).mp ⟨content, hcontent⟩⟩

/-- A bundle that can be encoded has both identities. -/
theorem computed_of_encodable {b : OperationalBundle} {t : Datetime}
    (ht : b.createdAt.toUtc = .ok t) (he : b.Encodable t) : ∃ manifest bundle,
      b.computedManifestId = .ok (Base.sha256 manifest) ∧
      b.computedBundleId = .ok (Base.sha256 bundle) := by
  obtain ⟨manifest, hmanifest⟩ := (canonicalBytes_isOk_iff (b.writable_sharedPayload t)).mpr he
  have hcomputed : b.computedManifestId = .ok (Base.sha256 manifest) := by
    rw [computedManifestId, ht, ok_bind, hmanifest, ok_bind]
    rfl
  obtain ⟨bundle, hbundle⟩ :=
    (canonicalBytes_isOk_iff (b.writable_identified t (Base.sha256 manifest))).mpr (by
      rw [Json.forall_texts_obj, List.forall_mem_cons]
      refine ⟨⟨surrogateFree_lit _, fun s hs ↦ ?_⟩, Json.forall_texts_obj.mp he⟩
      rw [Json.mem_texts_str.mp hs]
      exact surrogateFree_of_isSha256 (isSha256_sha256 manifest))
  refine ⟨manifest, bundle, hcomputed, ?_⟩
  rw [computedBundleId, hcomputed, ok_bind, manifestPayload, ht, ok_bind, pure_bind,
    hbundle, ok_bind]
  rfl

/-- A part of the artifacts has no other texts. -/
theorem Encodable.below {b : OperationalBundle} {t : Datetime} (h : b.Encodable t)
    (s : Sensitivity) : OperationalBundle.Encodable { b with artifacts := b.below s } t := by
  rw [Encodable, Json.forall_texts_obj] at h ⊢
  simp only [sharedPayload, List.forall_mem_cons] at h ⊢
  obtain ⟨hagent, hengine, hcreated, ⟨hkey, hartifacts⟩, hretention⟩ := h
  refine ⟨hagent, hengine, hcreated, ⟨hkey, fun text htext ↦ hartifacts text ?_⟩, hretention⟩
  rw [Json.mem_texts_arr] at htext ⊢
  obtain ⟨v, hv, htext⟩ := htext
  obtain ⟨a, ha, rfl⟩ := List.mem_map.mp hv
  exact ⟨_, List.mem_map_of_mem (List.mem_of_mem_filter ha), htext⟩

/-- The manifest with both identities is written as JSON. -/
theorem writable_manifest (b : OperationalBundle) (t : Datetime) :
    Json.Writable (.obj ((lit "bundle_id", .str b.bundleId) ::
      (lit "manifest_id", .str b.manifestId) :: b.sharedPayload t)) := by
  have h := b.writable_identified t b.manifestId
  rw [Json.writable_obj] at h ⊢
  refine ⟨List.nodup_cons.mpr ⟨?_, h.1⟩, List.forall_mem_cons.mpr ⟨by simp, h.2⟩⟩
  simp [sharedPayload]

/-- The text of a manifest. -/
theorem manifestText_eq_ok {b : OperationalBundle} {t : Datetime}
    (ht : b.createdAt.toUtc = .ok t) : b.manifestText =
      .ok (Json.dumps Json.indented (.obj ((lit "bundle_id", .str b.bundleId) ::
        (lit "manifest_id", .str b.manifestId) :: b.sharedPayload t)) ++ [Lines.newline]) := by
  rw [manifestText, toDict, manifestPayload, ht]
  rfl

/-- The text of a manifest is ASCII. -/
theorem manifestText_isAscii {b : OperationalBundle} {t : Datetime}
    (ht : b.createdAt.toUtc = .ok t) : ∃ text, b.manifestText = .ok text ∧ Utf8.IsAscii text := by
  refine ⟨_, manifestText_eq_ok ht, ?_⟩
  intro c hc
  rcases List.mem_append.mp hc with hc | hc
  · exact Json.isAscii_dumps rfl (b.writable_manifest t) c hc
  · rw [List.mem_singleton.mp hc]
    decide

end OperationalBundle

/-! ### Closure and non-interference -/

/-- What an export of a bundle up to a ceiling consists of. -/
structure Discloses (b : OperationalBundle) (files : Dict Bytes) (s : Sensitivity)
    (d : OperationalBundle) (archive : Archive) : Prop where
  same : d = { b with bundleId := d.bundleId, manifestId := d.manifestId, artifacts := b.below s }
  valid : d.Valid
  closed : ∀ a ∈ d.artifacts, ∀ source ∈ a.derivedFrom, ∃ p ∈ d.artifacts, p.artifactId = source
  members : ∀ name content, archive.get? name = some content ↔
    (∃ a ∈ d.artifacts, a.memberName = name ∧ files.get? name = some content) ∨
    (name = lit "manifest.json" ∧ ∃ text, d.manifestText = .ok text ∧
      Utf8.encode text = some content)

/-- Two bundles with their files are the same up to a ceiling. -/
structure AgreeBelow (s : Sensitivity) (b b' : OperationalBundle) (files files' : Dict Bytes) :
    Prop where
  agentName : b.agentName = b'.agentName
  engineVersion : b.engineVersion = b'.engineVersion
  createdAt : b.createdAt.toUtc = b'.createdAt.toUtc
  retentionPolicy : b.retentionPolicy = b'.retentionPolicy
  artifacts : b.below s = b'.below s
  contents : ∀ a ∈ b.below s, files.get? a.memberName = files'.get? a.memberName

/-- The identities and the members of an export. -/
def exported (e : OperationalBundle × Archive) : Text × Text × Archive :=
  (e.1.bundleId, e.1.manifestId, e.2)

/-- An export is that of its draft. -/
private theorem export_eq (hb : b.Lawful) : exportDisclosedBundle b files s.text =
    artifactFiles files (b.below s) >>= sealDraft (b.draft (b.below s)) := by
  obtain ⟨selected, hselected, hfilter⟩ := filter_selected (s := s) hb
  rw [exportDisclosedBundle, hselected, ok_bind, hfilter]

/-- A valid bundle is disclosed. -/
private theorem discloses (hb : b.Valid)
    (hfiles : ∀ a ∈ b.artifacts, ∃ content, files.get? a.memberName = some content) :
    ∃ d archive, exportDisclosedBundle b files s.text = .ok (d, archive) ∧
      Discloses b files s d archive := by
  obtain ⟨t, ht, hencodable⟩ := OperationalBundle.encodable_of_computedManifestId hb.manifestId
  obtain ⟨pairs, hpairs⟩ : ∃ pairs, ((b.below s).mapM fun a ↦ do
      let content ← orRaise ⟨.keyError, a.memberName⟩ (files.get? a.memberName)
      pure (a.memberName, content)) = .ok pairs := by
    refine exists_mapM_eq_ok fun a ha ↦ ?_
    obtain ⟨content, hcontent⟩ := hfiles a (List.mem_of_mem_filter ha)
    exact ⟨(a.memberName, content), by rw [hcontent]; rfl⟩
  have hmembers : artifactFiles files (b.below s) = .ok (Dict.ofPairs pairs) := by
    rw [artifactFiles, hpairs]
    rfl
  have hdraft : (b.draft (b.below s)).Lawful :=
    lawful_disclosed hb.toLawful (by decide) (by decide)
  obtain ⟨manifest, bundle, hmanifestId, hbundleId⟩ :=
    OperationalBundle.computed_of_encodable (b := b.draft (b.below s)) ht (hencodable.below s)
  have hdisclosed : OperationalBundle.Lawful
      { b.draft (b.below s) with bundleId := sha256 bundle, manifestId := sha256 manifest } :=
    lawful_disclosed hb.toLawful (not_blank_of_isSha256 (isSha256_sha256 _))
      (not_blank_of_isSha256 (isSha256_sha256 _))
  obtain ⟨text, htext, hascii⟩ := OperationalBundle.manifestText_isAscii
    (b := { b.draft (b.below s) with bundleId := sha256 bundle, manifestId := sha256 manifest }) ht
  obtain ⟨hdistinct, hkeys, hget⟩ := artifactFiles_spec hdraft hmembers
  have hnew : lit "manifest.json" ∉ (Dict.ofPairs pairs).keys := by
    rw [hkeys]
    intro hmem
    obtain ⟨a, -, ha⟩ := List.mem_map.mp hmem
    exact a.memberName_ne ha
  refine ⟨{ b.draft (b.below s) with bundleId := sha256 bundle, manifestId := sha256 manifest },
    exportBundle ((Dict.ofPairs pairs).set (lit "manifest.json") (Utf8.ascii text)), ?_, ?_⟩
  · rw [export_eq hb.toLawful, hmembers, ok_bind, sealDraft,
      (OperationalBundle.lawful_iff.mp hdraft).2, ok_bind, hbundleId, ok_bind, hmanifestId,
      ok_bind]
    dsimp only
    rw [(OperationalBundle.lawful_iff.mp hdisclosed).2, ok_bind, htext, ok_bind, Utf8.toBytes,
      Utf8.encode_of_isAscii hascii]
    rfl
  · refine ⟨rfl, ⟨hdisclosed, hmanifestId, hbundleId⟩, ?_, fun name content ↦ ?_⟩
    · intro a ha source hsource
      obtain ⟨p, hp, hid, -⟩ := source_mem_below hb.toLawful ha hsource
      exact ⟨p, hp, hid⟩
    · have hset : ((Dict.ofPairs pairs).set (lit "manifest.json") (Utf8.ascii text)).Distinct := by
        rw [Dict.set_of_not_mem hnew, Dict.Distinct, Dict.keys, List.map_append]
        exact List.nodup_append.mpr ⟨hdistinct, List.nodup_singleton _, by
          intro name hname other hother
          rw [List.mem_singleton.mp hother]
          rintro rfl
          exact hnew hname⟩
      rw [exportBundle, Dict.get?_sorted hset, Dict.get?_set]
      by_cases hname : name = lit "manifest.json"
      · rw [if_pos hname, Option.some.injEq, htext]
        constructor
        · rintro rfl
          exact .inr ⟨hname, text, rfl, Utf8.encode_of_isAscii hascii⟩
        · rintro (⟨a, -, ha, -⟩ | ⟨-, other, hother, hcontent⟩)
          · exact absurd (ha.trans hname) a.memberName_ne
          · cases hother
            rw [Utf8.encode_of_isAscii hascii] at hcontent
            exact Option.some.inj hcontent
      · rw [if_neg hname, hget]
        exact (or_iff_left fun h ↦ hname h.1).symm

/-- Drafts that differ in how they write the time are sealed alike. -/
private theorem sealDraft_createdAt {d : OperationalBundle} {t : AwareDatetime}
    (ht : d.createdAt.toUtc = t.toUtc) (members : Dict Bytes) :
    (sealDraft { d with createdAt := t } members).map exported =
      (sealDraft d members).map exported := by
  have hcheck : ∀ e : OperationalBundle, OperationalBundle.check { e with createdAt := t } =
      e.check := fun _ ↦ rfl
  have hmanifestId : OperationalBundle.computedManifestId { d with createdAt := t } =
      d.computedManifestId := by
    rw [OperationalBundle.computedManifestId, OperationalBundle.computedManifestId, ht]
    rfl
  have hbundleId : OperationalBundle.computedBundleId { d with createdAt := t } =
      d.computedBundleId := by
    rw [OperationalBundle.computedBundleId, OperationalBundle.computedBundleId, hmanifestId]
    simp only [OperationalBundle.manifestPayload, ht]
    rfl
  rw [sealDraft, sealDraft, hcheck, hmanifestId, hbundleId]
  cases d.check with
  | error e => rfl
  | ok u =>
    rw [ok_bind, ok_bind]
    cases d.computedBundleId with
    | error e => rfl
    | ok bundleId =>
      rw [ok_bind, ok_bind]
      cases d.computedManifestId with
      | error e => rfl
      | ok manifestId =>
        rw [ok_bind, ok_bind]
        dsimp only
        rw [hcheck { d with bundleId, manifestId }]
        have htext : OperationalBundle.manifestText
            { d with bundleId, manifestId, createdAt := t } =
              OperationalBundle.manifestText { d with bundleId, manifestId } := by
          simp only [OperationalBundle.manifestText, OperationalBundle.toDict,
            OperationalBundle.manifestPayload, ht]
          rfl
        rw [htext]
        cases OperationalBundle.check { d with bundleId, manifestId } with
        | error e => rfl
        | ok u =>
          rw [ok_bind, ok_bind]
          cases OperationalBundle.manifestText { d with bundleId, manifestId } with
          | error e => rfl
          | ok text =>
            rw [ok_bind, ok_bind]
            cases Utf8.toBytes text <;> rfl

/-- What is above the ceiling does not reach the export. -/
private theorem noninterfering (hb : b.Lawful) (hb' : b'.Lawful)
    (h : AgreeBelow s b b' files files') :
    (exportDisclosedBundle b files s.text).map exported =
      (exportDisclosedBundle b' files' s.text).map exported := by
  have hmembers : artifactFiles files (b.below s) = artifactFiles files' (b.below s) := by
    rw [artifactFiles, artifactFiles, mapM_congr fun a ha ↦ by rw [h.contents a ha]]
  have hdraft : b.draft (b.below s) =
      { b'.draft (b'.below s) with createdAt := b.createdAt } := by
    simp only [OperationalBundle.draft, h.agentName, h.engineVersion, h.retentionPolicy,
      h.artifacts]
  rw [export_eq hb, export_eq hb', hmembers, ← h.artifacts]
  cases artifactFiles files' (b.below s) with
  | error e => rfl
  | ok members =>
    rw [ok_bind, ok_bind, hdraft, ← h.artifacts]
    exact sealDraft_createdAt (d := b'.draft (b.below s)) h.createdAt.symm members

/-- Up to every ceiling a valid bundle with its files is disclosed, closed under sources and with
exactly the permitted artifacts, and bundles that agree up to the ceiling are disclosed alike. -/
theorem disclosure_closed_noninterfering (s : Sensitivity) :
    (∀ b files, b.Valid → (∀ a ∈ b.artifacts, ∃ content, files.get? a.memberName = some content) →
      ∃ d archive, exportDisclosedBundle b files s.text = .ok (d, archive) ∧
        Discloses b files s d archive) ∧
    ∀ b b' files files', b.Lawful → b'.Lawful → AgreeBelow s b b' files files' →
      (exportDisclosedBundle b files s.text).map exported =
        (exportDisclosedBundle b' files' s.text).map exported :=
  ⟨fun _ _ hb hfiles ↦ discloses hb hfiles, fun _ _ _ _ hb hb' h ↦ noninterfering hb hb' h⟩

/-! ### A bundle with a secret -/

private def report : OperationalArtifact :=
  ⟨lit "report", lit "report.txt", lit "text", sha256 [], 0, .«public», []⟩

private def secret : OperationalArtifact :=
  ⟨lit "secret", lit "secret.txt", lit "text", sha256 [], 0, .restricted, [lit "report"]⟩

/-- A bundle of the year 2000. -/
private def handoff (artifacts : List OperationalArtifact) (manifestId bundleId : Text) :
    OperationalBundle :=
  ⟨bundleId, manifestId, lit "agent", lit "1", .ofUtc (.of (.of 2000 1 1) 0), artifacts, none⟩

private theorem lawful_report : report.Lawful :=
  ⟨by decide, by decide, by decide, isSha256_sha256 [], by decide, nofun⟩

private theorem lawful_secret : secret.Lawful :=
  ⟨by decide, by decide, by decide, isSha256_sha256 [], by decide, by decide⟩

private theorem lawful_handoff {manifestId bundleId : Text} (hm : blank manifestId = false)
    (hb : blank bundleId = false) : (handoff [report] manifestId bundleId).Lawful ∧
      (handoff [report, secret] manifestId bundleId).Lawful := by
  have hagent : blank (lit "agent") = false := by decide
  have hengine : blank (lit "1") = false := by decide
  have hone : [lit "report"].Nodup := by decide
  have htwo : [lit "report", lit "secret"].Nodup := by decide
  constructor
  · refine ⟨⟨hb, hm, hagent, hengine⟩, hone, ?_, ?_⟩
    · exact List.forall_mem_cons.mpr ⟨lawful_report, nofun⟩
    · exact List.forall_mem_cons.mpr ⟨nofun, nofun⟩
  · refine ⟨⟨hb, hm, hagent, hengine⟩, htwo, ?_, ?_⟩
    · exact List.forall_mem_cons.mpr ⟨lawful_report, List.forall_mem_cons.mpr
        ⟨lawful_secret, nofun⟩⟩
    · refine List.forall_mem_cons.mpr ⟨nofun, List.forall_mem_cons.mpr ⟨fun source hsource ↦ ?_,
        nofun⟩⟩
      rw [List.mem_singleton.mp hsource]
      exact ⟨report, List.mem_cons_self, rfl, by decide⟩

private theorem valid_handoff : ∃ manifestId bundleId, (handoff [report] manifestId bundleId).Valid ∧
    (handoff [report, secret] manifestId bundleId).Lawful := by
  obtain ⟨manifestId, hmanifestId⟩ :
      ∃ m, (handoff [report] [] []).computedManifestId = .ok m :=
    exists_ok_of_toBool (by decide +kernel)
  obtain ⟨t, ht, hencodable⟩ := OperationalBundle.encodable_of_computedManifestId hmanifestId
  obtain ⟨manifest, bundle, hmanifest, hbundle⟩ :=
    OperationalBundle.computed_of_encodable ht hencodable
  have hlawful := lawful_handoff (not_blank_of_isSha256 (isSha256_sha256 manifest))
    (not_blank_of_isSha256 (isSha256_sha256 bundle))
  exact ⟨sha256 manifest, sha256 bundle, ⟨hlawful.1, hmanifest, hbundle⟩, hlawful.2⟩

/-- Two bundles that differ in a secret are disclosed alike up to `internal`. -/
theorem disclosure_of_secret : ∃ b b' : OperationalBundle, b.artifacts ≠ b'.artifacts ∧
    (∃ d archive, exportDisclosedBundle b [(report.memberName, [])] (lit "internal") =
      .ok (d, archive) ∧ Discloses b [(report.memberName, [])] .internal d archive) ∧
    (exportDisclosedBundle b [(report.memberName, [])] (lit "internal")).map exported =
      (exportDisclosedBundle b' [(report.memberName, [])] (lit "internal")).map exported := by
  obtain ⟨manifestId, bundleId, hvalid, hlawful⟩ := valid_handoff
  have hne : [report] ≠ [report, secret] := nofun
  refine ⟨handoff [report] manifestId bundleId, handoff [report, secret] manifestId bundleId,
    hne, ?_, ?_⟩
  · refine (disclosure_closed_noninterfering .internal).1 _ _ hvalid fun a ha ↦ ?_
    rw [List.mem_singleton.mp ha]
    exact ⟨[], rfl⟩
  · exact (disclosure_closed_noninterfering .internal).2 _ _ _ _ hvalid.toLawful hlawful
      ⟨rfl, rfl, rfl, rfl, rfl, fun _ _ ↦ rfl⟩

end StateWake.Operations
