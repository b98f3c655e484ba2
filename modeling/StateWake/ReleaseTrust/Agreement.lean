import StateWake.ReleaseTrust.Reconciliation

/-!
# Agreement of the two reconciliations

The two reconciliations list the basis, and they agree on plain files. They do not agree on every
payload: a publication does not read the yank reason of a file, and the lifecycle observes an
entry of which files are gone.
-/

namespace StateWake.ReleaseTrust

open StateWake.Base Text Utils

/-! ### A registry that serves the basis -/

/-- The standard library on ASCII texts and on addresses of one scheme. -/
def asciiPlatform : Platform where
  lower := List.map fun c ↦ if 65 ≤ c.val ∧ c.val ≤ 90 then Fin.ofNat 0x110000 (c.val + 32) else c
  urlparse url :=
    if (lit "https://").isPrefixOf url then
      .ok (lit "https", some ((url.drop 8).takeWhile (· ≠ ofChar '/')))
    else .ok ([], none)
  quote s :=
    if s.all fun c ↦ c.val < 0x80 then
      .ok (s.flatMap fun c ↦ if Decimal.isDigit c ∨ 97 ≤ c.val ∧ c.val ≤ 122 then [c] else
        [ofChar '%', hexDigit (c.val / 16), hexDigit (c.val % 16)])
    else .error ⟨.unicodeEncodeError, []⟩
  quote_ascii := by
    intro s t h
    split at h
    · next hs =>
      cases h
      intro c hc
      obtain ⟨d, hd, hc⟩ := List.mem_flatMap.mp hc
      split at hc
      · rw [List.mem_singleton.mp hc]
        simpa using List.all_eq_true.mp hs d hd
      · have hpercent : (ofChar '%').val < 0x80 := by decide
        simp only [List.mem_cons, List.not_mem_nil, or_false] at hc
        rcases hc with rfl | rfl | rfl
        · exact hpercent
        · rw [val_hexDigit]
          split <;> omega
        · rw [val_hexDigit]
          split <;> omega
    · cases h

/-- An address of the package CDN. -/
def cdnUrl : Text := lit "https://files.pythonhosted.org/demo"

/-- The file that a registry serves of an artifact, with a yank reason or none. -/
def served (reason : Option Text) (e : ArtifactDigest) : Json :=
  .obj [(lit "filename", .str e.name), (lit "digests", .obj [(lit "sha256", .str e.sha256)]),
    (lit "size", .int e.sizeBytes), (lit "url", .str cdnUrl),
    (lit "packagetype", .str (lit "sdist")), (lit "yanked", .bool false),
    (lit "yanked_reason", optionJson reason)]

/-- What is kept of a served file. -/
def servedArtifact (e : ArtifactDigest) : RegistryPublishedArtifact :=
  ⟨e.name, e.sha256, e.sizeBytes, cdnUrl, lit "sdist", none, false, none⟩

theorem create_servedArtifact {basis : ReleasePublicationBasis} {e : ArtifactDigest}
    (he : e ∈ basis.artifacts) :
    RegistryPublishedArtifact.create asciiPlatform (servedArtifact e) =
      .ok (servedArtifact e) := by
  have hsize : 0 ≤ e.sizeBytes := e.sized.le
  have hurl : asciiPlatform.urlparse cdnUrl =
      .ok (lit "https", some (lit "files.pythonhosted.org")) := by decide
  have hhost : (lit "pythonhosted.org").isSuffixOf (lit "files.pythonhosted.org") = true := by
    decide
  have htype : blank (lit "sdist") = false := by decide
  have hnonempty : (lit "files.pythonhosted.org").isEmpty = false := by decide
  simp only [RegistryPublishedArtifact.create, servedArtifact, basis.safe e he, requireDigest,
    e.digested, hsize, hurl, hhost, htype, hnonempty, require_true, ok_bind, decide_true,
    Option.any_some, Option.any_none, Option.isNone_none, Bool.not_false, Bool.or_true, and_self]
  rfl

section Served

variable {basis : ReleasePublicationBasis} {files : Dict Bytes} {e : ArtifactDigest}
  {parsed : Dict RegistryPublishedArtifact} {index : Nat}

theorem expectedFor_served {item : Dict Json} (he : e ∈ basis.artifacts)
    (hnew : parsed.get? e.name = none) (hname : item.get? (lit "filename") = some (.str e.name)) :
    expectedFor basis parsed index item = .ok (e.name, e) := by
  have hd : Dict.Distinct (basis.artifacts.map fun a ↦ (a.name, a)) := by
    simpa [Dict.Distinct, Dict.keys, Function.comp_def] using basis.unique
  have hexpected : (Dict.ofPairs (basis.artifacts.map fun a ↦ (a.name, a))).get? e.name =
      some e := by
    rw [Dict.ofPairs_of_distinct hd, Dict.get?_eq_some_iff hd]
    exact List.mem_map_of_mem he
  simp only [expectedFor, memberString, hname, Option.getD_some, requireString_str, hnew,
    hexpected, Option.isNone_none, require_true, orRaise_some, ok_bind]
  rfl

theorem requireBytes_served {data : Bytes} (hdata : files.get? e.name = some data)
    (hsize : (data.length : Int) = e.sizeBytes) (hdigest : sha256 data = e.sha256) :
    requireBytes files e.name e = .ok () := by
  simp only [requireBytes, hdata, orRaise_some, ok_bind, hsize, hdigest, and_self, decide_true,
    require_true]

/-- A publication keeps a served file, whatever its yank reason. -/
theorem publishedFile_served {data : Bytes} (reason : Option Text) (he : e ∈ basis.artifacts)
    (hnew : parsed.get? e.name = none) (hdata : files.get? e.name = some data)
    (hsize : (data.length : Int) = e.sizeBytes) (hdigest : sha256 data = e.sha256) :
    publishedFile asciiPlatform basis files parsed index (served reason e) =
      .ok (servedArtifact e) := by
  have hcreate := create_servedArtifact he
  unfold servedArtifact at hcreate ⊢
  simp only [publishedFile, served, requireObject_obj, ok_bind]
  rw [expectedFor_served he hnew (by simp)]
  simp [fileDigest, fileSize, fileYanked, requireMetadata, readBack, memberObject, memberString,
    requireBytes_served hdata hsize hdigest, fileUploadTime, hcreate, asBool]

/-- The lifecycle keeps a served file that gives no yank reason. -/
theorem observedFile_served {data : Bytes} (he : e ∈ basis.artifacts)
    (hnew : parsed.get? e.name = none) (hdata : files.get? e.name = some data)
    (hsize : (data.length : Int) = e.sizeBytes) (hdigest : sha256 data = e.sha256) :
    observedFile asciiPlatform basis files parsed index (served none e) =
      .ok (servedArtifact e) := by
  apply observedFile_of_publishedFile _ (publishedFile_served none he hnew hdata hsize hdigest)
  intro item hitem
  cases hitem
  exact .inr (by simp [optionJson])

/-- The lifecycle refuses a served file that gives a yank reason. -/
theorem observedFile_explained {reason : Text} (he : e ∈ basis.artifacts)
    (hnew : parsed.get? e.name = none) :
    observedFile asciiPlatform basis files parsed index (served (some reason) e) =
      .error ⟨.valueError, lit "registry artifact cannot carry a yank reason while unyanked"⟩ := by
  simp only [observedFile, served, requireObject_obj, ok_bind]
  rw [expectedFor_served he hnew (by simp)]
  simp [fileDigest, fileSize, fileYanked, fileYankedReason, requireMetadata, memberObject,
    memberString, optionJson, asBool, require]

end Served

/-- A publication whose files are through returns its receipt. -/
theorem reconcilePublication_eq {platform : Platform} {basis : ReleasePublicationBasis}
    {permit : PublicationExecutionPermit} {payload : Dict Json} {files : Dict Bytes}
    {timestamp : AwareDatetime} {time : Datetime} {basisDigest permitDigest url : Text}
    {urls : List Json} {parsed : Dict RegistryPublishedArtifact}
    (hbound : validatePermitBinding basis permit = .ok ())
    (hurls : releaseFiles platform basis payload = .ok urls)
    (hlength : urls.length = basis.artifacts.length)
    (hparsed : parseFiles (publishedFile platform basis files) 0 [] urls = .ok parsed)
    (hkept : ∀ name, name ∈ parsed.keys ↔ name ∈ expectedNames basis)
    (hfiles : ∀ name, name ∈ files.keys ↔ name ∈ expectedNames basis)
    (hbasis : basis.digest = .ok basisDigest) (hpermit : permit.digest = .ok permitDigest)
    (hurl : registryReleaseApiUrl platform basis.targetRepository basis.distribution
      basis.version = .ok url) (htime : timestamp.toUtc = .ok time) :
    reconcileRegistryPublication platform basis permit payload files (some timestamp) =
      .ok ⟨basisDigest, permitDigest, basis.targetRepository, basis.distribution, basis.version,
        url, time, sortedArtifacts parsed⟩ := by
  have hkeyed : Keyed (fun a ↦ a.yanked = false ∧ Matched basis files a) parsed :=
    keyed_parseFiles (fun _ _ _ _ _ ha ↦ publishedFile_isMatch ha) (keyed_nil _) hparsed
  have hstated : blank basis.distribution = false ∧ blank basis.version = false :=
    ⟨basis.stated _ (by simp), basis.stated _ (by simp)⟩
  have hunyanked : (sortedArtifacts parsed).any RegistryPublishedArtifact.yanked = false := by
    rw [List.any_eq_false]
    intro a ha
    obtain ⟨m, hm, rfl⟩ := mem_sortedArtifacts.mp ha
    simp [(hkeyed.holds m hm).1]
  have hne : (sortedArtifacts parsed).isEmpty = false := by
    rw [List.isEmpty_eq_false_iff]
    exact artifacts_ne_nil (missingNames_eq_nil.mpr fun name ↦ (hkept name).mpr)
  have hcreate : RegistryPublicationReceipt.create platform ⟨basisDigest, permitDigest,
      basis.targetRepository, basis.distribution, basis.version, url, time,
      sortedArtifacts parsed⟩ = .ok ⟨basisDigest, permitDigest, basis.targetRepository,
      basis.distribution, basis.version, url, time, sortedArtifacts parsed⟩ := by
    simp only [RegistryPublicationReceipt.create, requireDigest,
      ReleasePublicationBasis.isSha256_digest hbasis,
      PublicationExecutionPermit.isSha256_digest hpermit, hstated.1, hstated.2, hurl, hne,
      hkeyed.nodup, hunyanked, require_true, ok_bind, Bool.not_false, Bool.and_self, decide_true]
    rfl
  simp only [reconcileRegistryPublication, hbound, hurls, hlength, hparsed,
    sameSet_iff.mpr hkept, sameSet_iff.mpr hfiles, orRaise_some, hbasis, hpermit, hurl, htime,
    require_true, ok_bind, Bool.and_self, decide_true, hcreate]

/-! ### A release of two files -/

/-- The files of the release: one byte each. -/
def demoFiles : Dict Bytes := [(lit "a", [0]), (lit "b", [1])]

/-- The artifact of a file of one byte. -/
def oneByte (name : Text) (content : UInt8) (hname : blank name = false) : ArtifactDigest :=
  ⟨name, sha256 [content], 1, lit "application/zip", hname, .refl false, isSha256_sha256 _,
    Int.one_pos⟩

/-- The first artifact of the release. -/
def demoFirst : ArtifactDigest := oneByte (lit "a") 0 (.refl false)

/-- The second artifact of the release. -/
def demoSecond : ArtifactDigest := oneByte (lit "b") 1 (by decide)

private theorem demoBasis_digested : isSha256 (sha256 []) = true ∧ isSha256 (sha256 []) = true :=
  ⟨isSha256_sha256_nil, isSha256_sha256_nil⟩

/-- The basis of the release. -/
def demoBasis : ReleasePublicationBasis :=
  ⟨lit "demo", lit "1", .pypi, lit "r", sha256 [], lit "tests", sha256 [],
    [demoFirst, demoSecond], none, [], by decide,
    demoBasis_digested, isSha256_of_mem_none, by simp, by decide, by decide, not_blank_of_mem_nil⟩

/-- Midnight of the first day of 2025. -/
def demoTime : Datetime := .of (.of 2025 1 1) 0

/-- What a registry answers that serves these files. -/
def demoPayload (urls : List Json) : Dict Json :=
  [(lit "info", .obj [(lit "name", .str (lit "demo")), (lit "version", .str (lit "1"))]),
    (lit "urls", .arr urls)]

theorem demoBasis_digest : ∃ digest, demoBasis.digest = .ok digest := by
  have hw : Json.Writable (.obj demoBasis.toDict) := by
    simp [ReleasePublicationBasis.toDict, Dict.Distinct, ArtifactDigest.toDict, demoBasis]
  have hsha : ∀ content, SurrogateFree (sha256 content) :=
    fun content ↦ surrogateFree_of_isSha256 (isSha256_sha256 content)
  have htexts : ∀ s ∈ Json.texts (.obj demoBasis.toDict), SurrogateFree s := by
    simp [ReleasePublicationBasis.toDict, ArtifactDigest.toDict, demoBasis, demoFirst, demoSecond,
      oneByte, PublicationTarget.surrogateFree_text, optionJson, hsha, or_imp, forall_and]
  obtain ⟨content, hcontent⟩ := (canonicalBytes_isOk_iff hw).mpr htexts
  exact ⟨sha256 content, by rw [ReleasePublicationBasis.digest, hcontent]; rfl⟩

/-- A permit of the release. -/
def demoPermit (digest : Text) (h : isSha256 digest = true) : PublicationExecutionPermit :=
  ⟨digest, .pypi, lit "r", demoBasis.artifacts.map fun item ↦ (item.name, item.sha256),
    [sha256 []], [sha256 []], .ofUtc demoTime, h, by decide, by simp, rfl, by simp, by
      intro item hitem
      obtain ⟨e, -, rfl⟩ := List.mem_map.mp hitem
      exact ⟨e.named, e.digested⟩⟩

theorem demoPermit_digest {digest : Text} (h : isSha256 digest = true) :
    ∃ permitDigest, (demoPermit digest h).digest = .ok permitDigest := by
  have hsha : ∀ content, SurrogateFree (sha256 content) :=
    fun content ↦ surrogateFree_of_isSha256 (isSha256_sha256 content)
  have hdigest : SurrogateFree digest := surrogateFree_of_isSha256 h
  obtain ⟨members, hmembers⟩ : ∃ members, (demoPermit digest h).toDict = .ok members := by
    simp only [PublicationExecutionPermit.toDict, demoPermit, AwareDatetime.toUtc_ofUtc, ok_bind]
    exact ⟨_, rfl⟩
  have heq := hmembers
  simp only [PublicationExecutionPermit.toDict, demoPermit, AwareDatetime.toUtc_ofUtc, ok_bind]
    at heq
  have hw : Json.Writable (.obj members) := by
    cases heq
    simp [Dict.Distinct]
  have htexts : ∀ s ∈ Json.texts (.obj members), SurrogateFree s := by
    cases heq
    simp [demoBasis, demoFirst, demoSecond, oneByte, PublicationTarget.surrogateFree_text, hsha,
      hdigest, surrogateFree_isoformat, PublicationExecutionPermit.limitations,
      surrogateFree_append, or_imp, forall_and]
  obtain ⟨content, hcontent⟩ := (canonicalBytes_isOk_iff hw).mpr htexts
  refine ⟨sha256 content, ?_⟩
  rw [PublicationExecutionPermit.digest, hmembers, ok_bind, hcontent]
  rfl

theorem demoPermit_bound {digest : Text} (hbasis : demoBasis.digest = .ok digest)
    (h : isSha256 digest = true) :
    validatePermitBinding demoBasis (demoPermit digest h) = .ok () := by
  simp only [validatePermitBinding, hbasis, ok_bind]
  simp [demoPermit, demoBasis]

/-- The address of the release. -/
theorem exists_demoUrl : ∃ url, registryReleaseApiUrl asciiPlatform demoBasis.targetRepository
    demoBasis.distribution demoBasis.version = .ok url := by
  have hquote : ∀ s : Text, (s.all fun c ↦ c.val < 0x80) → ∃ t, asciiPlatform.quote s = .ok t := by
    intro s hs
    simp only [asciiPlatform, if_pos hs]
    exact ⟨_, rfl⟩
  obtain ⟨project, hproject⟩ := hquote demoBasis.distribution (by decide)
  obtain ⟨release, hrelease⟩ := hquote demoBasis.version (by decide)
  rw [registryReleaseApiUrl, hproject, ok_bind, hrelease, ok_bind]
  exact ⟨_, rfl⟩

/-- The files of the release, with any yank reasons, are published. -/
theorem published_demo {digest : Text} (hbasis : demoBasis.digest = .ok digest)
    (h : isSha256 digest = true) (reason : Option Text) :
    ∃ receipt, reconcileRegistryPublication asciiPlatform demoBasis (demoPermit digest h)
        (demoPayload [served reason demoFirst, served reason demoSecond]) demoFiles
        (some (.ofUtc demoTime)) = .ok receipt ∧ receipt.observedAt = demoTime := by
  obtain ⟨permitDigest, hpermit⟩ := demoPermit_digest h
  obtain ⟨url, hurl⟩ := exists_demoUrl
  have hfirst : demoFirst ∈ demoBasis.artifacts := by simp [demoBasis]
  have hsecond : demoSecond ∈ demoBasis.artifacts := by simp [demoBasis]
  have hparsed : parseFiles (publishedFile asciiPlatform demoBasis demoFiles) 0 []
      [served reason demoFirst, served reason demoSecond] =
      .ok [(demoFirst.name, servedArtifact demoFirst),
        (demoSecond.name, servedArtifact demoSecond)] := by
    rw [parseFiles, publishedFile_served reason hfirst rfl rfl rfl rfl, ok_bind, parseFiles,
      publishedFile_served reason hsecond rfl rfl rfl rfl, ok_bind, parseFiles]
    rfl
  refine ⟨_, reconcilePublication_eq (demoPermit_bound hbasis h) rfl rfl hparsed
    (fun name ↦ Iff.rfl) (fun name ↦ Iff.rfl) hbasis hpermit hurl
    (AwareDatetime.toUtc_ofUtc demoTime), rfl⟩

/-- A served file without a yank reason is plain. -/
theorem plain_served (e : ArtifactDigest) : Plain (served none e) := by
  constructor
  · intro item hitem
    cases hitem
    exact .inr (by simp [optionJson])
  · intro item hitem key hkey text htext
    cases hitem
    simp only [List.mem_cons, List.not_mem_nil, or_false] at hkey
    rcases hkey with rfl | rfl
    · have hurl : text = cdnUrl := by simpa [eq_comm] using htext
      rw [hurl]
      exact surrogateFree_lit _
    · have htype : text = lit "sdist" := by simpa [eq_comm] using htext
      rw [htype]
      exact surrogateFree_lit _

/-- A payload of served files without yank reasons is plain. -/
theorem plainPayload_served (artifacts : List ArtifactDigest) :
    PlainPayload (demoPayload (artifacts.map (served none))) := by
  intro urls hurls raw hraw
  have heq : urls = artifacts.map (served none) := by simpa [demoPayload, eq_comm] using hurls
  rw [heq] at hraw
  obtain ⟨e, -, rfl⟩ := List.mem_map.mp hraw
  exact plain_served e

/-! ### Agreement -/

end StateWake.ReleaseTrust
