import StateWake.ReleaseTrust.RegistryFiles

/-!
# The two reconciliations

What either reconciliation lists is the basis: each artifact once, with the bytes read back, and
none left out of a receipt or of a complete observation. A publication is observed as available
afterwards, unless a file states a yank reason.
-/

namespace StateWake.ReleaseTrust

open StateWake.Base Text Utils

/-! ### Digests -/

private theorem isSha256_of_content {x : Except PyError Bytes} {digest : Text}
    (h : (do let content ← x; pure (sha256 content)) = Except.ok digest) :
    isSha256 digest = true := by
  obtain ⟨content, -, h⟩ := bind_eq_ok.mp h
  cases h
  exact isSha256_sha256 content

theorem ReleasePublicationBasis.isSha256_digest {basis : ReleasePublicationBasis} {digest : Text}
    (h : basis.digest = .ok digest) : isSha256 digest = true := isSha256_of_content h

theorem PublicationExecutionPermit.isSha256_digest {permit : PublicationExecutionPermit}
    {digest : Text} (h : permit.digest = .ok digest) : isSha256 digest = true := by
  obtain ⟨members, -, h⟩ := bind_eq_ok.mp h
  exact isSha256_of_content h

theorem RegistryPublicationReceipt.isSha256_digest {receipt : RegistryPublicationReceipt}
    {digest : Text} (h : receipt.digest = .ok digest) : isSha256 digest = true :=
  isSha256_of_content h

/-- The digest of the tip of a chain is one. -/
theorem isSha256_tipDigest {receipt : RegistryPublicationReceipt}
    {previous : Option RegistryPublicationLifecycleObservation} {digest : Text}
    (h : tipDigest receipt previous = .ok digest) : isSha256 digest = true := by
  cases previous with
  | none => exact isSha256_of_content h
  | some observation => exact isSha256_of_content h

/-- UTF-8 can encode the texts of a basis that has a digest. -/
theorem ReleasePublicationBasis.surrogateFree {basis : ReleasePublicationBasis} {digest : Text}
    (h : basis.digest = .ok digest) :
    SurrogateFree basis.distribution ∧ SurrogateFree basis.version ∧
      ∀ e ∈ basis.artifacts, SurrogateFree e.name := by
  obtain ⟨content, hcontent, -⟩ := bind_eq_ok.mp h
  have htexts := surrogateFree_of_canonicalBytes hcontent
  refine ⟨htexts _ ?_, htexts _ ?_, fun e he ↦ htexts _ ?_⟩
  · rw [Json.mem_texts_obj]
    exact ⟨(lit "distribution", .str basis.distribution), by simp [toDict], by simp⟩
  · rw [Json.mem_texts_obj]
    exact ⟨(lit "version", .str basis.version), by simp [toDict], by simp⟩
  · rw [Json.mem_texts_obj]
    refine ⟨(lit "artifacts", .arr (basis.artifacts.map ArtifactDigest.toDict)), by simp [toDict],
      .inr (Json.mem_texts_arr.mpr ⟨e.toDict, List.mem_map_of_mem he, ?_⟩)⟩
    rw [ArtifactDigest.toDict, Json.mem_texts_obj]
    exact ⟨(lit "name", .str e.name), by simp, by simp⟩

theorem RegistryPublicationReceipt.writable_toDict (receipt : RegistryPublicationReceipt) :
    Json.Writable (.obj receipt.toDict) := by
  have hartifact : ∀ a : RegistryPublishedArtifact, Json.Writable a.toDict := by
    intro a
    simp [RegistryPublishedArtifact.toDict, Dict.Distinct]
  simp [toDict, Dict.Distinct, limitations, hartifact]

theorem PublicationTarget.surrogateFree_text (target : PublicationTarget) :
    SurrogateFree target.text := by
  cases target <;> exact surrogateFree_lit _

/-- The texts of an artifact that the registry decides. -/
structure Encodable (a : RegistryPublishedArtifact) : Prop where
  name : SurrogateFree a.name
  digested : isSha256 a.sha256 = true
  url : SurrogateFree a.url
  packageType : SurrogateFree a.packageType
  unexplained : a.yankedReason = none

private theorem Encodable.texts {a : RegistryPublishedArtifact} (h : Encodable a) :
    ∀ s ∈ Json.texts a.toDict, SurrogateFree s := by
  rw [RegistryPublishedArtifact.toDict, Json.forall_texts_obj]
  simp [h.name, surrogateFree_of_isSha256 h.digested, h.url, h.packageType, h.unexplained,
    surrogateFree_isoformat]

/-- The address of a release is ASCII where it is one. -/
theorem surrogateFree_registryReleaseApiUrl {platform : Platform} {target : PublicationTarget}
    {distribution version url : Text}
    (h : registryReleaseApiUrl platform target distribution version = .ok url) :
    SurrogateFree url := by
  obtain ⟨project, hproject, h⟩ := bind_eq_ok.mp h
  obtain ⟨release, hrelease, h⟩ := bind_eq_ok.mp h
  cases h
  have hbase : SurrogateFree (registryBase target) := by
    cases target <;> exact surrogateFree_lit _
  have hp := (platform.quote_ascii _ _ hproject).surrogateFree
  have hr := (platform.quote_ascii _ _ hrelease).surrogateFree
  exact surrogateFree_append (surrogateFree_append (surrogateFree_append (surrogateFree_append
    (surrogateFree_append hbase (surrogateFree_lit _)) hp) (surrogateFree_lit _)) hr)
    (surrogateFree_lit _)

/-- A receipt whose texts UTF-8 can encode has a digest. -/
theorem RegistryPublicationReceipt.exists_digest {receipt : RegistryPublicationReceipt}
    (hbasis : isSha256 receipt.basisDigest = true) (hpermit : isSha256 receipt.permitDigest = true)
    (hdistribution : SurrogateFree receipt.distribution)
    (hversion : SurrogateFree receipt.version) (hurl : SurrogateFree receipt.registryApiUrl)
    (hartifacts : ∀ a ∈ receipt.artifacts, Encodable a) :
    ∃ digest, receipt.digest = .ok digest := by
  have htexts : ∀ s ∈ Json.texts (.obj receipt.toDict), SurrogateFree s := by
    have hlist : ∀ s ∈ Json.texts (.arr (receipt.artifacts.map RegistryPublishedArtifact.toDict)),
        SurrogateFree s := by
      intro s hs
      obtain ⟨v, hv, hs⟩ := Json.mem_texts_arr.mp hs
      obtain ⟨a, ha, rfl⟩ := List.mem_map.mp hv
      exact (hartifacts a ha).texts s hs
    have hlimits : ∀ s ∈ Json.texts (.arr (limitations.map .str)), SurrogateFree s := by
      intro s hs
      obtain ⟨v, hv, hs⟩ := Json.mem_texts_arr.mp hs
      obtain ⟨t, ht, rfl⟩ := List.mem_map.mp hv
      rw [Json.mem_texts_str.mp hs]
      simp only [limitations, List.mem_cons, List.not_mem_nil, or_false] at ht
      rcases ht with rfl | rfl | rfl
      · exact surrogateFree_append (surrogateFree_lit _) (surrogateFree_lit _)
      · exact surrogateFree_append (surrogateFree_lit _) (surrogateFree_lit _)
      · exact surrogateFree_append (surrogateFree_lit _) (surrogateFree_lit _)
    rw [toDict, Json.forall_texts_obj]
    simp only [List.forall_mem_cons]
    simp only [surrogateFree_lit, Json.mem_texts_str, Json.mem_texts_bool, forall_eq, true_and,
      false_implies, implies_true, and_true, surrogateFree_of_isSha256 hbasis,
      surrogateFree_of_isSha256 hpermit, hdistribution, hversion, hurl,
      PublicationTarget.surrogateFree_text, surrogateFree_isoformat, List.not_mem_nil]
    exact ⟨hlist, hlimits⟩
  obtain ⟨content, hcontent⟩ := (canonicalBytes_isOk_iff receipt.writable_toDict).mpr htexts
  exact ⟨sha256 content, by rw [digest, hcontent]; rfl⟩

/-! ### Publications -/

/-- A receipt is created as it is stated, with no yanked artifact. -/
theorem RegistryPublicationReceipt.create_eq_ok {platform : Platform}
    {receipt created : RegistryPublicationReceipt} (h : create platform receipt = .ok created) :
    created = receipt := by
  obtain ⟨-, -, h⟩ := bind_eq_ok.mp h
  obtain ⟨-, -, h⟩ := bind_eq_ok.mp h
  obtain ⟨-, h⟩ := require_bind_eq_ok.mp h
  obtain ⟨url, -, h⟩ := bind_eq_ok.mp h
  obtain ⟨-, h⟩ := require_bind_eq_ok.mp h
  obtain ⟨-, h⟩ := require_bind_eq_ok.mp h
  obtain ⟨-, h⟩ := require_bind_eq_ok.mp h
  obtain ⟨-, h⟩ := require_bind_eq_ok.mp h
  cases h
  rfl

/-- What a publication that returns a receipt established, and the receipt. -/
structure Published (platform : Platform) (basis : ReleasePublicationBasis)
    (permit : PublicationExecutionPermit) (payload : Dict Json) (files : Dict Bytes)
    (receipt : RegistryPublicationReceipt) (urls : List Json)
    (parsed : Dict RegistryPublishedArtifact) : Prop where
  bound : validatePermitBinding basis permit = .ok ()
  listed : releaseFiles platform basis payload = .ok urls
  looped : parseFiles (publishedFile platform basis files) 0 [] urls = .ok parsed
  kept : ∀ name, name ∈ parsed.keys ↔ name ∈ expectedNames basis
  read : ∀ name, name ∈ files.keys ↔ name ∈ expectedNames basis
  basisDigest : basis.digest = .ok receipt.basisDigest
  permitDigest : permit.digest = .ok receipt.permitDigest
  url : registryReleaseApiUrl platform basis.targetRepository basis.distribution basis.version =
    .ok receipt.registryApiUrl
  target : receipt.targetRepository = basis.targetRepository
  distribution : receipt.distribution = basis.distribution
  version : receipt.version = basis.version
  artifacts : receipt.artifacts = sortedArtifacts parsed

/-- A receipt says that the publication was checked. -/
theorem exists_published {platform : Platform} {basis : ReleasePublicationBasis}
    {permit : PublicationExecutionPermit} {payload : Dict Json} {files : Dict Bytes}
    {clock : Option AwareDatetime} {receipt : RegistryPublicationReceipt}
    (h : reconcileRegistryPublication platform basis permit payload files clock = .ok receipt) :
    ∃ urls parsed, Published platform basis permit payload files receipt urls parsed := by
  obtain ⟨_, hbound, h⟩ := bind_eq_ok.mp h
  obtain ⟨urls, hurls, h⟩ := bind_eq_ok.mp h
  obtain ⟨-, h⟩ := require_bind_eq_ok.mp h
  obtain ⟨parsed, hparsed, h⟩ := bind_eq_ok.mp h
  obtain ⟨hsets, h⟩ := require_bind_eq_ok.mp h
  obtain ⟨timestamp, -, h⟩ := bind_eq_ok.mp h
  obtain ⟨basisDigest, hbasis, h⟩ := bind_eq_ok.mp h
  obtain ⟨permitDigest, hpermit, h⟩ := bind_eq_ok.mp h
  obtain ⟨url, hurl, h⟩ := bind_eq_ok.mp h
  obtain ⟨observedAt, -, h⟩ := bind_eq_ok.mp h
  have hreceipt := RegistryPublicationReceipt.create_eq_ok h
  subst hreceipt
  rw [Bool.and_eq_true, sameSet_iff, sameSet_iff] at hsets
  exact ⟨urls, parsed, hbound, hurls, hparsed, hsets.1, hsets.2, hbasis, hpermit, hurl, rfl, rfl,
    rfl, rfl⟩

section Published

variable {platform : Platform} {basis : ReleasePublicationBasis}
  {permit : PublicationExecutionPermit} {payload : Dict Json} {files : Dict Bytes}
  {receipt : RegistryPublicationReceipt} {urls : List Json}
  {parsed : Dict RegistryPublishedArtifact}

/-- The artifacts kept by a publication, unyanked and matched. -/
theorem Published.keyed (h : Published platform basis permit payload files receipt urls parsed) :
    Keyed (fun a ↦ a.yanked = false ∧ Matched basis files a) parsed :=
  keyed_parseFiles (fun _ _ _ _ _ ha ↦ publishedFile_isMatch ha) (keyed_nil _) h.looped

/-- Every artifact of the basis is in the receipt. -/
theorem Published.complete
    (h : Published platform basis permit payload files receipt urls parsed) :
    ∀ e ∈ basis.artifacts, ∃ a ∈ receipt.artifacts, a.name = e.name := by
  intro e he
  have hkey : e.name ∈ parsed.keys :=
    (h.kept e.name).mpr (List.mem_map_of_mem he)
  obtain ⟨a, ha⟩ := Dict.mem_keys.mp hkey
  rw [h.artifacts]
  exact ⟨a, mem_sortedArtifacts.mpr ⟨_, ha, rfl⟩, (h.keyed.named _ ha).symm⟩

/-- The artifacts of a receipt are matched, each once. -/
theorem Published.matched
    (h : Published platform basis permit payload files receipt urls parsed) :
    (∀ a ∈ receipt.artifacts, Matched basis files a) ∧
      (receipt.artifacts.map RegistryPublishedArtifact.name).Nodup := by
  rw [h.artifacts]
  refine ⟨?_, h.keyed.nodup⟩
  intro a ha
  obtain ⟨m, hm, rfl⟩ := mem_sortedArtifacts.mp ha
  exact (h.keyed.holds m hm).2

/-- A receipt verifies against the basis and the permit it was made from. -/
theorem Published.verify
    (h : Published platform basis permit payload files receipt urls parsed) :
    verifyRegistryPublicationReceipt receipt basis permit = .ok () := by
  obtain ⟨hmatched, hnodup⟩ := h.matched
  have hcontent := sorted_observedContent hnodup hmatched h.complete
  simp only [verifyRegistryPublicationReceipt, h.bound, h.basisDigest, h.permitDigest, ok_bind,
    h.target, h.distribution, h.version, hcontent, decide_true, and_self, require_true]

end Published

/-! ### Observations -/

section Observe

variable {platform : Platform} {receipt : RegistryPublicationReceipt}
  {basis : ReleasePublicationBasis} {permit : PublicationExecutionPermit} {files : Dict Bytes}
  {previous : Option RegistryPublicationLifecycleObservation} {timestamp : AwareDatetime}
  {receiptDigest basisDigest permitDigest url tip : Text} {time : Datetime}
  {parsed : Dict RegistryPublishedArtifact}

/-- The observation of an entry that is there. -/
def presentObservation (basis : ReleasePublicationBasis)
    (receiptDigest basisDigest permitDigest url tip : Text) (time : Datetime)
    (parsed : Dict RegistryPublishedArtifact) : RegistryPublicationLifecycleObservation :=
  ⟨receiptDigest, tip, basisDigest, permitDigest, basis.targetRepository, basis.distribution,
    basis.version, url, time,
    presentStatus (missingNames basis parsed.keys) (sortedArtifacts parsed),
    sortedArtifacts parsed, missingNames basis parsed.keys, none⟩

theorem artifacts_ne_nil (hmissing : missingNames basis parsed.keys = []) :
    sortedArtifacts parsed ≠ [] := by
  intro hnil
  obtain ⟨e, he⟩ := List.exists_mem_of_ne_nil _ basis.nonempty
  have hkey := missingNames_eq_nil.mp hmissing e.name (List.mem_map_of_mem he)
  obtain ⟨a, ha⟩ := Dict.mem_keys.mp hkey
  have hmem := mem_sortedArtifacts.mpr ⟨_, ha, rfl⟩
  rw [hnil] at hmem
  cases hmem

/-- The artifact state of what the loop kept is in order. -/
theorem checkPresent_presentObservation
    (hmixed : mixedYanked (sortedArtifacts parsed) = false) :
    (presentObservation basis receiptDigest basisDigest permitDigest url tip time
      parsed).checkPresent = .ok () := by
  unfold RegistryPublicationLifecycleObservation.checkPresent presentObservation presentStatus
  by_cases hmissing : missingNames basis parsed.keys = []
  · have hne : (sortedArtifacts parsed).isEmpty = false :=
      List.isEmpty_eq_false_iff.mpr (artifacts_ne_nil hmissing)
    by_cases hall : allYanked (sortedArtifacts parsed) = true
    · simp [hmissing, hall, hmixed, hne]
    · simp [hmissing, hall, hmixed, hne]
  · have hne : (missingNames basis parsed.keys).isEmpty = false :=
      List.isEmpty_eq_false_iff.mpr hmissing
    simp [hne, hmixed]

/-- An observation is created as it is stated. -/
theorem RegistryPublicationLifecycleObservation.eq_of_create
    {o created : RegistryPublicationLifecycleObservation} (h : create platform o = .ok created) :
    created = o := by
  obtain ⟨-, -, h⟩ := bind_eq_ok.mp h
  obtain ⟨-, -, h⟩ := bind_eq_ok.mp h
  obtain ⟨-, -, h⟩ := bind_eq_ok.mp h
  obtain ⟨-, -, h⟩ := bind_eq_ok.mp h
  obtain ⟨-, h⟩ := require_bind_eq_ok.mp h
  obtain ⟨url, -, h⟩ := bind_eq_ok.mp h
  obtain ⟨-, h⟩ := require_bind_eq_ok.mp h
  obtain ⟨-, h⟩ := require_bind_eq_ok.mp h
  obtain ⟨-, h⟩ := require_bind_eq_ok.mp h
  obtain ⟨-, h⟩ := require_bind_eq_ok.mp h
  obtain ⟨-, h⟩ := require_bind_eq_ok.mp h
  split at h
  · obtain ⟨-, h⟩ := require_bind_eq_ok.mp h
    obtain ⟨-, h⟩ := require_bind_eq_ok.mp h
    cases h
    rfl
  · cases hpresent : o.checkPresent with
    | error e =>
      rw [hpresent] at h
      cases h
    | ok _ =>
      rw [hpresent] at h
      cases h
      rfl

/-- An entry that is there is observed as stated when its artifact state is in order. -/
theorem RegistryPublicationLifecycleObservation.create_eq
    {o : RegistryPublicationLifecycleObservation}
    (hdigests : ∀ digest ∈ [o.publicationReceiptDigest, o.predecessorDigest, o.basisDigest,
      o.permitDigest], isSha256 digest = true)
    (hstated : blank o.distribution = false ∧ blank o.version = false)
    (hurl : registryReleaseApiUrl platform o.targetRepository o.distribution o.version =
      .ok o.registryApiUrl)
    (hnodup : (o.artifacts.map RegistryPublishedArtifact.name).Nodup)
    (hmissing : o.missingArtifacts.Nodup)
    (hnamed : ∀ name ∈ o.missingArtifacts, blank name = false)
    (hdisjoint : ∀ a ∈ o.artifacts, a.name ∉ o.missingArtifacts)
    (hstatus : o.status ≠ .unavailable) (hpresent : o.checkPresent = .ok ()) :
    create platform o = .ok o := by
  simp only [List.forall_mem_cons, List.not_mem_nil, false_implies, implies_true, and_true]
    at hdigests
  obtain ⟨hreceipt, htip, hbasis, hpermit⟩ := hdigests
  have hblank : o.missingArtifacts.any blank = false := by
    simpa using hnamed
  have hapart : (o.artifacts.any fun a ↦ a.name ∈ o.missingArtifacts) = false := by
    simpa using hdisjoint
  simp only [create, requireDigest, hreceipt, htip, hbasis, hpermit, require_true, ok_bind,
    hstated.1, hstated.2, Bool.not_false, Bool.and_self, hurl, decide_true, hnodup, hmissing,
    hblank, hapart, if_neg hstatus, hpresent]
  rfl

theorem presentStatus_ne_unavailable {missing : List Text}
    {artifacts : List RegistryPublishedArtifact} :
    presentStatus missing artifacts ≠ .unavailable := by
  unfold presentStatus
  split
  · intro h
    cases h
  · split
    · intro h
      cases h
    · intro h
      cases h

/-- What the loop kept can be stated as an observation. -/
theorem create_presentObservation (hreceipt : isSha256 receiptDigest = true)
    (htip : isSha256 tip = true) (hbasis : isSha256 basisDigest = true)
    (hpermit : isSha256 permitDigest = true)
    (hurl : registryReleaseApiUrl platform basis.targetRepository basis.distribution
      basis.version = .ok url)
    {P : RegistryPublishedArtifact → Prop} (hkeyed : Keyed P parsed)
    (hmixed : mixedYanked (sortedArtifacts parsed) = false) :
    RegistryPublicationLifecycleObservation.create platform
        (presentObservation basis receiptDigest basisDigest permitDigest url tip time parsed) =
      .ok (presentObservation basis receiptDigest basisDigest permitDigest url tip time
        parsed) := by
  apply RegistryPublicationLifecycleObservation.create_eq
  · simp [presentObservation, hreceipt, htip, hbasis, hpermit]
  · exact ⟨basis.stated _ (by simp [presentObservation]),
      basis.stated _ (by simp [presentObservation])⟩
  · exact hurl
  · exact hkeyed.nodup
  · exact nodup_missingNames _ _
  · intro name hname
    obtain ⟨e, -, rfl⟩ := List.mem_map.mp (mem_missingNames.mp hname).1
    exact e.named
  · intro a ha hmissing
    obtain ⟨m, hm, rfl⟩ := mem_sortedArtifacts.mp ha
    apply (mem_missingNames.mp hmissing).2
    exact Dict.mem_keys.mpr ⟨m.2, by rw [← hkeyed.named m hm]; exact hm⟩
  · exact presentStatus_ne_unavailable
  · exact checkPresent_presentObservation hmixed

/-- The names observed are the names kept. -/
theorem mem_keys_observedContent {P : RegistryPublishedArtifact → Prop} (hkeyed : Keyed P parsed)
    (name : Text) :
    name ∈ (observedContent (sortedArtifacts parsed)).keys ↔ name ∈ parsed.keys := by
  rw [observedContent_eq hkeyed.nodup, Dict.keys, List.map_map]
  have hmap : (sortedArtifacts parsed).map (Prod.fst ∘ fun a ↦ (a.name, a.sha256, a.sizeBytes)) =
      parsed.sorted.keys := hkeyed.map_name
  rw [hmap, Dict.mem_keys_sorted]

/-- What the loop kept, matched, is the artifact state the lifecycle verifies. -/
theorem checkArtifactState_presentObservation (hkeyed : Keyed (Matched basis files) parsed) :
    checkArtifactState (presentObservation basis receiptDigest basisDigest permitDigest url tip
      time parsed) basis = .ok () := by
  have hmatched : ∀ a ∈ sortedArtifacts parsed, Matched basis files a := by
    intro a ha
    obtain ⟨m, hm, rfl⟩ := mem_sortedArtifacts.mp ha
    exact hkeyed.holds m hm
  have hexpected : ∀ item ∈ observedContent (sortedArtifacts parsed),
      (expectedContent basis).get? item.1 = some item.2 := by
    rw [observedContent_eq hkeyed.nodup]
    intro item hitem
    obtain ⟨a, ha, rfl⟩ := List.mem_map.mp hitem
    obtain ⟨e, he⟩ := hmatched a ha
    exact he.get?_expectedContent
  have hnone : ((observedContent (sortedArtifacts parsed)).any fun item ↦
      decide ((expectedContent basis).get? item.1 ≠ some item.2)) = false := by
    rw [List.any_eq_false]
    intro item hitem
    simp [hexpected item hitem]
  have hnames : missingNames basis (observedContent (sortedArtifacts parsed)).keys =
      missingNames basis parsed.keys := missingNames_congr (mem_keys_observedContent hkeyed)
  simp only [checkArtifactState, presentObservation, hnone, hnames, Bool.not_false, require_true,
    ok_bind, insertionSort_missingNames]
  by_cases hmissing : missingNames basis parsed.keys = []
  · have hall : ∀ e ∈ basis.artifacts, ∃ a ∈ sortedArtifacts parsed, a.name = e.name := by
      intro e he
      have hkey := missingNames_eq_nil.mp hmissing e.name (List.mem_map_of_mem he)
      obtain ⟨a, ha⟩ := Dict.mem_keys.mp hkey
      exact ⟨a, mem_sortedArtifacts.mpr ⟨_, ha, rfl⟩, (hkeyed.named _ ha).symm⟩
    have hcontent := sorted_observedContent hkeyed.nodup hmatched hall
    have hstatus : presentStatus (missingNames basis parsed.keys) (sortedArtifacts parsed) ≠
        .partiallyAvailable := by
      rw [hmissing, presentStatus]
      split
      · next h => simp at h
      · split
        · intro h
          cases h
        · intro h
          cases h
    rw [if_neg hstatus]
    simp [hcontent, hmissing]
  · have hne : (missingNames basis parsed.keys).isEmpty = false :=
      List.isEmpty_eq_false_iff.mpr hmissing
    have hstatus : presentStatus (missingNames basis parsed.keys) (sortedArtifacts parsed) =
        .partiallyAvailable := by
      simp [presentStatus, hne]
    rw [if_pos hstatus]
    simp [hne]

/-- What the loop kept is observed, at a time that does not move backwards. -/
theorem observe_eq (hverify : verifyRegistryPublicationReceipt receipt basis permit = .ok ())
    (hreceipt : receipt.digest = .ok receiptDigest) (hbasis : basis.digest = .ok basisDigest)
    (hpermit : permit.digest = .ok permitDigest)
    (hurl : registryReleaseApiUrl platform basis.targetRepository basis.distribution
      basis.version = .ok url)
    (htime : timestamp.toUtc = .ok time) (htip : tipDigest receipt previous = .ok tip)
    (hforward : (tipTime receipt previous).instant ≤ time.instant)
    (hkeyed : Keyed (Matched basis files) parsed)
    (hmixed : mixedYanked (sortedArtifacts parsed) = false) :
    observe platform receipt basis permit previous timestamp tip
        (presentStatus (missingNames basis parsed.keys) (sortedArtifacts parsed))
        (sortedArtifacts parsed) (missingNames basis parsed.keys) none =
      .ok (presentObservation basis receiptDigest basisDigest permitDigest url tip time
        parsed) := by
  have hcreate : RegistryPublicationLifecycleObservation.create platform (presentObservation
      basis receiptDigest basisDigest permitDigest url tip time parsed) = .ok (presentObservation
      basis receiptDigest basisDigest permitDigest url tip time parsed) :=
    create_presentObservation (RegistryPublicationReceipt.isSha256_digest hreceipt)
      (isSha256_tipDigest htip) (ReleasePublicationBasis.isSha256_digest hbasis)
      (PublicationExecutionPermit.isSha256_digest hpermit) hurl hkeyed hmixed
  have hstate : checkArtifactState (presentObservation basis receiptDigest basisDigest
      permitDigest url tip time parsed) basis = .ok () :=
    checkArtifactState_presentObservation hkeyed
  have hobservation : verifyRegistryPublicationLifecycleObservation (presentObservation basis
      receiptDigest basisDigest permitDigest url tip time parsed) receipt basis permit previous =
      .ok () := by
    have hstatus : (presentObservation basis receiptDigest basisDigest permitDigest url tip time
        parsed).status ≠ .unavailable := presentStatus_ne_unavailable
    rw [verifyRegistryPublicationLifecycleObservation, if_neg hstatus, hstate]
    simp only [presentObservation, hverify, hreceipt, hbasis, hpermit, htip, ok_bind,
      decide_true, and_self, require_true, hforward]
  unfold presentObservation at hcreate hobservation ⊢
  simp only [observe, hreceipt, hbasis, hpermit, hurl, htime, ok_bind, hcreate, hobservation]
  rfl

/-- The lifecycle of a payload that is there, once its files are through. -/
theorem reconcileLifecycle_eq {payload : Dict Json} {urls : List Json} {reason : Option Text}
    (hverify : verifyRegistryPublicationReceipt receipt basis permit = .ok ())
    (hreceipt : receipt.digest = .ok receiptDigest) (hbasis : basis.digest = .ok basisDigest)
    (hpermit : permit.digest = .ok permitDigest)
    (hurl : registryReleaseApiUrl platform basis.targetRepository basis.distribution
      basis.version = .ok url)
    (htime : timestamp.toUtc = .ok time) (htip : tipDigest receipt previous = .ok tip)
    (hforward : (tipTime receipt previous).instant ≤ time.instant)
    (hurls : releaseFiles platform basis payload = .ok urls)
    (hparsed : parseFiles (observedFile platform basis files) 0 [] urls = .ok parsed)
    (hfiles : ∀ name, name ∈ files.keys ↔ name ∈ parsed.keys)
    (hmixed : mixedYanked (sortedArtifacts parsed) = false) :
    reconcileRegistryPublicationLifecycle platform receipt basis permit (some payload) files
        previous reason (some timestamp) =
      .ok (presentObservation basis receiptDigest basisDigest permitDigest url tip time
        parsed) := by
  have hkeyed : Keyed (Matched basis files) parsed :=
    keyed_parseFiles (fun _ _ _ _ _ h ↦ observedFile_isMatch h) (keyed_nil _) hparsed
  have hobserve := observe_eq hverify hreceipt hbasis hpermit hurl htime htip hforward hkeyed
    hmixed
  simp only [reconcileRegistryPublicationLifecycle, hverify, orRaise_some, htip, hurls, hparsed,
    sameSet_iff.mpr hfiles, hmixed, Bool.not_false, require_true, ok_bind, hobserve]

/-- An observation that the lifecycle built is the one it states. -/
theorem observe_eq_ok {predecessor : Text} {status : RegistryLifecycleStatus}
    {artifacts : List RegistryPublishedArtifact} {missing : List Text} {reason : Option Text}
    {observation : RegistryPublicationLifecycleObservation}
    (h : observe platform receipt basis permit previous timestamp predecessor status artifacts
      missing reason = .ok observation) :
    observation.status = status ∧ observation.artifacts = artifacts ∧
      observation.missingArtifacts = missing := by
  obtain ⟨receiptDigest, -, h⟩ := bind_eq_ok.mp h
  obtain ⟨basisDigest, -, h⟩ := bind_eq_ok.mp h
  obtain ⟨permitDigest, -, h⟩ := bind_eq_ok.mp h
  obtain ⟨url, -, h⟩ := bind_eq_ok.mp h
  obtain ⟨observedAt, -, h⟩ := bind_eq_ok.mp h
  obtain ⟨created, hcreated, h⟩ := bind_eq_ok.mp h
  obtain ⟨-, -, h⟩ := bind_eq_ok.mp h
  cases h
  rw [RegistryPublicationLifecycleObservation.eq_of_create hcreated]
  exact ⟨rfl, rfl, rfl⟩

/-- What the lifecycle observed of a payload that is there. -/
theorem reconcileLifecycle_eq_ok {payload : Dict Json} {reason : Option Text}
    {clock : Option AwareDatetime} {observation : RegistryPublicationLifecycleObservation}
    (h : reconcileRegistryPublicationLifecycle platform receipt basis permit (some payload) files
      previous reason clock = .ok observation) :
    ∃ parsed, Keyed (Matched basis files) parsed ∧
      observation.status =
        presentStatus (missingNames basis parsed.keys) (sortedArtifacts parsed) ∧
      observation.artifacts = sortedArtifacts parsed ∧
      observation.missingArtifacts = missingNames basis parsed.keys := by
  obtain ⟨-, -, h⟩ := bind_eq_ok.mp h
  obtain ⟨timestamp, -, h⟩ := bind_eq_ok.mp h
  obtain ⟨predecessor, -, h⟩ := bind_eq_ok.mp h
  obtain ⟨urls, -, h⟩ := bind_eq_ok.mp h
  obtain ⟨parsed, hparsed, h⟩ := bind_eq_ok.mp h
  obtain ⟨-, h⟩ := require_bind_eq_ok.mp h
  obtain ⟨-, h⟩ := require_bind_eq_ok.mp h
  exact ⟨parsed, keyed_parseFiles (fun _ _ _ _ _ h ↦ observedFile_isMatch h) (keyed_nil _) hparsed,
    observe_eq_ok h⟩

end Observe

/-! ### Agreement -/

/-- Every artifact listed is exactly one of the basis, with the bytes read back, and none is
listed twice. -/
structure OneToOne (basis : ReleasePublicationBasis) (files : Dict Bytes)
    (artifacts : List RegistryPublishedArtifact) : Prop where
  matched : ∀ a ∈ artifacts, ∃! e, IsMatch basis files a e
  nodup : (artifacts.map RegistryPublishedArtifact.name).Nodup

/-- No artifact of the basis is missing. -/
def Complete (basis : ReleasePublicationBasis) (artifacts : List RegistryPublishedArtifact) :
    Prop :=
  ∀ e ∈ basis.artifacts, ∃ a ∈ artifacts, a.name = e.name

/-- What a file states can be recorded: no yank reason, and an address and a package type that
UTF-8 can encode. -/
structure Plain (raw : Json) : Prop where
  unexplained : Unexplained raw
  encodable : ∀ item : Dict Json, raw = .obj item → ∀ key ∈ [lit "url", lit "packagetype"],
    ∀ text, item.get? key = some (.str text) → SurrogateFree text

/-- Every file of a payload is plain. -/
def PlainPayload (payload : Dict Json) : Prop :=
  ∀ urls, payload.get? (lit "urls") = some (.arr urls) → ∀ raw ∈ urls, Plain raw

section Agreement

variable {platform : Platform} {basis : ReleasePublicationBasis}
  {permit : PublicationExecutionPermit} {payload : Dict Json} {files : Dict Bytes}

private theorem oneToOne_of_matched {artifacts : List RegistryPublishedArtifact}
    (hmatched : ∀ a ∈ artifacts, Matched basis files a)
    (hnodup : (artifacts.map RegistryPublishedArtifact.name).Nodup) :
    OneToOne basis files artifacts := by
  refine ⟨?_, hnodup⟩
  intro a ha
  obtain ⟨e, he⟩ := hmatched a ha
  exact ⟨e, he, fun f hf ↦ he.unique hf⟩

/-- A receipt lists the basis: each artifact once, with the bytes read back. -/
theorem receipt_lists_basis {clock : Option AwareDatetime} {receipt : RegistryPublicationReceipt}
    (h : reconcileRegistryPublication platform basis permit payload files clock = .ok receipt) :
    OneToOne basis files receipt.artifacts ∧ Complete basis receipt.artifacts := by
  obtain ⟨urls, parsed, hpublished⟩ := exists_published h
  obtain ⟨hmatched, hnodup⟩ := hpublished.matched
  exact ⟨oneToOne_of_matched hmatched hnodup, hpublished.complete⟩

/-- What an observation says of the artifacts of the basis. -/
structure Accounts (basis : ReleasePublicationBasis) (files : Dict Bytes)
    (observation : RegistryPublicationLifecycleObservation) : Prop where
  oneToOne : OneToOne basis files observation.artifacts
  complete : observation.status = .available ∨ observation.status = .yanked →
    Complete basis observation.artifacts
  missing : observation.status = .partiallyAvailable → ∀ e ∈ basis.artifacts,
    e.name ∈ observation.missingArtifacts ↔ ¬∃ a ∈ observation.artifacts, a.name = e.name

/-- The artifacts kept have a name exactly when it is a key. -/
private theorem exists_name_iff {P : RegistryPublishedArtifact → Prop}
    {parsed : Dict RegistryPublishedArtifact} (hkeyed : Keyed P parsed) (name : Text) :
    (∃ a ∈ sortedArtifacts parsed, a.name = name) ↔ name ∈ parsed.keys := by
  rw [← Dict.mem_keys_sorted, ← hkeyed.map_name, List.mem_map]

/-- An observation accounts for the basis. -/
theorem observation_accounts {receipt : RegistryPublicationReceipt}
    {previous : Option RegistryPublicationLifecycleObservation} {reason : Option Text}
    {clock : Option AwareDatetime} {payload : Option (Dict Json)}
    {observation : RegistryPublicationLifecycleObservation}
    (h : reconcileRegistryPublicationLifecycle platform receipt basis permit payload files previous
      reason clock = .ok observation) : Accounts basis files observation := by
  cases payload with
  | none =>
    obtain ⟨-, -, h⟩ := bind_eq_ok.mp h
    obtain ⟨timestamp, -, h⟩ := bind_eq_ok.mp h
    obtain ⟨predecessor, -, h⟩ := bind_eq_ok.mp h
    obtain ⟨-, h⟩ := require_bind_eq_ok.mp h
    obtain ⟨hstatus, hartifacts, -⟩ := observe_eq_ok h
    constructor
    · rw [hartifacts]
      exact ⟨by simp, by simp⟩
    · rw [hstatus]
      simp
    · rw [hstatus]
      simp
  | some payload =>
    obtain ⟨parsed, hkeyed, hstatus, hartifacts, hmissing⟩ := reconcileLifecycle_eq_ok h
    constructor
    · rw [hartifacts]
      refine oneToOne_of_matched ?_ hkeyed.nodup
      intro a ha
      obtain ⟨m, hm, rfl⟩ := mem_sortedArtifacts.mp ha
      exact hkeyed.holds m hm
    · rw [hstatus, hartifacts]
      intro hwhole e he
      rw [exists_name_iff hkeyed]
      have hnone : missingNames basis parsed.keys = [] := by
        by_contra hne
        simp [presentStatus, hne] at hwhole
      exact missingNames_eq_nil.mp hnone e.name (List.mem_map_of_mem he)
    · intro _ e he
      rw [hartifacts, hmissing, exists_name_iff hkeyed, mem_missingNames]
      exact and_iff_right (List.mem_map_of_mem he)

/-- A member that is required to be a text is one. -/
theorem memberString_eq_ok {item : Dict Json} {key field text : Text}
    (h : memberString item key field = .ok text) : item.get? key = some (.str text) := by
  rw [memberString, requireString, orRaise_eq_ok] at h
  cases hv : item.get? key with
  | none =>
    rw [hv] at h
    cases h
  | some v =>
    rw [hv] at h
    cases v with
    | str s =>
      cases h
      rfl
    | _ => cases h

/-- A publication keeps what can be recorded of a plain file. -/
theorem publishedFile_encodable {parsed : Dict RegistryPublishedArtifact} {index : Nat}
    {raw : Json} {a : RegistryPublishedArtifact} {digest : Text}
    (hbasis : basis.digest = .ok digest) (hraw : Plain raw)
    (h : publishedFile platform basis files parsed index raw = .ok a) : Encodable a := by
  obtain ⟨-, -, e, he⟩ := publishedFile_isMatch h
  obtain ⟨item, name, expected, sha, size, rfl, -, -, -, -, -, hread⟩ := publishedFile_eq_ok h
  obtain ⟨-, time, url, packageType, hurl, htype, rfl⟩ := readBack_eq_ok hread
  constructor
  · rw [he.name]
    exact (ReleasePublicationBasis.surrogateFree hbasis).2.2 e he.listed
  · rw [he.sha256]
    exact e.digested
  · exact hraw.encodable item rfl _ (by simp) _ (memberString_eq_ok hurl)
  · exact hraw.encodable item rfl _ (by simp) _ (memberString_eq_ok htype)
  · rfl

/-- The files of a release are the `urls` of its payload. -/
theorem releaseFiles_eq_ok {urls : List Json}
    (h : releaseFiles platform basis payload = .ok urls) :
    payload.get? (lit "urls") = some (.arr urls) := by
  obtain ⟨info, -, h⟩ := bind_eq_ok.mp h
  obtain ⟨name, -, h⟩ := bind_eq_ok.mp h
  obtain ⟨version, -, h⟩ := bind_eq_ok.mp h
  obtain ⟨-, h⟩ := require_bind_eq_ok.mp h
  obtain ⟨-, h⟩ := require_bind_eq_ok.mp h
  rw [orRaise_eq_ok, Option.bind_eq_some_iff] at h
  obtain ⟨v, hv, hlist⟩ := h
  cases v with
  | arr items =>
    cases hlist
    exact hv
  | _ => cases hlist

/-- A publication of plain files has a digest. -/
theorem exists_receipt_digest {receipt : RegistryPublicationReceipt} {urls : List Json}
    {parsed : Dict RegistryPublishedArtifact}
    (h : Published platform basis permit payload files receipt urls parsed)
    (hplain : ∀ raw ∈ urls, Plain raw) : ∃ digest, receipt.digest = .ok digest := by
  have hencodable : Keyed Encodable parsed :=
    keyed_parseFiles (fun raw hraw _ _ _ ha ↦ ⟨(publishedFile_isMatch ha).1,
      publishedFile_encodable h.basisDigest (hplain raw hraw) ha⟩) (keyed_nil _) h.looped
  obtain ⟨hdistribution, hversion, -⟩ := ReleasePublicationBasis.surrogateFree h.basisDigest
  apply RegistryPublicationReceipt.exists_digest
  · exact ReleasePublicationBasis.isSha256_digest h.basisDigest
  · exact PublicationExecutionPermit.isSha256_digest h.permitDigest
  · rw [h.distribution]
    exact hdistribution
  · rw [h.version]
    exact hversion
  · exact surrogateFree_registryReleaseApiUrl h.url
  · intro a ha
    rw [h.artifacts] at ha
    obtain ⟨m, hm, rfl⟩ := mem_sortedArtifacts.mp ha
    exact hencodable.holds m hm

/-- What a publication of plain files recorded is observed as available, with the same artifacts,
at any time that does not move backwards. -/
theorem observed_of_published {receipt : RegistryPublicationReceipt} {clock : Option AwareDatetime}
    {previous : Option RegistryPublicationLifecycleObservation} {reason : Option Text}
    {timestamp : AwareDatetime} {time : Datetime}
    (h : reconcileRegistryPublication platform basis permit payload files clock = .ok receipt)
    (hplain : PlainPayload payload)
    (hprevious : ∀ observation ∈ previous, ∃ digest, observation.digest = .ok digest)
    (htime : timestamp.toUtc = .ok time)
    (hforward : (tipTime receipt previous).instant ≤ time.instant) :
    ∃ observation, reconcileRegistryPublicationLifecycle platform receipt basis permit
        (some payload) files previous reason (some timestamp) = .ok observation ∧
      observation.status = .available ∧ observation.artifacts = receipt.artifacts := by
  obtain ⟨urls, parsed, hpublished⟩ := exists_published h
  have hraw := hplain urls (releaseFiles_eq_ok hpublished.listed)
  obtain ⟨receiptDigest, hreceipt⟩ := exists_receipt_digest hpublished hraw
  have htip : ∃ tip, tipDigest receipt previous = .ok tip := by
    cases previous with
    | none => exact ⟨receiptDigest, hreceipt⟩
    | some observation => exact hprevious observation rfl
  obtain ⟨tip, htip⟩ := htip
  have hobserved : parseFiles (observedFile platform basis files) 0 [] urls = .ok parsed :=
    parseFiles_of_forall (fun raw hmem _ _ _ ha ↦
      observedFile_of_publishedFile (hraw raw hmem).unexplained ha) hpublished.looped
  have hunyanked : ∀ a ∈ sortedArtifacts parsed, a.yanked = false := by
    intro a ha
    obtain ⟨m, hm, rfl⟩ := mem_sortedArtifacts.mp ha
    exact (hpublished.keyed.holds m hm).1
  have hmixed : mixedYanked (sortedArtifacts parsed) = false := by
    rw [mixedYanked, Bool.and_eq_false_iff, List.any_eq_false]
    exact .inl fun a ha ↦ by simp [hunyanked a ha]
  have hmissing : missingNames basis parsed.keys = [] :=
    missingNames_eq_nil.mpr fun name ↦ (hpublished.kept name).mpr
  refine ⟨_, reconcileLifecycle_eq hpublished.verify hreceipt hpublished.basisDigest
    hpublished.permitDigest hpublished.url htime htip hforward hpublished.listed hobserved
    (fun name ↦ (hpublished.read name).trans (hpublished.kept name).symm) hmixed, ?_, ?_⟩
  · obtain ⟨e, he⟩ := List.exists_mem_of_ne_nil _ basis.nonempty
    obtain ⟨a, ha, -⟩ := hpublished.complete e he
    rw [hpublished.artifacts] at ha
    have hall : allYanked (sortedArtifacts parsed) = false := by
      rw [allYanked, Bool.and_eq_false_iff, List.all_eq_false]
      exact .inr ⟨a, ha, by simp [hunyanked a ha]⟩
    simp [presentObservation, presentStatus, hmissing, hall]
  · exact hpublished.artifacts.symm

end Agreement

end StateWake.ReleaseTrust
