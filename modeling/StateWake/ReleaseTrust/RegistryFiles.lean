import StateWake.ReleaseTrust.Registry

/-!
# Registry files

A file that a publication or the lifecycle keeps is the one artifact of the basis it names, with
the bytes read back, and the loop keeps each name once. Without a yank reason the lifecycle keeps
what a publication keeps.
-/

namespace StateWake.ReleaseTrust

open StateWake.Base Text Utils

/-! ### Files -/

/-- An observed artifact is one of the basis: the same name, digest and size, and the bytes read
back have that size and digest. -/
structure IsMatch (basis : ReleasePublicationBasis) (files : Dict Bytes)
    (a : RegistryPublishedArtifact) (e : ArtifactDigest) : Prop where
  listed : e ∈ basis.artifacts
  name : a.name = e.name
  sha256 : a.sha256 = e.sha256
  size : a.sizeBytes = e.sizeBytes
  bytes : ∃ data, files.get? e.name = some data ∧ (data.length : Int) = e.sizeBytes ∧
    Base.sha256 data = e.sha256

/-- Artifacts of one basis with one name are one artifact. -/
theorem eq_of_name_eq {basis : ReleasePublicationBasis} {e f : ArtifactDigest}
    (he : e ∈ basis.artifacts) (hf : f ∈ basis.artifacts) (h : e.name = f.name) : e = f :=
  List.inj_on_of_nodup_map basis.unique he hf h

/-- An observed artifact is at most one of the basis. -/
theorem IsMatch.unique {basis : ReleasePublicationBasis} {files : Dict Bytes}
    {a : RegistryPublishedArtifact} {e f : ArtifactDigest} (he : IsMatch basis files a e)
    (hf : IsMatch basis files a f) : f = e :=
  eq_of_name_eq hf.listed he.listed (hf.name.symm.trans he.name)

private theorem distinct_named (basis : ReleasePublicationBasis) :
    Dict.Distinct (basis.artifacts.map fun a ↦ (a.name, a)) := by
  simpa [Dict.Distinct, Dict.keys, Function.comp_def] using basis.unique

/-- The artifact a file names is one of the basis, and no file before it names it. -/
theorem expectedFor_eq_ok {basis : ReleasePublicationBasis}
    {parsed : Dict RegistryPublishedArtifact} {index : Nat} {item : Dict Json} {name : Text}
    {expected : ArtifactDigest} (h : expectedFor basis parsed index item = .ok (name, expected)) :
    parsed.get? name = none ∧ expected ∈ basis.artifacts ∧ expected.name = name := by
  obtain ⟨name', -, h⟩ := bind_eq_ok.mp h
  obtain ⟨hnew, h⟩ := require_bind_eq_ok.mp h
  obtain ⟨expected', hexpected, h⟩ := bind_eq_ok.mp h
  cases h
  rw [orRaise_eq_ok, Dict.ofPairs_of_distinct (distinct_named basis),
    Dict.get?_eq_some_iff (distinct_named basis)] at hexpected
  obtain ⟨e, he, heq⟩ := List.mem_map.mp hexpected
  cases heq
  exact ⟨Option.isNone_iff_eq_none.mp hnew, he, rfl⟩

/-- The bytes of a file that is kept. -/
theorem requireBytes_eq_ok {files : Dict Bytes} {name : Text} {expected : ArtifactDigest}
    (h : requireBytes files name expected = .ok ()) :
    ∃ data, files.get? name = some data ∧ (data.length : Int) = expected.sizeBytes ∧
      sha256 data = expected.sha256 := by
  obtain ⟨data, hdata, h⟩ := bind_eq_ok.mp h
  rw [require_eq_ok, decide_eq_true_eq] at h
  exact ⟨data, orRaise_eq_ok.mp hdata, h⟩

/-- An artifact is created as it is stated. -/
theorem RegistryPublishedArtifact.create_eq_ok {platform : Platform}
    {a b : RegistryPublishedArtifact} (h : create platform a = .ok b) : b = a := by
  obtain ⟨-, h⟩ := require_bind_eq_ok.mp h
  obtain ⟨-, -, h⟩ := bind_eq_ok.mp h
  obtain ⟨-, h⟩ := require_bind_eq_ok.mp h
  obtain ⟨⟨scheme, hostname⟩, -, h⟩ := bind_eq_ok.mp h
  obtain ⟨-, h⟩ := require_bind_eq_ok.mp h
  obtain ⟨-, h⟩ := require_bind_eq_ok.mp h
  obtain ⟨-, h⟩ := require_bind_eq_ok.mp h
  obtain ⟨-, h⟩ := require_bind_eq_ok.mp h
  obtain ⟨-, h⟩ := require_bind_eq_ok.mp h
  cases h
  rfl

/-- What is kept of a file: its bytes are those of the artifact, and the other members are the
file's own. -/
theorem readBack_eq_ok {platform : Platform} {files : Dict Bytes} {index : Nat}
    {item : Dict Json} {name digest : Text} {size : Int} {expected : ArtifactDigest}
    {yanked : Bool} {reason : Option Text} {a : RegistryPublishedArtifact}
    (h : readBack platform files index item name digest size expected yanked reason = .ok a) :
    requireBytes files name expected = .ok () ∧ ∃ time url packageType,
      memberString item (lit "url") (urlField index ".url") = .ok url ∧
      memberString item (lit "packagetype") (urlField index ".packagetype") = .ok packageType ∧
      a = ⟨name, digest, size, url, packageType, time, yanked, reason⟩ := by
  obtain ⟨_, hbytes, h⟩ := bind_eq_ok.mp h
  obtain ⟨time, -, h⟩ := bind_eq_ok.mp h
  obtain ⟨url, hurl, h⟩ := bind_eq_ok.mp h
  obtain ⟨packageType, htype, h⟩ := bind_eq_ok.mp h
  exact ⟨hbytes, time, url, packageType, hurl, htype,
    RegistryPublishedArtifact.create_eq_ok h⟩

private theorem isMatch_of_readBack {platform : Platform} {basis : ReleasePublicationBasis}
    {parsed : Dict RegistryPublishedArtifact} {files : Dict Bytes} {index : Nat}
    {item : Dict Json} {name digest : Text} {size : Int} {expected : ArtifactDigest}
    {yanked : Bool} {reason : Option Text} {a : RegistryPublishedArtifact}
    (hexpected : expectedFor basis parsed index item = .ok (name, expected))
    (hmetadata : requireMetadata name digest size expected = .ok ())
    (h : readBack platform files index item name digest size expected yanked reason = .ok a) :
    parsed.get? a.name = none ∧ IsMatch basis files a expected := by
  obtain ⟨hnew, hlisted, hname⟩ := expectedFor_eq_ok hexpected
  rw [requireMetadata, require_eq_ok, decide_eq_true_eq] at hmetadata
  obtain ⟨hbytes, time, url, packageType, -, -, rfl⟩ := readBack_eq_ok h
  exact ⟨hnew, hlisted, hname.symm, hmetadata.1, hmetadata.2,
    by simpa only [hname] using requireBytes_eq_ok hbytes⟩

/-- The steps by which a publication keeps a file. -/
theorem publishedFile_eq_ok {platform : Platform} {basis : ReleasePublicationBasis}
    {files : Dict Bytes} {parsed : Dict RegistryPublishedArtifact} {index : Nat} {raw : Json}
    {a : RegistryPublishedArtifact}
    (h : publishedFile platform basis files parsed index raw = .ok a) :
    ∃ item name expected digest size, raw = .obj item ∧
      expectedFor basis parsed index item = .ok (name, expected) ∧
      fileDigest index item = .ok digest ∧ fileSize item = .ok size ∧
      fileYanked item = .ok false ∧ requireMetadata name digest size expected = .ok () ∧
      readBack platform files index item name digest size expected false none = .ok a := by
  obtain ⟨item, hitem, h⟩ := bind_eq_ok.mp h
  obtain ⟨⟨name, expected⟩, hexpected, h⟩ := bind_eq_ok.mp h
  obtain ⟨digest, hdigest, h⟩ := bind_eq_ok.mp h
  obtain ⟨size, hsize, h⟩ := bind_eq_ok.mp h
  obtain ⟨yanked, hyanked, h⟩ := bind_eq_ok.mp h
  obtain ⟨hunyanked, h⟩ := require_bind_eq_ok.mp h
  obtain ⟨_, hmetadata, h⟩ := bind_eq_ok.mp h
  have hfalse : yanked = false := by simpa using hunyanked
  rw [hfalse] at hyanked
  refine ⟨item, name, expected, digest, size, ?_, hexpected, hdigest, hsize, hyanked, hmetadata,
    h⟩
  rw [requireObject, orRaise_eq_ok] at hitem
  cases raw with
  | obj members =>
    cases hitem
    rfl
  | _ => cases hitem

/-- A publication keeps the artifact of the basis that a file names. -/
theorem publishedFile_isMatch {platform : Platform} {basis : ReleasePublicationBasis}
    {files : Dict Bytes} {parsed : Dict RegistryPublishedArtifact} {index : Nat} {raw : Json}
    {a : RegistryPublishedArtifact}
    (h : publishedFile platform basis files parsed index raw = .ok a) :
    parsed.get? a.name = none ∧ a.yanked = false ∧ ∃ e, IsMatch basis files a e := by
  obtain ⟨item, name, expected, digest, size, -, hexpected, -, -, -, hmetadata, h⟩ :=
    publishedFile_eq_ok h
  obtain ⟨hnew, hmatch⟩ := isMatch_of_readBack hexpected hmetadata h
  obtain ⟨-, time, url, packageType, -, -, rfl⟩ := readBack_eq_ok h
  exact ⟨hnew, rfl, expected, hmatch⟩

/-- The lifecycle keeps the artifact of the basis that a file names. -/
theorem observedFile_isMatch {platform : Platform} {basis : ReleasePublicationBasis}
    {files : Dict Bytes} {parsed : Dict RegistryPublishedArtifact} {index : Nat} {raw : Json}
    {a : RegistryPublishedArtifact}
    (h : observedFile platform basis files parsed index raw = .ok a) :
    parsed.get? a.name = none ∧ ∃ e, IsMatch basis files a e := by
  obtain ⟨item, -, h⟩ := bind_eq_ok.mp h
  obtain ⟨⟨name, expected⟩, hexpected, h⟩ := bind_eq_ok.mp h
  obtain ⟨digest, -, h⟩ := bind_eq_ok.mp h
  obtain ⟨size, -, h⟩ := bind_eq_ok.mp h
  obtain ⟨_, hmetadata, h⟩ := bind_eq_ok.mp h
  obtain ⟨yanked, -, h⟩ := bind_eq_ok.mp h
  obtain ⟨reason, -, h⟩ := bind_eq_ok.mp h
  obtain ⟨-, h⟩ := require_bind_eq_ok.mp h
  obtain ⟨hnew, hmatch⟩ := isMatch_of_readBack hexpected hmetadata h
  exact ⟨hnew, expected, hmatch⟩

/-- A file gives no yank reason. -/
def Unexplained (raw : Json) : Prop :=
  ∀ item : Dict Json, raw = .obj item →
    item.get? (lit "yanked_reason") = none ∨ item.get? (lit "yanked_reason") = some .null

/-- Without a yank reason the lifecycle keeps what a publication keeps. -/
theorem observedFile_of_publishedFile {platform : Platform} {basis : ReleasePublicationBasis}
    {files : Dict Bytes} {parsed : Dict RegistryPublishedArtifact} {index : Nat} {raw : Json}
    {a : RegistryPublishedArtifact} (hraw : Unexplained raw)
    (h : publishedFile platform basis files parsed index raw = .ok a) :
    observedFile platform basis files parsed index raw = .ok a := by
  obtain ⟨item, name, expected, digest, size, rfl, hexpected, hdigest, hsize, hyanked, hmetadata,
    h⟩ := publishedFile_eq_ok h
  have hreason : fileYankedReason index item = .ok none := by
    unfold fileYankedReason
    apply (hraw item rfl).elim
    · intro hnone
      rw [hnone]
    · intro hnull
      rw [hnull]
  simp only [observedFile, requireObject_obj, ok_bind, hexpected, hdigest, hsize, hmetadata,
    hyanked, hreason, Option.isNone_none, Bool.or_true, require_true, h]

/-! ### The loop -/

/-- The files kept so far: distinct names, each the name of its artifact. -/
structure Keyed (P : RegistryPublishedArtifact → Prop) (parsed : Dict RegistryPublishedArtifact) :
    Prop where
  distinct : parsed.Distinct
  named : ∀ m ∈ parsed, m.1 = m.2.name
  holds : ∀ m ∈ parsed, P m.2

/-- A new artifact keeps the names distinct. -/
theorem Keyed.set {P : RegistryPublishedArtifact → Prop}
    {parsed : Dict RegistryPublishedArtifact} (hk : Keyed P parsed)
    {a : RegistryPublishedArtifact} (hnew : parsed.get? a.name = none) (ha : P a) :
    Keyed P (parsed.set a.name a) := by
  rw [Dict.get?_eq_none_iff] at hnew
  rw [Dict.set_of_not_mem hnew]
  constructor
  · have hd := hk.distinct
    rw [Dict.Distinct, Dict.keys, List.map_append, List.nodup_append]
    refine ⟨hd, by simp, ?_⟩
    intro x hx y hy hxy
    rw [List.map_singleton, List.mem_singleton] at hy
    have hname : x = a.name := hxy.trans hy
    exact hnew (hname ▸ hx)
  · intro m hm
    rw [List.mem_append, List.mem_singleton] at hm
    apply hm.elim (hk.named m)
    rintro rfl
    rfl
  · intro m hm
    rw [List.mem_append, List.mem_singleton] at hm
    apply hm.elim (hk.holds m)
    rintro rfl
    exact ha

/-- The loop keeps the names distinct and what each file establishes. -/
theorem keyed_parseFiles {P : RegistryPublishedArtifact → Prop}
    {file : Dict RegistryPublishedArtifact → Nat → Json →
      Except PyError RegistryPublishedArtifact}
    {urls : List Json}
    (hfile : ∀ raw ∈ urls, ∀ parsed index a, file parsed index raw = .ok a →
      parsed.get? a.name = none ∧ P a)
    {index : Nat} {parsed result : Dict RegistryPublishedArtifact} (hk : Keyed P parsed)
    (h : parseFiles file index parsed urls = .ok result) : Keyed P result := by
  induction urls generalizing index parsed with
  | nil =>
    cases h
    exact hk
  | cons raw rest ih =>
    obtain ⟨a, ha, h⟩ := bind_eq_ok.mp h
    obtain ⟨hnew, hp⟩ := hfile raw List.mem_cons_self parsed index a ha
    exact ih (fun raw hraw ↦ hfile raw (List.mem_cons_of_mem _ hraw)) (hk.set hnew hp) h

/-- Nothing is kept before the loop. -/
theorem keyed_nil (P : RegistryPublishedArtifact → Prop) : Keyed P [] :=
  ⟨List.nodup_nil, by simp, by simp⟩

/-- The loop over files on which one parser follows another. -/
theorem parseFiles_of_forall {file file' : Dict RegistryPublishedArtifact → Nat → Json →
      Except PyError RegistryPublishedArtifact} {urls : List Json}
    (hfile : ∀ raw ∈ urls, ∀ parsed index a,
      file parsed index raw = .ok a → file' parsed index raw = .ok a)
    {index : Nat} {parsed result : Dict RegistryPublishedArtifact}
    (h : parseFiles file index parsed urls = .ok result) :
    parseFiles file' index parsed urls = .ok result := by
  induction urls generalizing index parsed with
  | nil => exact h
  | cons raw rest ih =>
    obtain ⟨a, ha, h⟩ := bind_eq_ok.mp h
    rw [parseFiles, hfile raw List.mem_cons_self parsed index a ha, ok_bind]
    exact ih (fun raw hraw ↦ hfile raw (List.mem_cons_of_mem _ hraw)) h

/-! ### Artifact sets -/

section Artifacts

variable {basis : ReleasePublicationBasis} {files : Dict Bytes}
  {parsed : Dict RegistryPublishedArtifact}

theorem mem_sortedArtifacts {a : RegistryPublishedArtifact} :
    a ∈ sortedArtifacts parsed ↔ ∃ m ∈ parsed, m.2 = a := by
  rw [sortedArtifacts, List.mem_map]
  simp only [(Dict.sorted_perm parsed).mem_iff]

/-- The names of the sorted artifacts are the keys. -/
theorem Keyed.map_name {P : RegistryPublishedArtifact → Prop} (hk : Keyed P parsed) :
    (sortedArtifacts parsed).map RegistryPublishedArtifact.name = parsed.sorted.keys := by
  rw [sortedArtifacts, List.map_map, Dict.keys]
  apply List.map_congr_left
  intro m hm
  exact (hk.named m ((Dict.sorted_perm parsed).mem_iff.mp hm)).symm

/-- No artifact is listed twice. -/
theorem Keyed.nodup {P : RegistryPublishedArtifact → Prop} (hk : Keyed P parsed) :
    ((sortedArtifacts parsed).map RegistryPublishedArtifact.name).Nodup := by
  rw [hk.map_name]
  exact hk.distinct.sorted

/-- The content of observed artifacts with distinct names, as a list. -/
theorem observedContent_eq {artifacts : List RegistryPublishedArtifact}
    (h : (artifacts.map RegistryPublishedArtifact.name).Nodup) :
    observedContent artifacts = artifacts.map fun a ↦ (a.name, a.sha256, a.sizeBytes) := by
  apply Dict.ofPairs_of_distinct
  simpa [Dict.Distinct, Dict.keys, Function.comp_def] using h

theorem expectedContent_eq (basis : ReleasePublicationBasis) :
    expectedContent basis = basis.artifacts.map fun e ↦ (e.name, e.sha256, e.sizeBytes) := by
  apply Dict.ofPairs_of_distinct
  simpa [Dict.Distinct, Dict.keys, Function.comp_def] using basis.unique

theorem distinct_expectedContent (basis : ReleasePublicationBasis) :
    (expectedContent basis).Distinct := by
  rw [expectedContent_eq]
  simpa [Dict.Distinct, Dict.keys, Function.comp_def] using basis.unique

/-- A matched artifact has the content of the basis under its name. -/
theorem IsMatch.get?_expectedContent {a : RegistryPublishedArtifact} {e : ArtifactDigest}
    (h : IsMatch basis files a e) :
    (expectedContent basis).get? a.name = some (a.sha256, a.sizeBytes) := by
  rw [Dict.get?_eq_some_iff (distinct_expectedContent basis), expectedContent_eq, List.mem_map]
  exact ⟨e, h.listed, by rw [h.name, h.sha256, h.size]⟩

/-- The artifacts kept are matched by the basis. -/
def Matched (basis : ReleasePublicationBasis) (files : Dict Bytes)
    (a : RegistryPublishedArtifact) : Prop :=
  ∃ e, IsMatch basis files a e

/-- Artifacts that are matched, once each and without a gap, have the content of the basis. -/
theorem sorted_observedContent {artifacts : List RegistryPublishedArtifact}
    (hnodup : (artifacts.map RegistryPublishedArtifact.name).Nodup)
    (hmatch : ∀ a ∈ artifacts, Matched basis files a)
    (hall : ∀ e ∈ basis.artifacts, ∃ a ∈ artifacts, a.name = e.name) :
    (observedContent artifacts).sorted = (expectedContent basis).sorted := by
  have hd : (observedContent artifacts).Distinct := by
    rw [observedContent_eq hnodup]
    simpa [Dict.Distinct, Dict.keys, Function.comp_def] using hnodup
  apply Dict.sorted_eq_of_perm hd
  apply (List.perm_ext_iff_of_nodup hd.of_map (distinct_expectedContent basis).of_map).mpr
  rw [observedContent_eq hnodup, expectedContent_eq]
  intro item
  simp only [List.mem_map]
  constructor
  · rintro ⟨a, ha, rfl⟩
    obtain ⟨e, he⟩ := hmatch a ha
    exact ⟨e, he.listed, by rw [he.name, he.sha256, he.size]⟩
  · rintro ⟨e, he, rfl⟩
    obtain ⟨a, ha, hname⟩ := hall e he
    obtain ⟨f, hf⟩ := hmatch a ha
    have hfe : f = e := eq_of_name_eq hf.listed he (hf.name.symm.trans hname)
    rw [hfe] at hf
    exact ⟨a, ha, by rw [hf.name, hf.sha256, hf.size]⟩

private instance : Std.Total fun a b : Text ↦ a ≤ b := ⟨fun a b ↦ le_total a b⟩

private instance : IsTrans Text fun a b ↦ a ≤ b := ⟨fun _ _ _ h h' ↦ le_trans h h'⟩

theorem mem_missingNames {observed : List Text} {name : Text} :
    name ∈ missingNames basis observed ↔ name ∈ expectedNames basis ∧ name ∉ observed := by
  rw [missingNames, (List.perm_insertionSort _ _).mem_iff, List.mem_filter]
  simp

theorem nodup_missingNames (basis : ReleasePublicationBasis) (observed : List Text) :
    (missingNames basis observed).Nodup := by
  rw [missingNames, (List.perm_insertionSort _ _).nodup_iff]
  exact List.Nodup.filter _ basis.unique

@[simp] theorem insertionSort_missingNames (basis : ReleasePublicationBasis)
    (observed : List Text) :
    (missingNames basis observed).insertionSort (· ≤ ·) = missingNames basis observed :=
  List.Pairwise.insertionSort_eq (List.pairwise_insertionSort _ _)

/-- What is missing depends only on the names observed. -/
theorem missingNames_congr {xs ys : List Text} (h : ∀ name, name ∈ xs ↔ name ∈ ys) :
    missingNames basis xs = missingNames basis ys := by
  unfold missingNames
  congr 1
  apply List.filter_congr
  intro name _
  rw [decide_eq_decide.mpr (h name)]

theorem missingNames_eq_nil {observed : List Text} :
    missingNames basis observed = [] ↔ ∀ name ∈ expectedNames basis, name ∈ observed := by
  rw [List.eq_nil_iff_forall_not_mem]
  simp only [mem_missingNames, not_and, not_not]

theorem sameSet_iff {xs ys : List Text} :
    sameSet xs ys = true ↔ ∀ name, name ∈ xs ↔ name ∈ ys := by
  rw [sameSet, Bool.and_eq_true, List.all_eq_true, List.all_eq_true]
  simp only [decide_eq_true_eq]
  constructor
  · rintro ⟨hxs, hys⟩ name
    exact ⟨hxs name, hys name⟩
  · intro h
    exact ⟨fun name ↦ (h name).mp, fun name ↦ (h name).mpr⟩

end Artifacts

end StateWake.ReleaseTrust
