import StateWake.ReleaseTrust.Authenticity
import Mathlib.Data.List.Infix

/-!
# What authenticity establishes

An authenticated release is its files: each item that is not a limitation is a regular file below
the root with the stated bytes, and a trusted key signed the bundle. A signature document
authenticates one bundle only.
-/

namespace StateWake.ReleaseTrust

open StateWake.Base Text Utils

/-! ### Files below the root -/

/-- A relative path leads to a regular file below the root, through no symbolic link and no
parent. -/
structure InRoot (root : Entry) (relative : Text) (data : Bytes) : Prop where
  notAbsolute : relative.head? ≠ some pathSlash
  inside : lit ".." ∉ posixParts relative
  direct : ∀ path, path <+: posixParts relative → path ≠ [] →
    ∀ e, root.at? path = some e → e.isSymlink = false
  content : root.at? (posixParts relative) = some (.file data)

theorem Entry.content?_eq_some {e : Entry} {data : Bytes} (h : e.content? = some data) :
    e = .file data := by
  cases e with
  | file content =>
    cases h
    rfl
  | directory members => cases h
  | symlink target => cases h

theorem Entry.meetsSymlink_eq_false {root : Entry} {parts : List Text} :
    root.meetsSymlink parts = false ↔ ∀ path, path <+: parts → path ≠ [] →
      ∀ e, root.at? path = some e → e.isSymlink = false := by
  rw [meetsSymlink, List.any_eq_false]
  simp only [List.mem_inits, Bool.and_eq_true, Bool.not_eq_true', List.isEmpty_eq_false_iff,
    not_and]
  constructor
  · intro h path hpath hne e he
    have hany := h path hpath hne
    rw [he, Option.any_some] at hany
    exact Bool.eq_false_iff.mpr hany
  · intro h path hpath hne
    cases he : root.at? path with
    | none => simp
    | some e => simp [h path hpath hne e he]

/-- A reference that matches is a regular file below the root with the stated bytes. -/
theorem FileReference.check_eq_matched {root : Entry} {r : FileReference}
    (h : r.check root = .matched) :
    ∃ relative data, r.relative = some relative ∧ InRoot root relative data ∧
      sha256 data = r.digest ∧ ∀ size ∈ r.size, (data.length : Int) = size := by
  unfold check at h
  split at h
  · cases h
  · next relative hrelative =>
    split at h
    · cases h
    · split at h
      · cases h
      · next hsafe =>
        split at h
        · cases h
        · next hsymlink =>
          split at h
          · cases h
          · next data hdata =>
            split at h
            · cases h
            · next hbytes =>
              obtain ⟨e, he, hcontent⟩ := Option.bind_eq_some_iff.mp hdata
              rw [Entry.content?_eq_some hcontent] at he
              rw [Bool.not_eq_true', Bool.not_eq_false, safeRelative] at hsafe
              simp only [Bool.and_eq_true, decide_eq_true_eq, Bool.not_eq_true'] at hsafe
              rw [Bool.not_eq_true, Entry.meetsSymlink_eq_false] at hsymlink
              have hparent : lit ".." ∉ posixParts relative := by
                intro hmem
                have hnone := List.any_eq_false.mp hsafe.1.2 _ hmem
                simp at hnone
              rw [not_or, Ne, not_not] at hbytes
              refine ⟨relative, data, hrelative, ⟨hsafe.1.1.1, hparent, hsymlink, he⟩,
                hbytes.1, ?_⟩
              intro size hsize
              have hlength := hbytes.2
              rw [Option.mem_def.mp hsize] at hlength
              simpa using hlength

/-- Where nothing is missing or mismatched, every reference matches. -/
theorem check_of_contentComplete {bundle : ReleaseTrustBundle} {root : Entry}
    {content : ReleaseContentVerification}
    (h : verifyReleaseTrustFiles bundle root = .ok content) (hcomplete : content.contentComplete) :
    ∀ r ∈ bundle.fileReferences, r.check root = .matched := by
  obtain ⟨digest, -, h⟩ := bind_eq_ok.mp h
  cases h
  rw [ReleaseContentVerification.contentComplete, Bool.and_eq_true, List.isEmpty_iff,
    List.isEmpty_iff, List.map_eq_nil_iff, List.map_eq_nil_iff, List.filter_eq_nil_iff,
    List.filter_eq_nil_iff] at hcomplete
  intro r hr
  have hmissing := hcomplete.1 r hr
  have hmismatched := hcomplete.2 r hr
  rw [decide_eq_true_eq] at hmissing hmismatched
  cases hclass : r.check root with
  | matched => rfl
  | missing => exact absurd hclass hmissing
  | mismatched => exact absurd hclass hmismatched

/-! ### The signed payload -/

/-- The members of what is signed. -/
def signedMembers (b : ReleaseTrustBundle) : Dict Json :=
  [(lit "domain", .str (lit "statewake-release-signature-v1")),
    (lit "bundle", .obj (b.payloadWith .null))]

theorem distinct_signedMembers (b : ReleaseTrustBundle) : Dict.Distinct (signedMembers b) := by
  simp [signedMembers, Dict.Distinct]

/-- A build whose environment has encodable keys reads back. -/
theorem BuildProvenance.writable_toDict {b : BuildProvenance}
    (h : ∀ m ∈ b.environment, SurrogateFree m.1) : Json.Writable (.obj b.toDict) := by
  have henvironment : Json.Writable (.obj (Dict.mapValues .str b.environment.sorted)) := by
    rw [Json.writable_obj]
    constructor
    · rw [Dict.Distinct, Dict.keys_mapValues]
      exact b.distinct.sorted
    · intro m hm
      obtain ⟨n, hn, rfl⟩ := List.mem_map.mp hm
      exact ⟨(h n ((Dict.sorted_perm b.environment).mem_iff.mp hn)).pairFree, trivial⟩
  rw [Json.writable_obj]
  refine ⟨b.distinct_toDict, ?_⟩
  simp only [toDict, List.forall_mem_cons, List.not_mem_nil, false_implies, implies_true,
    and_true, pairFree_lit, Json.writable_str, Json.writable_arr, List.forall_mem_map,
    writable_optionJson, henvironment]

theorem ExternalEvidence.writable_toDict (e : ExternalEvidence) :
    Json.Writable (.obj e.toDict) := by
  simp [toDict, Dict.Distinct]

/-- A payload reads back when the keys of the environment are encodable. -/
theorem ReleaseTrustBundle.writable_payloadWith {b : ReleaseTrustBundle} {signature : Json}
    (h : ∀ m ∈ b.build.environment, SurrogateFree m.1) (hs : Json.Writable signature) :
    Json.Writable (.obj (b.payloadWith signature)) := by
  have hartifact : ∀ a : ArtifactDigest, Json.Writable a.toDict := by
    intro a
    simp [ArtifactDigest.toDict, Dict.Distinct]
  have hsource : Json.Writable (.obj b.source.toDict) := by
    simp [SourceIdentity.toDict, Dict.Distinct]
  have hdecision : Json.Writable (.obj b.humanDecision.toDict) := by
    simp [HumanReleaseDecision.toDict, Dict.Distinct]
  have hbuild := BuildProvenance.writable_toDict h
  rw [Json.writable_obj]
  refine ⟨b.distinct_payloadWith _, ?_⟩
  simp only [payloadWith, List.forall_mem_cons, List.not_mem_nil, false_implies, implies_true,
    and_true, pairFree_lit, Json.writable_str, Json.writable_arr, List.forall_mem_map, hartifact,
    ExternalEvidence.writable_toDict, hsource, hdecision, hbuild, hs]

/-- What is signed reads back when the keys of the environment are encodable. -/
theorem writable_signedMembers {b : ReleaseTrustBundle}
    (h : ∀ m ∈ b.build.environment, SurrogateFree m.1) :
    Json.Writable (.obj (signedMembers b)) := by
  have hpayload := ReleaseTrustBundle.writable_payloadWith h Json.writable_null
  rw [Json.writable_obj]
  refine ⟨distinct_signedMembers b, ?_⟩
  simp only [signedMembers, List.forall_mem_cons, List.not_mem_nil, false_implies, implies_true,
    and_true, pairFree_lit, Json.writable_str, hpayload]

/-- The environment of a bundle that can be signed has encodable keys. -/
theorem surrogateFree_environment {b : ReleaseTrustBundle} {message : Bytes}
    (h : canonicalBytes (signedMembers b) = .ok message) :
    ∀ m ∈ b.build.environment, SurrogateFree m.1 := by
  intro m hm
  apply surrogateFree_of_canonicalBytes h
  have hkey : m.1 ∈ Json.texts (.obj (Dict.mapValues .str b.build.environment.sorted)) :=
    Json.mem_texts_obj.mpr ⟨(m.1, .str m.2),
      List.mem_map.mpr ⟨m, (Dict.sorted_perm _).mem_iff.mpr hm, rfl⟩, .inl rfl⟩
  have hbuild : m.1 ∈ Json.texts (.obj b.build.toDict) :=
    Json.mem_texts_obj.mpr ⟨(lit "environment", _), by simp [BuildProvenance.toDict], .inr hkey⟩
  have hpayload : m.1 ∈ Json.texts (.obj (b.payloadWith .null)) :=
    Json.mem_texts_obj.mpr ⟨(lit "build", _), by simp [ReleaseTrustBundle.payloadWith],
      .inr hbuild⟩
  exact Json.mem_texts_obj.mpr ⟨(lit "bundle", _), by simp [signedMembers], .inr hpayload⟩

/-- What is signed determines the bundle but for its signature reference. -/
theorem sameUnsigned_of_payload {b c : ReleaseTrustBundle} {message : Bytes}
    (hb : releaseSignaturePayload b = .ok message) (hc : releaseSignaturePayload c = .ok message) :
    b.SameUnsigned c := by
  have hkeys := sortKeys_eq_of_canonicalBytes
    (writable_signedMembers (surrogateFree_environment hb))
    (writable_signedMembers (surrogateFree_environment hc)) hb hc
  have hbundles : Json.sortKeys (.obj (b.payloadWith .null)) =
      Json.sortKeys (.obj (c.payloadWith .null)) :=
    sortKeys_member_eq (distinct_signedMembers b) (distinct_signedMembers c) hkeys
      (k := lit "bundle") (by simp [signedMembers]) (by simp [signedMembers])
  exact ReleaseTrustBundle.sameUnsigned_of_sortKeys hbundles

/-! ### Authenticity -/

section Authentic

variable {libraries : Libraries} {bundle : ReleaseTrustBundle} {root : Entry}
  {trustedSigners : Dict Bytes} {report : ReleaseAuthenticityVerification}

/-- The signature document of a bundle: what its signature file decodes to. -/
def signatureDocument (libraries : Libraries) (bundle : ReleaseTrustBundle) (root : Entry) :
    Except PyError Json := do
  let signedFile ← readSignatureFile bundle root
  libraries.loads signedFile

/-- What an authenticated release passed. -/
theorem verifyReleaseAuthenticity_eq_ok
    (h : verifyReleaseAuthenticity libraries bundle root trustedSigners = .ok report) :
    (∀ r ∈ bundle.fileReferences, r.check root = .matched) ∧
    ∃ document key signature message, signatureDocument libraries bundle root = .ok document ∧
      parseSignatureDocument document = .ok (report.signerKeyId, signature) ∧
      trustedSigners.get? report.signerKeyId = some key ∧
      releaseSignaturePayload bundle = .ok message ∧
      libraries.ed25519 key message signature = true := by
  obtain ⟨content, hcontent, h⟩ := bind_eq_ok.mp h
  obtain ⟨hcomplete, h⟩ := require_bind_eq_ok.mp h
  obtain ⟨-, h⟩ := require_bind_eq_ok.mp h
  obtain ⟨-, h⟩ := require_bind_eq_ok.mp h
  obtain ⟨-, h⟩ := require_bind_eq_ok.mp h
  obtain ⟨signedFile, hfile, h⟩ := bind_eq_ok.mp h
  obtain ⟨-, h⟩ := require_bind_eq_ok.mp h
  obtain ⟨document, hdocument, h⟩ := bind_eq_ok.mp h
  obtain ⟨⟨keyId, signature⟩, hparsed, h⟩ := bind_eq_ok.mp h
  obtain ⟨key, hkey, h⟩ := bind_eq_ok.mp h
  obtain ⟨message, hmessage, h⟩ := bind_eq_ok.mp h
  obtain ⟨hsigned, h⟩ := require_bind_eq_ok.mp h
  obtain ⟨digest, -, h⟩ := bind_eq_ok.mp h
  cases h
  rw [orRaise_eq_ok, Option.filter_eq_some_iff] at hkey
  refine ⟨check_of_contentComplete hcontent hcomplete, document, key, signature, message, ?_,
    hparsed, hkey.1, hmessage, hsigned⟩
  rw [signatureDocument, hfile, ok_bind, hdocument]

/-- Every artifact of an authenticated release is a regular file below the root with the stated
bytes and size. -/
theorem artifact_inRoot
    (h : verifyReleaseAuthenticity libraries bundle root trustedSigners = .ok report)
    {a : ArtifactDigest} (ha : a ∈ bundle.artifacts) :
    ∃ data, InRoot root a.name data ∧ sha256 data = a.sha256 ∧
      (data.length : Int) = a.sizeBytes := by
  have hchecked := (verifyReleaseAuthenticity_eq_ok h).1 a.fileReference
    (List.mem_append_left _ (List.mem_map_of_mem ha))
  obtain ⟨relative, data, hrelative, hroot, hdigest, hsize⟩ :=
    FileReference.check_eq_matched hchecked
  cases hrelative
  exact ⟨data, hroot, hdigest, hsize _ rfl⟩

/-- Every evidence item of an authenticated release that is not a limitation is a regular file
below the root with the stated bytes. -/
theorem evidence_inRoot
    (h : verifyReleaseAuthenticity libraries bundle root trustedSigners = .ok report)
    {e : ExternalEvidence} (he : e ∈ bundle.evidence) (hstatus : e.status ≠ .limitation) :
    ∃ relative data, e.reference = some relative ∧ InRoot root relative data ∧
      sha256 data = e.digest := by
  have hmem : e ∈ bundle.evidence.filter fun e ↦ e.status ≠ .limitation := by
    rw [List.mem_filter]
    exact ⟨he, by simpa using hstatus⟩
  have hchecked := (verifyReleaseAuthenticity_eq_ok h).1 e.fileReference
    (List.mem_append_right _ (List.mem_map_of_mem hmem))
  obtain ⟨relative, data, hrelative, hroot, hdigest, -⟩ := FileReference.check_eq_matched hchecked
  exact ⟨relative, data, hrelative, hroot, hdigest⟩

end Authentic

/-- An authenticated release is its files, a trusted key signed it, and a signature document
authenticates one bundle only, but for its signature reference. `Signed key message signature`
says that the owner of a key made a signature over a message: what verifies was made, and over one
message. -/
theorem release_authenticity_sound (libraries : Libraries) (Signed : Bytes → Bytes → Bytes → Prop)
    (hunforgeable : ∀ key message signature,
      libraries.ed25519 key message signature = true → Signed key message signature)
    (honce : ∀ key message message' signature,
      Signed key message signature → Signed key message' signature → message = message')
    (trustedSigners : Dict Bytes) :
    (∀ bundle root report,
      verifyReleaseAuthenticity libraries bundle root trustedSigners = .ok report →
      (∀ a ∈ bundle.artifacts, ∃ data, InRoot root a.name data ∧ sha256 data = a.sha256 ∧
        (data.length : Int) = a.sizeBytes) ∧
      (∀ e ∈ bundle.evidence, e.status ≠ .limitation → ∃ relative data,
        e.reference = some relative ∧ InRoot root relative data ∧ sha256 data = e.digest) ∧
      ∃ key message signature, trustedSigners.get? report.signerKeyId = some key ∧
        releaseSignaturePayload bundle = .ok message ∧ Signed key message signature) ∧
    ∀ bundle bundle' root root' report report' document,
      verifyReleaseAuthenticity libraries bundle root trustedSigners = .ok report →
      verifyReleaseAuthenticity libraries bundle' root' trustedSigners = .ok report' →
      signatureDocument libraries bundle root = .ok document →
      signatureDocument libraries bundle' root' = .ok document →
      bundle.SameUnsigned bundle' := by
  constructor
  · intro bundle root report h
    obtain ⟨-, document, key, signature, message, -, -, hkey, hmessage, hsigned⟩ :=
      verifyReleaseAuthenticity_eq_ok h
    exact ⟨fun _ ↦ artifact_inRoot h, fun _ ↦ evidence_inRoot h, key, message, signature, hkey,
      hmessage, hunforgeable _ _ _ hsigned⟩
  · intro bundle bundle' root root' report report' document h h' hdocument hdocument'
    obtain ⟨-, d, key, signature, message, hd, hparsed, hkey, hmessage, hsigned⟩ :=
      verifyReleaseAuthenticity_eq_ok h
    obtain ⟨-, d', key', signature', message', hd', hparsed', hkey', hmessage', hsigned'⟩ :=
      verifyReleaseAuthenticity_eq_ok h'
    rw [hdocument] at hd
    rw [hdocument'] at hd'
    cases hd
    cases hd'
    rw [hparsed, Except.ok.injEq, Prod.mk.injEq] at hparsed'
    rw [← hparsed'.1, hkey, Option.some.injEq] at hkey'
    rw [← hkey', ← hparsed'.2] at hsigned'
    have hmessages := honce _ _ _ _ (hunforgeable _ _ _ hsigned) (hunforgeable _ _ _ hsigned')
    rw [← hmessages] at hmessage'
    exact sameUnsigned_of_payload hmessage hmessage'

/-! ### A signed release -/

/-- Evidence that a limitation stands for. -/
def limited (kind : Text) (hkind : blank kind = false) : ExternalEvidence :=
  ⟨kind, lit "n", sha256 [], .limitation, none, some (lit "x"), ⟨hkind, by decide⟩,
    isSha256_sha256 _, fun _ ↦ by decide, by simp⟩

/-- The hexadecimal form of a signature of zeros. -/
def demoSignatureHex : Text := List.replicate 128 (ofChar '0')

/-- A signature document. -/
def demoDocument : Dict Json :=
  [(lit "key_id", .str (lit "k")), (lit "signature_hex", .str demoSignatureHex)]

/-- The signature file. -/
def demoSignatureFile : Bytes := Utf8.ascii (Json.dumps Json.compact (.obj demoDocument))

/-- A release of one file, with a test report and a signature. -/
def demoRelease : ReleaseTrustBundle where
  source := ⟨lit "demo", lit "1", lit "r", sha256 [], sha256 [], by decide,
    ⟨isSha256_sha256 _, isSha256_sha256 _⟩⟩
  artifacts := [⟨lit "a", sha256 [0], 1, lit "application/zip", by decide, by decide,
    isSha256_sha256 _, by decide⟩]
  build := ⟨lit "b", lit "wheel", [lit "build"], [(lit "os", lit "linux")], none, none,
    by decide, by decide, by decide, by decide⟩
  tests := [⟨lit "test", lit "t", sha256 [1], .passed, some (lit "t"), none, by decide,
    isSha256_sha256 _, by simp, by decide⟩]
  sbom := limited (lit "sbom") (by decide)
  vulnerabilityScan := limited (lit "scan") (by decide)
  signature := ⟨lit "signature", lit "s", sha256 demoSignatureFile, .present, some (lit "s"), none,
    by decide, isSha256_sha256 _, by simp, by decide⟩
  provenance := limited (lit "provenance") (by decide)
  humanDecision := ⟨lit "h", lit "owner", .pending, none, lit "release-publication", none,
    by decide, by simp⟩
  limitations := []
  released := by simp
  tested := by simp
  stated := by simp
  unfailed := by simp [limited]
  unpassed := by simp
  typed := fun _ ↦ rfl
  disclosed := by simp
  decided := by simp

/-- The files of the release. -/
def demoRoot : Entry :=
  .directory [(lit "a", .file [0]), (lit "t", .file [1]), (lit "s", .file demoSignatureFile)]

/-- A reference to a regular file below the root with the stated bytes matches. -/
theorem FileReference.check_of_file {root : Entry} {r : FileReference} {relative : Text}
    {data : Bytes} (hrelative : r.relative = some relative) (hne : relative.isEmpty = false)
    (hsafe : safeRelative relative = true)
    (hdirect : root.meetsSymlink (posixParts relative) = false)
    (hfile : root.at? (posixParts relative) = some (.file data)) (hdigest : sha256 data = r.digest)
    (hsize : ∀ size ∈ r.size, (data.length : Int) = size) : r.check root = .matched := by
  have hlength : (r.size.any fun size ↦ (data.length : Int) ≠ size) = false := by
    cases hr : r.size with
    | none => rfl
    | some size => simpa using hsize size hr
  unfold check
  rw [hrelative]
  simpa [hne, hsafe, hdirect, hfile, Entry.content?, hdigest] using hlength

theorem demoRelease_check : ∀ r ∈ demoRelease.fileReferences, r.check demoRoot = .matched := by
  have hreferences : demoRelease.fileReferences =
      [⟨lit "artifact:" ++ lit "a", some (lit "a"), sha256 [0], some 1⟩,
        ⟨lit "test" ++ lit ":" ++ lit "t", some (lit "t"), sha256 [1], none⟩,
        ⟨lit "signature" ++ lit ":" ++ lit "s", some (lit "s"), sha256 demoSignatureFile,
          none⟩] := rfl
  rw [hreferences]
  simp only [List.forall_mem_cons, List.not_mem_nil, false_implies, implies_true, and_true]
  refine ⟨?_, ?_, ?_⟩
  · exact FileReference.check_of_file rfl (by decide) (by decide) (by decide) rfl rfl (by simp)
  · exact FileReference.check_of_file rfl (by decide) (by decide) (by decide) rfl rfl (by simp)
  · exact FileReference.check_of_file rfl (by decide) (by decide) (by decide) rfl rfl (by simp)

/-- The standard library's reading of UTF-8 bytes, and a signature scheme of one signature. -/
def demoLibraries (message : Bytes) : Libraries where
  loads raw := do
    let text ← Utf8.ofBytes raw
    Json.loads text
  ed25519 key content signature :=
    key = List.replicate 32 0 ∧ content = message ∧ signature = List.replicate 64 0

theorem fromHex_zeros (n : Nat) :
    fromHex (List.replicate (2 * n) (ofChar '0')) = some (List.replicate n 0) := by
  have hspace : isHexSpace (ofChar '0') = false := by decide
  have hvalue : hexValue (ofChar '0') = some 0 := by decide
  induction n with
  | zero => rfl
  | succ n ih =>
    rw [Nat.mul_succ, List.replicate_succ, List.replicate_succ, fromHex, if_neg (by simp [hspace])]
    simp [ih, hvalue, List.replicate_succ]

/-- The signature file decodes to the document it was written from. -/
theorem loads_demoSignatureFile (message : Bytes) :
    (demoLibraries message).loads demoSignatureFile =
      .ok (.obj (Json.readMembers Json.compact demoDocument)) := by
  have hw : Json.Writable (.obj demoDocument) := by
    simp [demoDocument, Dict.Distinct]
  simp only [demoLibraries, demoSignatureFile]
  rw [Utf8.ofBytes_ascii (Json.isAscii_dumps rfl hw), ok_bind, Json.loads_dumps_obj _ hw]

/-- The document states its key and the signature of zeros. -/
theorem parse_demoDocument :
    parseSignatureDocument (.obj (Json.readMembers Json.compact demoDocument)) =
      .ok (lit "k", List.replicate 64 0) := by
  have hw : Json.Writable (.obj demoDocument) := by
    simp [demoDocument, Dict.Distinct]
  have hzeros : SurrogateFree demoSignatureHex := by
    intro c hc
    rw [List.eq_of_mem_replicate hc]
    decide
  have htexts : ∀ s ∈ Json.texts (.obj demoDocument), PairFree s := by
    simp [demoDocument, or_imp, forall_and, hzeros.pairFree]
  have hreads := readsAs_readMembers Json.compact hw htexts
  have hkey := hreads.index (lit "key_id") (.str (lit "k")) (by simp [demoDocument])
  have hhex := hreads.index (lit "signature_hex") (.str demoSignatureHex) (by simp [demoDocument])
  have hkeys : ∀ key, key ∈ (Json.readMembers Json.compact demoDocument).keys ↔
      key = lit "key_id" ∨ key = lit "signature_hex" := by
    intro key
    rw [Json.mem_keys_readMembers]
    simp [demoDocument]
  have hcheck : ((Json.readMembers Json.compact demoDocument).keys.all
        (· ∈ [lit "key_id", lit "signature_hex"]) &&
      [lit "key_id", lit "signature_hex"].all
        (· ∈ (Json.readMembers Json.compact demoDocument).keys)) = true := by
    simp [hkeys]
  have hnamed : blank (lit "k") = false := by decide
  have hlength : demoSignatureHex.length = 128 := List.length_replicate
  have hsignature : fromHex demoSignatureHex = some (List.replicate 64 0) := fromHex_zeros 64
  simp only [parseSignatureDocument, Json.asObject_obj, orRaise_some, ok_bind]
  rw [hcheck, require_true, ok_bind, hkey, ok_bind, hhex, ok_bind]
  simp only [Json.sortKeys_str, Json.asText_str, Option.filter_some, hnamed, hlength, hsignature,
    Bool.not_false, decide_true, if_true, orRaise_some, ok_bind]
  rfl

/-- What a bundle of plain texts signs can be encoded. -/
theorem exists_demoMessage : ∃ message, releaseSignaturePayload demoRelease = .ok message := by
  have hsha : ∀ content, SurrogateFree (sha256 content) :=
    fun content ↦ surrogateFree_of_isSha256 (isSha256_sha256 content)
  have hw : Json.Writable (.obj (signedMembers demoRelease)) :=
    writable_signedMembers (by simp [demoRelease])
  apply (canonicalBytes_isOk_iff hw).mpr
  simp [signedMembers, ReleaseTrustBundle.payloadWith, SourceIdentity.toDict,
    BuildProvenance.toDict, ExternalEvidence.toDict, HumanReleaseDecision.toDict,
    ArtifactDigest.toDict, demoRelease, limited, EvidenceStatus.text, ReleaseDecision.text,
    Dict.sorted, optionJson, hsha, or_imp, forall_and]

theorem exists_demoDigest : ∃ digest, demoRelease.digest = .ok digest := by
  have hsha : ∀ content, SurrogateFree (sha256 content) :=
    fun content ↦ surrogateFree_of_isSha256 (isSha256_sha256 content)
  have hw : Json.Writable (.obj demoRelease.payload) :=
    ReleaseTrustBundle.writable_payloadWith (by simp [demoRelease])
      (ExternalEvidence.writable_toDict _)
  have htexts : ∀ s ∈ Json.texts (.obj demoRelease.payload), SurrogateFree s := by
    simp [ReleaseTrustBundle.payload, ReleaseTrustBundle.payloadWith, SourceIdentity.toDict,
      BuildProvenance.toDict, ExternalEvidence.toDict, HumanReleaseDecision.toDict,
      ArtifactDigest.toDict, demoRelease, limited, EvidenceStatus.text, ReleaseDecision.text,
      Dict.sorted, optionJson, hsha, or_imp, forall_and]
  obtain ⟨content, hcontent⟩ := (canonicalBytes_isOk_iff hw).mpr htexts
  exact ⟨sha256 content, by rw [ReleaseTrustBundle.digest, hcontent]; rfl⟩

/-- The keys that are trusted. -/
def demoSigners : Dict Bytes := [(lit "k", List.replicate 32 0)]

/-- The release is authenticated. -/
theorem verify_demoRelease {message : Bytes}
    (hmessage : releaseSignaturePayload demoRelease = .ok message) :
    ∃ report, verifyReleaseAuthenticity (demoLibraries message) demoRelease demoRoot demoSigners =
      .ok report ∧ report.signerKeyId = lit "k" := by
  obtain ⟨digest, hdigest⟩ := exists_demoDigest
  have hclass : ∀ c : FileClass, c ≠ .matched →
      demoRelease.fileReferences.filter (fun r ↦ r.check demoRoot = c) = [] := by
    intro c hc
    rw [List.filter_eq_nil_iff]
    intro r hr
    rw [demoRelease_check r hr]
    simpa using hc.symm
  obtain ⟨content, hcontent, hmissing, hmismatched, hmatched⟩ : ∃ content,
      verifyReleaseTrustFiles demoRelease demoRoot = .ok content ∧ content.missing = [] ∧
      content.mismatched = [] ∧ demoRelease.signature.referenceName ∈ content.matched := by
    refine ⟨_, by rw [verifyReleaseTrustFiles, hdigest]; rfl, ?_, ?_, ?_⟩
    · simp [hclass .missing (by simp)]
    · simp [hclass .mismatched (by simp)]
    · have hmem : demoRelease.signature.fileReference ∈ demoRelease.fileReferences := by
        apply List.mem_append_right
        apply List.mem_map_of_mem
        rw [List.mem_filter]
        exact ⟨by simp [ReleaseTrustBundle.evidence], by simp [demoRelease]⟩
      apply List.mem_map.mpr
      refine ⟨demoRelease.signature.fileReference, ?_, rfl⟩
      rw [List.mem_filter, demoRelease_check _ hmem]
      exact ⟨hmem, by simp⟩
  have hcomplete : content.contentComplete = true := by
    simp [ReleaseContentVerification.contentComplete, hmissing, hmismatched]
  have hfile : readSignatureFile demoRelease demoRoot = .ok demoSignatureFile := rfl
  have hstatus : demoRelease.signature.status = .present := rfl
  have hreference : demoRelease.signature.reference.any (fun relative ↦ !relative.isEmpty) :=
    by decide
  have hsha : sha256 demoSignatureFile = demoRelease.signature.digest := rfl
  have hkey : (demoSigners.get? (lit "k")).filter (fun key ↦ key.length = 32) =
      some (List.replicate 32 0) := by decide
  have hsigned : (demoLibraries message).ed25519 (List.replicate 32 0) message
      (List.replicate 64 0) = true := by simp [demoLibraries]
  refine ⟨⟨digest, lit "k", content, true, false, false, false⟩, ?_, rfl⟩
  simp only [verifyReleaseAuthenticity, hcontent, ok_bind, hcomplete, hstatus, decide_true,
    require_true, hreference, hmatched, hfile, hsha, loads_demoSignatureFile, parse_demoDocument,
    hkey, orRaise_some, hmessage, hsigned, hdigest]
  rfl

/-- The release is authenticated, so it is its files and its signature is of a trusted key. -/
theorem release_authenticity_sound_demo : ∃ message report data,
    verifyReleaseAuthenticity (demoLibraries message) demoRelease demoRoot demoSigners =
      .ok report ∧
    InRoot demoRoot (lit "a") data ∧ sha256 data = sha256 [0] ∧
    releaseSignaturePayload demoRelease = .ok message := by
  obtain ⟨message, hmessage⟩ := exists_demoMessage
  obtain ⟨report, hreport, -⟩ := verify_demoRelease hmessage
  have hsound := release_authenticity_sound (demoLibraries message)
    (fun key content signature ↦ (demoLibraries message).ed25519 key content signature = true)
    (fun _ _ _ h ↦ h)
    (fun key content content' signature h h' ↦ by
      simp only [demoLibraries, decide_eq_true_eq] at h h'
      rw [h.2.1, h'.2.1]) demoSigners
  obtain ⟨hartifacts, -, -⟩ := hsound.1 _ _ _ hreport
  obtain ⟨data, hroot, hdigest, -⟩ := hartifacts _ List.mem_cons_self
  exact ⟨message, report, data, hreport, hroot, hdigest, hmessage⟩

end StateWake.ReleaseTrust
