import StateWake.Incident.RoundTrip
import Mathlib.Data.List.Sort

/-!
# Forensic continuity

`domain/security_incident.py:364–379,430–448`. A reverified incident names the evidence its
recovery was made from and the evidence the recovery was verified by. The check of an append asks
that both are among the preserved evidence and compares identities; the reconstruction compares
identities as well. So the store takes a recovery that names preserved evidence and gives it other
content.
-/

namespace StateWake.Incident

open StateWake.Base Text Utils

/-! ### Reconstruction -/

/-- What `reconstruct_security_state` returns, `domain/security_incident.py:441–448`. -/
structure Reconstruction where
  incidentId : Text
  securityEventDigests : List Text
  affectedStateIds : List Text
  missingEvidence : List Text
  complete : Bool
  causalityEstablished : Bool

namespace SecurityIncidentEvidenceFields

variable (f : SecurityIncidentEvidenceFields)

/-- `reconstruct_security_state`, `domain/security_incident.py:430–448`. -/
def reconstructSecurityState (availableEvidenceIds : List Text) : Reconstruction :=
  let missing := ((f.evidenceRefs.map fun r ↦ r.val.identity).filter
    fun identity ↦ identity ∉ availableEvidenceIds).insertionSort (· ≤ ·)
  { incidentId := f.incidentId
    securityEventDigests := f.securityEventDigests
    affectedStateIds := f.affectedStates.map fun s ↦ s.val.stateId
    missingEvidence := missing
    complete := missing.isEmpty && f.status == .reverified
    causalityEstablished := false }

/-- A complete reconstruction has every preserved identity. -/
theorem complete_reconstructSecurityState_iff {availableEvidenceIds : List Text} :
    (f.reconstructSecurityState availableEvidenceIds).complete = true ↔
      f.status = .reverified ∧ ∀ p ∈ f.evidenceRefs, p.val.identity ∈ availableEvidenceIds := by
  have hsorted : ∀ l : List Text, (l.insertionSort (· ≤ ·)).isEmpty = l.isEmpty := by
    intro l
    rw [Bool.eq_iff_iff, List.isEmpty_iff, List.isEmpty_iff]
    constructor
    · intro h
      exact List.Perm.nil_eq (h ▸ List.perm_insertionSort (· ≤ ·) l) |>.symm
    · rintro rfl
      rfl
  simp only [reconstructSecurityState, Bool.and_eq_true, beq_iff_eq, hsorted]
  rw [and_comm, List.isEmpty_iff, List.filter_eq_nil_iff, List.forall_mem_map]
  simp only [decide_not, Bool.not_eq_true', decide_eq_false_iff_not, not_not]

/-! ### What a recovery rests on -/

/-- The evidence the recovery and its verification rest on. -/
def restsOn : List IncidentEvidenceReference :=
  (f.recovery.toList.map fun r ↦ r.val.evidenceRef) ++
    f.postRecovery.toList.flatMap fun p ↦ p.val.evidenceRefs

/-- The digests an incident preserves under one identity. -/
def preservedDigests (identity : Text) : List Text :=
  (f.evidenceRefs.filter fun p ↦ p.val.identity = identity).map fun p ↦ p.val.digest

/-- The identity of a reference is preserved under other digests only. -/
def Reused (r : IncidentEvidenceReference) : Prop :=
  f.preservedDigests r.val.identity ≠ [] ∧ r.val.digest ∉ f.preservedDigests r.val.identity

/-- A recovery closed over the preserved evidence. -/
structure Closed : Prop where
  preserved : ∀ r ∈ f.restsOn, ∃ p ∈ f.evidenceRefs,
    p.val.identity = r.val.identity ∧ p.val.digest = r.val.digest
  available : ∀ availableEvidenceIds : List Text,
    (f.reconstructSecurityState availableEvidenceIds).complete = true →
      ∀ r ∈ f.restsOn, r.val.identity ∈ availableEvidenceIds

variable {f} {r : IncidentEvidenceReference}

theorem mem_preservedDigests {identity digest : Text} : digest ∈ f.preservedDigests identity ↔
    ∃ p ∈ f.evidenceRefs, p.val.identity = identity ∧ p.val.digest = digest := by
  simp only [preservedDigests, List.mem_map, List.mem_filter, decide_eq_true_eq, and_assoc]

theorem preservedDigests_ne_nil {identity : Text} : f.preservedDigests identity ≠ [] ↔
    ∃ p ∈ f.evidenceRefs, p.val.identity = identity := by
  constructor
  · intro hne
    obtain ⟨digest, hdigest⟩ := List.exists_mem_of_ne_nil _ hne
    obtain ⟨p, hp, hidentity, -⟩ := mem_preservedDigests.mp hdigest
    exact ⟨p, hp, hidentity⟩
  · rintro ⟨p, hp, hidentity⟩
    exact List.ne_nil_of_mem (mem_preservedDigests.mpr ⟨p, hp, hidentity, rfl⟩)

/-- A preserved identity has the content of a reference unless it is reused. -/
theorem not_reused_iff (hlisted : ∃ p ∈ f.evidenceRefs, p.val.identity = r.val.identity) :
    ¬f.Reused r ↔ ∃ p ∈ f.evidenceRefs,
      p.val.identity = r.val.identity ∧ p.val.digest = r.val.digest := by
  rw [Reused, not_and, not_not, ← mem_preservedDigests]
  exact forall_prop_of_true (preservedDigests_ne_nil.mpr hlisted)

/-- The check compares identities. -/
theorem listed_of_verifyForensicContinuity (h : f.verifyForensicContinuity = .ok ()) :
    ∀ r ∈ f.restsOn, ∃ p ∈ f.evidenceRefs, p.val.identity = r.val.identity := by
  rw [verifyForensicContinuity, require_bind_eq_ok] at h
  obtain ⟨-, h⟩ := h
  simp only [bind_eq_ok, orRaise_eq_ok] at h
  obtain ⟨post, hpost, recovery, hrecovery, _, hlisted, hall⟩ := h
  obtain ⟨hpost, -⟩ := Option.filter_eq_some_iff.mp hpost
  obtain ⟨hrecovery, -⟩ := Option.filter_eq_some_iff.mp hrecovery
  intro r hr
  rw [restsOn, hrecovery, hpost] at hr
  simp only [Option.toList_some, List.map_cons, List.map_nil, List.flatMap_cons, List.flatMap_nil,
    List.append_nil, List.cons_append, List.nil_append, List.mem_cons] at hr
  apply List.mem_map.mp
  cases hr with
  | inl heq =>
    rw [heq]
    exact of_decide_eq_true (require_eq_ok.mp hlisted)
  | inr hr => exact of_decide_eq_true (List.all_eq_true.mp (require_eq_ok.mp hall) r hr)

/-- A continuous incident is closed unless it reuses an identity. -/
theorem closed_iff (h : f.verifyForensicContinuity = .ok ()) :
    f.Closed ↔ ∀ r ∈ f.restsOn, ¬f.Reused r := by
  have hlisted := listed_of_verifyForensicContinuity h
  constructor
  · intro hclosed r hr
    exact (not_reused_iff (hlisted r hr)).mpr (hclosed.preserved r hr)
  · intro hreused
    constructor
    · intro r hr
      exact (not_reused_iff (hlisted r hr)).mp (hreused r hr)
    · intro availableEvidenceIds hcomplete r hr
      obtain ⟨p, hp, hidentity⟩ := hlisted r hr
      rw [← hidentity]
      exact (f.complete_reconstructSecurityState_iff.mp hcomplete).2 p hp

end SecurityIncidentEvidenceFields

/-- An accepted reverified incident is closed over what it preserves exactly when its recovery
and verification reuse no preserved identity for other content. -/
theorem reverified_closed_iff {file : Option Bytes} {call : Call} {record : StoredIncidentRecord}
    (haccepted : (append file call).1 = .ok record)
    (hreverified : call.incident.val.status = .reverified) :
    call.incident.val.Closed ↔
      ∀ r ∈ call.incident.val.restsOn, ¬call.incident.val.Reused r := by
  obtain ⟨hverify, -⟩ := storable_iff.mp (storable_of_append haccepted)
  rw [verifyOnAppend, if_pos hreverified] at hverify
  exact SecurityIncidentEvidenceFields.closed_iff hverify

/-! ### A recovery that reuses an identity -/

private def noon : Datetime := .of (.of 2026 1 1) 43200000000

/-- The evidence `e` with some content. -/
private def evidenceOf (digest : Text) (h : isSha256 digest = true) : IncidentEvidenceReference :=
  ⟨⟨lit "evidence", lit "e", digest, none⟩, by
    simp only [IncidentEvidenceReferenceFields.postInit, requireDigest, h]
    rfl⟩

/-- An incident whose recovery and verification rest on one reference. -/
private def recoveredWith (id : Text) (kept used : IncidentEvidenceReference)
    (h : blank id = false) : SecurityIncidentEvidenceFields where
  incidentId := id
  eventId := lit "v"
  detectedAt := .ofUtc noon
  actor := lit "a"
  category := lit "c"
  status := .reverified
  evidenceRefs := [kept]
  affectedStates := []
  securityEventDigests := []
  uncertainty := []
  keyCompromise := none
  recovery := some ⟨⟨lit "r", used, lit "a", id, .applied⟩, by
    simp only [RecoveryEvidenceFields.postInit, requireFilled, h]
    rfl⟩
  postRecovery := some ⟨⟨lit "p", [used], lit "a", .verified, .ofUtc noon⟩, rfl⟩
  incidentDigest := []

private theorem exists_detectedId :
    ∃ id, deriveIncidentId (lit "v") (.ofUtc noon) (lit "a") (lit "c") = .ok id ∧
      isSha256 id = true := by
  have hwritable : Json.Writable (.obj [(lit "event_id", .str (lit "v")),
      (lit "detected_at", .str (isoformat noon)), (lit "actor", .str (lit "a")),
      (lit "category", .str (lit "c"))]) := by
    simp [Dict.Distinct]
  obtain ⟨content, hcontent⟩ := (canonicalBytes_isOk_iff hwritable).mpr (by
    rw [Json.forall_texts_obj]
    simp [surrogateFree_isoformat])
  refine ⟨sha256 content, ?_, isSha256_sha256 content⟩
  rw [deriveIncidentId, AwareDatetime.utcText_ofUtc, ok_bind, hcontent]
  rfl

/-- The store takes a recovery from evidence of a preserved identity, whatever its content. -/
private theorem exists_recovered {kept used : Text} (hkept : isSha256 kept = true)
    (hused : isSha256 used = true) : ∃ i : SecurityIncidentEvidence, i.val.status = .reverified ∧
      i.val.evidenceRefs = [evidenceOf kept hkept] ∧
        i.val.restsOn = [evidenceOf used hused, evidenceOf used hused] ∧ Storable i := by
  obtain ⟨id, hid, hsha⟩ := exists_detectedId
  have hfilled := not_blank_of_isSha256 hsha
  have haccepted : (recoveredWith id (evidenceOf kept hkept) (evidenceOf used hused)
      hfilled).postInit = .ok () := by
    simp only [SecurityIncidentEvidenceFields.postInit,
      SecurityIncidentEvidenceFields.checkRecord, recoveredWith, requireFilled, hfilled, hid,
      ok_bind, Option.all_some, decide_true]
    rfl
  refine ⟨⟨_, haccepted⟩, rfl, rfl, rfl, storable_iff.mpr ⟨rfl, ?_⟩⟩
  have hpayload : ∃ m, (recoveredWith id (evidenceOf kept hkept) (evidenceOf used hused)
      hfilled).payload = .ok m ∧ Json.Writable (.obj m) ∧
        ∀ s ∈ Json.texts (.obj m), SurrogateFree s := by
    refine ⟨_, by
      rw [SecurityIncidentEvidenceFields.payload]
      simp only [recoveredWith, AwareDatetime.utcText_ofUtc, ok_bind, optionalObject,
        PostRecoveryVerificationFields.toDict]
      rfl, ?_, ?_⟩
    · simp [referencesJson, RecoveryEvidenceFields.toDict,
        IncidentEvidenceReferenceFields.toDict, Dict.Distinct]
    · rw [Json.forall_texts_obj]
      simp [referencesJson, RecoveryEvidenceFields.toDict,
        IncidentEvidenceReferenceFields.toDict, evidenceOf, IncidentStatus.text,
        RecoveryStatus.text, VerificationStatus.text, surrogateFree_isoformat,
        surrogateFree_of_isSha256 hsha, surrogateFree_of_isSha256 hkept,
        surrogateFree_of_isSha256 hused, or_imp, forall_and]
  obtain ⟨m, hm, hwritable, hfree⟩ := hpayload
  obtain ⟨content, hcontent⟩ := (canonicalBytes_isOk_iff hwritable).mpr hfree
  refine ⟨sha256 content, ?_⟩
  rw [SecurityIncidentEvidenceFields.digest, hm, ok_bind, hcontent]
  rfl

/-- A recovery from the evidence that was preserved is closed. -/
theorem closed_of_same_content : ∃ (call : Call) (record : StoredIncidentRecord),
    (append none call).1 = .ok record ∧ call.incident.val.Closed := by
  have hsha : isSha256 (List.replicate 64 (ofChar 'a')) = true := by decide
  obtain ⟨i, hstatus, hrefs, hrests, hs⟩ := exists_recovered hsha hsha
  obtain ⟨record, happend, -⟩ := append_of_storable represents_none
    (show Storable (⟨i, noon⟩ : Call).incident from hs)
  refine ⟨⟨i, noon⟩, record, happend, (reverified_closed_iff happend hstatus).mpr ?_⟩
  intro r hr
  have hsame : r = evidenceOf _ hsha := by
    change r ∈ i.val.restsOn at hr
    rw [hrests] at hr
    simpa using hr
  apply (SecurityIncidentEvidenceFields.not_reused_iff ?_).mpr
  · exact ⟨r, by rw [hrefs, hsame]; exact List.mem_singleton_self _, rfl, rfl⟩
  · exact ⟨r, by rw [hrefs, hsame]; exact List.mem_singleton_self _, rfl⟩

/-- The store takes a recovery whose evidence was never preserved. -/
theorem not_reverified_closed : ¬∀ (file : Option Bytes) (call : Call)
    (record : StoredIncidentRecord), (append file call).1 = .ok record →
      call.incident.val.status = .reverified → call.incident.val.Closed := by
  intro hall
  obtain ⟨i, hstatus, hrefs, hrests, hs⟩ := exists_recovered
    (show isSha256 (List.replicate 64 (ofChar 'a')) = true by decide)
    (show isSha256 (List.replicate 64 (ofChar 'b')) = true by decide)
  obtain ⟨record, happend, -⟩ := append_of_storable represents_none
    (show Storable (⟨i, noon⟩ : Call).incident from hs)
  have hclosed := (hall none ⟨i, noon⟩ record happend hstatus).preserved
  rw [hrests, hrefs] at hclosed
  obtain ⟨p, hp, -, hdigest⟩ := hclosed _ List.mem_cons_self
  rw [List.mem_singleton.mp hp] at hdigest
  exact absurd hdigest (by decide)

end StateWake.Incident
