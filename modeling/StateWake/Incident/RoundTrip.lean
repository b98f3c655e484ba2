import StateWake.Incident.Store

/-!
# The incident store gives back what it was given

The lines of the store are read as the records they were written for, with times in UTC and the
digest of the incident filled in. So an append either leaves the file as it was or adds one record
that is read after those before it.
-/

namespace StateWake.Incident

open StateWake.Base Text Utils RegisterHistory

/-! ### Reading what was written -/

private theorem exists_of_optionalTime {t : Option AwareDatetime} {j : Json}
    (h : optionalTime t = .ok j) : ∃ o : Option Text, j = optionJson o ∧
      (t = none ∧ o = none ∨ ∃ u s, t = some u ∧ o = some s ∧ u.utcText = .ok s) := by
  cases t with
  | none =>
    cases h
    exact ⟨none, rfl, .inl ⟨rfl, rfl⟩⟩
  | some u =>
    obtain ⟨s, hs, hj⟩ := bind_eq_ok.mp h
    cases hj
    exact ⟨some s, rfl, .inr ⟨u, s, rfl, rfl, hs⟩⟩

private theorem writable_optionalTime {t : Option AwareDatetime} {j : Json}
    (h : optionalTime t = .ok j) : Json.Writable j := by
  obtain ⟨o, rfl, -⟩ := exists_of_optionalTime h
  exact writable_optionJson o

@[simp] private theorem writable_reference (f : IncidentEvidenceReferenceFields) :
    Json.Writable (.obj f.toDict) := by
  simp [IncidentEvidenceReferenceFields.toDict, Dict.Distinct]

@[simp] private theorem writable_referencesJson (references : List IncidentEvidenceReference) :
    Json.Writable (referencesJson references) := by
  rw [referencesJson, Json.writable_arr]
  intro v hv
  obtain ⟨r, -, rfl⟩ := List.mem_map.mp hv
  exact writable_reference r.val

@[simp] private theorem writable_texts (texts : List Text) :
    Json.Writable (.arr (texts.map .str)) := by
  simp

section ReadsAs

variable {members record : Dict Json}

private theorem readTime_of_reads (h : ReadsAs members record) {key s : Text} {t : AwareDatetime}
    (hs : t.utcText = .ok s) (hget : record.get? key = some (.str s)) :
    readTime members key = .ok t.inUtc := by
  rw [readTime, h.requiredText key s hget, ok_bind, AwareDatetime.parseAware_utcText hs]

private theorem readOptionalTime_of_reads (h : ReadsAs members record) {key : Text} {j : Json}
    {t : Option AwareDatetime} (hj : optionalTime t = .ok j)
    (hget : record.get? key = some j) :
    readOptionalTime members key = .ok (t.map .inUtc) := by
  obtain ⟨o, rfl, htimes⟩ := exists_of_optionalTime hj
  rw [readOptionalTime, h.nullableText key o hget]
  obtain ⟨rfl, rfl⟩ | ⟨u, s, rfl, rfl, hs⟩ := htimes
  · rfl
  · dsimp only
    rw [AwareDatetime.parseAware_utcText hs]
    rfl

private theorem items_of_reads (h : ReadsAs members record) {key : Text} (values : List Json)
    (hget : record.get? key = some (.arr values)) :
    items members key = .ok (values.map Json.sortKeys) := by
  rw [items, h key _ hget, Json.sortKeys_arr]
  rfl

private theorem itemTexts_of_reads (h : ReadsAs members record) {key : Text} (texts : List Text)
    (hget : record.get? key = some (.arr (texts.map .str))) :
    itemTexts members key = .ok texts := by
  rw [itemTexts, items_of_reads h _ hget, ok_bind, List.map_map, List.map_map]
  exact congrArg Except.ok (List.map_id'' (fun _ ↦ rfl) texts)

private theorem evidence_of_reads {f : IncidentEvidenceReference}
    (h : ReadsAs members f.val.toDict) : evidence (.obj members) = .ok f := by
  rw [evidence, Json.asObject_obj, orRaise_some, ok_bind,
    h.requiredText (lit "kind") f.val.kind (by simp [IncidentEvidenceReferenceFields.toDict]),
    ok_bind,
    h.requiredText (lit "identity") f.val.identity
      (by simp [IncidentEvidenceReferenceFields.toDict]),
    ok_bind,
    h.requiredText (lit "digest") f.val.digest (by simp [IncidentEvidenceReferenceFields.toDict]),
    ok_bind,
    h.nullableText (lit "source") f.val.source (by simp [IncidentEvidenceReferenceFields.toDict])]
  exact construct_val f

/-- A written reference is read as it is. -/
private theorem evidence_sortKeys (f : IncidentEvidenceReference) :
    evidence (Json.sortKeys (.obj f.val.toDict)) = .ok f := by
  rw [sortKeys_eq_ordered]
  exact evidence_of_reads (readsAs_sorted (writable_reference f.val).1)

private theorem evidences_of_reads (h : ReadsAs members record) {key : Text}
    (references : List IncidentEvidenceReference)
    (hget : record.get? key = some (referencesJson references)) :
    evidences members key = .ok references := by
  rw [evidences, items_of_reads h _ hget, ok_bind, List.map_map]
  exact mapM_map_eq_ok fun r _ ↦ evidence_sortKeys r

end ReadsAs

/-! ### Parts of an incident -/

/-- A written part can be written and is read as the same part in UTC. -/
structure ReadsBack {α : Type} (read : Dict Json → Except PyError α) (members : Dict Json)
    (a : α) : Prop where
  writable : Json.Writable (.obj members)
  reads : ∀ m, ReadsAs m members → read m = .ok a

private theorem ReadsBack.ordered {α : Type} {read : Dict Json → Except PyError α}
    {members : Dict Json} {a : α} (h : ReadsBack read members a) :
    read (ordered members) = .ok a := h.reads _ (readsAs_sorted h.writable.1)

private theorem readsBack_affectedState {s : AffectedTrustState} {d : Dict Json}
    (h : s.val.toDict = .ok d) : ReadsBack (fun m ↦ affectedState (.obj m)) d s.inUtc := by
  simp only [AffectedTrustStateFields.toDict, bind_eq_ok] at h
  obtain ⟨start, hstart, stop, hstop, h⟩ := h
  cases h
  refine ⟨?_, fun m hm ↦ ?_⟩
  · simp [Dict.Distinct, writable_optionalTime hstart, writable_optionalTime hstop]
  · rw [affectedState, Json.asObject_obj, orRaise_some, ok_bind,
      hm.requiredText (lit "state_id") s.val.stateId (by simp), ok_bind,
      hm.requiredText (lit "state_digest") s.val.stateDigest (by simp), ok_bind,
      hm.requiredText (lit "trust_context") s.val.trustContext (by simp), ok_bind,
      readOptionalTime_of_reads hm hstart (by simp), ok_bind,
      readOptionalTime_of_reads hm hstop (by simp), ok_bind]
    exact construct_val s.inUtc

private theorem readsBack_keyCompromise {k : KeyCompromiseImpact} {d : Dict Json}
    (h : k.val.toDict = .ok d) : ReadsBack keyCompromise d k.inUtc := by
  simp only [KeyCompromiseImpactFields.toDict, bind_eq_ok] at h
  obtain ⟨start, hstart, stop, hstop, h⟩ := h
  cases h
  refine ⟨?_, fun m hm ↦ ?_⟩
  · simp [Dict.Distinct, writable_optionalTime hstop]
  · rw [keyCompromise, hm.requiredText (lit "key_identity") k.val.keyIdentity (by simp), ok_bind,
      hm.requiredText (lit "affected_key_version") k.val.affectedKeyVersion (by simp), ok_bind,
      itemTexts_of_reads hm k.val.affectedAttestationIds (by simp), ok_bind,
      evidences_of_reads hm k.val.affectedEvidence (by simp), ok_bind,
      readTime_of_reads hm hstart (by simp), ok_bind,
      readOptionalTime_of_reads hm hstop (by simp), ok_bind]
    exact construct_val k.inUtc

@[simp] private theorem recoveryStatus_text (v : RecoveryStatus) :
    recoveryStatus v.text = .ok v := by
  cases v <;> rfl

@[simp] private theorem verificationStatus_text (v : VerificationStatus) :
    verificationStatus v.text = .ok v := by
  cases v <;> rfl

@[simp] private theorem incidentStatus_text (v : IncidentStatus) :
    incidentStatus v.text = .ok v := by
  cases v <;> rfl

private theorem readsBack_recovery (r : RecoveryEvidence) :
    ReadsBack recoveryEvidence r.val.toDict r := by
  refine ⟨?_, fun m hm ↦ ?_⟩
  · simp [RecoveryEvidenceFields.toDict, IncidentEvidenceReferenceFields.toDict, Dict.Distinct]
  · rw [RecoveryEvidenceFields.toDict] at hm
    have hreference := hm.index (lit "evidence_ref") (.obj r.val.evidenceRef.val.toDict) (by simp)
    rw [recoveryEvidence, hreference, ok_bind, sortKeys_eq_ordered, Json.asObject_obj,
      Option.isSome_some, require_true, ok_bind,
      hm.requiredText (lit "recovery_id") r.val.recoveryId (by simp), ok_bind,
      ← sortKeys_eq_ordered, evidence_sortKeys, ok_bind,
      hm.requiredText (lit "actor") r.val.actor (by simp), ok_bind,
      hm.requiredText (lit "source_incident_id") r.val.sourceIncidentId (by simp), ok_bind,
      hm.requiredText (lit "status") r.val.status.text (by simp), ok_bind, recoveryStatus_text,
      ok_bind]
    exact construct_val r

private theorem readsBack_postRecovery {p : PostRecoveryVerification} {d : Dict Json}
    (h : p.val.toDict = .ok d) : ReadsBack postRecoveryVerification d p.inUtc := by
  simp only [PostRecoveryVerificationFields.toDict, bind_eq_ok] at h
  obtain ⟨time, htime, h⟩ := h
  cases h
  refine ⟨?_, fun m hm ↦ ?_⟩
  · simp [Dict.Distinct]
  · rw [postRecoveryVerification,
      hm.requiredText (lit "verification_id") p.val.verificationId (by simp), ok_bind,
      evidences_of_reads hm p.val.evidenceRefs (by simp), ok_bind,
      hm.requiredText (lit "actor") p.val.actor (by simp), ok_bind,
      hm.requiredText (lit "status") p.val.status.text (by simp), ok_bind,
      verificationStatus_text, ok_bind, readTime_of_reads hm htime (by simp), ok_bind]
    exact construct_val p.inUtc

/-- Written affected states are read as the same states in UTC. -/
private theorem affectedStates_of_mapM {states : List AffectedTrustState} {ds : List (Dict Json)}
    (h : states.mapM (fun s ↦ s.val.toDict) = .ok ds) :
    (∀ d ∈ ds, Json.Writable (.obj d)) ∧
      (ds.map fun d ↦ Json.sortKeys (.obj d)).mapM affectedState =
        .ok (states.map AffectedTrustState.inUtc) := by
  induction states generalizing ds with
  | nil =>
    cases h
    exact ⟨nofun, rfl⟩
  | cons s states ih =>
    rw [List.mapM_cons, bind_eq_ok] at h
    obtain ⟨d, hd, h⟩ := h
    obtain ⟨rest, hrest, h⟩ := bind_eq_ok.mp h
    cases h
    have hback := readsBack_affectedState hd
    obtain ⟨hw, hread⟩ := ih hrest
    refine ⟨List.forall_mem_cons.mpr ⟨hback.writable, hw⟩, ?_⟩
    rw [List.map_cons, List.mapM_cons, sortKeys_eq_ordered, hback.ordered, ok_bind, hread]
    rfl

private theorem writable_optionalObject {α : Type} {toDict : α → Except PyError (Dict Json)}
    {read : Dict Json → Except PyError α} {g : α → α}
    (hback : ∀ a d, toDict a = .ok d → ReadsBack read d (g a)) {o : Option α} {j : Json}
    (h : optionalObject toDict o = .ok j) : Json.Writable j := by
  cases o with
  | none =>
    cases h
    exact Json.writable_null
  | some a =>
    obtain ⟨d, hd, hj⟩ := bind_eq_ok.mp h
    cases hj
    exact (hback a d hd).writable

/-- A part that may be missing is read as the same part in UTC. -/
private theorem readOptional_of_reads {α : Type} {toDict : α → Except PyError (Dict Json)}
    {read : Dict Json → Except PyError α} {g : α → α}
    (hback : ∀ a d, toDict a = .ok d → ReadsBack read d (g a)) {members record : Dict Json}
    (hm : ReadsAs members record) {key : Text} {o : Option α} {j : Json}
    (h : optionalObject toDict o = .ok j) (hget : record.get? key = some j) :
    readOptional read members key = .ok (o.map g) := by
  rw [readOptional, hm key j hget]
  cases o with
  | none =>
    cases h
    rfl
  | some a =>
    obtain ⟨d, hd, hj⟩ := bind_eq_ok.mp h
    cases hj
    rw [sortKeys_eq_ordered, Option.bind_some, Json.asObject_obj]
    dsimp only
    rw [(hback a d hd).ordered]
    rfl

/-! ### An incident read back -/

/-- An accepted incident whose digest is filled in is accepted. -/
theorem postInit_observed (i : SecurityIncidentEvidence) {d : Text} (hd : i.val.digest = .ok d) :
    (i.val.observed d).postInit = .ok () := by
  have hi := i.property
  rw [SecurityIncidentEvidenceFields.postInit, bind_eq_ok] at hi
  obtain ⟨u, hrecord, -⟩ := hi
  rw [SecurityIncidentEvidenceFields.postInit, SecurityIncidentEvidenceFields.checkRecord_observed,
    hrecord, ok_bind]
  split
  · rfl
  · rw [SecurityIncidentEvidenceFields.digest_observed, hd, ok_bind]
    exact require_eq_ok.mpr (decide_eq_true rfl)

/-- The incident a reader of the store is given. -/
def SecurityIncidentEvidence.stored (i : SecurityIncidentEvidence) : SecurityIncidentEvidence :=
  match hd : i.val.digest with
  | .ok d => ⟨i.val.observed d, postInit_observed i hd⟩
  | .error _ => i

theorem SecurityIncidentEvidence.val_stored {i : SecurityIncidentEvidence} {d : Text}
    (hd : i.val.digest = .ok d) : i.stored.val = i.val.observed d := by
  rw [SecurityIncidentEvidence.stored]
  split
  · next d' hd' =>
    cases hd.symm.trans hd'
    rfl
  · next e he => cases hd.symm.trans he

/-- An incident is written as it is stored. -/
theorem SecurityIncidentEvidence.toDict_stored (i : SecurityIncidentEvidence) :
    i.stored.val.toDict = i.val.toDict := by
  cases hd : i.val.digest with
  | ok d => rw [SecurityIncidentEvidence.val_stored hd, SecurityIncidentEvidenceFields.toDict_observed]
  | error e =>
    rw [SecurityIncidentEvidence.stored]
    split
    · next d hd' => cases hd.symm.trans hd'
    · rfl

/-- What `to_dict()` gives of a payload and its digest. -/
private def withFormat (payload : Dict Json) (digest : Text) : Dict Json :=
  (lit "format_version", .str (lit "1")) :: payload ++ [(lit "incident_digest", .str digest)]

private theorem toDict_eq_ok_iff {f : SecurityIncidentEvidenceFields} {m : Dict Json} :
    f.toDict = .ok m ↔ ∃ p d, f.payload = .ok p ∧ f.digest = .ok d ∧ m = withFormat p d := by
  simp only [SecurityIncidentEvidenceFields.toDict, bind_eq_ok]
  constructor
  · rintro ⟨p, hp, d, hd, hm⟩
    cases hm
    exact ⟨p, d, hp, hd, rfl⟩
  · rintro ⟨p, d, hp, hd, rfl⟩
    exact ⟨p, hp, d, hd, rfl⟩

/-- A written incident is read as the incident in UTC with its digest. -/
private theorem readsBack_incident {i : SecurityIncidentEvidence} {p : Dict Json} {d : Text}
    (hp : i.val.payload = .ok p) (hd : i.val.digest = .ok d) :
    ReadsBack incidentFromDict (withFormat p d) i.stored := by
  simp only [SecurityIncidentEvidenceFields.payload, bind_eq_ok] at hp
  obtain ⟨time, htime, states, hstates, key, hkey, recovery, hrecovery, post, hpost, hp⟩ := hp
  cases hp
  have hwkey := writable_optionalObject (fun _ _ ↦ readsBack_keyCompromise) hkey
  have hwpost := writable_optionalObject (fun _ _ ↦ readsBack_postRecovery) hpost
  have hback : ∀ (r : RecoveryEvidence) (m : Dict Json),
      (pure r.val.toDict : Except PyError (Dict Json)) = .ok m →
        ReadsBack recoveryEvidence m (id r) := by
    intro r m hm
    cases hm
    exact readsBack_recovery r
  have hwrecovery := writable_optionalObject hback hrecovery
  obtain ⟨hwstates, hreadStates⟩ := affectedStates_of_mapM hstates
  have hwarr : Json.Writable (.arr (states.map .obj)) := by
    rw [Json.writable_arr]
    intro v hv
    obtain ⟨m, hm, rfl⟩ := List.mem_map.mp hv
    exact hwstates m hm
  refine ⟨?_, fun m hm ↦ ?_⟩
  · generalize Json.arr (states.map Json.obj) = j at hwarr
    simp [withFormat, Dict.Distinct, hwkey, hwpost, hwrecovery, hwarr]
  · have hsorted : (states.map Json.obj).map Json.sortKeys =
        states.map fun s ↦ Json.sortKeys (.obj s) := by
      rw [List.map_map]
      rfl
    rw [withFormat] at hm
    rw [incidentFromDict, items_of_reads hm (states.map .obj) (by simp), ok_bind,
      hsorted, hreadStates, ok_bind,
      readOptional_of_reads (fun _ _ ↦ readsBack_keyCompromise) hm hkey (by simp), ok_bind,
      readOptional_of_reads hback hm hrecovery (by simp), ok_bind,
      readOptional_of_reads (fun _ _ ↦ readsBack_postRecovery) hm hpost (by simp), ok_bind,
      hm.requiredText (lit "incident_id") i.val.incidentId (by simp), ok_bind,
      hm.requiredText (lit "event_id") i.val.eventId (by simp), ok_bind,
      readTime_of_reads hm htime (by simp), ok_bind,
      hm.requiredText (lit "actor") i.val.actor (by simp), ok_bind,
      hm.requiredText (lit "category") i.val.category (by simp), ok_bind,
      hm.requiredText (lit "status") i.val.status.text (by simp), ok_bind, incidentStatus_text,
      ok_bind, evidences_of_reads hm i.val.evidenceRefs (by simp), ok_bind,
      itemTexts_of_reads hm i.val.securityEventDigests (by simp), ok_bind,
      itemTexts_of_reads hm i.val.uncertainty (by simp), ok_bind,
      hm.requiredText (lit "incident_digest") d (by simp), ok_bind, Option.map_id]
    have hval := SecurityIncidentEvidence.val_stored hd
    rw [← construct_val i.stored, hval]
    rfl

/-! ### Lines -/

/-- The record a reader of the store is given. -/
def StoredIncidentRecord.stored (r : StoredIncidentRecord) : StoredIncidentRecord :=
  { r with incident := r.incident.stored }

/-- The line of a record, without its line feed. -/
def lineOf (r : StoredIncidentRecord) : Text :=
  Json.dumps Json.compact (.obj (r.toDict.toOption.getD []))

/-- A record the store writes after some records. -/
structure Written (h : List StoredIncidentRecord) (r : StoredIncidentRecord) : Prop where
  sequence : r.sequence = h.length
  clock : ∃ now, r.recordedAt = .ofUtc now
  linked : r.previousDigest = h.getLast?.map StoredIncidentRecord.digest
  chained : ∀ digest ∈ r.previousDigest, isSha256 digest = true
  storable : ∃ d, r.incident.val.digest = .ok d
  digested : r.contentDigest = .ok r.digest

/-- A file that holds the lines of some records. -/
structure Represents (file : Option Bytes) (h : List StoredIncidentRecord) : Prop where
  content : file.getD [] = LineLog.encode lineOf h
  written : Prefixwise Written h

variable {h : List StoredIncidentRecord} {r : StoredIncidentRecord} {file : Option Bytes}

/-- The members of a record at a time. -/
private def membersAt (r : StoredIncidentRecord) (now : Datetime) (incident : Json) : Dict Json :=
  [(lit "sequence", .int r.sequence),
    (lit "recorded_at", .str (isoformat now)),
    (lit "incident", incident),
    (lit "previous_digest", optionJson r.previousDigest)]

private theorem isSha256_contentDigest {digest : Text} (hd : r.contentDigest = .ok digest) :
    isSha256 digest = true := by
  simp only [StoredIncidentRecord.contentDigest, bind_eq_ok] at hd
  obtain ⟨payload, -, content, -, hd⟩ := hd
  cases hd
  exact isSha256_sha256 content

private theorem isSha256_incidentDigest {f : SecurityIncidentEvidenceFields} {d : Text}
    (hd : f.digest = .ok d) : isSha256 d = true := by
  simp only [SecurityIncidentEvidenceFields.digest, bind_eq_ok] at hd
  obtain ⟨payload, -, content, -, hd⟩ := hd
  cases hd
  exact isSha256_sha256 content

/-- An incident with a digest has members UTF-8 can encode. -/
theorem exists_members {i : SecurityIncidentEvidence} {d : Text}
    (hd : i.val.digest = .ok d) : ∃ m, i.val.toDict = .ok m ∧
      ReadsBack incidentFromDict m i.stored ∧ (∀ s ∈ Json.texts (.obj m), SurrogateFree s) ∧
      m.get? (lit "incident_digest") = some (.str d) ∧
      m.get? (lit "format_version") = some (.str (lit "1")) := by
  have hdigest := hd
  simp only [SecurityIncidentEvidenceFields.digest, bind_eq_ok] at hdigest
  obtain ⟨p, hp, content, hcontent, -⟩ := hdigest
  have hback := readsBack_incident hp hd
  refine ⟨withFormat p d, toDict_eq_ok_iff.mpr ⟨p, d, hp, hd, rfl⟩, hback, ?_,
    (Dict.get?_eq_some_iff hback.writable.1).mpr (by simp [withFormat]),
    (Dict.get?_eq_some_iff hback.writable.1).mpr (by simp [withFormat])⟩
  have hwhole := surrogateFree_of_canonicalBytes hcontent
  rw [Json.forall_texts_obj] at hwhole ⊢
  intro m hm
  simp only [withFormat, List.cons_append, List.mem_cons, List.mem_append, List.not_mem_nil,
    or_false] at hm
  rcases hm with rfl | hm | rfl
  · simp
  · exact hwhole m hm
  · simp [surrogateFree_of_isSha256 (isSha256_incidentDigest hd)]

namespace Written

private theorem toDict (hw : Written h r) : ∃ now m d, r.recordedAt = .ofUtc now ∧
    r.incident.val.digest = .ok d ∧ r.incident.val.toDict = .ok m ∧
      r.unsignedPayload = .ok (membersAt r now (.obj m)) ∧
      r.toDict = .ok (membersAt r now (.obj m) ++ [(lit "digest", .str r.digest)]) := by
  obtain ⟨now, hnow⟩ := hw.clock
  obtain ⟨d, hd⟩ := hw.storable
  obtain ⟨m, hm, -⟩ := exists_members hd
  have hpayload : r.unsignedPayload = .ok (membersAt r now (.obj m)) := by
    rw [StoredIncidentRecord.unsignedPayload, hnow, AwareDatetime.utcText_ofUtc, ok_bind, hm]
    rfl
  refine ⟨now, m, d, hnow, hd, hm, hpayload, ?_⟩
  rw [StoredIncidentRecord.toDict, hpayload]
  rfl

private theorem writable_members (hw : Written h r) (now : Datetime) {m : Dict Json} {d : Text}
    (hd : r.incident.val.digest = .ok d) (hm : r.incident.val.toDict = .ok m) :
    Json.Writable (.obj (membersAt r now (.obj m) ++ [(lit "digest", .str r.digest)])) ∧
      ∀ s ∈ Json.texts (.obj (membersAt r now (.obj m) ++ [(lit "digest", .str r.digest)])),
        PairFree s := by
  obtain ⟨m', hm', hback, hwhole, -⟩ := exists_members hd
  cases hm.symm.trans hm'
  constructor
  · have hwritable := hback.writable
    generalize Json.obj m = j at hwritable
    simp [membersAt, Dict.Distinct, hwritable]
  · have hall : ∀ s ∈ Json.texts (.obj (membersAt r now (.obj m) ++ [(lit "digest", .str r.digest)])),
        SurrogateFree s := by
      rw [Json.forall_texts_obj]
      generalize Json.obj m = j at hwhole
      simp [membersAt, surrogateFree_isoformat,
        surrogateFree_of_isSha256 (isSha256_contentDigest hw.digested)]
      exact ⟨hwhole, fun d hd ↦ surrogateFree_of_isSha256 (hw.chained d hd)⟩
    exact fun s hs ↦ (hall s hs).pairFree

theorem plain (hw : Written h r) : LineLog.Plain (lineOf r) := by
  obtain ⟨now, m, d, -, hd, hm, -, hdict⟩ := hw.toDict
  obtain ⟨hwritable, -⟩ := hw.writable_members now hd hm
  rw [lineOf, hdict]
  exact ⟨Json.isAscii_dumps rfl hwritable, Json.unbroken_compact hwritable,
    Json.not_blank_dumps_obj ..⟩

end Written

namespace StoredIncidentRecord

@[simp] theorem digest_stored (r : StoredIncidentRecord) : r.stored.digest = r.digest := rfl

/-- A record is written as it is stored. -/
@[simp] theorem unsignedPayload_stored (r : StoredIncidentRecord) :
    r.stored.unsignedPayload = r.unsignedPayload := by
  have hincident : r.incident.stored.val.toDict = r.incident.val.toDict := r.incident.toDict_stored
  rw [unsignedPayload, show r.stored.incident.val.toDict = _ from hincident, unsignedPayload]
  rfl

@[simp] theorem toDict_stored (r : StoredIncidentRecord) : r.stored.toDict = r.toDict := by
  rw [toDict, unsignedPayload_stored, digest_stored, toDict]

@[simp] theorem contentDigest_stored (r : StoredIncidentRecord) :
    r.stored.contentDigest = r.contentDigest := by
  rw [contentDigest, unsignedPayload_stored, contentDigest]

end StoredIncidentRecord

theorem getLast?_stored (h : List StoredIncidentRecord) :
    (h.map StoredIncidentRecord.stored).getLast?.map StoredIncidentRecord.digest =
      h.getLast?.map StoredIncidentRecord.digest := by
  rw [List.getLast?_map, Option.map_map]
  rfl

private theorem verify_of_written (hw : Written h r) :
    r.stored.verify ((h.map StoredIncidentRecord.stored).getLast?.map
      StoredIncidentRecord.digest) = .ok () := by
  obtain ⟨d, hd⟩ := hw.storable
  have hval := SecurityIncidentEvidence.val_stored hd
  have hdigest : r.stored.incident.val.digest = .ok d := by
    rw [StoredIncidentRecord.stored, hval, SecurityIncidentEvidenceFields.digest_observed, hd]
  have hincident : r.stored.incident.val.incidentDigest = d := by
    rw [StoredIncidentRecord.stored, hval]
    rfl
  have hcontent : r.stored.contentDigest = .ok r.digest := by
    rw [StoredIncidentRecord.contentDigest_stored, hw.digested]
  rw [StoredIncidentRecord.verify, getLast?_stored,
    decide_eq_true (show r.stored.previousDigest = _ from hw.linked), require_true, ok_bind,
    hdigest, ok_bind, decide_eq_true hincident, require_true, ok_bind, hcontent, ok_bind,
    decide_eq_true (r.digest_stored), require_true]

private theorem requireInt_of_get? {payload : Dict Json} {field : Text} {n : Nat}
    (hget : payload.get? field = some (.int n)) : requireInt payload field = .ok n := by
  rw [requireInt, hget]
  rfl

/-- The line of a written record after the records before it, with or without its line feed. -/
private theorem acceptLine_of_written (hw : Written h r) {rest : Text}
    (hrest : ∀ c ∈ rest, Json.isBlank c = true) :
    acceptLine (h.map StoredIncidentRecord.stored) (lineOf r ++ rest) = .ok r.stored := by
  obtain ⟨now, m, d, hnow, hd, hm, -, hdict⟩ := hw.toDict
  obtain ⟨hwritable, hpairs⟩ := hw.writable_members now hd hm
  obtain ⟨m', hm', hback, -, hdigest, hformat⟩ := exists_members hd
  cases hm.symm.trans hm'
  have hreads := readsAs_readMembers Json.compact hwritable hpairs
  have hordered := readsAs_sorted hback.writable.1
  have hincident := hreads.index (lit "incident") (.obj m) (by simp [membersAt])
  have htime := hreads.requiredText (lit "recorded_at") (isoformat now) (by simp [membersAt])
  have hprevious := hreads.nullableText (lit "previous_digest") r.previousDigest
    (by simp [membersAt])
  have hsequence := requireInt_of_get? (hreads (lit "sequence") (.int r.sequence)
    (by simp [membersAt]))
  have hend := hreads.requiredText (lit "digest") r.digest (by simp [membersAt])
  have hnonempty : optionalText (ordered m) (lit "incident_digest") ≠ [] := by
    rw [optionalText_of_get? (hordered _ _ hdigest)]
    rintro rfl
    cases isSha256_incidentDigest hd
  have hversion : (((ordered m).get? (lit "format_version")).map Json.pyStr).getD (lit "1") =
      lit "1" := by
    rw [hordered _ _ hformat]
    rfl
  rw [lineOf, hdict, acceptLine, Except.toOption, Option.getD_some,
    Json.loads_dumps_obj_append _ hwritable hrest, ok_bind, Json.asObject_obj,
    orRaise_some, ok_bind, hincident, ok_bind, sortKeys_eq_ordered, Json.asObject_obj,
    orRaise_some, ok_bind, decide_eq_true hnonempty, require_true, ok_bind,
    decide_eq_true hversion, require_true, ok_bind, hback.ordered, ok_bind, htime, ok_bind,
    parseAware_isoformat, ok_bind, hend, ok_bind, hsequence, ok_bind, hprevious]
  have hrecord : (⟨r.sequence, .ofUtc now, r.incident.stored, r.previousDigest, r.digest⟩ :
      StoredIncidentRecord) = r.stored := by
    rw [StoredIncidentRecord.stored, ← hnow]
  dsimp only
  rw [hrecord, verify_of_written hw]
  rfl

private theorem parseLine_of_written (hw : Written h r) {rest : Text}
    (hrest : ∀ c ∈ rest, Json.isBlank c = true) {maxRecords : Option Int}
    (hbound : ∀ bound ∈ maxRecords, (h.length : Int) < bound) (number : Nat) :
    parseLine maxRecords (h.map StoredIncidentRecord.stored) number (lineOf r ++ rest) =
      .ok ((h ++ [r]).map StoredIncidentRecord.stored) := by
  have hwithin : ¬∃ bound ∈ maxRecords,
      bound ≤ (h.map StoredIncidentRecord.stored).length := by
    rintro ⟨bound, hmem, hle⟩
    rw [List.length_map] at hle
    exact absurd (hbound bound hmem) (not_lt_of_ge hle)
  rw [parseLine, if_neg hwithin, acceptLine_of_written hw hrest]
  dsimp only
  rw [if_pos (show r.stored.sequence = _ by rw [List.length_map]; exact hw.sequence),
    List.map_append]
  rfl

/-- The lines of written records are read in order, while there may be as many. -/
theorem reads_of_written (hs : Prefixwise Written h) {rest : Text}
    (hrest : ∀ c ∈ rest, Json.isBlank c = true) {maxRecords : Option Int}
    (hbound : ∀ bound ∈ maxRecords, (h.length : Int) ≤ bound) :
    LineLog.Reads (fun r ↦ lineOf r ++ rest) (parseLine maxRecords)
      (List.map StoredIncidentRecord.stored) h := by
  intro pre r post hsplit
  have hw := hs pre r post hsplit
  refine ⟨not_blank_append hw.plain.visible _, parseLine_of_written hw hrest ?_⟩
  intro bound hmem
  have hle := hbound bound hmem
  rw [hsplit, List.length_append, List.length_cons] at hle
  omega

theorem plain_of_written (hs : Prefixwise Written h) :
    ∀ r ∈ h, LineLog.Plain (lineOf r) :=
  hs.forall_mem fun _ _ hw ↦ hw.plain

/-- A file that holds the lines of some records is read as these records. -/
theorem readUnlocked_represents (hr : Represents file h) :
    readUnlocked file = .ok (h.map StoredIncidentRecord.stored) := by
  cases file with
  | none =>
    have hn : h = [] := LineLog.encode_eq_nil_iff.mp hr.content.symm
    rw [hn]
    rfl
  | some raw =>
    have hcontent : raw = LineLog.encode lineOf h := hr.content
    rw [readUnlocked, Utf8.ofBytes, hcontent, LineLog.decode_encode (plain_of_written hr.written),
      orRaise_some, ok_bind, LineLog.fileLines_terminated (plain_of_written hr.written),
      parseIncidentRecords, Option.all_none, require_true, ok_bind]
    exact LineLog.readLines_of_reads (reads_of_written hr.written Json.isBlank_newline (by simp)) 1

theorem represents_none : Represents none [] := ⟨rfl, prefixwise_nil _⟩

/-! ### Appending -/

/-- An incident the store takes: it passes the check of an append and has a canonical form. -/
def Storable (incident : SecurityIncidentEvidence) : Prop :=
  (verifyOnAppend incident).toBool = true ∧ incident.val.digest.toBool = true

instance (incident : SecurityIncidentEvidence) : Decidable (Storable incident) :=
  inferInstanceAs (Decidable (_ ∧ _))

theorem storable_iff {incident : SecurityIncidentEvidence} : Storable incident ↔
    verifyOnAppend incident = .ok () ∧ ∃ d, incident.val.digest = .ok d := by
  constructor
  · rintro ⟨hverify, hd⟩
    obtain ⟨u, hu⟩ := exists_ok_of_toBool hverify
    exact ⟨hu, exists_ok_of_toBool hd⟩
  · rintro ⟨hverify, d, hd⟩
    rw [Storable, hverify, hd]
    exact ⟨rfl, rfl⟩

private theorem exists_contentDigest {i : SecurityIncidentEvidence} {d : Text}
    (hd : i.val.digest = .ok d) (hi : r.incident = i) {now : Datetime}
    (hnow : r.recordedAt = .ofUtc now) : ∃ digest, r.contentDigest = .ok digest := by
  obtain ⟨m, hm, hback, -⟩ := exists_members hd
  have hpayload : r.unsignedPayload = .ok (membersAt r now (.obj m)) := by
    rw [StoredIncidentRecord.unsignedPayload, hnow, AwareDatetime.utcText_ofUtc, ok_bind, hi, hm]
    rfl
  have hwritable : Json.Writable (.obj (membersAt r now (.obj m))) := by
    have hincident := hback.writable
    generalize Json.obj m = j at hincident
    simp [membersAt, Dict.Distinct, hincident]
  rw [StoredIncidentRecord.contentDigest, hpayload, ok_bind,
    Utf8.toBytes_of_isAscii (Json.isAscii_dumps rfl hwritable)]
  exact ⟨_, rfl⟩

/-- A taken incident is given its digest. -/
private theorem withDigest_unsigned (hs : Prefixwise Written h) {call : Call} {d : Text}
    (hd : call.incident.val.digest = .ok d) : ∃ record,
      withDigest (unsigned (h.map StoredIncidentRecord.stored) call) = .ok record ∧
        Written h record ∧ record.incident = call.incident ∧
          record.recordedAt = .ofUtc call.now := by
  obtain ⟨digest, hdigest⟩ := exists_contentDigest
    (r := unsigned (h.map StoredIncidentRecord.stored) call) hd rfl rfl
  refine ⟨{ unsigned (h.map StoredIncidentRecord.stored) call with digest }, ?_, ?_, rfl, rfl⟩
  · rw [withDigest, hdigest]
    rfl
  · refine ⟨List.length_map _, ⟨call.now, rfl⟩, getLast?_stored h, ?_, ⟨d, hd⟩, hdigest⟩
    intro previous hprevious
    have hlinked := (getLast?_stored h).symm.trans (Option.mem_def.mp hprevious)
    obtain ⟨last, hlast, rfl⟩ := Option.map_eq_some_iff.mp hlinked
    obtain ⟨pre, hpre⟩ := List.getLast?_eq_some_iff.mp hlast
    exact isSha256_contentDigest (hs pre last [] hpre).digested

/-- The last record of a file has a written form. -/
theorem exists_toDict {record : StoredIncidentRecord} (hr : Represents file (h ++ [record])) :
    ∃ written, record.toDict = .ok written := by
  obtain ⟨_, _, _, -, -, -, -, hdict⟩ := (prefixwise_append_singleton.mp hr.written).2.toDict
  exact ⟨_, hdict⟩

/-- A taken incident is written after the records before it. -/
theorem append_of_storable (hr : Represents file h) {call : Call} (hs : Storable call.incident) :
    ∃ record, (append file call).1 = .ok record ∧
      Represents (append file call).2 (h ++ [record]) ∧
        record.incident = call.incident ∧ record.recordedAt = .ofUtc call.now := by
  obtain ⟨hverify, d, hd⟩ := storable_iff.mp hs
  obtain ⟨record, hrecord, hw, hincident, htime⟩ := withDigest_unsigned hr.written hd
  obtain ⟨now, m, d', -, -, -, -, hdict⟩ := hw.toDict
  have hbytes := hw.plain.toBytes_line
  have hline : lineOf record = Json.dumps Json.compact
      (.obj (membersAt record now (.obj m) ++ [(lit "digest", .str record.digest)])) := by
    rw [lineOf, hdict]
    rfl
  rw [hline] at hbytes
  have happend : append file call =
      (.ok record, some (file.getD [] ++ LineLog.encode lineOf [record])) := by
    rw [append, hverify, ok_bind, readUnlocked_represents hr, ok_bind, hrecord, ok_bind, hdict,
      ok_bind, hbytes]
    rfl
  rw [happend]
  refine ⟨record, rfl, ⟨?_, prefixwise_append_singleton.mpr ⟨hr.written, hw⟩⟩, hincident, htime⟩
  rw [Option.getD_some, hr.content, LineLog.encode_append]

private theorem exists_digest_of_withDigest (h : ∃ record, withDigest r = .ok record) :
    ∃ d, r.incident.val.digest = .ok d := by
  obtain ⟨record, h⟩ := h
  simp only [withDigest, StoredIncidentRecord.contentDigest, StoredIncidentRecord.unsignedPayload,
    bind_eq_ok] at h
  obtain ⟨_, ⟨_, ⟨_, -, m, hm, -⟩, -⟩, -⟩ := h
  obtain ⟨p, d, -, hd, -⟩ := toDict_eq_ok_iff.mp hm
  exact ⟨d, hd⟩

/-- An append that returns has taken its incident. -/
theorem storable_of_append {call : Call} {record : StoredIncidentRecord}
    (h : (append file call).1 = .ok record) : Storable call.incident := by
  rw [append] at h
  split at h
  · cases h
  · next written hwritten =>
    simp only [bind_eq_ok] at hwritten
    obtain ⟨u, hverify, records, -, signed, hsigned, -⟩ := hwritten
    obtain ⟨d, hd⟩ := exists_digest_of_withDigest (r := unsigned records call) ⟨signed, hsigned⟩
    exact storable_iff.mpr ⟨hverify, d, hd⟩

/-- An append that raises leaves the file as it was. -/
theorem append_error {call : Call} {e : PyError} (h : (append file call).1 = .error e) :
    (append file call).2 = file := by
  rw [append] at h ⊢
  split at h
  · rfl
  · cases h

end StateWake.Incident
