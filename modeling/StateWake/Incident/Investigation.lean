import StateWake.Base.Grouping
import StateWake.Incident.RoundTrip
import Mathlib.Data.List.Sort

/-!
# Incident investigation

`presentation/incident_investigation.py`. The investigation groups the stored records by incident
and refuses the whole portfolio when one incident's observations go back in status or in time. The
store takes such observations, so the portfolio stays readable exactly when no taken incident goes
back.
-/

namespace StateWake.Incident

open StateWake.Base Text Utils KeyedHistory

/-! ### One incident's observations -/

/-- The immutable context of an incident, compared at
`presentation/incident_investigation.py:69–75`. -/
structure SameContext (i j : SecurityIncidentEvidence) : Prop where
  incidentId : i.val.incidentId = j.val.incidentId
  eventId : i.val.eventId = j.val.eventId
  detectedAt : i.val.detectedAt.instant = j.val.detectedAt.instant
  actor : i.val.actor = j.val.actor
  category : i.val.category = j.val.category

instance (i j : SecurityIncidentEvidence) : Decidable (SameContext i j) :=
  decidable_of_iff (i.val.incidentId = j.val.incidentId ∧ i.val.eventId = j.val.eventId ∧
      i.val.detectedAt.instant = j.val.detectedAt.instant ∧ i.val.actor = j.val.actor ∧
      i.val.category = j.val.category)
    ⟨fun ⟨a, b, c, d, e⟩ ↦ ⟨a, b, c, d, e⟩, fun ⟨a, b, c, d, e⟩ ↦ ⟨a, b, c, d, e⟩⟩

/-- One step of the loop of `__post_init__`, `presentation/incident_investigation.py:67–85`, after
the rank and the time of the observation before. -/
def observe (first : SecurityIncidentEvidence) (previous : Int × Option AwareDatetime)
    (record : StoredIncidentRecord) : Except PyError (Int × Option AwareDatetime) := do
  require ⟨.valueError, lit "incident immutable context changed across observations"⟩
    (SameContext record.incident first)
  let rank : Int := record.incident.val.status.rank
  require ⟨.valueError, lit "incident lifecycle status regressed"⟩ (previous.1 ≤ rank)
  require ⟨.valueError, lit "incident observation timestamps regressed"⟩
    (previous.2.all fun time ↦ time.instant ≤ record.recordedAt.instant)
  pure (rank, some record.recordedAt)

/-- `__post_init__`, `presentation/incident_investigation.py:60–85`. -/
def checkObservations (records : List StoredIncidentRecord) : Except PyError Unit :=
  match records with
  | [] => valueError (lit "incident investigation requires at least one record")
  | first :: rest => do
    let _ ← (first :: rest).foldlM (observe first.incident) (-1, none)
    pure ()

/-- `IncidentInvestigationRecord`, `presentation/incident_investigation.py:54–85`: the
observations of one incident. -/
abbrev IncidentInvestigationRecord := Accepted checkObservations

namespace IncidentInvestigationRecord

theorem ne_nil (item : IncidentInvestigationRecord) : item.val ≠ [] := by
  intro h
  have hitem := item.property
  rw [h] at hitem
  cases hitem

/-- `incident_id`, `presentation/incident_investigation.py:87–90`. -/
def incidentId (item : IncidentInvestigationRecord) : Text :=
  (item.val.head item.ne_nil).incident.val.incidentId

/-- `current`, `presentation/incident_investigation.py:92–95`. -/
def current (item : IncidentInvestigationRecord) : SecurityIncidentEvidence :=
  (item.val.getLast item.ne_nil).incident

/-- `latest_recorded_at`, `presentation/incident_investigation.py:97–100`. -/
def latestRecordedAt (item : IncidentInvestigationRecord) : AwareDatetime :=
  (item.val.getLast item.ne_nil).recordedAt

end IncidentInvestigationRecord

/-- `_forensic_continuity`, `presentation/incident_investigation.py:338–343`: the one step of
rendering a row or a detail that can raise. -/
def forensicContinuity (incident : SecurityIncidentEvidence) : Except PyError Bool :=
  if incident.val.status ≠ .reverified then pure false
  else do
    incident.val.verifyForensicContinuity
    pure true

/-! ### The portfolio -/

/-- The fields of `IncidentInvestigationQuery`, `presentation/incident_investigation.py:138–142`. -/
structure IncidentInvestigationQueryFields where
  status : Option Text
  category : Option Text
  text : Option Text
  limit : Int
  offset : Int

/-- `INCIDENT_STATUSES`, `presentation/incident_investigation.py:22–29`. -/
def incidentStatuses : List Text :=
  [lit "detected", lit "preserved", lit "contained", lit "assessed", lit "recovered",
    lit "reverified"]

/-- `__post_init__`, `presentation/incident_investigation.py:144–160`. -/
def IncidentInvestigationQueryFields.postInit (q : IncidentInvestigationQueryFields) :
    Except PyError Unit := do
  require ⟨.valueError, lit "unsupported incident status"⟩
    (q.status.all fun s ↦ s ∈ incidentStatuses)
  require ⟨.valueError, lit "category is blank or exceeds the filter limit"⟩
    (q.category.all fun s ↦ !blank s && s.length ≤ 256)
  require ⟨.valueError, lit "text is blank or exceeds the search limit"⟩
    (q.text.all fun s ↦ !blank s && s.length ≤ 200)
  require ⟨.valueError, lit "limit must be between 1 and 200"⟩ (1 ≤ q.limit ∧ q.limit ≤ 200)
  require ⟨.valueError, lit "offset must be non-negative"⟩ (0 ≤ q.offset)

/-- `IncidentInvestigationQuery`, `presentation/incident_investigation.py:134–160`. -/
abbrev IncidentInvestigationQuery := Accepted IncidentInvestigationQueryFields.postInit

/-- `IncidentInvestigationProjection`, `presentation/incident_investigation.py:193–199`. -/
structure IncidentInvestigationProjection where
  incidents : List IncidentInvestigationRecord
  query : IncidentInvestigationQuery
  storeRecordCount : Nat

/-- `IncidentDetailProjection`, `presentation/incident_investigation.py:243–247`. -/
structure IncidentDetailProjection where
  investigation : IncidentInvestigationRecord

/-- The incident of a record. -/
def incidentKey (r : StoredIncidentRecord) : Text := r.incident.val.incidentId

/-- `consolidate_incident_records`, `presentation/incident_investigation.py:346–363`. Both sorts
keep the order of equal elements, the reversed one too. -/
def consolidateIncidentRecords (records : List StoredIncidentRecord) :
    Except PyError (List IncidentInvestigationRecord) := do
  let investigations ← (Grouping.groupBy incidentKey records).mapM fun group ↦
    construct checkObservations group.2
  let byIdentity := investigations.insertionSort fun (a b : IncidentInvestigationRecord) ↦
    a.incidentId ≤ b.incidentId
  pure (byIdentity.insertionSort fun (a b : IncidentInvestigationRecord) ↦
    b.latestRecordedAt.instant ≤ a.latestRecordedAt.instant)

/-- `build_incident_investigation`, `presentation/incident_investigation.py:366–371`. -/
def buildIncidentInvestigation (records : List StoredIncidentRecord)
    (query : IncidentInvestigationQuery) : Except PyError IncidentInvestigationProjection := do
  let incidents ← consolidateIncidentRecords records
  pure ⟨incidents, query, records.length⟩

/-- `build_incident_detail`, `presentation/incident_investigation.py:374–386`. -/
def buildIncidentDetail (records : List StoredIncidentRecord) (incidentId : Text) :
    Except PyError IncidentDetailProjection := do
  require ⟨.valueError, lit "incident_id must be lowercase SHA-256 hex"⟩ (isSha256 incidentId)
  let incidents ← consolidateIncidentRecords records
  let item ← orRaise ⟨.fileNotFoundError, incidentId⟩
    (incidents.find? fun (item : IncidentInvestigationRecord) ↦
      decide (item.incidentId = incidentId))
  pure ⟨item⟩

/-! ### Histories an investigation takes -/

/-- What an investigation compares of an observation. -/
structure Observation where
  incidentId : Text
  eventId : Text
  detectedAt : Int
  actor : Text
  category : Text
  status : IncidentStatus
  recordedAt : Int
  deriving DecidableEq

/-- An incident observed at an instant. -/
def observation (incident : SecurityIncidentEvidence) (recordedAt : Int) : Observation where
  incidentId := incident.val.incidentId
  eventId := incident.val.eventId
  detectedAt := incident.val.detectedAt.instant
  actor := incident.val.actor
  category := incident.val.category
  status := incident.val.status
  recordedAt := recordedAt

/-- The observation a record keeps. -/
def StoredIncidentRecord.observation (r : StoredIncidentRecord) : Observation :=
  Incident.observation r.incident r.recordedAt.instant

/-- An observation that may follow another of its incident: the context of the detection is the
same and neither the status nor the time goes back. -/
structure Follows (p o : Observation) : Prop where
  eventId : p.eventId = o.eventId
  detectedAt : p.detectedAt = o.detectedAt
  actor : p.actor = o.actor
  category : p.category = o.category
  status : p.status.rank ≤ o.status.rank
  recordedAt : p.recordedAt ≤ o.recordedAt

/-- An observation that may follow the last one of its incident. -/
def Continues (previous : Option Observation) (o : Observation) : Prop :=
  ∀ p ∈ previous, Follows p o

/-- Observations of which each may follow the last one of its incident. -/
abbrev Progressive (observations : List Observation) : Prop :=
  Stepwise Observation.incidentId Continues observations

theorem SameContext.refl (i : SecurityIncidentEvidence) : SameContext i i :=
  ⟨rfl, rfl, rfl, rfl, rfl⟩

theorem SameContext.symm {i j : SecurityIncidentEvidence} (h : SameContext i j) :
    SameContext j i :=
  ⟨h.incidentId.symm, h.eventId.symm, h.detectedAt.symm, h.actor.symm, h.category.symm⟩

theorem SameContext.trans {i j k : SecurityIncidentEvidence} (h : SameContext i j)
    (h' : SameContext j k) : SameContext i k :=
  ⟨h.incidentId.trans h'.incidentId, h.eventId.trans h'.eventId,
    h.detectedAt.trans h'.detectedAt, h.actor.trans h'.actor, h.category.trans h'.category⟩

variable {records : List StoredIncidentRecord} {r : StoredIncidentRecord}

private theorem observe_eq_ok {first : SecurityIncidentEvidence} {s s' : Int × Option AwareDatetime} :
    observe first s r = .ok s' ↔
      (SameContext r.incident first ∧ s.1 ≤ r.incident.val.status.rank ∧
        ∀ time ∈ s.2, time.instant ≤ r.recordedAt.instant) ∧
      s' = ((r.incident.val.status.rank : Int), some r.recordedAt) := by
  simp only [observe, require_bind_eq_ok, decide_eq_true_eq, Option.all_eq_true, and_assoc]
  constructor
  · rintro ⟨hc, hr, ht, hs⟩
    cases hs
    exact ⟨hc, hr, ht, rfl⟩
  · rintro ⟨hc, hr, ht, rfl⟩
    exact ⟨hc, hr, ht, rfl⟩

private theorem checkObservations_cons_eq_ok {first : StoredIncidentRecord} :
    checkObservations (first :: records) = .ok () ↔
      ∃ s, (first :: records).foldlM (observe first.incident) (-1, none) = .ok s := by
  rw [checkObservations, bind_eq_ok]
  constructor
  · rintro ⟨s, hs, -⟩
    exact ⟨s, hs⟩
  · rintro ⟨s, hs⟩
    exact ⟨s, hs, rfl⟩

/-- What the loop has seen last. -/
private theorem getLast_of_foldlM {first : SecurityIncidentEvidence}
    {s s' : Int × Option AwareDatetime} {last : StoredIncidentRecord}
    (hlast : records.getLast? = some last) (h : records.foldlM (observe first) s = .ok s') :
    SameContext last.incident first ∧
      s' = ((last.incident.val.status.rank : Int), some last.recordedAt) := by
  obtain ⟨pre, rfl⟩ := List.getLast?_eq_some_iff.mp hlast
  rw [List.foldlM_append, bind_eq_ok] at h
  obtain ⟨t, -, h⟩ := h
  rw [List.foldlM_cons, bind_eq_ok] at h
  obtain ⟨u, hu, h⟩ := h
  cases h
  obtain ⟨⟨hcontext, -⟩, hs⟩ := observe_eq_ok.mp hu
  exact ⟨hcontext, hs⟩

/-- A single observation is taken. -/
theorem checkObservations_singleton (r : StoredIncidentRecord) :
    checkObservations [r] = .ok () := by
  rw [checkObservations_cons_eq_ok]
  refine ⟨((r.incident.val.status.rank : Int), some r.recordedAt), ?_⟩
  have hrank : (-1 : Int) ≤ r.incident.val.status.rank :=
    le_trans (by decide) (Int.natCast_nonneg _)
  have htime : ∀ time ∈ (none : Option AwareDatetime),
      time.instant ≤ r.recordedAt.instant := by simp
  rw [List.foldlM_cons, observe_eq_ok.mpr ⟨⟨.refl _, hrank, htime⟩, rfl⟩, ok_bind]
  rfl

/-- One more observation of an incident is taken when it may follow the last one. -/
theorem checkObservations_append_singleton {last : StoredIncidentRecord}
    (hlast : records.getLast? = some last) (hkey : incidentKey last = incidentKey r) :
    checkObservations (records ++ [r]) = .ok () ↔
      checkObservations records = .ok () ∧ Follows last.observation r.observation := by
  obtain ⟨first, rest, rfl⟩ := List.exists_cons_of_ne_nil
    (show records ≠ [] by rintro rfl; cases hlast)
  rw [List.cons_append, checkObservations_cons_eq_ok, checkObservations_cons_eq_ok,
    ← List.cons_append]
  constructor
  · rintro ⟨s, hs⟩
    rw [List.foldlM_append, bind_eq_ok] at hs
    obtain ⟨t, ht, hs⟩ := hs
    rw [List.foldlM_cons, bind_eq_ok] at hs
    obtain ⟨u, hu, hs⟩ := hs
    obtain ⟨hcontext, rfl⟩ := getLast_of_foldlM hlast ht
    obtain ⟨⟨hc, hrank, htime⟩, -⟩ := observe_eq_ok.mp hu
    have hsame := hcontext.trans hc.symm
    exact ⟨⟨_, ht⟩, hsame.eventId, hsame.detectedAt, hsame.actor, hsame.category,
      Int.ofNat_le.mp hrank, htime _ rfl⟩
  · rintro ⟨⟨t, ht⟩, hf⟩
    obtain ⟨hcontext, rfl⟩ := getLast_of_foldlM hlast ht
    have hsame : SameContext last.incident r.incident :=
      ⟨hkey, hf.eventId, hf.detectedAt, hf.actor, hf.category⟩
    have htime : ∀ time ∈ some last.recordedAt, time.instant ≤ r.recordedAt.instant := by
      intro time htime
      cases htime
      exact hf.recordedAt
    refine ⟨((r.incident.val.status.rank : Int), some r.recordedAt), ?_⟩
    rw [List.foldlM_append, ht, ok_bind, List.foldlM_cons, observe_eq_ok.mpr
      ⟨⟨hsame.symm.trans hcontext, Int.ofNat_le.mpr hf.status, htime⟩, rfl⟩, ok_bind]
    rfl

/-- Every incident's observations are taken. -/
def Consistent (records : List StoredIncidentRecord) : Prop :=
  ∀ k, ofKey incidentKey k records ≠ [] → checkObservations (ofKey incidentKey k records) = .ok ()

private theorem consistent_append_singleton :
    Consistent (records ++ [r]) ↔ Consistent records ∧
      Continues ((tip? incidentKey (incidentKey r) records).map StoredIncidentRecord.observation)
        r.observation := by
  have hother : ∀ k, incidentKey r ≠ k →
      ofKey incidentKey k (records ++ [r]) = ofKey incidentKey k records := by
    intro k hk
    rw [ofKey_append]
    simp [ofKey, hk]
  have hown : ofKey incidentKey (incidentKey r) (records ++ [r]) =
      ofKey incidentKey (incidentKey r) records ++ [r] := by
    rw [ofKey_append]
    simp [ofKey]
  have hgroup : checkObservations (ofKey incidentKey (incidentKey r) records ++ [r]) = .ok () ↔
      (ofKey incidentKey (incidentKey r) records ≠ [] →
        checkObservations (ofKey incidentKey (incidentKey r) records) = .ok ()) ∧
      Continues ((tip? incidentKey (incidentKey r) records).map StoredIncidentRecord.observation)
        r.observation := by
    cases htip : tip? incidentKey (incidentKey r) records with
    | none =>
      have hnil : ofKey incidentKey (incidentKey r) records = [] := List.getLast?_eq_none_iff.mp htip
      rw [hnil]
      exact iff_of_true (checkObservations_singleton r) ⟨fun h ↦ absurd rfl h, by rintro _ ⟨⟩⟩
    | some last =>
      have hne : ofKey incidentKey (incidentKey r) records ≠ [] := by
        intro hnil
        rw [tip?, hnil] at htip
        cases htip
      rw [checkObservations_append_singleton htip (mem_of_tip? htip).2]
      constructor
      · rintro ⟨hcheck, hf⟩
        refine ⟨fun _ ↦ hcheck, fun p hp ↦ ?_⟩
        cases hp
        exact hf
      · rintro ⟨hcheck, hf⟩
        exact ⟨hcheck hne, hf _ rfl⟩
  constructor
  · intro h
    have hr := h (incidentKey r)
    rw [hown] at hr
    obtain ⟨hrest, hcontinues⟩ := hgroup.mp (hr (by simp))
    refine ⟨fun k hk ↦ ?_, hcontinues⟩
    by_cases heq : incidentKey r = k
    · rw [← heq] at hk ⊢
      exact hrest hk
    · have hk' := h k
      rw [hother k heq] at hk'
      exact hk' hk
  · rintro ⟨h, hcontinues⟩ k hk
    by_cases heq : incidentKey r = k
    · rw [← heq, hown]
      exact hgroup.mpr ⟨h _, hcontinues⟩
    · rw [hother k heq] at hk ⊢
      exact h k hk

/-- The observations of every incident are taken exactly when each may follow the last one of its
incident. -/
theorem consistent_iff : Consistent records ↔
    Progressive (records.map StoredIncidentRecord.observation) := by
  induction records using List.reverseRecOn with
  | nil =>
    refine iff_of_true (fun k hk ↦ ?_) (stepwise_nil _)
    exact absurd rfl hk
  | append_singleton records r ih =>
    rw [consistent_append_singleton, ih, List.map_append, List.map_singleton, Progressive,
      Progressive, stepwise_append_singleton, tip?_map]
    rfl

/-! ### The portfolio of a history -/

/-- A portfolio of some records: every incident once, its last record current. -/
structure Investigated (records : List StoredIncidentRecord)
    (incidents : List IncidentInvestigationRecord) : Prop where
  once : (incidents.map IncidentInvestigationRecord.incidentId).Nodup
  listed : ∀ k, k ∈ incidents.map IncidentInvestigationRecord.incidentId ↔
    ∃ r ∈ records, incidentKey r = k
  current : ∀ item ∈ incidents, ∃ last,
    tip? incidentKey item.incidentId records = some last ∧ item.current = last.incident

private theorem perm_of_consolidate {incidents : List IncidentInvestigationRecord}
    (h : consolidateIncidentRecords records = .ok incidents) : ∃ investigations,
      (Grouping.groupBy incidentKey records).mapM (fun group ↦
        construct checkObservations group.2) = .ok investigations ∧
      incidents.Perm investigations := by
  obtain ⟨investigations, hmap, h⟩ := bind_eq_ok.mp h
  cases h
  exact ⟨investigations, hmap,
    (List.perm_insertionSort _ _).trans (List.perm_insertionSort _ _)⟩

/-- Consolidation succeeds exactly when every incident's observations are taken. -/
theorem consolidate_isOk_iff :
    (∃ incidents, consolidateIncidentRecords records = .ok incidents) ↔ Consistent records := by
  constructor
  · rintro ⟨incidents, h⟩ k hk
    obtain ⟨investigations, hmap, -⟩ := perm_of_consolidate h
    obtain ⟨item, -, hitem⟩ := exists_of_mapM_eq_ok hmap
      (Grouping.mem_groupBy.mpr ⟨rfl, hk⟩ : (k, ofKey incidentKey k records) ∈ _)
    have hval : item.val = ofKey incidentKey k records := construct_eq_ok.mp hitem
    rw [← hval]
    exact item.property
  · intro h
    have hmap : ∃ investigations, (Grouping.groupBy incidentKey records).mapM (fun group ↦
        construct checkObservations group.2) = .ok investigations := by
      apply exists_mapM_eq_ok
      rintro ⟨k, group⟩ hgroup
      obtain ⟨rfl, hne⟩ := Grouping.mem_groupBy.mp hgroup
      exact ⟨_, construct_of_check (h k hne)⟩
    obtain ⟨investigations, hmap⟩ := hmap
    rw [consolidateIncidentRecords, hmap, ok_bind]
    exact ⟨_, rfl⟩

/-- The identity and the current observation of the records of one incident. -/
private theorem fields_of_ofKey {item : IncidentInvestigationRecord} {k : Text}
    (h : item.val = ofKey incidentKey k records) :
    item.incidentId = k ∧ ∃ last, tip? incidentKey k records = some last ∧
      item.current = last.incident := by
  have hall : ∀ r ∈ item.val, incidentKey r = k := by
    intro r hr
    rw [h, ofKey, List.mem_filter, decide_eq_true_eq] at hr
    exact hr.2
  refine ⟨hall _ (List.head_mem item.ne_nil), _, ?_, rfl⟩
  rw [tip?, ← h]
  exact List.getLast?_eq_some_getLast item.ne_nil

/-- A portfolio lists every incident once and shows its last record. -/
theorem investigated_of_consolidate {incidents : List IncidentInvestigationRecord}
    (h : consolidateIncidentRecords records = .ok incidents) : Investigated records incidents := by
  obtain ⟨investigations, hmap, hperm⟩ := perm_of_consolidate h
  have hgroup : ∀ item ∈ investigations, ∃ k, (k, item.val) ∈ Grouping.groupBy incidentKey records := by
    intro item hitem
    obtain ⟨⟨k, group⟩, hmem, hconstruct⟩ := (mem_of_mapM_eq_ok hmap).mp hitem
    refine ⟨k, ?_⟩
    rw [construct_eq_ok.mp hconstruct]
    exact hmem
  have hids : investigations.map IncidentInvestigationRecord.incidentId =
      (Grouping.groupBy incidentKey records).keys := by
    have hheads := map_of_mapM_eq_ok (g := IncidentInvestigationRecord.incidentId)
      (k := fun group ↦ (group.2.head?.map incidentKey).getD []) (fun group item hitem ↦ by
        rw [← construct_eq_ok.mp hitem, List.head?_eq_some_head item.ne_nil]
        rfl) hmap
    rw [hheads, Dict.keys]
    apply List.map_congr_left
    rintro ⟨k, group⟩ hmem
    obtain ⟨rfl, hne⟩ := Grouping.mem_groupBy.mp hmem
    have hhead : incidentKey ((ofKey incidentKey k records).head hne) = k := by
      have hmem := List.head_mem hne
      simp only [ofKey, List.mem_filter, decide_eq_true_eq] at hmem
      exact hmem.2
    rw [List.head?_eq_some_head hne]
    exact hhead
  have hperm' := hperm.map IncidentInvestigationRecord.incidentId
  rw [hids] at hperm'
  refine ⟨hperm'.nodup_iff.mpr (Grouping.distinct_groupBy records), fun k ↦ ?_,
    fun item hitem ↦ ?_⟩
  · rw [hperm'.mem_iff, Grouping.mem_keys_groupBy]
  · obtain ⟨k, hk⟩ := hgroup item (hperm.mem_iff.mp hitem)
    obtain ⟨hid, hcurrent⟩ := fields_of_ofKey (Grouping.mem_groupBy.mp hk).1
    rw [hid]
    exact hcurrent

/-! ### Investigable stores -/

/-- The investigation of some records succeeds for every query, the detail for every incident:
each incident is listed once, its last record is current and can be rendered. -/
structure Investigable (records : List StoredIncidentRecord) : Prop where
  portfolio : ∀ query, ∃ projection, buildIncidentInvestigation records query = .ok projection ∧
    Investigated records projection.incidents ∧
      ∀ item ∈ projection.incidents, ∃ verified, forensicContinuity item.current = .ok verified
  details : ∀ r ∈ records, ∃ detail last, buildIncidentDetail records (incidentKey r) = .ok detail ∧
    detail.investigation.incidentId = incidentKey r ∧
      tip? incidentKey (incidentKey r) records = some last ∧
        detail.investigation.current = last.incident

/-- An append that returns leaves records that can be investigated, the records before it and the
new one; an append that raises leaves the file as it was. -/
def KeepsInvestigable (file : Option Bytes) (call : Call) : Prop :=
  match append file call with
  | (.error _, after) => after = file
  | (.ok record, after) => ∃ before stored written, readUnlocked file = .ok before ∧
      readUnlocked after = .ok (before ++ [stored]) ∧ record.incident = call.incident ∧
        record.toDict = .ok written ∧ stored.toDict = .ok written ∧
          Investigable (before ++ [stored])

/-- The incidents of a sequence of appends that the store takes. -/
def taken (calls : List Call) : List Call := calls.filter fun c ↦ decide (Storable c.incident)

private theorem taken_append_of_storable {calls : List Call} {c : Call}
    (hs : Storable c.incident) : taken (calls ++ [c]) = taken calls ++ [c] := by
  have hone : [c].filter (fun c ↦ decide (Storable c.incident)) = [c] :=
    List.filter_eq_self.mpr (by simpa using hs)
  rw [taken, List.filter_append, hone, taken]

private theorem taken_append_of_not_storable {calls : List Call} {c : Call}
    (hs : ¬Storable c.incident) : taken (calls ++ [c]) = taken calls := by
  have hnone : [c].filter (fun c ↦ decide (Storable c.incident)) = [] :=
    List.filter_eq_nil_iff.mpr (by simpa using hs)
  rw [taken, List.filter_append, hnone, List.append_nil, taken]

/-- The observation an append hands over. -/
def Call.observation (c : Call) : Observation := Incident.observation c.incident c.now.instant

private theorem isSha256_incidentId (i : SecurityIncidentEvidence) :
    isSha256 i.val.incidentId = true := by
  have hderived := deriveIncidentId_of_accepted i
  simp only [deriveIncidentId, bind_eq_ok] at hderived
  obtain ⟨_, -, _, -, _, -, _, -, content, -, hid⟩ := hderived
  rw [← Except.ok.inj hid]
  exact isSha256_sha256 content

private theorem observation_stored (i : SecurityIncidentEvidence) (t : Int) :
    observation i.stored t = observation i t := by
  cases hd : i.val.digest with
  | ok d =>
    rw [observation, SecurityIncidentEvidence.val_stored hd, observation]
    simp [SecurityIncidentEvidenceFields.observed]
  | error e =>
    rw [SecurityIncidentEvidence.stored]
    split
    · next d hd' => cases hd.symm.trans hd'
    · rfl

private theorem forensicContinuity_stored {i : SecurityIncidentEvidence} (h : Storable i) :
    ∃ verified, forensicContinuity i.stored = .ok verified := by
  obtain ⟨hverify, d, hd⟩ := storable_iff.mp h
  rw [forensicContinuity, SecurityIncidentEvidence.val_stored hd,
    SecurityIncidentEvidenceFields.verifyForensicContinuity_observed]
  by_cases hs : i.val.status = .reverified
  · rw [verifyOnAppend, if_pos hs] at hverify
    rw [hverify]
    split
    · exact ⟨_, rfl⟩
    · exact ⟨_, rfl⟩
  · exact ⟨false, if_pos hs⟩

/-- Records can be investigated exactly when each may follow the last one of its incident. -/
theorem investigable_iff (hforensic : ∀ r ∈ records,
    ∃ verified, forensicContinuity r.incident = .ok verified) :
    Investigable records ↔ Progressive (records.map StoredIncidentRecord.observation) := by
  rw [← consistent_iff, ← consolidate_isOk_iff]
  constructor
  · intro h
    obtain ⟨projection, hprojection, -⟩ := h.portfolio
      ⟨⟨none, none, none, 50, 0⟩, by decide⟩
    obtain ⟨incidents, hincidents, -⟩ := bind_eq_ok.mp hprojection
    exact ⟨incidents, hincidents⟩
  · rintro ⟨incidents, hincidents⟩
    have hinvestigated := investigated_of_consolidate hincidents
    constructor
    · intro query
      refine ⟨⟨incidents, query, records.length⟩, ?_, hinvestigated, fun item hitem ↦ ?_⟩
      · rw [buildIncidentInvestigation, hincidents]
        rfl
      · obtain ⟨last, hlast, hcurrent⟩ := hinvestigated.current item hitem
        rw [hcurrent]
        exact hforensic last (mem_of_tip? hlast).1
    · intro r hr
      have hlisted := (hinvestigated.listed (incidentKey r)).mpr ⟨r, hr, rfl⟩
      obtain ⟨item, hitem, hid⟩ := List.mem_map.mp hlisted
      obtain ⟨found, hfound⟩ : ∃ found, incidents.find? (fun item : IncidentInvestigationRecord ↦
          decide (item.incidentId = incidentKey r)) = some found := by
        rw [← Option.isSome_iff_exists, List.find?_isSome]
        exact ⟨item, hitem, decide_eq_true hid⟩
      have hfid : found.incidentId = incidentKey r := by simpa using List.find?_some hfound
      obtain ⟨last, hlast, hcurrent⟩ :=
        hinvestigated.current found (List.mem_of_find?_eq_some hfound)
      refine ⟨⟨found⟩, last, ?_, hfid, hfid ▸ hlast, hcurrent⟩
      rw [buildIncidentDetail, show isSha256 (incidentKey r) = true from
        isSha256_incidentId r.incident, require_true, ok_bind, hincidents, ok_bind, hfound]
      rfl

/-- The file after some appends holds the incidents taken, in order. -/
private theorem exists_represents (calls : List Call) : ∃ h,
    Represents (Calls.run append none calls) h ∧
      h.map (fun r ↦ (r.incident, r.recordedAt)) =
        (taken calls).map fun c ↦ (c.incident, .ofUtc c.now) := by
  induction calls using List.reverseRecOn with
  | nil => exact ⟨[], represents_none, rfl⟩
  | append_singleton calls c ih =>
    obtain ⟨h, hr, hmap⟩ := ih
    have hrun : Calls.run append none (calls ++ [c]) =
        (append (Calls.run append none calls) c).2 := by
      rw [Calls.run_append]
      rfl
    by_cases hs : Storable c.incident
    · obtain ⟨record, -, hr', hincident, htime⟩ := append_of_storable hr hs
      refine ⟨h ++ [record], by rw [hrun]; exact hr', ?_⟩
      rw [taken_append_of_storable hs, List.map_append, List.map_append, hmap]
      simp [hincident, htime]
    · refine ⟨h, ?_, ?_⟩
      · cases happend : (append (Calls.run append none calls) c).1 with
        | ok record => exact absurd (storable_of_append happend) hs
        | error e =>
          rw [hrun, append_error happend]
          exact hr
      · rw [hmap, taken_append_of_not_storable hs]

/-- An append keeps the store investigable exactly when its incident, if taken, follows the last
one of its identity. -/
theorem keepsInvestigable_iff {file : Option Bytes} {h : List StoredIncidentRecord}
    (hr : Represents file h) (hstorable : ∀ r ∈ h, Storable r.incident) (call : Call) :
    KeepsInvestigable file call ↔ (Storable call.incident →
      Progressive (h.map StoredIncidentRecord.observation ++ [call.observation])) := by
  by_cases hs : Storable call.incident
  · obtain ⟨record, hok, hr', hincident, htime⟩ := append_of_storable hr hs
    have happend : append file call = (.ok record, (append file call).2) := Prod.ext hok rfl
    have hbefore := readUnlocked_represents hr
    have hafter := readUnlocked_represents hr'
    rw [List.map_append, List.map_singleton] at hafter
    have hforensic : ∀ r ∈ h.map StoredIncidentRecord.stored ++ [record.stored],
        ∃ verified, forensicContinuity r.incident = .ok verified := by
      rw [← List.map_singleton (f := StoredIncidentRecord.stored), ← List.map_append]
      intro s hmem
      obtain ⟨r, hr, rfl⟩ := List.mem_map.mp hmem
      apply forensicContinuity_stored
      rcases List.mem_append.mp hr with hr | hr
      · exact hstorable r hr
      · rw [List.mem_singleton.mp hr, hincident]
        exact hs
    have hobservations : (h.map StoredIncidentRecord.stored ++ [record.stored]).map
        StoredIncidentRecord.observation =
          h.map StoredIncidentRecord.observation ++ [call.observation] := by
      rw [List.map_append, List.map_map, List.map_singleton, Call.observation, ← hincident,
        ← AwareDatetime.instant_ofUtc call.now, ← htime]
      congr 1
      · exact List.map_congr_left fun r _ ↦ observation_stored _ _
      · rw [StoredIncidentRecord.observation]
        exact congrArg (fun o ↦ [o]) (observation_stored _ _)
    have hiff := investigable_iff hforensic
    rw [hobservations] at hiff
    obtain ⟨written, hwritten⟩ := exists_toDict hr'
    rw [KeepsInvestigable, happend]
    constructor
    · rintro ⟨before, stored, written, hbefore', hafter', -, -, -, hinvestigable⟩ -
      cases hbefore.symm.trans hbefore'
      have heq := hafter.symm.trans hafter'
      rw [Except.ok.injEq] at heq
      rw [← heq] at hinvestigable
      exact hiff.mp hinvestigable
    · intro hprogressive
      exact ⟨_, record.stored, written, hbefore, hafter, hincident, hwritten,
        record.toDict_stored.trans hwritten, hiff.mpr (hprogressive hs)⟩
  · refine iff_of_true ?_ fun h ↦ absurd h hs
    cases happend : (append file call).1 with
    | ok record => exact absurd (storable_of_append happend) hs
    | error e =>
      rw [KeepsInvestigable, show append file call = (.error e, file) from
        Prod.ext happend (append_error happend)]

/-- A reference to preserved evidence. -/
private def preservedRef : IncidentEvidenceReference :=
  ⟨⟨lit "evidence", lit "e", sha256 [], none⟩, by decide +kernel⟩

private def midnight : Datetime := .of (.of 2026 1 1) 0

/-- One incident at some status. -/
private def incidentFields (status : IncidentStatus) : SecurityIncidentEvidenceFields where
  incidentId := ((deriveIncidentId (lit "e") (.ofUtc midnight) (lit "a") (lit "c")).toOption).getD []
  eventId := lit "e"
  detectedAt := .ofUtc midnight
  actor := lit "a"
  category := lit "c"
  status := status
  evidenceRefs := [preservedRef]
  affectedStates := []
  securityEventDigests := []
  uncertainty := []
  keyCompromise := none
  recovery := none
  postRecovery := none
  incidentDigest := []

/-- The incident observed as contained. -/
private def contained : Call := ⟨⟨incidentFields .contained, by decide +kernel⟩, midnight⟩

/-- The incident observed as detected. -/
private def detected : Call := ⟨⟨incidentFields .detected, by decide +kernel⟩, midnight⟩

end StateWake.Incident
