import Mathlib.Data.List.ReduceOption
import StateWake.Base.Paging
import StateWake.Lifecycle.ReceiptStore
import StateWake.Lifecycle.RecordIndex

/-!
# Queries of the index

`workspace/sqlite_repository.py:240–338`, `workspace/models.py:141–229` and
`workspace/integration.py:159–168, 518–557`. The pages of a query, read from the first on by
`next_offset`, are the indexed records that satisfy its filters, newest first and each once, with
one count on every page.
-/

namespace StateWake.Lifecycle.RecordQuery

open StateWake.Base Text Utils RecordIndex JsonEvidenceReceiptStore

/-! ### Queries and pages -/

/-- `WorkspaceRecordQuery`, `workspace/models.py:141–185`. -/
structure WorkspaceRecordQuery where
  recordId : Option Text := none
  runId : Option Text := none
  sourceEventId : Option Text := none
  producerId : Option Text := none
  verificationStatus : Option Text := none
  reliabilityState : Option Text := none
  sensitivity : Option Text := none
  maxSensitivity : Option Text := none
  capturedFrom : Option AwareDatetime := none
  capturedTo : Option AwareDatetime := none
  limit : Nat := 100
  offset : Nat := 0
  stated : ∀ value ∈ [recordId, runId, sourceEventId, producerId, verificationStatus,
    reliabilityState, sensitivity, maxSensitivity].reduceOption, blank value = false
  window : ∀ start ∈ capturedFrom, ∀ stop ∈ capturedTo, start.instant < stop.instant
  limited : 1 ≤ limit ∧ limit ≤ 1000

/-- `WorkspaceQueryPage`, `workspace/models.py:210–229`. -/
structure WorkspaceQueryPage where
  records : List WorkspaceRecord
  totalCount : Nat
  limit : Nat
  offset : Nat

namespace WorkspaceQueryPage

/-- `has_more`, `workspace/models.py:219–222`. -/
def hasMore (page : WorkspaceQueryPage) : Bool :=
  page.offset + page.records.length < page.totalCount

/-- `next_offset`, `workspace/models.py:224–229`. -/
def nextOffset (page : WorkspaceQueryPage) : Option Nat :=
  if page.hasMore then some (page.offset + page.limit) else none

end WorkspaceQueryPage

/-- The sensitivity a name denotes in `SENSITIVITY_ORDER`, `domain/governance.py:11`. -/
def sensitivityNamed (value : Text) : Option Sensitivity :=
  [.public, .internal, .confidential, .restricted].find? fun s ↦ decide (s.text = value)

/-- `_validate_sensitivity`, `workspace/sqlite_repository.py:311–315`. -/
def validateSensitivity (value : Text) : Except PyError Unit :=
  require ⟨.valueError, lit "unsupported sensitivity: " ++ value⟩ (sensitivityNamed value).isSome

/-- The sensitivities up to a ceiling, `workspace/sqlite_repository.py:272–276`. -/
def allowed (ceiling : Sensitivity) : List Text :=
  ([.public, .internal, .confidential, .restricted].filter fun s ↦
    decide (s.rank ≤ ceiling.rank)).map Sensitivity.text

/-- The condition `column = ?` of a filter, where it is given; no value equals `NULL`. -/
def equals (filter column : Option Text) : Bool :=
  filter.all fun value ↦ decide (column = some value)

/-- The `WHERE` clause, `workspace/sqlite_repository.py:244–285`. -/
def selects (q : WorkspaceRecordQuery) (capturedFrom capturedTo : Option Text) (row : RecordRow) :
    Bool :=
  equals q.recordId (some row.recordId) && equals q.runId row.runId &&
    equals q.sourceEventId row.sourceEventId && equals q.producerId (some row.producerId) &&
    equals q.verificationStatus row.verificationStatus &&
    equals q.reliabilityState row.reliabilityState &&
    equals q.sensitivity (some row.sensitivity) &&
    (q.maxSensitivity.bind sensitivityNamed).all
      (fun ceiling ↦ decide (row.sensitivity ∈ allowed ceiling)) &&
    capturedFrom.all (fun start ↦ decide (start ≤ row.capturedAt)) &&
    capturedTo.all (fun stop ↦ decide (row.capturedAt < stop))

/-- `query_records`, `workspace/sqlite_repository.py:240–309`. -/
def queryRecords (s : Workspace) (q : WorkspaceRecordQuery) :
    Except PyError (List WorkspaceRecordIndexEntry × Nat) := do
  q.sensitivity.toList.forM validateSensitivity
  q.maxSensitivity.toList.forM validateSensitivity
  let capturedFrom ← q.capturedFrom.mapM AwareDatetime.utcText
  let capturedTo ← q.capturedTo.mapM AwareDatetime.utcText
  bindTexts [q.recordId, q.runId, q.sourceEventId, q.producerId, q.verificationStatus,
    q.reliabilityState].reduceOption
  let selected := s.orderedRows.filter (selects q capturedFrom capturedTo)
  let entries ← ((selected.drop q.offset).take q.limit).mapM Workspace.entryFromRow
  pure (entries, selected.length)

/-- A record with the checks of its constructor, `workspace/models.py:34–56`. -/
def workspaceRecord (recordId : Text) (receipt : ExternalEvidenceReceipt)
    (createdAt : AwareDatetime) (sensitivity policyId : Text)
    (verificationStatus reliabilityState : Option Text) : Except PyError WorkspaceRecord :=
  if hid : blank recordId = false then
    if hreceipt : recordId = receipt.receiptId then
      if hsensitivity : blank sensitivity = false then
        if hpolicy : blank policyId = false then
          .ok ⟨receipt, createdAt, sensitivity, policyId, verificationStatus, reliabilityState,
            hreceipt ▸ hid, hsensitivity, hpolicy⟩
        else valueError (lit "policy_id must not be blank.")
      else valueError (lit "sensitivity must not be blank.")
    else valueError (lit "record_id must match receipt_id.")
  else valueError (lit "record_id must not be blank.")

/-- `_hydrate`, `workspace/integration.py:518–557`. -/
def hydrate (s : Workspace) (entry : WorkspaceRecordIndexEntry) :
    Except PyError WorkspaceRecord := do
  let receipt ← s.hydrate entry
  workspaceRecord entry.row.recordId receipt (.ofUtc entry.createdAt) entry.row.sensitivity
    entry.row.policyId entry.row.verificationStatus entry.row.reliabilityState

/-- `query`, `workspace/integration.py:159–168`. -/
def query (s : Workspace) (q : WorkspaceRecordQuery) : Except PyError WorkspaceQueryPage := do
  let (entries, total) ← queryRecords s q
  let records ← entries.mapM (hydrate s)
  pure ⟨records, total, q.limit, q.offset⟩

/-! ### Registering records -/

/-- A record whose receipt its constructor accepted, with metadata that is a dictionary. -/
abbrev ConstructedRecord : Type :=
  {record : WorkspaceRecord // ∃ captured, Constructed record.receipt captured}

/-- The receipt of a record is put, and then the record is indexed,
`adapters/evidence_ingestion.py:161–214` and `workspace/integration.py:496–516`. -/
def register (s : Workspace) (record : ConstructedRecord) : Workspace :=
  match s.files.receipts.put record.val.receipt with
  | .error _ => s
  | .ok receipts => step { s with files := { s.files with receipts } } record.val

/-- The workspace after a sequence of registrations. -/
def registered (records : List ConstructedRecord) : Workspace :=
  records.foldl register Workspace.empty

/-! ### What pages are for -/

/-- Two records are equal as Python compares them. -/
structure Same (a b : WorkspaceRecord) : Prop where
  receipt : Equal a.receipt b.receipt
  createdAt : a.createdAt.instant = b.createdAt.instant
  fields : a.sensitivity = b.sensitivity ∧ a.policyId = b.policyId ∧
    a.verificationStatus = b.verificationStatus ∧ a.reliabilityState = b.reliabilityState

/-- A record is in the index, and its receipt in the store. -/
structure Indexed (s : Workspace) (record : WorkspaceRecord) : Prop where
  row : ∃ row, recordValues record = .ok row ∧
    s.records.get? record.receipt.receiptId = some row
  receipt : ∃ r, Stores s.files.receipts r ∧ Equal r record.receipt

/-- A record satisfies every filter of a query. -/
structure Matches (q : WorkspaceRecordQuery) (record : WorkspaceRecord) : Prop where
  recordId : ∀ value ∈ q.recordId, record.receipt.receiptId = value
  runId : ∀ value ∈ q.runId, record.receipt.runId = some value
  sourceEventId : ∀ value ∈ q.sourceEventId, record.receipt.sourceEventId = some value
  producerId : ∀ value ∈ q.producerId, record.receipt.producerId = value
  verificationStatus : ∀ value ∈ q.verificationStatus, record.verificationStatus = some value
  reliabilityState : ∀ value ∈ q.reliabilityState, record.reliabilityState = some value
  sensitivity : ∀ value ∈ q.sensitivity, record.sensitivity = value
  ceiling : ∀ value ∈ q.maxSensitivity, ∃ level highest : Sensitivity,
    level.text = record.sensitivity ∧ highest.text = value ∧ level.rank ≤ highest.rank
  capturedFrom : ∀ start ∈ q.capturedFrom, start.instant ≤ record.receipt.capturedAt.instant
  capturedTo : ∀ stop ∈ q.capturedTo, record.receipt.capturedAt.instant < stop.instant

/-- One record comes before another: it was captured later, or at the same instant and has the
larger identity. -/
def Before (a b : WorkspaceRecord) : Prop :=
  b.receipt.capturedAt.instant < a.receipt.capturedAt.instant ∨
    b.receipt.capturedAt.instant = a.receipt.capturedAt.instant ∧
      b.receipt.receiptId < a.receipt.receiptId

/-- The pages of a query are exact: read from the first on they are the records of the index that
satisfy the filters, in order and each once, and every page counts them. -/
structure Exact (s : Workspace) (q : WorkspaceRecordQuery) (pages : List WorkspaceQueryPage) :
    Prop where
  walked : Paging.Walk (fun offset ↦ query s { q with offset }) WorkspaceQueryPage.nextOffset 0
    pages
  ordered : (pages.flatMap WorkspaceQueryPage.records).Pairwise Before
  sound : ∀ record ∈ pages.flatMap WorkspaceQueryPage.records,
    Indexed s record ∧ Matches q record
  complete : ∀ record, Indexed s record → Matches q record →
    ∃ found ∈ pages.flatMap WorkspaceQueryPage.records, Same found record
  counted : ∀ page ∈ pages,
    page.totalCount = (pages.flatMap WorkspaceQueryPage.records).length

namespace WorkspaceRecordQuery

/-- The sensitivities of the filters are sensitivities. -/
structure Supported (q : WorkspaceRecordQuery) : Prop where
  sensitivity : ∀ value ∈ q.sensitivity, ∃ level : Sensitivity, level.text = value
  maxSensitivity : ∀ value ∈ q.maxSensitivity, ∃ level : Sensitivity, level.text = value

/-- The values of the filters can be given to the database: the times have a time in UTC, and the
texts are UTF-8. -/
structure Bindable (q : WorkspaceRecordQuery) : Prop where
  capturedFrom : ∀ start ∈ q.capturedFrom, ∃ t, start.toUtc = .ok t
  capturedTo : ∀ stop ∈ q.capturedTo, ∃ t, stop.toUtc = .ok t
  texts : ∀ value ∈ [q.recordId, q.runId, q.sourceEventId, q.producerId, q.verificationStatus,
    q.reliabilityState].reduceOption, SurrogateFree value

end WorkspaceRecordQuery

/-! ### Putting a receipt -/

variable {s : Workspace}

/-- A receipt that is put is in the store, and nothing that was there is gone. -/
theorem put_spec {files receipts : JsonEvidenceReceiptStore} (hkept : Kept files)
    {r : ExternalEvidenceReceipt} (hr : ∃ captured, Constructed r captured)
    (h : files.put r = .ok receipts) : Kept receipts ∧ Grows files receipts ∧
      ∃ r', Stores receipts r' ∧ Equal r' r := by
  have hstep (c : JsonEvidenceReceiptStore × StorePhase)
      (hc : Kept c.1 ∧ Grows files c.1 ∧ Stands c.1 (.put ⟨r, hr⟩) c.2) :
      Kept (nextPut r c.1 c.2).1 ∧ Grows files (nextPut r c.1 c.2).1 ∧
        Stands (nextPut r c.1 c.2).1 (.put ⟨r, hr⟩) (nextPut r c.1 c.2).2 := by
    obtain ⟨hkept, hgrows, hstands⟩ := hc
    exact ⟨kept_next hkept (.put ⟨r, hr⟩) c.2,
      hgrows.trans (nextCall_grows (.put ⟨r, hr⟩) c.1 c.2), (stands_nextPut hkept ⟨r, hr⟩ hstands).1⟩
  have hend := Function.Iterate.rec (fun c : JsonEvidenceReceiptStore × StorePhase ↦
    Kept c.1 ∧ Grows files c.1 ∧ Stands c.1 (.put ⟨r, hr⟩) c.2) (a := (files, .ready))
    ⟨hkept, Grows.refl files, trivial⟩ hstep 3
  rw [nextPut_alone, h] at hend
  obtain ⟨hkept', hgrows, r', hr', -, hequal⟩ := hend
  exact ⟨hkept', hgrows, r', hr', hequal⟩

/-! ### What registering keeps -/

/-- Every row is that of a record whose receipt is in the store. -/
structure Registered (s : Workspace) : Prop where
  kept : Kept s.files.receipts
  distinct : s.records.Distinct
  stored : ∀ recordId row, s.records.get? recordId = some row → ∃ record : WorkspaceRecord,
    recordValues record = .ok row ∧ record.receipt.receiptId = recordId ∧
      Stores s.files.receipts record.receipt

theorem registered_empty : Registered Workspace.empty := ⟨nofun, List.nodup_nil, nofun⟩

/-- The row of a record with its times in UTC. -/
def recordRow (record : WorkspaceRecord) (captured created : Datetime) : RecordRow :=
  let r := record.receipt
  ⟨r.receiptId, r.receiptId, r.artifactDigest, r.artifactSize, r.producerId, r.producerType,
    r.producerVersion, r.sourceRef, r.sourceEventId, r.runId, isoformat captured,
    record.sensitivity, record.policyId, record.verificationStatus, record.reliabilityState,
    isoformat created⟩

theorem recordValues_eq_ok {record : WorkspaceRecord} {row : RecordRow} :
    recordValues record = .ok row ↔ ∃ captured created,
      record.receipt.capturedAt.toUtc = .ok captured ∧ record.createdAt.toUtc = .ok created ∧
        row = recordRow record captured created := by
  simp only [recordValues, bind_eq_ok]
  constructor
  · rintro ⟨captured, hcaptured, created, hcreated, ⟨⟩⟩
    exact ⟨captured, created, hcaptured, hcreated, rfl⟩
  · rintro ⟨captured, created, hcaptured, hcreated, rfl⟩
    exact ⟨captured, hcaptured, created, hcreated, rfl⟩

/-- Records with equal receipts have one row. -/
theorem recordValues_of_equal {record : WorkspaceRecord} {r : ExternalEvidenceReceipt}
    {captured captured' : Datetime} (h : Equal r record.receipt)
    (hr : r.capturedAt.toUtc = .ok captured)
    (hrecord : record.receipt.capturedAt.toUtc = .ok captured') :
    recordValues { record with receipt := r, identified := h.receiptId ▸ record.identified } =
      recordValues record := by
  have hcaptured : captured = captured' := by
    apply Datetime.instant_injective
    rw [AwareDatetime.instant_toUtc hr, h.capturedAt, AwareDatetime.instant_toUtc hrecord]
  have hfields := h.fields
  simp only [recordValues, hr, hrecord, ok_bind, hcaptured, h.receiptId]
  rw [← hfields]

/-- Registering a record keeps every row that of a record whose receipt is in the store. -/
theorem Registered.register (hs : Registered s) (record : ConstructedRecord) :
    Registered (register s record) := by
  rw [RecordQuery.register]
  cases hput : s.files.receipts.put record.val.receipt with
  | error e => exact hs
  | ok receipts =>
    obtain ⟨hkept, hgrows, r, hr, hequal⟩ := put_spec hs.kept record.property hput
    have hstored : ∀ recordId row, s.records.get? recordId = some row →
        ∃ record : WorkspaceRecord, recordValues record = .ok row ∧
          record.receipt.receiptId = recordId ∧ Stores receipts record.receipt := by
      intro recordId row hrow
      obtain ⟨record', hvalues, hid, hr'⟩ := hs.stored recordId row hrow
      exact ⟨record', hvalues, hid, hr'.mono hgrows⟩
    dsimp only
    rw [step]
    cases hindex : indexRecord { s with files := { s.files with receipts } } record.val with
    | error e => exact ⟨hkept, hs.distinct, hstored⟩
    | ok s' =>
      obtain ⟨row, -, hvalues, -, hindexed⟩ := indexRecord_eq_ok hindex
      obtain ⟨hfiles, -, -, hrecords⟩ := Workspace.indexRecord_spec hindexed
      constructor
      · rw [hfiles]
        exact hkept
      · rcases hrecords with heq | ⟨-, heq⟩
        · rw [heq]
          exact hs.distinct
        · rw [heq]
          exact hs.distinct.set _ _
      · intro recordId row' hrow'
        rw [hfiles]
        rcases indexRecord_adds hindexed hrow' with hrow' | ⟨rfl, rfl⟩
        · exact hstored recordId row' hrow'
        · obtain ⟨captured, hconstructed⟩ := record.property
          have hstores := hr
          obtain ⟨captured', -, hr', -⟩ := hr
          refine ⟨{ record.val with
            receipt := r, identified := hequal.receiptId ▸ record.val.identified }, ?_, ?_, hstores⟩
          · rw [recordValues_of_equal hequal hr'.captured hconstructed.captured, hvalues]
          · obtain ⟨captured, created, -, -, rfl⟩ := recordValues_eq_ok.mp hvalues
            exact hequal.receiptId

/-- A record that is registered without an exception is in the index. -/
theorem indexed_register (hs : Registered s) {record : ConstructedRecord}
    {receipts : JsonEvidenceReceiptStore} {s' : Workspace}
    (hput : s.files.receipts.put record.val.receipt = .ok receipts)
    (hindex : indexRecord { s with files := { s.files with receipts } } record.val = .ok s') :
    Indexed (register s record) record.val := by
  obtain ⟨row, -, hvalues, -, hindexed⟩ := indexRecord_eq_ok hindex
  obtain ⟨hfiles, -, -, -⟩ := Workspace.indexRecord_spec hindexed
  obtain ⟨-, -, hget, -⟩ := indexRecord_spec hindexed
  rw [RecordQuery.register, hput]
  dsimp only
  rw [step, hindex]
  constructor
  · refine ⟨row, hvalues, ?_⟩
    obtain ⟨captured, created, -, -, rfl⟩ := recordValues_eq_ok.mp hvalues
    exact hget
  · dsimp only
    rw [hfiles]
    exact (put_spec hs.kept record.property hput).2.2

/-- It stays there. -/
theorem Indexed.register (hs : Registered s) {record : WorkspaceRecord} (h : Indexed s record)
    (record' : ConstructedRecord) : Indexed (register s record') record := by
  rw [RecordQuery.register]
  cases hput : s.files.receipts.put record'.val.receipt with
  | error e => exact h
  | ok receipts =>
    obtain ⟨-, hgrows, -⟩ := put_spec hs.kept record'.property hput
    obtain ⟨⟨row, hvalues, hget⟩, r, hr, hequal⟩ := h
    dsimp only
    refine ⟨⟨row, hvalues, step_keeps record'.val hget⟩, r, ?_, hequal⟩
    rw [step]
    cases hindex : indexRecord { s with files := { s.files with receipts } } record'.val with
    | error e => exact hr.mono hgrows
    | ok s' =>
      obtain ⟨_, _, -, -, hindexed⟩ := indexRecord_eq_ok hindex
      dsimp only
      rw [(Workspace.indexRecord_spec hindexed).1]
      exact hr.mono hgrows

/-- Every sequence of registrations. -/
theorem registered_registered (records : List ConstructedRecord) :
    Registered (registered records) := by
  have hrun (s : Workspace) (hs : Registered s) : Registered (records.foldl register s) := by
    induction records generalizing s with
    | nil => exact hs
    | cons record records ih => exact ih _ (hs.register record)
  exact hrun _ registered_empty

/-! ### Reading a row -/

/-- What a row is read as. -/
structure Reads (s : Workspace) (row : RecordRow) (record : WorkspaceRecord) : Prop where
  values : recordValues record = .ok row
  receipt : ∃ r, Stores s.files.receipts r ∧ Equal r record.receipt

/-- Every row is read as a record of it. -/
theorem exists_read (hs : Registered s) {recordId : Text} {row : RecordRow}
    (hrow : s.records.get? recordId = some row) : ∃ entry record,
      Workspace.entryFromRow row = .ok entry ∧ hydrate s entry = .ok record ∧
        Reads s row record := by
  obtain ⟨record, hvalues, rfl, hstores⟩ := hs.stored recordId row hrow
  obtain ⟨text, captured, hr, hget, hparse⟩ := hstores.parse
  obtain ⟨captured', created, hcaptured, hcreated, rfl⟩ := recordValues_eq_ok.mp hvalues
  rw [hr.captured] at hcaptured
  cases hcaptured
  have hstored : (record.receipt.stored captured).capturedAt.toUtc = .ok captured :=
    AwareDatetime.toUtc_ofUtc captured
  have hget' : s.files.receipts.get record.receipt.receiptId =
      .ok (record.receipt.stored captured) := by
    rw [JsonEvidenceReceiptStore.get, hget, orRaise_some, ok_bind, hparse]
  have hreceipt : s.hydrate ⟨recordRow record captured created, captured, created⟩ =
      .ok (record.receipt.stored captured) := by
    rw [Workspace.hydrate, recordRow, hget', ok_bind, hstored, ok_bind, decide_eq_true,
      require_true, ok_bind]
    · rfl
    · exact ⟨rfl, rfl, rfl, rfl, rfl, rfl, rfl, rfl, rfl, rfl⟩
  refine ⟨⟨recordRow record captured created, captured, created⟩, { record with
    receipt := record.receipt.stored captured, createdAt := .ofUtc created }, ?_, ?_, ?_,
    record.receipt, hstores, ?_⟩
  · simp only [Workspace.entryFromRow, recordRow, parseDatetime_isoformat, ok_bind]
    rfl
  · rw [hydrate, hreceipt, ok_bind]
    exact (dif_pos record.identified).trans ((dif_pos rfl).trans
      ((dif_pos record.classified).trans (dif_pos record.governed)))
  · exact recordValues_eq_ok.mpr
      ⟨captured, created, hstored, AwareDatetime.toUtc_ofUtc created, rfl⟩
  · exact (equal_stored hr).symm

/-! ### Filters -/

/-- A name denotes the sensitivity it is the name of. -/
theorem sensitivityNamed_eq_some {value : Text} {level : Sensitivity} :
    sensitivityNamed value = some level ↔ level.text = value := by
  constructor
  · intro h
    have hfound := List.find?_some h
    exact of_decide_eq_true hfound
  · rintro rfl
    cases level <;> decide

theorem mem_allowed {value : Text} {ceiling : Sensitivity} :
    value ∈ allowed ceiling ↔ ∃ level : Sensitivity, level.text = value ∧
      level.rank ≤ ceiling.rank := by
  simp only [allowed, List.mem_map, List.mem_filter, decide_eq_true_eq]
  constructor
  · rintro ⟨level, ⟨-, hrank⟩, htext⟩
    exact ⟨level, htext, hrank⟩
  · rintro ⟨level, htext, hrank⟩
    refine ⟨level, ⟨?_, hrank⟩, htext⟩
    cases level <;> decide

theorem equals_eq_true {filter column : Option Text} :
    equals filter column = true ↔ ∀ value ∈ filter, column = some value := by
  cases filter <;> simp [equals]

/-- The condition on a time that is written in UTC is one on its instant. -/
theorem all_utcText_iff {bound : Option AwareDatetime} {text : Option Text} {p : Text → Bool}
    {P : Int → Prop} (h : bound.mapM AwareDatetime.utcText = .ok text)
    (hp : ∀ t : Datetime, p (isoformat t) = true ↔ P t.instant) :
    text.all p = true ↔ ∀ t ∈ bound, P t.instant := by
  cases bound with
  | none =>
    cases h
    simp
  | some t =>
    simp only [Option.mapM_some, AwareDatetime.utcText] at h
    cases hutc : t.toUtc with
    | error e =>
      rw [hutc] at h
      cases h
    | ok u =>
      rw [hutc] at h
      cases h
      simp only [Option.all_some, hp, Option.mem_def, Option.some.injEq, forall_eq',
        AwareDatetime.instant_toUtc hutc]

/-- The clause selects the rows of the records that satisfy the filters. -/
theorem selects_iff {q : WorkspaceRecordQuery} (hq : q.Supported)
    {capturedFrom capturedTo : Option Text}
    (hfrom : q.capturedFrom.mapM AwareDatetime.utcText = .ok capturedFrom)
    (hto : q.capturedTo.mapM AwareDatetime.utcText = .ok capturedTo) {record : WorkspaceRecord}
    {row : RecordRow} (hrow : recordValues record = .ok row) :
    selects q capturedFrom capturedTo row = true ↔ Matches q record := by
  obtain ⟨captured, created, hcaptured, -, rfl⟩ := recordValues_eq_ok.mp hrow
  have hinstant := AwareDatetime.instant_toUtc hcaptured
  have hstart : capturedFrom.all (fun start ↦ decide (start ≤ isoformat captured)) = true ↔
      ∀ start ∈ q.capturedFrom, start.instant ≤ record.receipt.capturedAt.instant := by
    refine all_utcText_iff (P := fun t ↦ t ≤ record.receipt.capturedAt.instant) hfrom fun t ↦ ?_
    rw [decide_eq_true_eq, isoformat_le_iff, hinstant]
  have hstop : capturedTo.all (fun stop ↦ decide (isoformat captured < stop)) = true ↔
      ∀ stop ∈ q.capturedTo, record.receipt.capturedAt.instant < stop.instant := by
    refine all_utcText_iff (P := fun t ↦ record.receipt.capturedAt.instant < t) hto fun t ↦ ?_
    rw [decide_eq_true_eq, ← not_le, isoformat_le_iff, not_le, hinstant]
  have hceiling : (q.maxSensitivity.bind sensitivityNamed).all
        (fun ceiling ↦ decide (record.sensitivity ∈ allowed ceiling)) = true ↔
      ∀ value ∈ q.maxSensitivity, ∃ level highest : Sensitivity,
        level.text = record.sensitivity ∧ highest.text = value ∧ level.rank ≤ highest.rank := by
    cases hmax : q.maxSensitivity with
    | none => simp
    | some value =>
      obtain ⟨highest, hhighest⟩ := hq.maxSensitivity value hmax
      rw [Option.bind_some, sensitivityNamed_eq_some.mpr hhighest]
      simp only [Option.all_some, decide_eq_true_eq, mem_allowed, Option.mem_def,
        Option.some.injEq, forall_eq']
      constructor
      · rintro ⟨level, htext, hrank⟩
        exact ⟨level, highest, htext, hhighest, hrank⟩
      · rintro ⟨level, highest', htext, hhighest', hrank⟩
        have heq : highest' = highest := by
          have hnamed := sensitivityNamed_eq_some.mpr hhighest'
          rw [sensitivityNamed_eq_some.mpr hhighest] at hnamed
          exact (Option.some.inj hnamed).symm
        exact ⟨level, htext, heq ▸ hrank⟩
  simp only [selects, recordRow, Bool.and_eq_true, equals_eq_true, Option.some.injEq]
  constructor
  · rintro ⟨⟨⟨⟨⟨⟨⟨⟨⟨hid, hrun⟩, hevent⟩, hproducer⟩, hstatus⟩, hstate⟩, hsensitivity⟩, hmax⟩,
      hafter⟩, hbefore⟩
    exact ⟨hid, hrun, hevent, hproducer, hstatus, hstate, hsensitivity, hceiling.mp hmax,
      hstart.mp hafter, hstop.mp hbefore⟩
  · intro h
    exact ⟨⟨⟨⟨⟨⟨⟨⟨⟨h.recordId, h.runId⟩, h.sourceEventId⟩, h.producerId⟩, h.verificationStatus⟩,
      h.reliabilityState⟩, h.sensitivity⟩, hceiling.mpr h.ceiling⟩, hstart.mpr h.capturedFrom⟩,
      hstop.mpr h.capturedTo⟩

/-! ### Rows in order -/

/-- The order of the rows, of `ORDER BY captured_at DESC, record_id DESC`. -/
def Newer (a b : RecordRow) : Prop :=
  b.capturedAt < a.capturedAt ∨ b.capturedAt = a.capturedAt ∧ b.recordId < a.recordId

theorem keyed_of_registered (hs : Registered s) {recordId : Text} {row : RecordRow}
    (hrow : s.records.get? recordId = some row) : row.recordId = recordId := by
  obtain ⟨record, hvalues, hid, -⟩ := hs.stored recordId row hrow
  obtain ⟨captured, created, -, -, rfl⟩ := recordValues_eq_ok.mp hvalues
  exact hid

theorem mem_orderedRows (hs : Registered s) {row : RecordRow} :
    row ∈ s.orderedRows ↔ s.records.get? row.recordId = some row := by
  rw [Workspace.orderedRows, List.mem_insertionSort, List.mem_map]
  constructor
  · rintro ⟨⟨recordId, row⟩, hmem, rfl⟩
    have hget := (Dict.get?_eq_some_iff hs.distinct).mpr hmem
    rw [keyed_of_registered hs hget]
    exact hget
  · intro hget
    exact ⟨_, (Dict.get?_eq_some_iff hs.distinct).mp hget, rfl⟩

/-- The rows are in their order, each once. -/
theorem pairwise_orderedRows (hs : Registered s) : s.orderedRows.Pairwise Newer := by
  let r (a b : RecordRow) : Prop :=
    b.capturedAt < a.capturedAt ∨ b.capturedAt = a.capturedAt ∧ b.recordId ≤ a.recordId
  have htotal : Std.Total r := ⟨fun a b ↦ by
    rcases lt_trichotomy a.capturedAt b.capturedAt with h | h | h
    · exact .inr (.inl h)
    · rcases le_total a.recordId b.recordId with hid | hid
      · exact .inr (.inr ⟨h, hid⟩)
      · exact .inl (.inr ⟨h.symm, hid⟩)
    · exact .inl (.inl h)⟩
  have htrans : IsTrans RecordRow r := ⟨fun a b c hab hbc ↦ by
    rcases hab with hab | ⟨hab, hid⟩
    · rcases hbc with hbc | ⟨hbc, -⟩
      · exact .inl (hbc.trans hab)
      · exact .inl (hbc ▸ hab)
    · rcases hbc with hbc | ⟨hbc, hid'⟩
      · exact .inl (hab ▸ hbc)
      · exact .inr ⟨hbc.trans hab, hid'.trans hid⟩⟩
  have hsorted : s.orderedRows.Pairwise r := List.pairwise_insertionSort r _
  have hids : s.orderedRows.Pairwise fun a b ↦ a.recordId ≠ b.recordId := by
    rw [← List.pairwise_map]
    have hperm : (s.orderedRows.map RecordRow.recordId).Perm
        ((s.records.map Prod.snd).map RecordRow.recordId) :=
      (List.perm_insertionSort _ _).map _
    apply hperm.nodup_iff.mpr
    have hkeys : (s.records.map Prod.snd).map RecordRow.recordId = s.records.keys := by
      rw [List.map_map, Dict.keys]
      apply List.map_congr_left
      intro m hm
      exact keyed_of_registered hs ((Dict.get?_eq_some_iff hs.distinct).mpr hm)
    rw [hkeys]
    exact hs.distinct
  apply (hsorted.and hids).imp
  rintro a b ⟨hab | ⟨hab, hid⟩, hne⟩
  · exact .inl hab
  · exact .inr ⟨hab, lt_of_le_of_ne hid (Ne.symm hne)⟩

/-! ### Pages -/

/-- A row with its times read and its receipt. -/
def read (s : Workspace) (row : RecordRow) : Except PyError WorkspaceRecord :=
  Workspace.entryFromRow row >>= hydrate s

/-- What is read of a row is a record of it. -/
theorem reads_of_read (hs : Registered s) {row : RecordRow} {record : WorkspaceRecord}
    (hrow : row ∈ s.orderedRows) (h : read s row = .ok record) : Reads s row record := by
  obtain ⟨entry, record', hentry, hhydrate, hreads⟩ :=
    exists_read hs ((mem_orderedRows hs).mp hrow)
  rw [read, hentry, ok_bind, hhydrate] at h
  cases h
  exact hreads

/-- Records of one row are the same. -/
theorem Reads.same {row : RecordRow} {a b : WorkspaceRecord} (ha : Reads s row a)
    (hb : Reads s row b) : Same a b := by
  obtain ⟨⟨ra, hra, hequal⟩, ⟨rb, hrb, hequal'⟩⟩ := And.intro ha.receipt hb.receipt
  obtain ⟨captured, created, -, hcreated, hrow⟩ := recordValues_eq_ok.mp ha.values
  obtain ⟨captured', created', -, hcreated', hrow'⟩ := recordValues_eq_ok.mp hb.values
  rw [hrow] at hrow'
  simp only [recordRow, RecordRow.mk.injEq] at hrow'
  obtain ⟨hid, -, -, -, -, -, -, -, -, -, -, hsensitivity, hpolicy, hstatus, hstate, htime⟩ := hrow'
  have hsame : Equal ra rb := by
    apply hra.equal hrb
    rw [hequal.receiptId, hequal'.receiptId, hid]
  refine ⟨hequal.symm.trans (hsame.trans hequal'), ?_, hsensitivity, hpolicy, hstatus, hstate⟩
  rw [← AwareDatetime.instant_toUtc hcreated, isoformat_injective htime,
    AwareDatetime.instant_toUtc hcreated']

/-- Rows in order are read as records in order. -/
theorem Reads.before {row row' : RecordRow} {a b : WorkspaceRecord} (ha : Reads s row a)
    (hb : Reads s row' b) (h : Newer row row') : Before a b := by
  obtain ⟨captured, created, hcaptured, -, rfl⟩ := recordValues_eq_ok.mp ha.values
  obtain ⟨captured', created', hcaptured', -, rfl⟩ := recordValues_eq_ok.mp hb.values
  rw [Before, ← AwareDatetime.instant_toUtc hcaptured, ← AwareDatetime.instant_toUtc hcaptured']
  rcases h with h | ⟨h, hid⟩
  · left
    rw [← not_le]
    exact fun hle ↦ absurd h (not_lt_of_ge (isoformat_le_iff.mpr hle))
  · exact .inr ⟨congrArg Datetime.instant (isoformat_injective h), hid⟩

/-- Where the sensitivities of a query are supported and its values can be bound, its pages are
those of the rows that its clause selects. -/
theorem exists_pages (hs : Registered s) {q : WorkspaceRecordQuery} (hq : q.Supported)
    (hbind : q.Bindable) : ∃ capturedFrom capturedTo found,
      q.capturedFrom.mapM AwareDatetime.utcText = .ok capturedFrom ∧
      q.capturedTo.mapM AwareDatetime.utcText = .ok capturedTo ∧
      (s.orderedRows.filter (selects q capturedFrom capturedTo)).mapM (read s) = .ok found ∧
      ∀ offset, query s { q with offset } =
        .ok ⟨(found.drop offset).take q.limit, found.length, q.limit, offset⟩ := by
  have htext {bound : Option AwareDatetime} (h : ∀ t ∈ bound, ∃ u, t.toUtc = .ok u) :
      ∃ text, bound.mapM AwareDatetime.utcText = .ok text := by
    cases bound with
    | none => exact ⟨none, rfl⟩
    | some t =>
      obtain ⟨u, hu⟩ := h t rfl
      refine ⟨some (isoformat u), ?_⟩
      simp only [Option.mapM_some, AwareDatetime.utcText, hu]
      rfl
  obtain ⟨capturedFrom, hfrom⟩ := htext hbind.capturedFrom
  obtain ⟨capturedTo, hto⟩ := htext hbind.capturedTo
  have hrows : ∀ row ∈ s.orderedRows.filter (selects q capturedFrom capturedTo),
      ∃ entry record, Workspace.entryFromRow row = .ok entry ∧ hydrate s entry = .ok record := by
    intro row hrow
    obtain ⟨entry, record, hentry, hhydrate, -⟩ :=
      exists_read hs ((mem_orderedRows hs).mp (List.mem_of_mem_filter hrow))
    exact ⟨entry, record, hentry, hhydrate⟩
  obtain ⟨entries, hentries⟩ := exists_mapM_eq_ok fun row hrow ↦
    (hrows row hrow).imp fun _ h ↦ h.choose_spec.1
  obtain ⟨found, hfound⟩ : ∃ found, entries.mapM (hydrate s) = .ok found := by
    apply exists_mapM_eq_ok
    intro entry hentry
    obtain ⟨row, hrow, hread⟩ := (mem_of_mapM_eq_ok hentries).mp hentry
    obtain ⟨entry', record, hentry', hhydrate⟩ := hrows row hrow
    rw [hread] at hentry'
    cases hentry'
    exact ⟨record, hhydrate⟩
  have hlength : (s.orderedRows.filter (selects q capturedFrom capturedTo)).length =
      found.length :=
    (Paging.mapM_eq_ok_iff.mp hentries).length_eq.trans (Paging.mapM_eq_ok_iff.mp hfound).length_eq
  have hvalidate {filter : Option Text}
      (h : ∀ value ∈ filter, ∃ level : Sensitivity, level.text = value) :
      filter.toList.forM validateSensitivity = .ok () := by
    apply forM_eq_ok.mpr
    intro value hvalue
    obtain ⟨level, hlevel⟩ := h value (Option.mem_toList.mp hvalue)
    rw [validateSensitivity, sensitivityNamed_eq_some.mpr hlevel]
    rfl
  refine ⟨capturedFrom, capturedTo, found, hfrom, hto, Paging.mapM_bind hentries hfound, ?_⟩
  intro offset
  rw [query, queryRecords]
  dsimp only
  rw [hvalidate hq.sensitivity, ok_bind, hvalidate hq.maxSensitivity, ok_bind, hfrom, ok_bind, hto,
    ok_bind, bindTexts_eq_ok.mpr hbind.texts, ok_bind]
  have hpage := Paging.mapM_page hentries offset q.limit
  have hread := Paging.mapM_page hfound offset q.limit
  change (do
    let entries ← (((s.orderedRows.filter (selects q capturedFrom capturedTo)).drop offset).take
      q.limit).mapM Workspace.entryFromRow
    pure (entries, (s.orderedRows.filter (selects q capturedFrom capturedTo)).length)) >>= _ = _
  rw [hpage, ok_bind, hlength]
  change (do
    let records ← ((entries.drop offset).take q.limit).mapM (hydrate s)
    pure (⟨records, found.length, q.limit, offset⟩ : WorkspaceQueryPage)) = _
  rw [hread, ok_bind]
  rfl

/-- The pages serve the records that are found. -/
theorem serves {q : WorkspaceRecordQuery} {found : List WorkspaceRecord}
    (h : ∀ offset, query s { q with offset } =
      .ok ⟨(found.drop offset).take q.limit, found.length, q.limit, offset⟩) :
    Paging.Serves (fun offset ↦ query s { q with offset }) WorkspaceQueryPage.nextOffset
      WorkspaceQueryPage.records q.limit found where
  positive := q.limited.1
  page offset := by
    refine ⟨_, h offset, rfl, ?_⟩
    simp only [WorkspaceQueryPage.nextOffset, WorkspaceQueryPage.hasMore, decide_eq_true_eq]

/-- A query of an unsupported sensitivity is refused. -/
theorem query_of_not_supported {q : WorkspaceRecordQuery} (hq : ¬q.Supported) :
    ∃ value, query s q = .error ⟨.valueError, lit "unsupported sensitivity: " ++ value⟩ := by
  have hcases (filter : Option Text) :
      (∀ value ∈ filter, ∃ level : Sensitivity, level.text = value) ∧
        filter.toList.forM validateSensitivity = .ok () ∨
      ∃ value, filter.toList.forM validateSensitivity =
        .error ⟨.valueError, lit "unsupported sensitivity: " ++ value⟩ := by
    cases filter with
    | none => exact .inl ⟨nofun, rfl⟩
    | some value =>
      cases hnamed : sensitivityNamed value with
      | some level =>
        refine .inl ⟨?_, ?_⟩
        · rintro _ ⟨⟩
          exact ⟨level, sensitivityNamed_eq_some.mp hnamed⟩
        · simp only [Option.toList_some, List.forM_eq_forM, List.forM_cons, List.forM_nil,
            validateSensitivity, hnamed]
          rfl
      | none =>
        refine .inr ⟨value, ?_⟩
        simp only [Option.toList_some, List.forM_eq_forM, List.forM_cons, validateSensitivity,
          hnamed]
        rfl
  rw [query, queryRecords]
  rcases hcases q.sensitivity with ⟨hsensitivity, hvalidate⟩ | ⟨value, hrefused⟩
  · rw [hvalidate, ok_bind]
    rcases hcases q.maxSensitivity with ⟨hmax, -⟩ | ⟨value, hrefused⟩
    · exact absurd ⟨hsensitivity, hmax⟩ hq
    · exact ⟨value, by rw [hrefused]; rfl⟩
  · exact ⟨value, by rw [hrefused]; rfl⟩

/-- A query of a sensitivity that is none. -/
def secretQuery : WorkspaceRecordQuery where
  sensitivity := some (lit "secret")
  stated := by
    intro value hvalue
    simp only [List.reduceOption, List.filterMap_cons, List.filterMap_nil, id, List.mem_singleton]
      at hvalue
    rw [hvalue]
    decide
  window _ h := by cases h
  limited := by omega

/-- The records of up to confidential sensitivity of one hour, which ends in another time zone than
it starts in, two a page. -/
def hourQuery : WorkspaceRecordQuery where
  maxSensitivity := some (lit "confidential")
  capturedFrom := some (.ofUtc RetentionAdapter.epoch)
  capturedTo := some ⟨RetentionAdapter.epoch, -3600000000, by decide, by decide⟩
  limit := 2
  stated := by
    intro value hvalue
    simp only [List.reduceOption, List.filterMap_cons, List.filterMap_nil, id, List.mem_singleton]
      at hvalue
    rw [hvalue]
    decide
  window := by decide
  limited := by omega

/-- A report of the scanner. -/
def scanned : IngestionArguments :=
  ⟨lit "tool", lit "scanner", lit "report.json", .ofUtc RetentionAdapter.epoch, some (lit "1"), none,
    none, [], lit "internal"⟩

theorem exists_scanned : ∃ receipt, EvidenceFiles.receiptFor none [] scanned = .ok receipt :=
  exists_ok_of_toBool (by decide +kernel)

end StateWake.Lifecycle.RecordQuery
