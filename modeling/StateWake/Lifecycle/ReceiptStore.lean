import StateWake.Base.DatetimeOrder
import StateWake.Base.Interleaving
import StateWake.Lifecycle.Ingestion

/-!
# Writers of a receipt store

`JsonEvidenceReceiptStore` of `adapters/evidence_ingestion.py` step by step. A `put` looks for the
file of its identity, writes a temporary file and links it; the link fails where another writer was
first, and the receipt is then compared with what is there. No step changes or removes a file.
-/

namespace StateWake.Lifecycle

open StateWake.Base Text Utils Reliability Workspace

/-! ### Equal receipts -/

/-- Two receipts are equal as Python compares them: the time as an instant, the metadata as a
dictionary, everything else as it is. -/
structure Equal (r r' : ExternalEvidenceReceipt) : Prop where
  fields : { r.toReceiptFields with capturedAt := r'.capturedAt, metadata := r'.metadata } =
    r'.toReceiptFields
  capturedAt : r.capturedAt.instant = r'.capturedAt.instant
  metadata : ∀ key, r.metadata.get? key = r'.metadata.get? key
  receiptId : r.receiptId = r'.receiptId
  digest : r.digest = r'.digest

section

variable {r r' : ExternalEvidenceReceipt} {captured captured' : Datetime}

theorem Equal.refl (r : ExternalEvidenceReceipt) : Equal r r := ⟨rfl, rfl, fun _ ↦ rfl, rfl, rfl⟩

theorem Equal.symm (h : Equal r r') : Equal r' r where
  fields := by rw [← h.fields]
  capturedAt := h.capturedAt.symm
  metadata key := (h.metadata key).symm
  receiptId := h.receiptId.symm
  digest := h.digest.symm

theorem Equal.trans {r'' : ExternalEvidenceReceipt} (h : Equal r r') (h' : Equal r' r'') :
    Equal r r'' where
  fields := by rw [← h'.fields, ← h.fields]
  capturedAt := h.capturedAt.trans h'.capturedAt
  metadata key := (h.metadata key).trans (h'.metadata key)
  receiptId := h.receiptId.trans h'.receiptId
  digest := h.digest.trans h'.digest

/-- A receipt is equal to what its file is read as. -/
theorem equal_stored (h : Constructed r captured) : Equal (r.stored captured) r where
  fields := rfl
  capturedAt := by
    rw [← AwareDatetime.instant_toUtc h.captured]
    exact AwareDatetime.instant_ofUtc captured
  metadata := Dict.get?_sorted h.metadata
  receiptId := rfl
  digest := rfl

/-- Equal receipts have one record. -/
theorem Equal.sameRecord (he : Equal r r') (h : Constructed r captured)
    (h' : Constructed r' captured') : SameRecord r r' := by
  have hmetadata := (Dict.sorted_eq_sorted_iff h.metadata h'.metadata).mpr he.metadata
  have hcaptured : captured = captured' := by
    apply Datetime.instant_injective
    rw [AwareDatetime.instant_toUtc h.captured, he.capturedAt,
      AwareDatetime.instant_toUtc h'.captured]
  have hpayload : r.identityPayload = r'.identityPayload := by
    rw [← he.fields]
    simp only [ReceiptFields.identityPayload, hmetadata]
  refine ⟨_, _, h.toDict, h'.toDict, ?_⟩
  rw [hpayload, hcaptured, he.receiptId, he.digest]

/-- Constructed receipts of one record are equal. -/
theorem equal_of_sameRecord (h : Constructed r captured) (h' : Constructed r' captured')
    (hsame : SameRecord r r') : Equal r r' := by
  obtain ⟨record, record', hrecord, hrecord', heq⟩ := hsame
  have hget := get?_of_ordered_eq ((Json.writable_obj _).mp (writable_receipt h hrecord)).1
    ((Json.writable_obj _).mp (writable_receipt h' hrecord')).1 heq
  obtain ⟨-, hmetadata, hprovenance, htype, hid, hartifact, hsize, hcaptured, href, hevent,
    hversion, hrun, hreceipt, hdigest⟩ := get?_record h hrecord
  obtain ⟨-, hmetadata', hprovenance', htype', hid', hartifact', hsize', hcaptured', href', hevent',
    hversion', hrun', hreceipt', hdigest'⟩ := get?_record h' hrecord'
  have hstr {key a b : Text} (ha : record.get? key = some (.str a))
      (hb : record'.get? key = some (.str b)) : a = b := by
    have hk := hget key
    rw [ha, hb] at hk
    cases hk
    rfl
  have hopt {key : Text} {a b : Option Text} (ha : record.get? key = some (optionJson a))
      (hb : record'.get? key = some (optionJson b)) : a = b := by
    have hk := hget key
    rw [ha, hb, Option.map_some, Option.map_some, sortKeys_optionJson, sortKeys_optionJson] at hk
    cases a <;> cases b <;> cases hk <;> rfl
  have hint : r.artifactSize = r'.artifactSize := by
    have hk := hget (lit "artifact_size")
    rw [hsize, hsize', Option.map_some, Option.map_some, Json.sortKeys_int,
      Json.sortKeys_int] at hk
    exact Json.int.inj (Option.some.inj hk)
  have hsorted : r.metadata.sorted = r'.metadata.sorted := by
    have hk := hget (lit "metadata")
    rw [hmetadata, hmetadata', Option.map_some, Option.map_some, sortKeys_eq_ordered,
      sortKeys_eq_ordered, Option.some.injEq] at hk
    have hread := (stringMapping_ordered r.metadata.sorted []).symm
    rw [hk, stringMapping_ordered, Dict.sorted_sorted, Dict.sorted_sorted] at hread
    exact Except.ok.inj hread
  have hreference : r.provenanceRef = r'.provenanceRef := by
    have hk := hget (lit "provenance_ref")
    rw [hprovenance, hprovenance', Option.map_some, Option.map_some, Option.some.injEq] at hk
    let members : Dict Json :=
      [(lit "provenance_ref", Json.sortKeys (provenanceJson r.provenanceRef))]
    have hread : ExternalEvidenceReceipt.provenanceOf members = .ok r.provenanceRef :=
      provenanceOf_of_reads (by simp [members]) fun _ hp ↦ h.unbound hp
    have hread' : ExternalEvidenceReceipt.provenanceOf members = .ok r'.provenanceRef :=
      provenanceOf_of_reads (by simp [members, hk]) fun _ hp ↦ h'.unbound hp
    exact Except.ok.inj (hread.symm.trans hread')
  have htime : captured = captured' := by
    have hread := parseDatetime_isoformat captured []
    rw [hstr hcaptured hcaptured', parseDatetime_isoformat] at hread
    exact (Except.ok.inj hread).symm
  constructor
  · dsimp only
    rw [hstr htype htype', hstr hid hid', hstr hartifact hartifact', hint, hstr href href',
      hopt hevent hevent', hopt hversion hversion', hopt hrun hrun', hreference]
  · rw [← AwareDatetime.instant_toUtc h.captured, ← AwareDatetime.instant_toUtc h'.captured, htime]
  · exact (Dict.sorted_eq_sorted_iff h.metadata h'.metadata).mp hsorted
  · exact hstr hreceipt hreceipt'
  · exact hstr hdigest hdigest'

end

/-! ### Steps -/

/-- A receipt its constructor accepted, with metadata that is a dictionary. -/
abbrev ConstructedReceipt : Type :=
  {r : ExternalEvidenceReceipt // ∃ captured, Constructed r captured}

/-- A call of the store. -/
inductive StoreCall where
  | put (r : ConstructedReceipt)
  | get (receiptId : Text)

/-- Where a call stands. A `put` that found a file, or lost the link, has still to compare. -/
inductive StorePhase where
  | ready
  | linking
  | comparing (lost : Bool)
  | reading
  | stored
  | found (r : ExternalEvidenceReceipt)
  | raised (e : PyError)

namespace JsonEvidenceReceiptStore

/-- The text of a receipt's file, `adapters/evidence_ingestion.py:81`. -/
def fileText (record : Dict Json) : Text :=
  Json.dumps Json.indented (.obj record) ++ [Lines.newline]

/-- What a receipt that differs from the stored one raises, before the link
(`adapters/evidence_ingestion.py:88–92`) and after losing it
(`adapters/evidence_ingestion.py:105–113`). -/
def conflict (r : ExternalEvidenceReceipt) (lost : Bool) : PyError :=
  ⟨.valueError, r.sourceEventId.elim
    (lit "receipt identity collision for " ++ r.receiptId ++ lit ".") fun event ↦
      lit "source_event_id conflict for " ++ r.producerId ++
        (if lost then lit ": " else lit ":") ++ event ++ lit "."⟩

/-- The comparison with the stored receipt, `adapters/evidence_ingestion.py:83–87, 100–104`. -/
def compareStored (files : JsonEvidenceReceiptStore) (r : ExternalEvidenceReceipt) (lost : Bool) :
    Except PyError Unit := do
  let text ← orRaise ⟨.fileNotFoundError, []⟩ (files.get? r.receiptId)
  let existing ← parse text
  let stored ← existing.toDict
  let record ← r.toDict
  require (conflict r lost) (ordered stored = ordered record)

/-- The next step of `put`, `adapters/evidence_ingestion.py:77–116`. The temporary file of a writer
has a name of its own, so writing it touches nothing that is shared. -/
def nextPut (r : ExternalEvidenceReceipt) (files : JsonEvidenceReceiptStore) :
    StorePhase → JsonEvidenceReceiptStore × StorePhase
  | .ready =>
    match r.toDict with
    | .error e => (files, .raised e)
    | .ok _ => (files, if (files.get? r.receiptId).isSome then .comparing false else .linking)
  | .linking =>
    match r.toDict with
    | .error e => (files, .raised e)
    | .ok record =>
      match files.get? r.receiptId with
      | none => (files.set r.receiptId (fileText record), .stored)
      | some _ => (files, .comparing true)
  | .comparing lost =>
    match compareStored files r lost with
    | .error e => (files, .raised e)
    | .ok () => (files, .stored)
  | phase => (files, phase)

/-- The next step of `get`, `adapters/evidence_ingestion.py:118–125`. -/
def nextGet (receiptId : Text) (files : JsonEvidenceReceiptStore) :
    StorePhase → JsonEvidenceReceiptStore × StorePhase
  | .ready =>
    (files, if (files.get? receiptId).isSome then .reading else
      .raised ⟨.fileNotFoundError, lit "evidence receipt not found: " ++ receiptId⟩)
  | .reading =>
    match (do parse (← orRaise ⟨.fileNotFoundError, []⟩ (files.get? receiptId))) with
    | .error e => (files, .raised e)
    | .ok r => (files, .found r)
  | phase => (files, phase)

/-- The next step of a call. -/
def nextCall : StoreCall → JsonEvidenceReceiptStore → StorePhase →
    JsonEvidenceReceiptStore × StorePhase
  | .put r => nextPut r.val
  | .get receiptId => nextGet receiptId

/-- Where there is a file, a `put` is its comparison. -/
theorem put_of_get? {files : JsonEvidenceReceiptStore} {r : ExternalEvidenceReceipt} {text : Text}
    {record : Dict Json} (hrecord : r.toDict = .ok record)
    (hget : files.get? r.receiptId = some text) :
    put files r = (do compareStored files r false; pure files) := by
  simp only [put, hrecord, hget, compareStored, conflict, orRaise_some, ok_bind, bind_assoc]
  rfl

/-- A `put` no other call comes between is the one of the store. -/
theorem nextPut_alone (r : ExternalEvidenceReceipt) (files : JsonEvidenceReceiptStore) :
    (fun c ↦ nextPut r c.1 c.2)^[3] (files, .ready) = match put files r with
      | .ok files' => (files', .stored)
      | .error e => (files, .raised e) := by
  simp only [Function.iterate_succ, Function.iterate_zero, Function.comp_apply, id]
  cases hrecord : r.toDict with
  | error e => simp only [nextPut, put, hrecord, error_bind]
  | ok record =>
    cases hget : files.get? r.receiptId with
    | none => simp [nextPut, put, hrecord, hget, fileText]
    | some text =>
      rw [put_of_get? hrecord hget]
      simp only [nextPut, hrecord, hget, Option.isSome_some, if_true]
      cases compareStored files r false <;> rfl

/-- A `get` no other call comes between is the one of the store. -/
theorem nextGet_alone (receiptId : Text) (files : JsonEvidenceReceiptStore) :
    (fun c ↦ nextGet receiptId c.1 c.2)^[2] (files, .ready) = (files, match get files receiptId with
      | .ok r => .found r
      | .error e => .raised e) := by
  simp only [Function.iterate_succ, Function.iterate_zero, Function.comp_apply, id]
  rw [get]
  cases hget : files.get? receiptId with
  | none => simp [nextGet, hget, orRaise]
  | some text =>
    simp only [nextGet, hget, Option.isSome_some, if_true, orRaise_some, ok_bind]
    cases parse text <;> rfl

/-! ### What is kept -/

/-- A receipt in the store. -/
def Stores (files : JsonEvidenceReceiptStore) (r : ExternalEvidenceReceipt) : Prop :=
  ∃ captured record, Constructed r captured ∧ r.toDict = .ok record ∧
    files.get? r.receiptId = some (fileText record)

/-- Every file is that of a receipt of its identity. -/
def Kept (files : JsonEvidenceReceiptStore) : Prop :=
  ∀ receiptId text, files.get? receiptId = some text → ∃ r, Stores files r ∧ r.receiptId = receiptId

/-- No file of the one is changed or missing in the other. -/
def Grows (files files' : JsonEvidenceReceiptStore) : Prop :=
  ∀ receiptId text, files.get? receiptId = some text → files'.get? receiptId = some text

variable {files files' files'' : JsonEvidenceReceiptStore} {r r' : ExternalEvidenceReceipt}

theorem Grows.refl (files : JsonEvidenceReceiptStore) : Grows files files := fun _ _ h ↦ h

theorem Grows.trans (h : Grows files files') (h' : Grows files' files'') : Grows files files'' :=
  fun receiptId text hget ↦ h' receiptId text (h receiptId text hget)

theorem Stores.mono (h : Stores files r) (hgrows : Grows files files') : Stores files' r := by
  obtain ⟨captured, record, hr, hrecord, hget⟩ := h
  exact ⟨captured, record, hr, hrecord, hgrows _ _ hget⟩

/-- A stored receipt is read as an equal one. -/
theorem Stores.parse (h : Stores files r) : ∃ text captured, Constructed r captured ∧
    files.get? r.receiptId = some text ∧
    JsonEvidenceReceiptStore.parse text = .ok (r.stored captured) := by
  obtain ⟨captured, record, hr, hrecord, hget⟩ := h
  exact ⟨_, captured, hr, hget, parse_written hr hrecord⟩

/-- Two stored receipts of one identity are equal. -/
theorem Stores.equal (h : Stores files r) (h' : Stores files r')
    (hid : r.receiptId = r'.receiptId) :
    Equal r r' := by
  obtain ⟨captured, record, hr, hrecord, hget⟩ := h
  obtain ⟨captured', record', hr', hrecord', hget'⟩ := h'
  rw [hid, hget', Option.some.injEq] at hget
  have hparse := parse_written hr' hrecord'
  rw [fileText, fileText] at hget
  rw [hget, parse_written hr hrecord] at hparse
  have hstored := Except.ok.inj hparse
  exact (equal_stored hr).symm.trans (hstored ▸ equal_stored hr')

theorem nextGet_files (receiptId : Text) (files : JsonEvidenceReceiptStore) (phase : StorePhase) :
    (nextGet receiptId files phase).1 = files := by
  cases phase with
  | reading =>
    rw [nextGet]
    split <;> rfl
  | ready => rfl
  | linking => rfl
  | comparing _ => rfl
  | stored => rfl
  | found _ => rfl
  | raised _ => rfl

/-- A comparison succeeds exactly where the stored receipt is equal. -/
theorem compareStored_spec {captured : Datetime} (hstored : Stores files r')
    (hr : Constructed r captured) (hid : r'.receiptId = r.receiptId) (lost : Bool) :
    compareStored files r lost = .ok () ∧ Equal r' r ∨
      compareStored files r lost = .error (conflict r lost) ∧ ¬Equal r' r := by
  obtain ⟨captured', record', hr', hrecord', hget⟩ := hstored
  rw [hid] at hget
  have hparse : parse (fileText record') = .ok (r'.stored captured') := parse_written hr' hrecord'
  obtain ⟨record, hrecord⟩ : ∃ record, r.toDict = .ok record := ⟨_, hr.toDict⟩
  have hcompare : compareStored files r lost =
      require (conflict r lost) (ordered record' = ordered record) := by
    rw [compareStored, hget, orRaise_some, ok_bind, hparse, ok_bind, toDict_stored hr', hrecord',
      ok_bind, hrecord, ok_bind]
  by_cases heq : ordered record' = ordered record
  · refine .inl ⟨?_, equal_of_sameRecord hr' hr ⟨record', record, hrecord', hrecord, heq⟩⟩
    rw [hcompare, heq, decide_eq_true (Eq.refl _), require_true]
  · refine .inr ⟨?_, fun hequal ↦ heq ?_⟩
    · rw [hcompare, decide_eq_false heq]
      rfl
    · obtain ⟨a, b, ha, hb, hab⟩ := hequal.sameRecord hr' hr
      rw [hrecord'] at ha
      rw [hrecord] at hb
      rw [Except.ok.inj ha, Except.ok.inj hb, hab]

/-- What one step adds to the files: nothing, or the file of the receipt of a `put` that no file
stands in the way of. -/
theorem nextCall_files (call : StoreCall) (files : JsonEvidenceReceiptStore) (phase : StorePhase) :
    (nextCall call files phase).1 = files ∨ ∃ r record, call = .put r ∧
      r.val.toDict = .ok record ∧ files.get? r.val.receiptId = none ∧
      nextCall call files phase = (files.set r.val.receiptId (fileText record), .stored) := by
  cases call with
  | get receiptId => exact .inl (nextGet_files receiptId files phase)
  | put r =>
    rw [nextCall]
    cases phase with
    | linking =>
      rw [nextPut]
      cases hrecord : r.val.toDict with
      | error e => exact .inl rfl
      | ok record =>
        cases hget : files.get? r.val.receiptId with
        | some text => exact .inl rfl
        | none => exact .inr ⟨r, record, rfl, hrecord, hget, rfl⟩
    | ready =>
      rw [nextPut]
      cases r.val.toDict <;> exact .inl rfl
    | comparing lost =>
      rw [nextPut]
      cases compareStored files r.val lost <;> exact .inl rfl
    | reading => exact .inl rfl
    | stored => exact .inl rfl
    | found _ => exact .inl rfl
    | raised _ => exact .inl rfl

theorem nextCall_grows (call : StoreCall) (files : JsonEvidenceReceiptStore)
    (phase : StorePhase) : Grows files (nextCall call files phase).1 := by
  rcases nextCall_files call files phase with h | ⟨r, record, -, -, hnone, h⟩
  · rw [h]
    exact Grows.refl files
  · intro receiptId text hget
    rw [h, Dict.get?_set, if_neg, hget]
    intro heq
    rw [heq, hnone] at hget
    cases hget

/-- What is so of a call that stands where it does. -/
def Stands (files : JsonEvidenceReceiptStore) : StoreCall → StorePhase → Prop
  | _, .ready => True
  | .put _, .linking => True
  | .put r, .comparing _ => ∃ r', Stores files r' ∧ r'.receiptId = r.val.receiptId
  | .put r, .stored => ∃ r', Stores files r' ∧ r'.receiptId = r.val.receiptId ∧ Equal r' r.val
  | .put r, .raised e => (∃ lost, e = conflict r.val lost) ∧
      ∃ r', Stores files r' ∧ r'.receiptId = r.val.receiptId ∧ ¬Equal r' r.val
  | .get receiptId, .reading => ∃ r', Stores files r' ∧ r'.receiptId = receiptId
  | .get receiptId, .found r => ∃ r', Stores files r' ∧ r'.receiptId = receiptId ∧ Equal r r'
  | .get receiptId, .raised e =>
      e = ⟨.fileNotFoundError, lit "evidence receipt not found: " ++ receiptId⟩
  | _, _ => False

theorem Stands.mono {call : StoreCall} {phase : StorePhase} (h : Stands files call phase)
    (hgrows : Grows files files') : Stands files' call phase := by
  cases call with
  | put r =>
    cases phase with
    | ready => trivial
    | linking => trivial
    | comparing lost =>
      obtain ⟨r', hr', hid⟩ := h
      exact ⟨r', hr'.mono hgrows, hid⟩
    | stored =>
      obtain ⟨r', hr', hid, hequal⟩ := h
      exact ⟨r', hr'.mono hgrows, hid, hequal⟩
    | raised e =>
      obtain ⟨hconflict, r', hr', hid, hdiffers⟩ := h
      exact ⟨hconflict, r', hr'.mono hgrows, hid, hdiffers⟩
    | reading => exact h
    | found _ => exact h
  | get receiptId =>
    cases phase with
    | ready => trivial
    | reading =>
      obtain ⟨r', hr', hid⟩ := h
      exact ⟨r', hr'.mono hgrows, hid⟩
    | found r =>
      obtain ⟨r', hr', hid, hequal⟩ := h
      exact ⟨r', hr'.mono hgrows, hid, hequal⟩
    | raised e => exact h
    | linking => exact h
    | comparing _ => exact h
    | stored => exact h

/-- How many steps a call has before it at most. -/
def left : StorePhase → Nat
  | .ready => 3
  | .linking => 2
  | .comparing _ => 1
  | .reading => 1
  | .stored => 0
  | .found _ => 0
  | .raised _ => 0

/-- A file that is written is that of the receipt. -/
theorem stores_set {captured : Datetime} {record : Dict Json} (hr : Constructed r captured)
    (hrecord : r.toDict = .ok record) : Stores (files.set r.receiptId (fileText record)) r :=
  ⟨captured, record, hr, hrecord, by rw [Dict.get?_set, if_pos rfl]⟩

/-- A step keeps every file that of a receipt. -/
theorem kept_next (hkept : Kept files) (call : StoreCall) (phase : StorePhase) :
    Kept (nextCall call files phase).1 := by
  rcases nextCall_files call files phase with h | ⟨r, record, -, hrecord, hnone, h⟩
  · rw [h]
    exact hkept
  · have hgrows := nextCall_grows call files phase
    intro receiptId text hget
    by_cases heq : receiptId = r.val.receiptId
    · obtain ⟨captured, hr⟩ := r.property
      rw [h]
      exact ⟨r.val, stores_set hr hrecord, heq.symm⟩
    · rw [h, Dict.get?_set, if_neg heq] at hget
      obtain ⟨r', hr', hid⟩ := hkept receiptId text hget
      exact ⟨r', hr'.mono hgrows, hid⟩

/-- A step of a `put` keeps what is so of it, and brings it nearer to its end. -/
theorem stands_nextPut (hkept : Kept files) (r : ConstructedReceipt) {phase : StorePhase}
    (h : Stands files (.put r) phase) :
    Stands (nextPut r.val files phase).1 (.put r) (nextPut r.val files phase).2 ∧
      left (nextPut r.val files phase).2 ≤ left phase - 1 := by
  obtain ⟨captured, hr⟩ := r.property
  obtain ⟨record, hrecord⟩ : ∃ record, r.val.toDict = .ok record := ⟨_, hr.toDict⟩
  cases phase with
  | ready =>
    rw [nextPut, hrecord]
    cases hget : files.get? r.val.receiptId with
    | none => exact ⟨trivial, le_refl _⟩
    | some text => exact ⟨hkept _ text hget, Nat.le_succ 1⟩
  | linking =>
    rw [nextPut, hrecord]
    cases hget : files.get? r.val.receiptId with
    | none => exact ⟨⟨r.val, stores_set hr hrecord, rfl, Equal.refl r.val⟩, Nat.zero_le _⟩
    | some text => exact ⟨hkept _ text hget, le_refl _⟩
  | comparing lost =>
    obtain ⟨r', hstored, hid⟩ := h
    rw [nextPut]
    rcases compareStored_spec hstored hr hid lost with ⟨hcompare, hequal⟩ | ⟨hcompare, hdiffers⟩
    · rw [hcompare]
      exact ⟨⟨r', hstored, hid, hequal⟩, le_refl _⟩
    · rw [hcompare]
      exact ⟨⟨⟨lost, rfl⟩, r', hstored, hid, hdiffers⟩, le_refl _⟩
  | reading => exact h.elim
  | stored => exact ⟨h, le_refl _⟩
  | found _ => exact h.elim
  | raised e => exact ⟨h, le_refl _⟩

/-- A step of a `get` keeps what is so of it, and brings it nearer to its end. -/
theorem stands_nextGet (hkept : Kept files) (receiptId : Text) {phase : StorePhase}
    (h : Stands files (.get receiptId) phase) :
    Stands (nextGet receiptId files phase).1 (.get receiptId) (nextGet receiptId files phase).2 ∧
      left (nextGet receiptId files phase).2 ≤ left phase - 1 := by
  cases phase with
  | ready =>
    rw [nextGet]
    cases hget : files.get? receiptId with
    | none => exact ⟨rfl, Nat.zero_le _⟩
    | some text => exact ⟨hkept _ text hget, Nat.le_succ 1⟩
  | reading =>
    obtain ⟨r', hstored, rfl⟩ := h
    obtain ⟨text, captured, hr, hget, hparse⟩ := hstored.parse
    rw [nextGet, hget, orRaise_some, ok_bind, hparse]
    exact ⟨⟨r', hstored, rfl, equal_stored hr⟩, le_refl _⟩
  | linking => exact h.elim
  | comparing _ => exact h.elim
  | stored => exact h.elim
  | found _ => exact ⟨h, le_refl _⟩
  | raised _ => exact ⟨h, le_refl _⟩

theorem stands_next (hkept : Kept files) (call : StoreCall) {phase : StorePhase}
    (h : Stands files call phase) :
    Stands (nextCall call files phase).1 call (nextCall call files phase).2 ∧
      left (nextCall call files phase).2 ≤ left phase - 1 := by
  cases call with
  | put r => exact stands_nextPut hkept r h
  | get receiptId => exact stands_nextGet hkept receiptId h

/-! ### Runs -/

/-- A store all of whose files are receipts'. -/
abbrev ReceiptFiles : Type := {files : JsonEvidenceReceiptStore // Kept files}

section

variable {ι : Type} [DecidableEq ι] (calls : ι → StoreCall)

/-- The calls of a run, each before its first step. -/
def calling (files : ReceiptFiles) : Interleaving.Config ι JsonEvidenceReceiptStore StorePhase :=
  ⟨files.val, fun _ ↦ .ready⟩

/-- The calls of a run, after the steps of a schedule. -/
def afterwards (files : ReceiptFiles) (schedule : List ι) :
    Interleaving.Config ι JsonEvidenceReceiptStore StorePhase :=
  Interleaving.run (fun i ↦ nextCall (calls i)) (calling files) schedule

omit [DecidableEq ι] in
private theorem preserves_stands : Interleaving.Preserves (fun i ↦ nextCall (calls i))
    (fun _ _ _ ↦ True) (fun files files' ↦ files = files' ∧ Kept files')
    (fun i files phase ↦ Stands files (calls i) phase) where
  keeps {i files files' phase} hs hl _ := by
    obtain ⟨rfl, hkept⟩ := hs
    refine ⟨_, ⟨rfl, kept_next hkept (calls i) phase⟩, (stands_next hkept (calls i) hl).1, ?_⟩
    intro j phase' _ hj
    exact hj.mono (nextCall_grows (calls i) files phase)

private theorem holds_afterwards (files : ReceiptFiles) (schedule : List ι) :
    Interleaving.Holds (fun files files' ↦ files = files' ∧ Kept files')
      (fun i files phase ↦ Stands files (calls i) phase) (afterwards calls files schedule) := by
  apply (preserves_stands calls).holds_run _ (Interleaving.meets_true _ _ schedule)
  exact ⟨files.val, ⟨rfl, files.property⟩, fun i ↦ by cases calls i <;> trivial⟩

theorem kept_afterwards (files : ReceiptFiles) (schedule : List ι) :
    Kept (afterwards calls files schedule).shared := by
  obtain ⟨_, ⟨rfl, hkept⟩, -⟩ := holds_afterwards calls files schedule
  exact hkept

theorem stands_afterwards (files : ReceiptFiles) (schedule : List ι) (i : ι) :
    Stands (afterwards calls files schedule).shared (calls i)
      ((afterwards calls files schedule).locals i) := by
  obtain ⟨_, ⟨rfl, -⟩, hstands⟩ := holds_afterwards calls files schedule
  exact hstands i

end

/-! ### First writer wins -/

/-- What a call that has ended gave, against the receipts in the store. -/
def Answered (files : JsonEvidenceReceiptStore) : StoreCall → StorePhase → Prop
  | .put r, phase => (∃ r', Stores files r' ∧ r'.receiptId = r.val.receiptId) ∧
      ∀ r', Stores files r' → r'.receiptId = r.val.receiptId →
        (Equal r' r.val → phase = .stored) ∧
          (¬Equal r' r.val → ∃ lost, phase = .raised (conflict r.val lost))
  | .get receiptId, phase =>
      phase = .raised ⟨.fileNotFoundError, lit "evidence receipt not found: " ++ receiptId⟩ ∨
        ∃ r, phase = .found r ∧
          ∀ r', Stores files r' → r'.receiptId = receiptId → Equal r r'

/-- What is so of a call that has ended is its answer. -/
theorem Stands.answered {call : StoreCall} {phase : StorePhase} (h : Stands files call phase)
    (hended : left phase = 0) : Answered files call phase := by
  cases call with
  | put r =>
    cases phase with
    | stored =>
      obtain ⟨r', hr', hid, hequal⟩ := h
      refine ⟨⟨r', hr', hid⟩, fun r'' hr'' hid'' ↦ ⟨fun _ ↦ rfl, fun hdiffers ↦ ?_⟩⟩
      exact (hdiffers ((hr''.equal hr' (hid''.trans hid.symm)).trans hequal)).elim
    | raised e =>
      obtain ⟨⟨lost, rfl⟩, r', hr', hid, hdiffers⟩ := h
      refine ⟨⟨r', hr', hid⟩, fun r'' hr'' hid'' ↦ ⟨fun hequal ↦ ?_, fun _ ↦ ⟨lost, rfl⟩⟩⟩
      exact (hdiffers ((hr'.equal hr'' (hid.trans hid''.symm)).trans hequal)).elim
    | ready => cases hended
    | linking => cases hended
    | comparing _ => cases hended
    | reading => exact h.elim
    | found _ => exact h.elim
  | get receiptId =>
    cases phase with
    | raised e => exact .inl (congrArg StorePhase.raised h)
    | found r =>
      obtain ⟨r', hr', hid, hequal⟩ := h
      refine .inr ⟨r, rfl, fun r'' hr'' hid'' ↦ ?_⟩
      exact hequal.trans (hr'.equal hr'' (hid.trans hid''.symm))
    | ready => cases hended
    | reading => cases hended
    | linking => exact h.elim
    | comparing _ => exact h.elim
    | stored => exact h.elim

theorem nextGet_ne_raised (hr : Stores files r) {phase : StorePhase}
    (hphase : ∀ e, phase ≠ .raised e) (e : PyError) :
    (nextGet r.receiptId files phase).2 ≠ .raised e := by
  obtain ⟨text, captured, -, hget, hparse⟩ := hr.parse
  cases phase with
  | ready =>
    rw [nextGet, hget]
    exact nofun
  | reading =>
    rw [nextGet, hget, orRaise_some, ok_bind, hparse]
    exact nofun
  | linking => exact nofun
  | comparing _ => exact nofun
  | stored => exact nofun
  | found _ => exact nofun
  | raised e => exact (hphase e rfl).elim

section

variable {ι : Type} [DecidableEq ι] (calls : ι → StoreCall)

/-- No step changes or removes a file. -/
theorem grows_run (c : Interleaving.Config ι JsonEvidenceReceiptStore StorePhase)
    (schedule : List ι) :
    Grows c.shared (Interleaving.run (fun i ↦ nextCall (calls i)) c schedule).shared := by
  apply Interleaving.shared_run Grows.refl fun _ _ _ ↦ Grows.trans
  intro i files phase
  exact nextCall_grows (calls i) files phase

/-- A file is one that was there, or that of the receipt of a `put`. -/
theorem get?_afterwards (files : ReceiptFiles) (schedule : List ι) {receiptId text : Text}
    (hget : (afterwards calls files schedule).shared.get? receiptId = some text) :
    files.val.get? receiptId = some text ∨ ∃ i r record, calls i = .put r ∧
      r.val.receiptId = receiptId ∧ r.val.toDict = .ok record ∧ text = fileText record := by
  let Added (files files' : JsonEvidenceReceiptStore) : Prop := ∀ receiptId text,
    files'.get? receiptId = some text → files.get? receiptId = some text ∨ ∃ i r record,
      calls i = .put r ∧ r.val.receiptId = receiptId ∧ r.val.toDict = .ok record ∧
        text = fileText record
  have hadded : Added files.val (afterwards calls files schedule).shared := by
    apply Interleaving.shared_run (R := Added)
    · exact fun _ _ _ h ↦ .inl h
    · intro s s' s'' h h' receiptId text hget
      rcases h' receiptId text hget with hget | hput
      · exact h receiptId text hget
      · exact .inr hput
    · intro i s phase receiptId text hget
      rcases nextCall_files (calls i) s phase with h | ⟨r, record, hcall, hrecord, -, h⟩
      · rw [h] at hget
        exact .inl hget
      · rw [h] at hget
        by_cases heq : receiptId = r.val.receiptId
        · rw [heq, Dict.get?_set, if_pos rfl] at hget
          exact .inr ⟨i, r, record, hcall, heq.symm, hrecord, (Option.some.inj hget).symm⟩
        · rw [Dict.get?_set, if_neg heq] at hget
          exact .inl hget
  exact hadded receiptId text hget

/-- A `get` whose file is there before its first step does not miss it. -/
theorem ne_raised_of_stores {files : ReceiptFiles} {before : List ι} (after : List ι) {i : ι}
    (hi : i ∉ before) {r : ExternalEvidenceReceipt} (hcall : calls i = .get r.receiptId)
    (hr : Stores (afterwards calls files before).shared r) (e : PyError) :
    (afterwards calls files (before ++ after)).locals i ≠ .raised e := by
  have hpreserves : Interleaving.Preserves (fun i ↦ nextCall (calls i)) (fun _ _ _ ↦ True)
      (fun files files' ↦ files = files' ∧ Stores files' r)
      (fun j _ phase ↦ j = i → ∀ e, phase ≠ .raised e) := by
    constructor
    intro j files files' phase hs hl _
    obtain ⟨rfl, hr⟩ := hs
    refine ⟨_, ⟨rfl, hr.mono (nextCall_grows (calls j) files phase)⟩, ?_, fun _ _ _ h ↦ h⟩
    rintro rfl
    rw [hcall]
    exact nextGet_ne_raised hr (hl rfl)
  have hready : (afterwards calls files before).locals i = .ready :=
    Interleaving.locals_run_of_not_mem _ (calling files) hi
  have hstart : Interleaving.Holds (fun files files' ↦ files = files' ∧ Stores files' r)
      (fun j _ phase ↦ j = i → ∀ e, phase ≠ .raised e) (afterwards calls files before) := by
    refine ⟨_, ⟨rfl, hr⟩, ?_⟩
    rintro j rfl e
    rw [hready]
    exact nofun
  obtain ⟨_, -, hend⟩ := hpreserves.holds_run hstart (Interleaving.meets_true _ _ after)
  rw [afterwards, Interleaving.run_append]
  exact hend i rfl e

/-- A call that took three steps has ended. -/
theorem left_afterwards (files : ReceiptFiles) (schedule : List ι) {i : ι}
    (hi : 3 ≤ schedule.count i) : left ((afterwards calls files schedule).locals i) = 0 := by
  have hstart : Interleaving.Holds (fun files files' ↦ files = files' ∧ Kept files')
      (fun i files phase ↦ Stands files (calls i) phase) (calling files) :=
    holds_afterwards calls files []
  have hleft := (preserves_stands calls).measure_run left (i := i) (by
    rintro s _ phase ⟨rfl, hkept⟩ hstands
    exact (stands_next hkept (calls i) hstands).2) hstart schedule
  have hready : left ((calling files).locals i) = 3 := rfl
  rw [afterwards]
  omega

/-- What the store keeps to at two moments of a run, the one before the other. -/
structure FirstWriterWins (files : ReceiptFiles) (before after : List ι) : Prop where
  /-- No file is changed or removed. -/
  unchanged : Grows (afterwards calls files before).shared
    (afterwards calls files (before ++ after)).shared
  /-- A file is one that was there, or that of the receipt of a `put`. -/
  written : ∀ receiptId text,
    (afterwards calls files before).shared.get? receiptId = some text →
      files.val.get? receiptId = some text ∨ ∃ i r record, calls i = .put r ∧
        r.val.receiptId = receiptId ∧ r.val.toDict = .ok record ∧ text = fileText record
  /-- Every file is a receipt's, and one identity has one receipt. -/
  kept : Kept (afterwards calls files before).shared
  unique : ∀ r r', Stores (afterwards calls files before).shared r →
    Stores (afterwards calls files before).shared r' → r.receiptId = r'.receiptId → Equal r r'
  /-- A call that has ended has its answer from the receipts in the store, and it ends. -/
  answered : ∀ i, left ((afterwards calls files before).locals i) = 0 →
    Answered (afterwards calls files before).shared (calls i)
      ((afterwards calls files before).locals i)
  ends : ∀ i, 3 ≤ before.count i → left ((afterwards calls files before).locals i) = 0
  /-- A `get` that begins when its receipt is stored finds it. -/
  found : ∀ i r, calls i = .get r.receiptId → i ∉ before →
    Stores (afterwards calls files before).shared r → 3 ≤ after.count i →
      ∃ r', (afterwards calls files (before ++ after)).locals i = .found r' ∧ Equal r' r

end

end JsonEvidenceReceiptStore

end StateWake.Lifecycle
