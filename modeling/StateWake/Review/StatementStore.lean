import StateWake.Base.Calls
import StateWake.Base.LineLog
import StateWake.Review.Statement

/-!
# The store of review statements

`adapters/review_statement.py`. The store holds one hash-linked record a line. The writer checks
the trimmed form of every text and keeps the text as given; the reader rebuilds the record from
the trimmed form and checks its digest. An accepted statement keeps the store readable exactly
when its texts are stable.
-/

namespace StateWake.Review.StatementStore

open StateWake.Base Text Utils RegisterHistory
open ReviewStatementFields (validate_eq_ok)
open ReviewStatementRecord (create fromDict fromDict_eq_ok fromDict_of_stable Reread)

/-! ### The store -/

/-- One line after the records before it, `adapters/review_statement.py:163–170`. -/
def acceptLine (records : List ReviewStatementRecord) (line : Text) :
    Except PyError ReviewStatementRecord := do
  let value ← Json.loads line
  let payload ← orRaise ⟨.valueError, lit "review statement record must be an object"⟩
    value.asObject
  let record ← fromDict payload
  record.verify records.length (records.getLast?.map fun r ↦ r.digest)
  pure record

/-- One step of the loop, `adapters/review_statement.py:159–175`. -/
def parseLine (records : List ReviewStatementRecord) (number : Nat) (line : Text) :
    Except PyError (List ReviewStatementRecord) :=
  match acceptLine records line with
  | .ok record => .ok (records ++ [record])
  | .error e =>
    if e.kind.isRecordError then
      valueError (lit "invalid review statement at line " ++ Decimal.decimal number ++
        lit ": " ++ e.message)
    else .error e

/-- `_read_unlocked`, `adapters/review_statement.py:152–176`. -/
def readUnlocked (file : Option Bytes) : Except PyError (List ReviewStatementRecord) :=
  match file with
  | none => .ok []
  | some raw => do
    let text ← Utf8.ofBytes raw
    LineLog.readLines parseLine [] 1 (Lines.fileLines text)

/-- The arguments of `append`, and what the clock answers. -/
structure Call extends ReviewRequest where
  idempotencyKey : Text
  now : AwareDatetime

/-- The checks of a correction, `adapters/review_statement.py:88–104`. -/
def checkSupersedes (records : List ReviewStatementRecord) (r : ReviewRequest) :
    Except PyError Unit :=
  match r.supersedesDigest with
  | none => .ok ()
  | some digest => do
    let superseded ← orRaise
      ⟨.reviewSupersessionError, lit "superseded review statement does not exist"⟩
      (records.find? fun item ↦ decide (item.digest = digest))
    require ⟨.reviewSupersessionError,
        lit "review correction cannot supersede a different target or author"⟩
      (superseded.targetRecordId = r.targetRecordId ∧ superseded.reportDigest = r.reportDigest ∧
        superseded.actorIdentityRef = r.actorIdentityRef)

/-- The record of a call before its digest is known, `adapters/review_statement.py:112–133`. -/
def draft (records : List ReviewStatementRecord) (fingerprint : Text) (call : Call) :
    ReviewStatementFields where
  toReviewRequest := call.toReviewRequest
  sequence := records.length
  createdAt := call.now
  idempotencyKey := call.idempotencyKey
  requestFingerprint := fingerprint
  previousDigest := records.getLast?.map fun r ↦ r.digest
  digest := List.replicate 64 (hexDigit 0)

/-- The record of a new statement and its line, `adapters/review_statement.py:88–143`. -/
def newRecord (records : List ReviewStatementRecord) (fingerprint : Text) (call : Call) :
    Except PyError (ReviewStatementRecord × Bytes) := do
  checkSupersedes records call.toReviewRequest
  let unsigned ← create (draft records fingerprint call)
  let record ← unsigned.withReviewDigest
  let object ← record.toDict
  let raw ← Utf8.toBytes (Json.dumps Json.compact (.obj object) ++ [Lines.newline])
  pure (record, raw)

/-- What `append` returns and writes, `adapters/review_statement.py:60–143`. -/
def plan (file : Option Bytes) (call : Call) :
    Except PyError (ReviewStatementRecord × Option Bytes) := do
  let fingerprint ← reviewRequestFingerprint call.toReviewRequest
  let records ← readUnlocked file
  match records.find? fun existing ↦ decide (existing.idempotencyKey = call.idempotencyKey) with
  | some existing =>
    require ⟨.idempotencyConflictError,
        lit "idempotency key was already used for a different review request"⟩
      (existing.requestFingerprint = fingerprint)
    pure (existing, none)
  | none =>
    let (record, raw) ← newRecord records fingerprint call
    pure (record, some raw)

/-- `append`, `adapters/review_statement.py:40–150`: the record, whether it is new, and the
file. -/
def append (file : Option Bytes) (call : Call) :
    Except PyError (ReviewStatementRecord × Bool) × Option Bytes :=
  match plan file call with
  | .error e => (.error e, file)
  | .ok (existing, none) => (.ok (existing, false), file)
  | .ok (record, some raw) => (.ok (record, true), some (file.getD [] ++ raw))

/-! ### Lines -/

/-- The line of a record, without its line feed. -/
def lineOf (r : ReviewStatementRecord) : Text :=
  Json.dumps Json.compact (.obj (r.toDict.toOption.getD []))

/-- A record the writer makes after some records, whatever its texts. -/
structure Written (h : List ReviewStatementRecord) (r : ReviewStatementRecord) : Prop where
  sequence : r.sequence = h.length
  clock : ∃ now, r.createdAt.toUtc = .ok now
  linked : r.previousDigest = h.getLast?.map fun r ↦ r.digest
  digested : r.contentDigest = .ok r.digest

/-- What the store holds after some records. -/
structure Stored (h : List ReviewStatementRecord) (r : ReviewStatementRecord) : Prop extends
    Written h r where
  utc : ∃ now, r.createdAt = .ofUtc now
  stable : r.toReviewStatementFields.Stable

/-- A file that holds statements. -/
structure Represents (file : Option Bytes) (h : List ReviewStatementRecord) : Prop where
  content : file.getD [] = LineLog.encode lineOf h
  stored : Prefixwise Stored h

variable {h : List ReviewStatementRecord} {r : ReviewStatementRecord} {file : Option Bytes}

private theorem writable_payloadAt (f : ReviewStatementFields) (now : Datetime) (digest : Text) :
    Json.Writable (.obj (f.payloadAt now ++ [(lit "digest", .str digest)])) := by
  simp [ReviewStatementFields.payloadAt, Dict.Distinct]

private theorem toDict_of_toUtc {f : ReviewStatementFields} {now : Datetime}
    (hnow : f.createdAt.toUtc = .ok now) :
    f.toDict = .ok (f.payloadAt now ++ [(lit "digest", .str f.digest)]) := by
  rw [ReviewStatementFields.toDict, ReviewStatementFields.unsignedPayload, hnow]
  rfl

private theorem lineOf_eq {now : Datetime} (hnow : r.createdAt.toUtc = .ok now) :
    lineOf r = Json.dumps Json.compact
      (.obj (r.payloadAt now ++ [(lit "digest", .str r.digest)])) := by
  rw [lineOf, toDict_of_toUtc hnow]
  rfl

theorem Written.plain (hw : Written h r) : LineLog.Plain (lineOf r) := by
  obtain ⟨now, hnow⟩ := hw.clock
  rw [lineOf_eq hnow]
  exact ⟨Json.isAscii_dumps rfl (writable_payloadAt _ now r.digest),
    Json.unbroken_compact (writable_payloadAt _ now r.digest), Json.not_blank_dumps_obj ..⟩

/-! ### Reading what was written -/

private theorem reread_readMembers (f : ReviewStatementFields) (now : Datetime) :
    Reread (Json.readMembers Json.compact (f.payloadAt now ++ [(lit "digest", .str f.digest)]))
      f now := by
  intro key v hv
  have hdistinct := ((Json.writable_obj _).mp (writable_payloadAt f now f.digest)).1
  rw [ReviewStatementRecord.member, Json.get?_readMembers Json.compact hdistinct,
    (Dict.get?_eq_some_iff hdistinct).mpr hv]
  rfl

/-- What the reader makes of the line of a written record. -/
private theorem acceptLine_of_written {now : Datetime}
    (hnow : r.createdAt.toUtc = .ok now) {last : ReviewStatementRecord}
    (hlast : acceptLine h (lineOf r ++ [Lines.newline]) = .ok last) :
    last.toReviewStatementFields = r.reread now := by
  have hwritable := writable_payloadAt r.toReviewStatementFields now r.digest
  rw [acceptLine, lineOf_eq hnow, Json.loads_dumps_obj_append _ hwritable Json.isBlank_newline,
    ok_bind, Json.asObject_obj, orRaise_some, ok_bind] at hlast
  simp only [bind_eq_ok] at hlast
  obtain ⟨record, hrecord, -, -, hlast⟩ := hlast
  cases hlast
  exact ((fromDict_eq_ok (validate_eq_ok.mp r.lawful)
    (reread_readMembers r.toReviewStatementFields now)).mp hrecord).1

/-- The record a stable one is read back as. -/
def inUtc (r : ReviewStatementRecord) (now : Datetime) : ReviewStatementRecord :=
  ⟨{ r.toReviewStatementFields with createdAt := .ofUtc now }, r.lawful⟩

private theorem contentDigest_inUtc {now : Datetime} (hnow : r.createdAt.toUtc = .ok now) :
    (inUtc r now).contentDigest = r.contentDigest := by
  rw [ReviewStatementFields.contentDigest, ReviewStatementFields.contentDigest,
    ReviewStatementFields.unsignedPayload, ReviewStatementFields.unsignedPayload, hnow,
    show (inUtc r now).createdAt = .ofUtc now from rfl, AwareDatetime.toUtc_ofUtc]
  rfl

private theorem acceptLine_of_stable (hw : Written h r) {now : Datetime}
    (hnow : r.createdAt.toUtc = .ok now) (hs : r.toReviewStatementFields.Stable) :
    acceptLine h (lineOf r ++ [Lines.newline]) = .ok (inUtc r now) := by
  have hwritable := writable_payloadAt r.toReviewStatementFields now r.digest
  have hverify : (inUtc r now).verify h.length (h.getLast?.map fun r ↦ r.digest) = .ok () := by
    rw [ReviewStatementRecord.verify, contentDigest_inUtc hnow, hw.digested,
      decide_eq_true (show (inUtc r now).sequence = h.length from hw.sequence), require_true,
      ok_bind, decide_eq_true (show (inUtc r now).previousDigest = _ from hw.linked),
      require_true, ok_bind, ok_bind,
      decide_eq_true (show (inUtc r now).digest = r.digest from rfl), require_true]
  rw [acceptLine, lineOf_eq hnow, Json.loads_dumps_obj_append _ hwritable Json.isBlank_newline,
    ok_bind, Json.asObject_obj, orRaise_some, ok_bind,
    fromDict_of_stable (reread_readMembers r.toReviewStatementFields now) hs, ok_bind]
  change ((inUtc r now).verify _ _ >>= fun _ ↦ pure (inUtc r now)) = _
  rw [hverify]
  rfl

private theorem lineOf_inUtc {now : Datetime} (hnow : r.createdAt.toUtc = .ok now) :
    lineOf (inUtc r now) = lineOf r := by
  have hutc : (inUtc r now).createdAt.toUtc = .ok now := AwareDatetime.toUtc_ofUtc now
  rw [lineOf_eq hnow, lineOf_eq hutc]
  rfl

private theorem stored_inUtc (hw : Written h r) {now : Datetime}
    (hnow : r.createdAt.toUtc = .ok now) (hs : r.toReviewStatementFields.Stable) :
    Stored h (inUtc r now) :=
  ⟨⟨hw.sequence, ⟨now, AwareDatetime.toUtc_ofUtc now⟩, hw.linked,
    (contentDigest_inUtc hnow).trans hw.digested⟩, ⟨now, rfl⟩, hs⟩

private theorem inUtc_of_stored (hs : Stored h r) : ∃ now, r.createdAt.toUtc = .ok now ∧
    inUtc r now = r := by
  obtain ⟨now, hnow⟩ := hs.utc
  refine ⟨now, ?_, ?_⟩
  · rw [hnow, AwareDatetime.toUtc_ofUtc]
  · obtain ⟨f, lawful⟩ := r
    obtain ⟨_, _, createdAt, _⟩ := f
    cases hnow
    rfl

private theorem reads_of_stored (hs : Prefixwise Stored h) :
    LineLog.Reads (fun r ↦ lineOf r ++ [Lines.newline]) parseLine id h := by
  refine hs.mono fun pre r hr ↦ ⟨not_blank_append hr.plain.visible _, fun number ↦ ?_⟩
  obtain ⟨now, hnow, heq⟩ := inUtc_of_stored hr
  rw [id, parseLine, acceptLine_of_stable hr.toWritten hnow hr.stable, heq]
  rfl

private theorem plain_of_stored (hs : Prefixwise Stored h) :
    ∀ r ∈ h, LineLog.Plain (lineOf r) :=
  hs.forall_mem fun _ _ hr ↦ hr.plain

/-- A file that holds statements reads as them. -/
theorem readUnlocked_represents (hr : Represents file h) : readUnlocked file = .ok h := by
  cases file with
  | none =>
    have hn : h = [] := LineLog.encode_eq_nil_iff.mp hr.content.symm
    rw [hn]
    rfl
  | some raw =>
    have hcontent : raw = LineLog.encode lineOf h := hr.content
    rw [readUnlocked, Utf8.ofBytes, hcontent, LineLog.decode_encode (plain_of_stored hr.stored),
      orRaise_some, ok_bind, LineLog.fileLines_terminated (plain_of_stored hr.stored)]
    exact LineLog.readLines_of_reads (reads_of_stored hr.stored) 1

/-- A file that holds statements and one more written record: the last line is read after
them. -/
private theorem readUnlocked_append (hs : Prefixwise Stored h) (hw : Written h r) :
    readUnlocked (some (LineLog.encode lineOf (h ++ [r]))) =
      parseLine h (h.length + 1) (lineOf r ++ [Lines.newline]) := by
  have hplain : ∀ s ∈ h ++ [r], LineLog.Plain (lineOf s) := by
    intro s hmem
    rcases List.mem_append.mp hmem with hmem | hmem
    · exact plain_of_stored hs s hmem
    · rw [List.mem_singleton.mp hmem]
      exact hw.plain
  have hread := LineLog.readLines_append_line (reads_of_stored hs) 1 (r := r)
    (not_blank_append hw.plain.visible _)
  rw [Nat.add_comm] at hread
  rw [readUnlocked, Utf8.ofBytes, LineLog.decode_encode hplain, orRaise_some, ok_bind,
    LineLog.fileLines_terminated hplain]
  exact hread

theorem represents_none : Represents none [] := ⟨rfl, prefixwise_nil _⟩

/-! ### Appending -/

/-- The texts of a call that the reader trims. -/
def Call.texts (call : Call) : List Text :=
  [call.candidateIdentity, call.profileId, call.profileVersion, call.actorIdentityRef,
    call.actorRole, call.statement, call.scope, call.idempotencyKey] ++
  call.findingRefs ++ call.limitation.toList

/-- Texts that trimming leaves alone and that hold no surrogate pair. -/
def Call.Stable (call : Call) : Prop := ∀ s ∈ call.texts, strip s = s ∧ PairFree s

/-- A call that every check of the writer lets pass: a new key, a correction of a statement of
the same target and author, fields within their bounds, a time that UTC can express. -/
structure Accepts (records : List ReviewStatementRecord) (call : Call) : Prop where
  fresh : ∀ r ∈ records, r.idempotencyKey ≠ call.idempotencyKey
  supersedes : checkSupersedes records call.toReviewRequest = .ok ()
  lawful : ∃ fingerprint, reviewRequestFingerprint call.toReviewRequest = .ok fingerprint ∧
    (draft records fingerprint call).Lawful
  clock : ∃ now, call.now.toUtc = .ok now

/-- The record read is the record written: the same fields, at the same instant. -/
def Same (r last : ReviewStatementRecord) : Prop :=
  last.toReviewStatementFields = { r.toReviewStatementFields with createdAt := last.createdAt } ∧
    last.createdAt.instant = r.createdAt.instant

/-- Records numbered from 0, linked by digest, each with the digest of its content. -/
def Chained (h : List ReviewStatementRecord) : Prop :=
  Prefixwise (fun pre r ↦ r.sequence = (pre.length : Int) ∧
    r.previousDigest = (pre.getLast?.map fun r ↦ r.digest) ∧ r.contentDigest = .ok r.digest) h

/-- After an append of a new record, the store reads as the records before it and that one. -/
def KeepsReadable (file : Option Bytes) (call : Call) : Prop :=
  ∀ record after, append file call = (.ok (record, true), after) →
    ∃ records last, readUnlocked file = .ok records ∧
      readUnlocked after = .ok (records ++ [last]) ∧ Same record last ∧
      Chained (records ++ [last])

variable {call : Call} {fingerprint : Text} {record : ReviewStatementRecord} {raw : Bytes}
  {after : Option Bytes}

theorem chained_of_stored (hs : Prefixwise Stored h) : Chained h :=
  hs.mono fun _ _ hr ↦ ⟨hr.sequence, hr.linked, hr.digested⟩

private theorem texts_draft (h : List ReviewStatementRecord) (fingerprint : Text) (call : Call) :
    (draft h fingerprint call).texts.map Prod.fst = call.texts := by
  simp [ReviewStatementFields.texts, draft, Call.texts, Function.comp_def]

private theorem contentDigest_isOk {f : ReviewStatementFields} {now : Datetime}
    (hnow : f.createdAt.toUtc = .ok now) :
    ∃ digest, f.contentDigest = .ok digest ∧ isSha256 digest = true := by
  have hwritable : Json.Writable (.obj (f.payloadAt now)) := by
    simp [ReviewStatementFields.payloadAt, Dict.Distinct]
  have hascii : Utf8.IsAscii (Json.dumps Json.compact (.obj (f.payloadAt now))) :=
    Json.isAscii_dumps rfl hwritable
  rw [ReviewStatementFields.contentDigest, ReviewStatementFields.unsignedPayload, hnow, ok_bind]
  change ∃ digest, (canonical (f.payloadAt now) >>= _) = _ ∧ _
  rw [canonical, Utf8.toBytes_of_isAscii hascii, ok_bind]
  exact ⟨_, rfl, isSha256_sha256 _⟩

theorem fingerprint_isOk (r : ReviewRequest) :
    ∃ fingerprint, reviewRequestFingerprint r = .ok fingerprint ∧ isSha256 fingerprint = true := by
  have hwritable : Json.Writable (.obj r.payload) := by
    simp [ReviewRequest.payload, Dict.Distinct]
  have hascii : Utf8.IsAscii (Json.dumps Json.compact (.obj r.payload)) :=
    Json.isAscii_dumps rfl hwritable
  rw [reviewRequestFingerprint, canonical, Utf8.toBytes_of_isAscii hascii, ok_bind]
  exact ⟨_, rfl, isSha256_sha256 _⟩

/-- A new record is the call's draft with its digest. -/
private theorem newRecord_spec (hnew : newRecord h fingerprint call = .ok (record, raw)) :
    checkSupersedes h call.toReviewRequest = .ok () ∧ (draft h fingerprint call).Lawful ∧
      Written h record ∧ record.texts = (draft h fingerprint call).texts ∧
      record.createdAt = call.now ∧ raw = LineLog.encode lineOf [record] := by
  simp only [newRecord, ReviewStatementRecord.withReviewDigest, bind_eq_ok,
    ReviewStatementRecord.create_eq_ok] at hnew
  obtain ⟨⟨⟩, hsupersedes, unsigned, hunsigned, made, ⟨digest, hdigest, hmade⟩, object, hobject,
    line, hline, heq⟩ := hnew
  cases heq
  rw [hunsigned] at hdigest hmade
  have hlawful := validate_eq_ok.mp (hunsigned ▸ unsigned.lawful)
  obtain ⟨now, hnow⟩ : ∃ now, call.now.toUtc = .ok now := by
    simp only [ReviewStatementFields.contentDigest, ReviewStatementFields.unsignedPayload,
      bind_eq_ok] at hdigest
    obtain ⟨_, ⟨now, hnow, -⟩, -⟩ := hdigest
    exact ⟨now, hnow⟩
  have hcreated : record.createdAt = call.now := by rw [hmade]; rfl
  have hw : Written h record := by
    refine ⟨by rw [hmade]; rfl, ⟨now, by rw [hcreated, hnow]⟩, by rw [hmade]; rfl, ?_⟩
    rw [hmade]
    exact hdigest
  refine ⟨hsupersedes, hlawful, hw, by rw [hmade]; rfl, hcreated, ?_⟩
  have hnow' : record.createdAt.toUtc = .ok now := by rw [hcreated, hnow]
  rw [toDict_of_toUtc hnow'] at hobject
  cases hobject
  rw [← lineOf_eq hnow', hw.plain.toBytes_line] at hline
  exact (Except.ok.inj hline).symm

private theorem newRecord_isOk (hsupersedes : checkSupersedes h call.toReviewRequest = .ok ())
    (hf : (draft h fingerprint call).Lawful) {now : Datetime} (hnow : call.now.toUtc = .ok now) :
    ∃ record raw, newRecord h fingerprint call = .ok (record, raw) := by
  obtain ⟨digest, hdigest, hsha⟩ :
      ∃ digest, (draft h fingerprint call).contentDigest = .ok digest ∧ isSha256 digest = true :=
    contentDigest_isOk hnow
  obtain ⟨record, hrecord⟩ : ∃ record : ReviewStatementRecord, record.toReviewStatementFields =
      { draft h fingerprint call with digest } :=
    ⟨⟨_, validate_eq_ok.mpr (hf.withDigest hsha)⟩, rfl⟩
  have hunsigned : create (draft h fingerprint call) = .ok ⟨_, validate_eq_ok.mpr hf⟩ :=
    ReviewStatementRecord.create_eq_ok.mpr rfl
  have hmade : ReviewStatementRecord.withReviewDigest ⟨_, validate_eq_ok.mpr hf⟩ = .ok record := by
    rw [ReviewStatementRecord.withReviewDigest, hdigest, ok_bind]
    exact ReviewStatementRecord.create_eq_ok.mpr hrecord
  have hnow' : record.createdAt.toUtc = .ok now := by
    rw [hrecord]
    exact hnow
  have hascii : Utf8.IsAscii (Json.dumps Json.compact (.obj (record.payloadAt now ++
      [(lit "digest", .str record.digest)])) ++ [Lines.newline]) := by
    intro c hc
    rcases List.mem_append.mp hc with hc | hc
    · exact Json.isAscii_dumps rfl (writable_payloadAt _ now record.digest) c hc
    · rw [List.mem_singleton.mp hc]
      decide
  refine ⟨record, Utf8.ascii (Json.dumps Json.compact (.obj (record.payloadAt now ++
    [(lit "digest", .str record.digest)])) ++ [Lines.newline]), ?_⟩
  rw [newRecord, hsupersedes, ok_bind, hunsigned, ok_bind, hmade, ok_bind, toDict_of_toUtc hnow',
    ok_bind, Utf8.toBytes_of_isAscii hascii]
  rfl

private theorem append_eq_new :
    append file call = (.ok (record, true), after) ↔
      ∃ raw, plan file call = .ok (record, some raw) ∧ after = some (file.getD [] ++ raw) := by
  rw [append]
  split
  · next e he => simp [he]
  · next existing he => simp [he]
  · next new raw he => simp [he, eq_comm]

private theorem plan_eq_new (hr : Represents file h) :
    plan file call = .ok (record, some raw) ↔
      (∀ r ∈ h, r.idempotencyKey ≠ call.idempotencyKey) ∧
        ∃ fingerprint, reviewRequestFingerprint call.toReviewRequest = .ok fingerprint ∧
          newRecord h fingerprint call = .ok (record, raw) := by
  rw [plan]
  simp only [bind_eq_ok, readUnlocked_represents hr, Except.ok.injEq, exists_eq_left']
  by_cases hfresh : ∀ r ∈ h, r.idempotencyKey ≠ call.idempotencyKey
  · have hfind : (h.find? fun existing ↦ decide (existing.idempotencyKey = call.idempotencyKey)) =
        none := by
      rw [List.find?_eq_none]
      intro r hr
      rw [decide_eq_true_eq]
      exact hfresh r hr
    rw [hfind]
    simp only [bind_eq_ok, and_iff_right hfresh]
    refine exists_congr fun fingerprint ↦ and_congr_right fun _ ↦ ?_
    constructor
    · rintro ⟨⟨made, line⟩, hnew, heq⟩
      cases heq
      exact hnew
    · intro hnew
      exact ⟨(record, raw), hnew, rfl⟩
  · refine iff_of_false ?_ fun h ↦ hfresh h.1
    rintro ⟨fingerprint, -, heq⟩
    split at heq
    · simp only [bind_eq_ok] at heq
      obtain ⟨-, -, heq⟩ := heq
      cases heq
    · next hfind =>
      rw [List.find?_eq_none] at hfind
      exact hfresh fun r hr hkey ↦ hfind r hr (decide_eq_true hkey)

/-- A call writes a new record exactly when every check passes. -/
theorem append_new_iff (hr : Represents file h) :
    (∃ record after, append file call = (.ok (record, true), after)) ↔ Accepts h call := by
  simp only [append_eq_new, plan_eq_new hr]
  constructor
  · rintro ⟨record, after, raw, ⟨hfresh, fingerprint, hfingerprint, hnew⟩, -⟩
    obtain ⟨hsupersedes, hlawful, hw, -, hcreated, -⟩ := newRecord_spec hnew
    exact ⟨hfresh, hsupersedes, ⟨fingerprint, hfingerprint, hlawful⟩, hcreated ▸ hw.clock⟩
  · rintro ⟨hfresh, hsupersedes, ⟨fingerprint, hfingerprint, hlawful⟩, now, hnow⟩
    obtain ⟨record, raw, hnew⟩ := newRecord_isOk hsupersedes hlawful hnow
    exact ⟨record, _, raw, ⟨hfresh, fingerprint, hfingerprint, hnew⟩, rfl⟩

/-- A new record is written after the ones before it, with the texts of the call. -/
theorem append_new (hr : Represents file h)
    (happend : append file call = (.ok (record, true), after)) :
    Written h record ∧ (record.toReviewStatementFields.Stable ↔ call.Stable) ∧
      after = some (LineLog.encode lineOf (h ++ [record])) := by
  obtain ⟨raw, hplan, rfl⟩ := append_eq_new.mp happend
  obtain ⟨-, fingerprint, -, hnew⟩ := (plan_eq_new hr).mp hplan
  obtain ⟨-, -, hw, htexts, -, rfl⟩ := newRecord_spec hnew
  refine ⟨hw, ?_, ?_⟩
  · rw [Call.Stable, ← texts_draft h fingerprint, ← htexts, List.forall_mem_map]
    rfl
  · rw [LineLog.encode_append, ← hr.content]

/-- A call that writes no new record leaves the file as it was. -/
theorem append_old (hold : ¬∃ record after, append file call = (.ok (record, true), after)) :
    (append file call).2 = file := by
  rw [append] at hold ⊢
  split
  · rfl
  · rfl
  · next record raw hplan =>
    rw [hplan] at hold
    exact absurd ⟨record, _, rfl⟩ hold

/-- A call keeps the store readable exactly when it is refused or its texts are stable. -/
theorem keepsReadable_iff (hr : Represents file h) (call : Call) :
    KeepsReadable file call ↔ (Accepts h call → call.Stable) := by
  rw [← append_new_iff hr]
  constructor
  · rintro hkeeps ⟨record, after, happend⟩
    obtain ⟨hw, hstable, rfl⟩ := append_new hr happend
    obtain ⟨records, last, hrecords, hread, ⟨hsame, -⟩, -⟩ := hkeeps _ _ happend
    rw [readUnlocked_represents hr] at hrecords
    cases hrecords
    obtain ⟨now, hnow⟩ := hw.clock
    rw [readUnlocked_append hr.stored hw, parseLine] at hread
    split at hread
    · next made hmade =>
      cases List.append_cancel_left (Except.ok.inj hread)
      rw [← hstable, ← ReviewStatementFields.texts_reread_eq_iff now,
        ← acceptLine_of_written hnow hmade, hsame]
      rfl
    · next e he =>
      split at hread <;> cases hread
  · intro hstable record after happend
    obtain ⟨hw, hiff, rfl⟩ := append_new hr happend
    have hs := hiff.mpr (hstable ⟨record, _, happend⟩)
    obtain ⟨now, hnow⟩ := hw.clock
    have hstored := prefixwise_append_singleton.mpr ⟨hr.stored, stored_inUtc hw hnow hs⟩
    refine ⟨h, inUtc record now, readUnlocked_represents hr, ?_, ⟨rfl, ?_⟩,
      chained_of_stored hstored⟩
    · rw [readUnlocked_append hr.stored hw, parseLine, acceptLine_of_stable hw hnow hs]
    · rw [show (inUtc record now).createdAt = .ofUtc now from rfl, AwareDatetime.instant_ofUtc,
        AwareDatetime.instant_toUtc hnow]

/-- A new record of stable texts is held after the ones before it, its time in UTC. -/
theorem represents_append_new (hr : Represents file h)
    (happend : append file call = (.ok (record, true), after)) (hstable : call.Stable) :
    ∃ now, Represents after (h ++ [inUtc record now]) := by
  obtain ⟨hw, hiff, rfl⟩ := append_new hr happend
  obtain ⟨now, hnow⟩ := hw.clock
  refine ⟨now, ?_, prefixwise_append_singleton.mpr
    ⟨hr.stored, stored_inUtc hw hnow (hiff.mpr hstable)⟩⟩
  rw [LineLog.encode_append, LineLog.encode_append, LineLog.encode_singleton,
    LineLog.encode_singleton, lineOf_inUtc hnow]
  rfl

private theorem represents_append (hr : Represents file h) {call : Call}
    (hkeeps : KeepsReadable file call) : ∃ g, Represents (append file call).2 g := by
  by_cases hnew : ∃ record after, append file call = (.ok (record, true), after)
  · have hstable := (keepsReadable_iff hr call).mp hkeeps ((append_new_iff hr).mp hnew)
    obtain ⟨record, after, happend⟩ := hnew
    obtain ⟨now, hrepresents⟩ := represents_append_new hr happend hstable
    exact ⟨h ++ [inUtc record now], by rwa [happend]⟩
  · rw [append_old hnew]
    exact ⟨h, hr⟩

/-- In every run from an empty store, every new statement is read back after the ones before it
exactly when no accepted call has a text that trimming shortens or a surrogate pair. -/
theorem statements_stay_readable_iff (calls : List Call) :
    Calls.Along append KeepsReadable none calls ↔
      Calls.Along append (fun file call ↦ ∀ records, readUnlocked file = .ok records →
        Accepts records call → call.Stable) none calls := by
  apply Calls.along_iff (J := fun file ↦ ∃ h, Represents file h)
  · rintro file call ⟨h, hr⟩
    rw [keepsReadable_iff hr]
    constructor
    · intro hstable records hrecords
      rw [readUnlocked_represents hr] at hrecords
      cases hrecords
      exact hstable
    · intro hstable
      exact hstable h (readUnlocked_represents hr)
  · rintro file call ⟨h, hr⟩ hkeeps
    exact represents_append hr hkeeps
  · exact ⟨[], represents_none⟩

/-! ### A trailing space poisons the store -/

private def zeroDigest : Text := List.replicate 64 (hexDigit 0)

private def midnight : Datetime := .of (.of 2026 1 1) 0

/-- A statement that ends in a space. -/
private def spacedCall : Call where
  targetRecordId := zeroDigest
  candidateIdentity := lit "candidate"
  candidateDigest := zeroDigest
  reportDigest := zeroDigest
  profileId := lit "profile"
  profileVersion := lit "1"
  actorIdentityRef := lit "reviewer"
  actorRole := lit "reviewer"
  category := lit "observation"
  statement := lit "seen "
  findingRefs := []
  limitation := none
  scope := lit "release"
  supersedesDigest := none
  idempotencyKey := lit "key"
  now := .ofUtc midnight

private theorem accepts_spacedCall : Accepts [] spacedCall := by
  obtain ⟨fingerprint, hfingerprint, hsha⟩ := fingerprint_isOk spacedCall.toReviewRequest
  refine ⟨fun _ hr ↦ absurd hr List.not_mem_nil, rfl, ⟨fingerprint, hfingerprint, ?_⟩, midnight,
    AwareDatetime.toUtc_ofUtc midnight⟩
  have hzero : isSha256 zeroDigest = true := by decide +kernel
  have htexts : ∀ t ∈ (draft [] [] spacedCall).texts, Fits t.2 t.1 := by decide +kernel
  have hcategory : lit "observation" ∈ allowedCategories := by decide
  refine ⟨le_rfl, htexts, ?_, hcategory, Nat.zero_le _⟩
  intro d hd
  simp only [ReviewStatementFields.digests, draft, spacedCall, List.getLast?_nil, Option.map_none,
    Option.toList_none, List.append_nil, List.mem_cons, List.not_mem_nil, or_false] at hd
  rcases hd with rfl | rfl | rfl | rfl | rfl
  · exact hzero
  · exact hzero
  · exact hzero
  · exact hsha
  · exact hzero

/-- A statement with a trailing space is accepted and makes the store unreadable. -/
theorem not_statements_stay_readable :
    ¬∀ calls : List Call, Calls.Along append KeepsReadable none calls := by
  intro h
  have hstable := (keepsReadable_iff represents_none spacedCall).mp (h [spacedCall]).1
    accepts_spacedCall (lit "seen ") (by simp [Call.texts, spacedCall])
  exact absurd hstable.1 (by decide)

end StateWake.Review.StatementStore
