import StateWake.Base.Calls
import StateWake.Base.Datetime
import StateWake.Base.LineLog
import StateWake.Security.Deployment
import StateWake.Utils.JsonSupport

/-!
# The security audit journal

`adapters/security_audit.py`. The journal holds one hash-linked record a line. The writer takes
every event; the reader takes six of the eight operations. An emitted event keeps the journal
readable exactly when its operation is one of the six.
-/

namespace StateWake.Security

open StateWake.Base Text Utils RegisterHistory

/-! ### Records -/

/-- `SecurityAuditRecord`, `adapters/security_audit.py:26–38`. -/
structure SecurityAuditRecord where
  sequence : Nat
  occurredAt : AwareDatetime
  event : SecurityAuditEvent
  operation : Option SecurityOperation
  method : Text
  path : Text
  reason : Text
  previousDigest : Option Text
  digest : Text

namespace SecurityAuditRecord

/-- `unsigned_payload()` at a time in UTC, `adapters/security_audit.py:40–51`. -/
def payloadAt (r : SecurityAuditRecord) (occurredAt : Datetime) : Dict Json :=
  [(lit "sequence", .int r.sequence),
    (lit "occurred_at", .str (isoformat occurredAt)),
    (lit "event", .str r.event.text),
    (lit "operation", optionJson (r.operation.map SecurityOperation.text)),
    (lit "method", .str r.method),
    (lit "path", .str r.path),
    (lit "reason", .str r.reason),
    (lit "previous_digest", optionJson r.previousDigest)]

/-- `unsigned_payload()`, `adapters/security_audit.py:40–51`. -/
def unsignedPayload (r : SecurityAuditRecord) : Except PyError (Dict Json) := do
  let occurredAt ← r.occurredAt.toUtc
  pure (r.payloadAt occurredAt)

/-- `to_dict()`, `adapters/security_audit.py:53–57`. -/
def toDict (r : SecurityAuditRecord) : Except PyError (Dict Json) := do
  let payload ← r.unsignedPayload
  pure (payload ++ [(lit "digest", .str r.digest)])

/-- The digest of the canonical payload, `adapters/security_audit.py:63–66`. -/
def contentDigest (r : SecurityAuditRecord) : Except PyError Text := do
  let payload ← r.unsignedPayload
  let content ← Utf8.toBytes (Json.dumps Json.compact (.obj payload))
  pure (sha256 content)

/-- `verify`, `adapters/security_audit.py:59–68`. -/
def verify (r : SecurityAuditRecord) (expectedPrevious : Option Text) : Except PyError Unit := do
  require ⟨.valueError, lit "security audit chain is discontinuous"⟩
    (r.previousDigest = expectedPrevious)
  let expectedDigest ← r.contentDigest
  require ⟨.valueError, lit "security audit record digest mismatch"⟩ (r.digest = expectedDigest)

end SecurityAuditRecord

/-! ### Reading a record -/

/-- `_require_string`, `adapters/security_audit.py:281–286`. -/
def requireString (payload : Dict Json) (field : Text) : Except PyError Text :=
  match (payload.get? field).bind Json.asText with
  | some (c :: s) => .ok (c :: s)
  | _ => valueError (field ++ lit " must be a non-empty string")

/-- `_require_int`, `adapters/security_audit.py:289–294`. -/
def requireInt (payload : Dict Json) (field : Text) : Except PyError Nat :=
  match (payload.get? field).bind Json.asInt with
  | some (.ofNat n) => .ok n
  | _ => valueError (field ++ lit " must be a non-negative integer")

/-- `_require_digest`, `adapters/security_audit.py:297–302`. -/
def requireDigest (payload : Dict Json) (field : Text) : Except PyError Text := do
  let value ← requireString payload field
  require ⟨.valueError, field ++ lit " must be lowercase SHA-256 hex"⟩ (isSha256 value)
  pure value

/-- `_optional_digest`, `adapters/security_audit.py:305–313`. -/
def optionalDigest (value : Option Json) : Except PyError (Option Text) :=
  match value with
  | none | some .null => .ok none
  | some (.str s) => do
    require ⟨.valueError, lit "previous_digest must be lowercase SHA-256 hex"⟩ (isSha256 s)
    pure (some s)
  | some _ => valueError (lit "previous_digest must be lowercase SHA-256 hex")

/-- The events the reader takes, `adapters/security_audit.py:318–323`. -/
def allowedEvents : List SecurityAuditEvent :=
  [.authenticationFailed, .authorizationDenied, .requestRejected, .requestAdmitted]

/-- `_require_event`, `adapters/security_audit.py:316–326`. -/
def requireEvent (value : Json) : Except PyError SecurityAuditEvent :=
  orRaise ⟨.valueError, lit "unsupported security audit event"⟩
    (value.asText.bind fun s ↦ allowedEvents.find? fun e ↦ decide (e.text = s))

/-- The operations the reader takes, `adapters/security_audit.py:333–340`. -/
def allowedOperations : List SecurityOperation :=
  [.verifyEvidence, .verifyProof, .reviewRead, .reviewWrite, .approvalRead, .approvalWrite]

/-- `_require_operation`, `adapters/security_audit.py:329–343`. -/
def requireOperation (value : Option Json) : Except PyError (Option SecurityOperation) :=
  match value with
  | none | some .null => .ok none
  | some v => do
    let operation ← orRaise ⟨.valueError, lit "unsupported security audit operation"⟩
      (v.asText.bind fun s ↦ allowedOperations.find? fun o ↦ decide (o.text = s))
    pure (some operation)

/-- `from_dict`, `adapters/security_audit.py:70–88`. -/
def SecurityAuditRecord.fromDict (payload : Dict Json) : Except PyError SecurityAuditRecord := do
  let written ← Json.index payload (lit "occurred_at")
  let occurredAt ← parseAware written.pyStr
    (lit "security audit timestamp must be timezone-aware")
  let sequence ← requireInt payload (lit "sequence")
  let kind ← Json.index payload (lit "event")
  let event ← requireEvent kind
  let operation ← requireOperation (payload.get? (lit "operation"))
  let method ← requireString payload (lit "method")
  let path ← requireString payload (lit "path")
  let reason ← requireString payload (lit "reason")
  let previousDigest ← optionalDigest (payload.get? (lit "previous_digest"))
  let digest ← requireDigest payload (lit "digest")
  pure ⟨sequence, occurredAt, event, operation, method, path, reason, previousDigest, digest⟩

namespace Audit

/-! ### The store -/

/-- One line after the records before it, `adapters/security_audit.py:111–116`. -/
def acceptLine (records : List SecurityAuditRecord) (line : Text) :
    Except PyError SecurityAuditRecord := do
  let value ← Json.loads line
  let payload ← orRaise ⟨.valueError, lit "security audit record must be an object"⟩
    value.asObject
  let record ← SecurityAuditRecord.fromDict payload
  record.verify (records.getLast?.map SecurityAuditRecord.digest)
  pure record

/-- One step of the loop, `adapters/security_audit.py:106–122`. -/
def parseLine (maxRecords : Option Int) (records : List SecurityAuditRecord) (number : Nat)
    (line : Text) : Except PyError (List SecurityAuditRecord) :=
  if ∃ bound ∈ maxRecords, bound ≤ records.length then
    .error ⟨.overflowError, lit "security audit record limit exceeded"⟩
  else
    match acceptLine records line with
    | .ok record =>
      if record.sequence = records.length then .ok (records ++ [record])
      else valueError (lit "security audit sequence is not contiguous")
    | .error e =>
      if e.kind.isRecordError then
        valueError (lit "invalid security audit record at line " ++ Decimal.decimal number ++
          lit ": " ++ e.message)
      else .error e

/-- `_parse_security_audit_lines`, `adapters/security_audit.py:98–123`. -/
def parseSecurityAuditLines (lines : List Text) (maxRecords : Option Int) :
    Except PyError (List SecurityAuditRecord) :=
  LineLog.readLines (parseLine maxRecords) [] 1 lines

/-- `_read_unlocked`, `adapters/security_audit.py:224–229`. -/
def readUnlocked (file : Option Bytes) : Except PyError (List SecurityAuditRecord) :=
  match file with
  | none => .ok []
  | some raw => do
    let text ← Utf8.ofBytes raw
    parseSecurityAuditLines (Lines.fileLines text) none

/-- `_with_digest`, `adapters/security_audit.py:262–278`. -/
def withDigest (r : SecurityAuditRecord) : Except PyError SecurityAuditRecord := do
  let digest ← r.contentDigest
  pure { r with digest }

/-- An event handed to the journal at a time of the system clock. -/
structure Call where
  event : SecurityEvent
  now : Datetime
  emitted : Emitted event

/-- The record of an event before its digest is known, `adapters/security_audit.py:189–199`. -/
def unsigned (records : List SecurityAuditRecord) (call : Call) : SecurityAuditRecord where
  sequence := records.length
  occurredAt := .ofUtc call.now
  event := call.event.event
  operation := call.event.operation
  method := call.event.method
  path := call.event.path
  reason := call.event.reason
  previousDigest := records.getLast?.map SecurityAuditRecord.digest
  digest := []

/-- `append`, `adapters/security_audit.py:183–217`. -/
def append (file : Option Bytes) (call : Call) :
    Except PyError SecurityAuditRecord × Option Bytes :=
  let written : Except PyError (SecurityAuditRecord × Bytes) := do
    let records ← readUnlocked file
    let record ← withDigest (unsigned records call)
    let object ← record.toDict
    let payload ← Utf8.toBytes (Json.dumps Json.compact (.obj object) ++ [Lines.newline])
    pure (record, payload)
  match written with
  | .error e => (.error e, file)
  | .ok (record, payload) => (.ok record, some (file.getD [] ++ payload))

/-! ### Lines -/

/-- The line of a record, without its line feed. -/
def lineOf (r : SecurityAuditRecord) : Text :=
  Json.dumps Json.compact (.obj (r.toDict.toOption.getD []))

/-- A record the writer makes after some records, of any operation. -/
structure Written (h : List SecurityAuditRecord) (r : SecurityAuditRecord) : Prop where
  sequence : r.sequence = h.length
  clock : ∃ now, r.occurredAt = .ofUtc now
  method : Plain r.method
  path : Plain r.path
  reason : Plain r.reason
  linked : r.previousDigest = h.getLast?.map SecurityAuditRecord.digest
  chained : ∀ digest ∈ r.previousDigest, isSha256 digest = true
  digested : r.contentDigest = .ok r.digest

/-- An operation the reader takes. -/
abbrev Readable (r : SecurityAuditRecord) : Prop := ∀ o ∈ r.operation, o ∈ allowedOperations

/-- What the journal holds after some records. -/
structure Stored (h : List SecurityAuditRecord) (r : SecurityAuditRecord) : Prop extends
    Written h r where
  readable : Readable r

/-- A file that holds a journal. -/
structure Represents (file : Option Bytes) (h : List SecurityAuditRecord) : Prop where
  content : file.getD [] = LineLog.encode lineOf h
  stored : Prefixwise Stored h

variable {h : List SecurityAuditRecord} {r : SecurityAuditRecord} {file : Option Bytes}

private theorem writable_payloadAt (r : SecurityAuditRecord) (now : Datetime) (digest : Text) :
    Json.Writable (.obj (r.payloadAt now ++ [(lit "digest", .str digest)])) := by
  simp [SecurityAuditRecord.payloadAt, Dict.Distinct]

private theorem isSha256_contentDigest {r : SecurityAuditRecord} {digest : Text}
    (hd : r.contentDigest = .ok digest) : isSha256 digest = true := by
  simp only [SecurityAuditRecord.contentDigest, bind_eq_ok] at hd
  obtain ⟨payload, -, content, -, hd⟩ := hd
  cases hd
  exact isSha256_sha256 content

namespace Written

private theorem toDict (hw : Written h r) :
    ∃ now, r.occurredAt = .ofUtc now ∧
      r.toDict = .ok (r.payloadAt now ++ [(lit "digest", .str r.digest)]) := by
  obtain ⟨now, hnow⟩ := hw.clock
  refine ⟨now, hnow, ?_⟩
  rw [SecurityAuditRecord.toDict, SecurityAuditRecord.unsignedPayload, hnow,
    AwareDatetime.toUtc_ofUtc]
  rfl

private theorem isSha256_digest (hw : Written h r) : isSha256 r.digest = true :=
  isSha256_contentDigest hw.digested

private theorem pairFree_texts (hw : Written h r) (now : Datetime) :
    ∀ s ∈ Json.texts (.obj (r.payloadAt now ++ [(lit "digest", .str r.digest)])), PairFree s := by
  have hwhole : ∀ s ∈ Json.texts (.obj (r.payloadAt now ++ [(lit "digest", .str r.digest)])),
      SurrogateFree s := by
    rw [Json.forall_texts_obj]
    simp [SecurityAuditRecord.payloadAt, surrogateFree_isoformat, r.event.surrogateFree_text,
      hw.method.whole, hw.path.whole, hw.reason.whole,
      surrogateFree_of_isSha256 hw.isSha256_digest]
    exact ⟨fun o _ ↦ o.surrogateFree_text,
      fun d hd ↦ surrogateFree_of_isSha256 (hw.chained d hd)⟩
  exact fun s hs ↦ (hwhole s hs).pairFree

theorem plain (hw : Written h r) : LineLog.Plain (lineOf r) := by
  obtain ⟨now, -, hdict⟩ := hw.toDict
  rw [lineOf, hdict]
  exact ⟨Json.isAscii_dumps rfl (writable_payloadAt r now r.digest),
    Json.unbroken_compact (writable_payloadAt r now r.digest), Json.not_blank_dumps_obj ..⟩

end Written

/-! ### Reading what was written -/

private theorem requireString_of_get? {payload : Dict Json} {field s : Text} (hs : s ≠ [])
    (hget : payload.get? field = some (.str s)) : requireString payload field = .ok s := by
  rw [requireString, hget]
  cases s with
  | nil => exact absurd rfl hs
  | cons _ _ => rfl

private theorem requireInt_of_get? {payload : Dict Json} {field : Text} {n : Nat}
    (hget : payload.get? field = some (.int n)) : requireInt payload field = .ok n := by
  rw [requireInt, hget]
  rfl

private theorem requireDigest_of_get? {payload : Dict Json} {field s : Text}
    (hs : isSha256 s = true) (hget : payload.get? field = some (.str s)) :
    requireDigest payload field = .ok s := by
  have hne : s ≠ [] := by
    rintro rfl
    cases hs
  rw [requireDigest, requireString_of_get? hne hget, ok_bind, hs, require_true]
  rfl

private theorem optionalDigest_optionJson {digest : Option Text}
    (hs : ∀ d ∈ digest, isSha256 d = true) :
    optionalDigest (some (optionJson digest)) = .ok digest := by
  cases digest with
  | none => rfl
  | some d =>
    rw [show optionJson (some d) = .str d from rfl, optionalDigest, hs d rfl, require_true]
    rfl

private theorem requireEvent_text (e : SecurityAuditEvent) :
    requireEvent (.str e.text) = .ok e := by
  cases e <;> rfl

/-- The reader takes an operation exactly when it is in its table. -/
private theorem requireOperation_text {operation : Option SecurityOperation} :
    requireOperation (some (optionJson (operation.map SecurityOperation.text))) =
      if ∀ o ∈ operation, o ∈ allowedOperations then .ok operation
      else valueError (lit "unsupported security audit operation") := by
  rcases operation with _ | o
  · rfl
  · cases o <;> rfl

/-- A written record is read as it is when its operation is readable, and is refused
otherwise. -/
private theorem fromDict_of_written (hw : Written h r) {now : Datetime}
    (hnow : r.occurredAt = .ofUtc now) {members : Dict Json}
    (hreads : ReadsAs members (r.payloadAt now ++ [(lit "digest", .str r.digest)])) :
    SecurityAuditRecord.fromDict members =
      if ∀ o ∈ r.operation, o ∈ allowedOperations then .ok r
      else valueError (lit "unsupported security audit operation") := by
  have hoccurred := hreads.index (lit "occurred_at") (.str (isoformat now))
    (by simp [SecurityAuditRecord.payloadAt])
  have hsequence := requireInt_of_get? (hreads (lit "sequence") (.int r.sequence)
    (by simp [SecurityAuditRecord.payloadAt]))
  have hevent := hreads.index (lit "event") (.str r.event.text)
    (by simp [SecurityAuditRecord.payloadAt])
  have hoperation := hreads (lit "operation")
    (optionJson (r.operation.map SecurityOperation.text)) (by simp [SecurityAuditRecord.payloadAt])
  have hmethod := requireString_of_get? hw.method.nonempty (hreads (lit "method") (.str r.method)
    (by simp [SecurityAuditRecord.payloadAt]))
  have hpath := requireString_of_get? hw.path.nonempty (hreads (lit "path") (.str r.path)
    (by simp [SecurityAuditRecord.payloadAt]))
  have hreason := requireString_of_get? hw.reason.nonempty (hreads (lit "reason") (.str r.reason)
    (by simp [SecurityAuditRecord.payloadAt]))
  have hprevious := hreads (lit "previous_digest") (optionJson r.previousDigest)
    (by simp [SecurityAuditRecord.payloadAt])
  have hdigest := requireDigest_of_get? hw.isSha256_digest (hreads (lit "digest") (.str r.digest)
    (by simp [SecurityAuditRecord.payloadAt]))
  rw [sortKeys_optionJson] at hoperation hprevious
  rw [SecurityAuditRecord.fromDict, hoccurred, ok_bind, Json.sortKeys_str, Json.pyStr_str,
    parseAware_isoformat, ok_bind, hsequence, ok_bind, hevent, ok_bind, Json.sortKeys_str,
    requireEvent_text, ok_bind, hoperation, requireOperation_text]
  split
  · rw [ok_bind, hmethod, ok_bind, hpath, ok_bind, hreason, ok_bind, hprevious,
      optionalDigest_optionJson hw.chained, ok_bind, hdigest, ok_bind, ← hnow]
    rfl
  · rfl

private theorem verify_of_written (hw : Written h r) :
    r.verify (h.getLast?.map SecurityAuditRecord.digest) = .ok () := by
  rw [SecurityAuditRecord.verify, hw.linked, decide_eq_true rfl, require_true, ok_bind,
    hw.digested, ok_bind, decide_eq_true rfl, require_true]

/-- The line of a written record after the records before it. -/
private theorem acceptLine_of_written (hw : Written h r) :
    acceptLine h (lineOf r ++ [Lines.newline]) =
      if ∀ o ∈ r.operation, o ∈ allowedOperations then .ok r
      else valueError (lit "unsupported security audit operation") := by
  obtain ⟨now, hnow, hdict⟩ := hw.toDict
  have hwritable := writable_payloadAt r now r.digest
  have hreads := readsAs_readMembers Json.compact hwritable (hw.pairFree_texts now)
  rw [lineOf, hdict, acceptLine, Except.toOption, Option.getD_some,
    Json.loads_dumps_obj_append _ hwritable Json.isBlank_newline, ok_bind, Json.asObject_obj,
    orRaise_some, ok_bind, fromDict_of_written hw hnow hreads]
  split
  · rw [ok_bind, verify_of_written hw]
    rfl
  · rfl

private theorem parseLine_of_written (hw : Written h r) (number : Nat) :
    parseLine none h number (lineOf r ++ [Lines.newline]) =
      if ∀ o ∈ r.operation, o ∈ allowedOperations then .ok (h ++ [r])
      else valueError (lit "invalid security audit record at line " ++ Decimal.decimal number ++
        lit ": " ++ lit "unsupported security audit operation") := by
  have hbound : ¬∃ bound ∈ (none : Option Int), bound ≤ h.length := by simp
  rw [parseLine, if_neg hbound, acceptLine_of_written hw]
  by_cases ho : ∀ o ∈ r.operation, o ∈ allowedOperations
  · rw [if_pos ho, if_pos ho]
    dsimp only
    rw [if_pos hw.sequence]
  · rw [if_neg ho, if_neg ho]
    rfl

private theorem reads_of_stored (hs : Prefixwise Stored h) :
    LineLog.Reads (fun r ↦ lineOf r ++ [Lines.newline]) (parseLine none) id h :=
  hs.mono fun _ _ hr ↦ ⟨not_blank_append hr.plain.visible _,
    fun number ↦ by rw [id, parseLine_of_written hr.toWritten, if_pos hr.readable]; rfl⟩

private theorem plain_of_stored (hs : Prefixwise Stored h) :
    ∀ r ∈ h, LineLog.Plain (lineOf r) :=
  hs.forall_mem fun _ _ hr ↦ hr.plain

/-- A file that holds a journal and one more written record: it reads with the record when the
record is readable, and raises otherwise. -/
private theorem readUnlocked_append (hs : Prefixwise Stored h) (hw : Written h r) :
    readUnlocked (some (LineLog.encode lineOf (h ++ [r]))) =
      parseLine none h (h.length + 1) (lineOf r ++ [Lines.newline]) := by
  have hplain : ∀ s ∈ h ++ [r], LineLog.Plain (lineOf s) := by
    intro s hmem
    rcases List.mem_append.mp hmem with hmem | hmem
    · exact plain_of_stored hs s hmem
    · rw [List.mem_singleton.mp hmem]
      exact hw.plain
  have hread := LineLog.readLines_append_line (reads_of_stored hs) 1 (r := r)
    (not_blank_append hw.plain.visible _)
  rw [Nat.add_comm] at hread
  rw [readUnlocked, Utf8.ofBytes, LineLog.decode_encode hplain, orRaise_some, ok_bind,
    LineLog.fileLines_terminated hplain]
  exact hread

/-- A file that holds a journal reads as it. -/
theorem readUnlocked_represents (hr : Represents file h) : readUnlocked file = .ok h := by
  cases file with
  | none =>
    have hn : h = [] := LineLog.encode_eq_nil_iff.mp hr.content.symm
    rw [hn]
    rfl
  | some raw =>
    have hcontent : raw = LineLog.encode lineOf h := hr.content
    rw [readUnlocked, Utf8.ofBytes, hcontent, LineLog.decode_encode (plain_of_stored hr.stored),
      orRaise_some, ok_bind, LineLog.fileLines_terminated (plain_of_stored hr.stored)]
    exact LineLog.readLines_of_reads (reads_of_stored hr.stored) 1

theorem represents_none : Represents none [] := ⟨rfl, prefixwise_nil _⟩

/-! ### Appending -/

/-- Journals whose records are numbered from 0 and linked by digest. -/
def Chained (h : List SecurityAuditRecord) : Prop :=
  Prefixwise (fun pre r ↦ r.sequence = pre.length ∧
    r.previousDigest = pre.getLast?.map SecurityAuditRecord.digest) h

/-- The event a record is about. -/
def toEvent (r : SecurityAuditRecord) : SecurityEvent :=
  ⟨r.event, r.operation, r.method, r.path, r.reason⟩

/-- An append that records its event, after which the journal reads as the records before it
and the new one. -/
def KeepsReadable (file : Option Bytes) (call : Call) : Prop :=
  ∃ records record after, readUnlocked file = .ok records ∧
    append file call = (.ok record, after) ∧ toEvent record = call.event ∧
    readUnlocked after = .ok (records ++ [record]) ∧ Chained (records ++ [record])

theorem chained_of_stored (hs : Prefixwise Stored h) : Chained h :=
  hs.mono fun _ _ hr ↦ ⟨hr.sequence, hr.linked⟩

private theorem contentDigest_isOk {now : Datetime} (hnow : r.occurredAt = .ofUtc now) :
    ∃ digest, r.contentDigest = .ok digest := by
  have hwritable : Json.Writable (.obj (r.payloadAt now)) := by
    simp [SecurityAuditRecord.payloadAt, Dict.Distinct]
  have hascii : Utf8.IsAscii (Json.dumps Json.compact (.obj (r.payloadAt now))) :=
    Json.isAscii_dumps rfl hwritable
  have hpayload : r.unsignedPayload = .ok (r.payloadAt now) := by
    rw [SecurityAuditRecord.unsignedPayload, hnow, AwareDatetime.toUtc_ofUtc]
    rfl
  rw [SecurityAuditRecord.contentDigest, hpayload, ok_bind, Utf8.toBytes_of_isAscii hascii]
  exact ⟨_, rfl⟩

/-- Every event is given its digest. -/
private theorem withDigest_unsigned (hs : Prefixwise Stored h) (call : Call) :
    ∃ record, withDigest (unsigned h call) = .ok record ∧ Written h record ∧
      toEvent record = call.event := by
  obtain ⟨digest, hdigest⟩ : ∃ digest, (unsigned h call).contentDigest = .ok digest :=
    contentDigest_isOk rfl
  obtain ⟨hmethod, hpath, hreason⟩ := call.emitted.plain
  refine ⟨{ unsigned h call with digest }, ?_, ?_, rfl⟩
  · rw [withDigest, hdigest]
    rfl
  · refine ⟨rfl, ⟨call.now, rfl⟩, hmethod, hpath, hreason, rfl, ?_, hdigest⟩
    intro previous hprevious
    obtain ⟨last, hlast, rfl⟩ := Option.map_eq_some_iff.mp hprevious
    obtain ⟨pre, hpre⟩ := List.getLast?_eq_some_iff.mp hlast
    exact (hs pre last [] hpre).isSha256_digest

/-- Every append to a journal writes a record of its event, readable or not. -/
theorem append_writes (hr : Represents file h) (call : Call) :
    ∃ record, Written h record ∧ toEvent record = call.event ∧
      append file call = (.ok record, some (LineLog.encode lineOf (h ++ [record]))) := by
  obtain ⟨record, hrecord, hw, hevent⟩ := withDigest_unsigned hr.stored call
  refine ⟨record, hw, hevent, ?_⟩
  obtain ⟨now, -, hdict⟩ := hw.toDict
  have hbytes := hw.plain.toBytes_line
  have hline : lineOf record = Json.dumps Json.compact
      (.obj (record.payloadAt now ++ [(lit "digest", .str record.digest)])) := by
    rw [lineOf, hdict]
    rfl
  rw [hline] at hbytes
  rw [append, readUnlocked_represents hr, ok_bind, hrecord, ok_bind, hdict, ok_bind, hbytes,
    LineLog.encode_append, ← hr.content]
  rfl

/-- The journal stays readable exactly when the event's operation is one the reader takes. -/
theorem keepsReadable_iff (hr : Represents file h) (call : Call) :
    KeepsReadable file call ↔ ∀ o ∈ call.event.operation, o ∈ allowedOperations := by
  obtain ⟨record, hw, hevent, happend⟩ := append_writes hr call
  have hread := readUnlocked_append hr.stored hw
  rw [parseLine_of_written hw] at hread
  have hoperation : record.operation = call.event.operation := by rw [← hevent, toEvent]
  rw [hoperation] at hread
  constructor
  · rintro ⟨records, record', after, hrecords, happend', -, hafter, -⟩
    rw [happend] at happend'
    cases happend'
    by_contra hnot
    rw [hread, if_neg hnot] at hafter
    cases hafter
  · intro ho
    rw [if_pos ho] at hread
    have hstored := prefixwise_append_singleton.mpr
      ⟨hr.stored, ⟨hw, fun o hmem ↦ ho o (hoperation ▸ hmem)⟩⟩
    exact ⟨h, record, _, readUnlocked_represents hr, happend, hevent, hread,
      chained_of_stored hstored⟩

private theorem represents_append (hr : Represents file h) {call : Call}
    (hkeeps : KeepsReadable file call) : ∃ g, Represents (append file call).2 g := by
  have ho := (keepsReadable_iff hr call).mp hkeeps
  obtain ⟨record, hw, hevent, happend⟩ := append_writes hr call
  refine ⟨h ++ [record], ?_, ?_⟩
  · rw [happend]
    rfl
  · refine prefixwise_append_singleton.mpr ⟨hr.stored, hw, ?_⟩
    rw [Readable, show record.operation = call.event.operation by rw [← hevent, toEvent]]
    exact ho

private theorem along_iff (calls : List Call) :
    Calls.Along append KeepsReadable none calls ↔
      ∀ call ∈ calls, ∀ o ∈ call.event.operation, o ∈ allowedOperations := by
  have hconst : Calls.Along append (fun _ call ↦ ∀ o ∈ call.event.operation,
      o ∈ allowedOperations) none calls ↔ _ := Calls.along_const_iff none calls
  rw [← hconst]
  apply Calls.along_iff (J := fun file ↦ ∃ h, Represents file h)
  · rintro file call ⟨h, hr⟩
    exact keepsReadable_iff hr call
  · rintro file call ⟨h, hr⟩ hkeeps
    exact represents_append hr hkeeps
  · exact ⟨[], represents_none⟩

/-- In every run from an empty journal, every append succeeds and is read back after the
records before it exactly when no event is an approval's revocation or supersession. -/
theorem journal_stays_readable_iff (calls : List Call) :
    Calls.Along append KeepsReadable none calls ↔
      ∀ call ∈ calls, call.event.operation ≠ some .approvalRevoke ∧
        call.event.operation ≠ some .approvalSupersede := by
  rw [along_iff]
  have hallowed : ∀ operation : Option SecurityOperation,
      (∀ o ∈ operation, o ∈ allowedOperations) ↔
        operation ≠ some .approvalRevoke ∧ operation ≠ some .approvalSupersede := by
    intro operation
    rcases operation with _ | o
    · simp
    · cases o <;> decide
  constructor
  · intro h call hcall
    exact (hallowed _).mp (h call hcall)
  · intro h call hcall
    exact (hallowed _).mpr (h call hcall)

/-! ### A revocation poisons the journal -/

/-- A record or receipt identifier. -/
private def zeros : Text := List.replicate 64 (hexDigit 0)

private def revokePath : Text :=
  lit "/api/v1/claims/" ++ zeros ++ lit "/approvals/" ++ zeros ++ lit "/revoke"

/-- A host that lets every request through. -/
private def openConfig : DeploymentSecurityConfig Unit where
  authenticate _ := some ()
  authorize _ _ _ := true
  admitRequest := none
  requireHttps := true
  publicPaths := []

private theorem operation_revokePath :
    operationForRequest (lit "POST") revokePath = some .approvalRevoke := by decide +kernel

private theorem emitted_revocation : Emitted
    ⟨.requestAdmitted, some .approvalRevoke, lit "POST", revokePath, lit "authorized"⟩ := by
  refine .boundary openConfig ⟨lit "POST", revokePath, lit "https"⟩ ?_
  rw [securedApplication, if_neg (show revokePath ∉ openConfig.publicPaths from nofun),
    operation_revokePath]
  rfl

/-- An admitted request to revoke an approval, at midnight. -/
private def revocation : Call where
  event := ⟨.requestAdmitted, some .approvalRevoke, lit "POST", revokePath, lit "authorized"⟩
  now := .of (.of 2026 1 1) 0
  emitted := emitted_revocation

/-- The record of an admitted revocation makes the journal unreadable. -/
theorem not_journal_stays_readable :
    ¬∀ calls : List Call, Calls.Along append KeepsReadable none calls := by
  intro h
  have hall := (along_iff [revocation]).mp (h [revocation]) revocation List.mem_cons_self
    .approvalRevoke rfl
  exact absurd hall (by decide)

end Audit

end StateWake.Security
