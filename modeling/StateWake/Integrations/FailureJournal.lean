import StateWake.Integrations.Callbacks

/-!
# The failure journal of a native sink

`integrations/native_capture.py`. A journal is a file of JSON lines, one for each failure, with its
stage and the name of its exception. A line that the writer appends is read back as one more
record, whatever records the file had.
-/

namespace StateWake.Integrations

open StateWake.Base Text Claims

/-! ### Records -/

/-- `_valid_failure_token`, `integrations/native_capture.py:157–163`. -/
def validFailureToken (value : Text) : Bool :=
  0 < value.length && value.length ≤ 128 && value.all isNameCharacter

/-- `NativeCaptureFailureRecord`, `integrations/native_capture.py:132–146`. -/
structure FailureRecord where
  sequence : Nat
  stage : Text
  errorType : Text
  deriving DecidableEq

/-- `raise ValueError("invalid failure journal entry")`. -/
def invalidEntry : PyError := ⟨.valueError, lit "invalid failure journal entry"⟩

/-- `raise NativeCaptureCapacityError(message)`, a subclass of `ValueError`. -/
def capacityError (message : Text) : PyError := ⟨.valueError, message⟩

/-- `_failure_record`, `integrations/native_capture.py:166–174`. -/
def failureRecord (value : Json) (sequence : Nat) : Except PyError FailureRecord := do
  let members ← orRaise invalidEntry value.asObject
  require invalidEntry (members.keys.all fun key ↦ [lit "stage", lit "error_type"].contains key)
  match members.get? (lit "stage"), members.get? (lit "error_type") with
  | some (.str stage), some (.str errorType) => do
    require invalidEntry (validFailureToken stage && validFailureToken errorType)
    pure ⟨sequence, stage, errorType⟩
  | _, _ => .error invalidEntry

/-! ### Reading -/

/-- The loop over the lines, `integrations/native_capture.py:207–214`. -/
def readRecords (maxRecords : Nat) (records : List FailureRecord) :
    List Text → Except PyError (List FailureRecord)
  | [] => .ok records
  | line :: lines => do
    require (capacityError (lit "failure journal exceeds its record limit"))
      (records.length < maxRecords)
    let value ← orRaise invalidEntry (Json.parse line)
    let record ← failureRecord value records.length
    readRecords maxRecords (records ++ [record]) lines

/-- What is at the path of a journal. -/
inductive JournalPath where
  | absent
  | file (raw : Bytes)
  | directory
  | symlink
  deriving DecidableEq

/-- `NativeCaptureFailureJournalSnapshot`, `integrations/native_capture.py:149–155`. -/
structure FailureJournalSnapshot where
  records : List FailureRecord
  byteSize : Nat
  exists_ : Bool

/-- `read_native_capture_failure_journal_snapshot`, `integrations/native_capture.py:177–215`. -/
def readFailureJournal (path : JournalPath) (maxBytes maxRecords : Nat) :
    Except PyError FailureJournalSnapshot := do
  require ⟨.valueError, lit "failure journal read bounds must be positive"⟩
    (0 < maxBytes && 0 < maxRecords)
  match path with
  | .symlink => valueError (lit "failure journal path cannot traverse a symlink")
  | .absent => .ok ⟨[], 0, false⟩
  | .directory => valueError (lit "failure journal path must be a file")
  | .file raw => do
    require (capacityError (lit "failure journal exceeds its size limit")) (raw.length ≤ maxBytes)
    require ⟨.valueError, lit "failure journal contains a partial trailing entry"⟩
      (raw.isEmpty || raw.getLast? = some 0x0A)
    let text ← orRaise ⟨.valueError, lit "failure journal is not valid UTF-8"⟩ (Utf8.decode raw)
    let records ← readRecords maxRecords [] (Lines.splitlines text)
    pure ⟨records, raw.length, true⟩

/-! ### Writing -/

/-- The value of a record, `integrations/native_capture.py:300`. -/
def recordValue (stage errorType : Text) : Json :=
  .obj [(lit "stage", .str stage), (lit "error_type", .str errorType)]

/-- The line of a record, `integrations/native_capture.py:307`: its members are in the order they
are in. -/
def journalLine (stage errorType : Text) : Text :=
  Json.render Json.compact 0 (recordValue stage errorType) ++ [Lines.newline]

/-- The bytes that are at a path. -/
def JournalPath.content : JournalPath → Bytes
  | file raw => raw
  | _ => []

/-- A line appended, `integrations/native_capture.py:301–320`. -/
def JournalPath.append (path : JournalPath) (line : Text) (maxBytes : Nat) :
    Except PyError JournalPath := do
  require ⟨.valueError, lit "failure journal path cannot traverse a symlink"⟩ (path ≠ .symlink)
  let bytes ← Utf8.toBytes line
  require (capacityError (lit "failure journal exceeds its size limit"))
    (path.content.length + bytes.length ≤ maxBytes)
  require ⟨.isADirectoryError, []⟩ (path ≠ .directory)
  pure (.file (path.content ++ bytes))

/-! ### What is written is read -/

section ReadBack

variable {stage errorType : Text}

/-- A token is of ASCII letters, digits, dots, underscores and hyphens. -/
theorem printable_of_validFailureToken {value : Text} (h : validFailureToken value = true) :
    ∀ c ∈ value, Json.Printable c := by
  rw [validFailureToken, Bool.and_eq_true, List.all_eq_true] at h
  intro c hc
  have hname := h.2 c hc
  rw [isNameCharacter, isLetter, show lit "_.-" = [0x5F, 0x2E, 0x2D] from rfl] at hname
  simp only [Bool.or_eq_true, Bool.and_eq_true, decide_eq_true_eq, List.contains_iff_mem,
    List.mem_cons, List.not_mem_nil, or_false] at hname
  rw [Json.Printable]
  rcases hname with (hletter | hdigit) | rfl | rfl | rfl
  · omega
  · omega
  · decide
  · decide
  · decide

theorem pairFree_of_validFailureToken {value : Text} (h : validFailureToken value = true) :
    PairFree value := by
  apply SurrogateFree.pairFree
  apply Utf8.IsAscii.surrogateFree
  intro c hc
  exact lt_trans (printable_of_validFailureToken h c hc).2 (by decide)

variable (hstage : validFailureToken stage = true) (herror : validFailureToken errorType = true)

theorem writable_recordValue (stage errorType : Text) :
    Json.Writable (recordValue stage errorType) := by
  rw [recordValue, Json.writable_obj]
  have hdistinct : [lit "stage", lit "error_type"].Nodup := by decide
  refine ⟨hdistinct, fun m hm ↦ ?_⟩
  rw [List.mem_cons, List.mem_singleton] at hm
  apply hm.elim
  · intro hm
    rw [hm]
    exact ⟨pairFree_lit _, trivial⟩
  · intro hm
    rw [hm]
    exact ⟨pairFree_lit _, trivial⟩

/-- A written line is printable. -/
theorem printable_of_mem_line {c : CodePoint}
    (hc : c ∈ Json.render Json.compact 0 (recordValue stage errorType)) : Json.Printable c := by
  apply (Json.mem_render (writable_recordValue stage errorType) hc).elim
  · intro hlayout
    exact hlayout.elim id fun ⟨hindent, _⟩ ↦ by cases hindent
  · intro ⟨hascii, _⟩
    cases hascii

theorem unbroken_line (stage errorType : Text) :
    Lines.Unbroken (Json.render Json.compact 0 (recordValue stage errorType)) := by
  intro c hc
  have hprintable := printable_of_mem_line hc
  rw [Json.Printable] at hprintable
  simp only [Lines.isBoundary, Bool.or_eq_false_iff, Bool.and_eq_false_iff,
    decide_eq_false_iff_not, beq_eq_false_iff_ne]
  omega

/-- The bytes of a line. -/
theorem toBytes_journalLine (stage errorType : Text) :
    Utf8.toBytes (journalLine stage errorType) =
      .ok (Utf8.ascii (journalLine stage errorType)) := by
  apply Utf8.toBytes_of_isAscii
  intro c hc
  apply (List.mem_append.mp hc).elim
  · intro hc
    exact lt_trans (printable_of_mem_line hc).2 (by decide)
  · intro hc
    rw [List.mem_singleton.mp hc]
    decide

include hstage herror

theorem parse_recordValue :
    Json.parse (Json.render Json.compact 0 (recordValue stage errorType)) =
      some (recordValue stage errorType) := by
  have hw := writable_recordValue stage errorType
  rw [Json.parse_render Json.compact hw, Json.readback_eq_self Json.compact hw]
  rw [recordValue, Json.forall_texts_obj]
  intro m hm
  rw [List.mem_cons, List.mem_singleton] at hm
  apply hm.elim
  · intro hm
    rw [hm]
    refine ⟨pairFree_lit _, fun s hs ↦ ?_⟩
    rw [Json.mem_texts_str.mp hs]
    exact pairFree_of_validFailureToken hstage
  · intro hm
    rw [hm]
    refine ⟨pairFree_lit _, fun s hs ↦ ?_⟩
    rw [Json.mem_texts_str.mp hs]
    exact pairFree_of_validFailureToken herror

theorem failureRecord_recordValue (sequence : Nat) :
    failureRecord (recordValue stage errorType) sequence = .ok ⟨sequence, stage, errorType⟩ := by
  have hstage? : Dict.get? [(lit "stage", Json.str stage), (lit "error_type", .str errorType)]
      (lit "stage") = some (.str stage) := rfl
  have herror? : Dict.get? [(lit "stage", Json.str stage), (lit "error_type", .str errorType)]
      (lit "error_type") = some (.str errorType) := rfl
  have hkeys : [lit "stage", lit "error_type"].all
      (fun key ↦ [lit "stage", lit "error_type"].contains key) = true := by decide
  have hall : (Dict.keys [(lit "stage", Json.str stage), (lit "error_type", .str errorType)]).all
      (fun key ↦ [lit "stage", lit "error_type"].contains key) = true := hkeys
  rw [failureRecord, recordValue, Json.asObject, orRaise_some, ok_bind, hall, require_true,
    ok_bind, hstage?, herror?]
  dsimp only
  rw [hstage, herror]
  rfl

end ReadBack

theorem readRecords_append {maxRecords : Nat} {records read : List FailureRecord}
    {lines more : List Text} (h : readRecords maxRecords records lines = .ok read) :
    readRecords maxRecords records (lines ++ more) = readRecords maxRecords read more := by
  induction lines generalizing records with
  | nil =>
    cases h
    rfl
  | cons line lines ih =>
    rw [readRecords, require_bind_eq_ok, bind_eq_ok] at h
    obtain ⟨hroom, value, hvalue, h⟩ := h
    rw [bind_eq_ok] at h
    obtain ⟨record, hrecord, h⟩ := h
    rw [List.cons_append, readRecords, hroom, require_true, ok_bind, hvalue, ok_bind, hrecord,
      ok_bind]
    exact ih h

theorem length_readRecords {maxRecords : Nat} {records read : List FailureRecord}
    {lines : List Text} (h : readRecords maxRecords records lines = .ok read) :
    read.length = records.length + lines.length := by
  induction lines generalizing records with
  | nil =>
    cases h
    rfl
  | cons line lines ih =>
    rw [readRecords, require_bind_eq_ok, bind_eq_ok] at h
    obtain ⟨-, value, -, h⟩ := h
    rw [bind_eq_ok] at h
    obtain ⟨record, -, h⟩ := h
    rw [ih h, List.length_append, List.length_singleton, List.length_cons]
    omega

/-- The lines of a journal that ends with a line feed, and a line more. -/
theorem splitlines_ended {raw : Bytes} {text line : Text}
    (hended : (raw.isEmpty || raw.getLast? = some 0x0A) = true) (htext : Utf8.decode raw = some text)
    (hline : Lines.Unbroken line) :
    Lines.splitlines (text ++ (line ++ [Lines.newline])) = Lines.splitlines text ++ [line] := by
  have hone : Lines.splitlines (line ++ [Lines.newline]) = [line] := by
    have hlines := Lines.splitlines_terminated [line]
      fun l hl ↦ by rw [List.mem_singleton.mp hl]; exact hline
    rwa [Lines.terminated_cons, Lines.terminated_nil] at hlines
  rw [Bool.or_eq_true] at hended
  apply hended.elim
  · intro hempty
    rw [List.isEmpty_iff.mp hempty] at htext
    cases htext
    exact hone
  · intro hlast
    rw [decide_eq_true_eq, List.getLast?_eq_some_iff] at hlast
    obtain ⟨init, hinit⟩ := hlast
    rw [hinit] at htext
    obtain ⟨t, ht⟩ := Utf8.exists_of_decode_append_singleton (by decide) htext
    rw [ht]
    change Lines.splitlines ((t ++ [Lines.newline]) ++ _) = _
    rw [List.append_assoc, List.singleton_append, Lines.splitlines_append, hone]
    rfl

/-- The bytes of a journal that is read to records. -/
structure Readable (maxBytes : Nat) (raw : Bytes) (records : List FailureRecord) : Prop where
  size : raw.length ≤ maxBytes
  ended : (raw.isEmpty || raw.getLast? = some 0x0A) = true
  text : ∃ text, Utf8.decode raw = some text ∧
    readRecords (max 1 maxBytes) [] (Lines.splitlines text) = .ok records

theorem readable_nil (maxBytes : Nat) : Readable maxBytes [] [] :=
  ⟨Nat.zero_le _, rfl, [], rfl, rfl⟩

theorem readable_of_read {path : JournalPath} {maxBytes : Nat} {snapshot : FailureJournalSnapshot}
    (h : readFailureJournal path maxBytes (max 1 maxBytes) = .ok snapshot) :
    0 < maxBytes ∧ (path = .absent ∨ ∃ raw, path = .file raw) ∧
      Readable maxBytes path.content snapshot.records := by
  rw [readFailureJournal.eq_def, require_bind_eq_ok, Bool.and_eq_true, decide_eq_true_eq] at h
  obtain ⟨⟨hpositive, -⟩, h⟩ := h
  cases path with
  | symlink => cases h
  | directory => cases h
  | absent =>
    cases h
    exact ⟨hpositive, .inl rfl, readable_nil maxBytes⟩
  | file raw =>
    dsimp only at h
    rw [require_bind_eq_ok, require_bind_eq_ok, bind_eq_ok] at h
    obtain ⟨hsize, hended, text, htext, h⟩ := h
    rw [bind_eq_ok] at h
    obtain ⟨records, hrecords, h⟩ := h
    cases h
    rw [orRaise_eq_ok] at htext
    exact ⟨hpositive, .inr ⟨raw, rfl⟩, of_decide_eq_true hsize, hended, text, htext, hrecords⟩

theorem Readable.read {maxBytes : Nat} {raw : Bytes} {records : List FailureRecord}
    (h : Readable maxBytes raw records) (hpositive : 0 < maxBytes) :
    readFailureJournal (.file raw) maxBytes (max 1 maxBytes) = .ok ⟨records, raw.length, true⟩ := by
  obtain ⟨text, htext, hrecords⟩ := h.text
  have hbounds : (decide (0 < maxBytes) && decide (0 < max 1 maxBytes)) = true := by
    rw [Bool.and_eq_true, decide_eq_true_eq, decide_eq_true_eq]
    omega
  rw [readFailureJournal, hbounds, require_true, ok_bind, decide_eq_true h.size, require_true,
    ok_bind, h.ended, require_true, ok_bind, htext, orRaise_some, ok_bind, hrecords]
  rfl

/-- A path with readable bytes is read to their records. -/
theorem Readable.exists_read {path : JournalPath} {maxBytes : Nat} {records : List FailureRecord}
    (h : Readable maxBytes path.content records) (hpositive : 0 < maxBytes)
    (hregular : path = .absent ∨ ∃ raw, path = .file raw) :
    ∃ snapshot, readFailureJournal path maxBytes (max 1 maxBytes) = .ok snapshot ∧
      snapshot.records = records := by
  apply hregular.elim
  · intro habsent
    rw [habsent] at h ⊢
    obtain ⟨text, htext, hrecords⟩ := h.text
    cases htext
    cases hrecords
    have hbounds : (decide (0 < maxBytes) && decide (0 < max 1 maxBytes)) = true := by
      rw [Bool.and_eq_true, decide_eq_true_eq, decide_eq_true_eq]
      omega
    rw [readFailureJournal, hbounds]
    exact ⟨_, rfl, rfl⟩
  · intro ⟨raw, hraw⟩
    rw [hraw] at h ⊢
    exact ⟨_, h.read hpositive, rfl⟩

section Append

variable {stage errorType : Text} (hstage : validFailureToken stage = true)
  (herror : validFailureToken errorType = true)

include hstage herror

/-- A journal with a line more is read to a record more. -/
theorem Readable.append {maxBytes : Nat} {raw : Bytes} {records : List FailureRecord}
    (h : Readable maxBytes raw records)
    (hroom : raw.length + (Utf8.ascii (journalLine stage errorType)).length ≤ maxBytes) :
    Readable maxBytes (raw ++ Utf8.ascii (journalLine stage errorType))
      (records ++ [⟨records.length, stage, errorType⟩]) := by
  have hbytes : Utf8.ascii (journalLine stage errorType) =
      Utf8.ascii (Json.render Json.compact 0 (recordValue stage errorType)) ++ [0x0A] := by
    rw [journalLine, Utf8.ascii, Utf8.ascii, List.map_append]
    rfl
  constructor
  · rw [List.length_append]
    exact hroom
  · rw [hbytes, ← List.append_assoc, List.getLast?_concat]
    simp
  · obtain ⟨text, htext, hrecords⟩ := h.text
    have hdecode := Utf8.ofBytes_of_toBytes (toBytes_journalLine stage errorType)
    rw [Utf8.ofBytes, orRaise_eq_ok] at hdecode
    have hlines := splitlines_ended h.ended htext (unbroken_line stage errorType)
    refine ⟨text ++ journalLine stage errorType, ?_, ?_⟩
    · rw [Utf8.decode_append htext, hdecode]
      rfl
    · rw [journalLine, hlines, readRecords_append hrecords, readRecords]
      have hcount := length_readRecords hrecords
      rw [List.length_nil, Nat.zero_add] at hcount
      have htextLength := Utf8.length_le_of_decode htext
      have hlinesLength := Lines.length_splitlines_le text
      have hpositive : 0 < (Utf8.ascii (journalLine stage errorType)).length := by
        rw [hbytes, List.length_append, List.length_singleton]
        omega
      rw [decide_eq_true (show records.length < max 1 maxBytes by omega), require_true, ok_bind,
        parse_recordValue hstage herror, orRaise_some, ok_bind,
        failureRecord_recordValue hstage herror, ok_bind]
      rfl

omit hstage herror in
/-- A line is appended to a regular journal where there is room. -/
theorem append_of_room {path : JournalPath} {maxBytes : Nat}
    (hregular : path = .absent ∨ ∃ raw, path = .file raw)
    (hroom : path.content.length + (Utf8.ascii (journalLine stage errorType)).length ≤ maxBytes) :
    path.append (journalLine stage errorType) maxBytes =
      .ok (.file (path.content ++ Utf8.ascii (journalLine stage errorType))) := by
  have hsymlink : path ≠ .symlink := by
    intro h
    rw [h] at hregular
    exact hregular.elim (fun h ↦ by cases h) fun ⟨_, h⟩ ↦ by cases h
  have hdirectory : path ≠ .directory := by
    intro h
    rw [h] at hregular
    exact hregular.elim (fun h ↦ by cases h) fun ⟨_, h⟩ ↦ by cases h
  rw [JournalPath.append, decide_eq_true hsymlink, require_true, ok_bind, toBytes_journalLine,
    ok_bind, decide_eq_true hroom, require_true, ok_bind, decide_eq_true hdirectory, require_true,
    ok_bind]
  rfl

omit hstage herror in
/-- It is not where there is none. -/
theorem append_of_full {path : JournalPath} {maxBytes : Nat}
    (hfull : ¬path.content.length + (Utf8.ascii (journalLine stage errorType)).length ≤ maxBytes) :
    ∃ e, path.append (journalLine stage errorType) maxBytes = .error e := by
  rw [JournalPath.append]
  by_cases hsymlink : path = .symlink
  · rw [decide_eq_false (not_not_intro hsymlink)]
    exact ⟨_, rfl⟩
  · rw [decide_eq_true hsymlink, require_true, ok_bind, toBytes_journalLine, ok_bind,
      decide_eq_false hfull]
    exact ⟨_, rfl⟩

end Append

end StateWake.Integrations
