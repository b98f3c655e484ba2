import StateWake.Base.Csv
import StateWake.Base.DatetimeOrder
import StateWake.Lifecycle.RecordQuery

/-!
# CSV exports

`workspace/csv_export.py` and `workspace/projections.py:33–90`. Records are written with a marker for
a missing value, and the file is verified with a reader that limits the length of a field. What is
written is read back exactly where no text is empty, is the marker, is longer than the limit or has
no UTF-8 form.
-/

namespace StateWake.Lifecycle.CsvExport

open StateWake.Base Text Utils

/-! ### Projections -/

/-- `NormalizedRecordProjection`, `workspace/projections.py:29–48`. -/
structure NormalizedRecordProjection where
  recordId : Text
  receiptId : Text
  artifactDigest : Text
  artifactSize : Int
  producerId : Text
  producerType : Text
  producerVersion : Option Text
  sourceRef : Text
  sourceEventId : Option Text
  runId : Option Text
  capturedAt : AwareDatetime
  sensitivity : Text
  policyId : Text
  verificationStatus : Option Text
  reliabilityState : Option Text
  createdAt : AwareDatetime

namespace NormalizedRecordProjection

/-- `from_record`, `workspace/projections.py:50–69`. -/
def fromRecord (record : RecordQuery.ConstructedRecord) : NormalizedRecordProjection :=
  let receipt := record.val.receipt
  ⟨receipt.receiptId, receipt.receiptId, receipt.artifactDigest, receipt.artifactSize,
    receipt.producerId, receipt.producerType, receipt.producerVersion, receipt.sourceRef,
    receipt.sourceEventId, receipt.runId, receipt.capturedAt, record.val.sensitivity,
    record.val.policyId, record.val.verificationStatus, record.val.reliabilityState,
    record.val.createdAt⟩

/-- The members of a projection, with its two times as they are written. -/
def members (p : NormalizedRecordProjection) (captured created : Text) : Dict Json :=
  [(lit "record_id", .str p.recordId),
    (lit "receipt_id", .str p.receiptId),
    (lit "artifact_digest", .str p.artifactDigest),
    (lit "artifact_size", .int p.artifactSize),
    (lit "producer_id", .str p.producerId),
    (lit "producer_type", .str p.producerType),
    (lit "producer_version", optionJson p.producerVersion),
    (lit "source_ref", .str p.sourceRef),
    (lit "source_event_id", optionJson p.sourceEventId),
    (lit "run_id", optionJson p.runId),
    (lit "captured_at", .str captured),
    (lit "sensitivity", .str p.sensitivity),
    (lit "policy_id", .str p.policyId),
    (lit "verification_status", optionJson p.verificationStatus),
    (lit "reliability_state", optionJson p.reliabilityState),
    (lit "created_at", .str created)]

/-- `to_dict`, `workspace/projections.py:71–90`. -/
def toDict (p : NormalizedRecordProjection) : Except PyError (Dict Json) := do
  let captured ← p.capturedAt.utcText
  let created ← p.createdAt.utcText
  pure (p.members captured created)

/-- Two projections are equal as Python compares them. -/
structure Same (p q : NormalizedRecordProjection) : Prop where
  fields : { p with capturedAt := q.capturedAt, createdAt := q.createdAt } = q
  captured : p.capturedAt.instant = q.capturedAt.instant
  created : p.createdAt.instant = q.createdAt.instant

end NormalizedRecordProjection

/-! ### Writing -/

/-- `CSV_NULL`, `workspace/csv_export.py:18`. -/
def csvNull : Text := lit "\\N"

/-- `CSV_RECORD_COLUMNS`, `workspace/csv_export.py:21–38`. -/
def csvRecordColumns : List Text :=
  [lit "record_id", lit "receipt_id", lit "artifact_digest", lit "artifact_size", lit "producer_id",
    lit "producer_type", lit "producer_version", lit "source_ref", lit "source_event_id",
    lit "run_id", lit "captured_at", lit "sensitivity", lit "policy_id", lit "verification_status",
    lit "reliability_state", lit "created_at"]

/-- `CsvExportResult`, `workspace/csv_export.py:45–54`, but for the path. -/
structure CsvExportResult where
  exportId : Text
  outputDigest : Text
  rowCount : Nat
  schemaVersion : Text
  disclosureMaxSensitivity : Text

/-- `_csv_value`, `workspace/csv_export.py:182–188`. -/
def csvValue : Json → Text
  | .null => csvNull
  | .bool b => if b then lit "true" else lit "false"
  | value => value.pyStr

/-- `_record_row`, `workspace/csv_export.py:176–179`. -/
def recordRow (record : NormalizedRecordProjection) : Except PyError (List Text) := do
  let values ← record.toDict
  csvRecordColumns.mapM fun column ↦ csvValue <$> orRaise ⟨.keyError, column⟩ (values.get? column)

/-- The content that `write_csv` leaves in its output, and its result,
`workspace/csv_export.py:57–122`. -/
def writeCsv (records : List NormalizedRecordProjection)
    (exportId schemaVersion disclosureMaxSensitivity : Text) :
    Except PyError (Bytes × CsvExportResult) := do
  let header ← Utf8.toBytes (Csv.writeRow csvRecordColumns)
  let rows ← records.mapM fun record ↦ do
    let row ← recordRow record
    Utf8.toBytes (Csv.writeRow row)
  let content := header ++ rows.flatten
  pure (content, ⟨exportId, sha256 content, records.length, schemaVersion, disclosureMaxSensitivity⟩)

/-! ### Verifying and reading -/

/-- `csv.field_size_limit()`, which nothing changes. -/
def fieldSizeLimit : Nat := 131072

/-- `CsvExportError`, a `WorkspaceRepositoryError`. -/
def csvExportError {α : Type} (message : Text) : Except PyError α :=
  .error ⟨.workspaceError, message⟩

/-- The message of a `csv.Error`. -/
def csvMessage : Csv.CsvError → Text
  | .fieldLimit => lit "field larger than field limit (131072)"
  | .newLine => lit "new-line character seen in unquoted field - " ++
      lit "do you need to open the file with newline=''?"

/-- The rows of a file that holds text, up to the error that ends the reading. -/
def reopened (content : Bytes) : Except PyError Csv.Rows :=
  match Utf8.decode content with
  | none => csvExportError (lit "CSV export could not be reopened: ")
  | some text => .ok (Csv.read fieldSizeLimit text)

/-- The error of a reading, if any. -/
def raised : Option Csv.CsvError → Except PyError Unit
  | none => .ok ()
  | some e => csvExportError (lit "CSV export could not be reopened: " ++ csvMessage e)

/-- The checks of a row, `workspace/csv_export.py:148–155`. -/
def verifyRow (row : List Text) : Except PyError Unit := do
  require ⟨.workspaceError, lit "CSV row width mismatch: expected 16, got " ++
    Decimal.decimal row.length ++ lit "."⟩ (row.length = csvRecordColumns.length)
  require ⟨.workspaceError, lit "CSV contains an unencoded null value."⟩ (!row.any List.isEmpty)

/-- `verify_csv` of a file with this content, `workspace/csv_export.py:125–168`. -/
def verifyCsv (content : Bytes) (expectedRows : Nat) (expectedSchemaVersion : Text) :
    Except PyError Unit := do
  let (rows, e) ← reopened content
  raised (if rows = [] then e else none)
  require ⟨.workspaceError, lit "CSV schema mismatch"⟩ (rows.head?.getD [] = csvRecordColumns)
  rows.tail.forM verifyRow
  raised e
  require ⟨.workspaceError, lit "CSV row count mismatch: expected " ++
    Decimal.decimal expectedRows ++ lit ", got " ++ Decimal.decimal rows.tail.length ++ lit "."⟩
    (rows.tail.length = expectedRows)
  require ⟨.workspaceError, lit "CSV schema version must not be blank."⟩
    (!blank expectedSchemaVersion)

/-- What the text of a column stands for: the marker for a missing value, and a number for a
size. -/
def readValue (column value : Text) : Json :=
  if value = csvNull then .null
  else if column = lit "artifact_size" then .int (Decimal.value value)
  else .str value

/-- A row with the names of its columns. -/
def readRow (row : List Text) : Dict Json :=
  (csvRecordColumns.zip row).map fun (column, value) ↦ (column, readValue column value)

/-- The records of a file, read with the dialect and the marker they were written with. -/
def readCsv (content : Bytes) : Except PyError (List (Dict Json)) := do
  let (rows, e) ← reopened content
  raised e
  pure (rows.tail.map readRow)

/-! ### Rows -/

/-- The row of a record with these members. -/
def rowOf (values : Dict Json) : List Text := values.map fun m ↦ csvValue m.2

private theorem mapM_keys {values : Dict Json} (h : values.Distinct) :
    (values.keys.mapM fun column ↦ csvValue <$> orRaise ⟨.keyError, column⟩ (values.get? column)) =
      .ok (rowOf values) := by
  rw [Dict.keys, List.mapM_map]
  apply mapM_eq_ok_map
  intro m hm
  rw [Function.comp_apply, (Dict.get?_eq_some_iff h).mpr hm]
  rfl

theorem keys_members (p : NormalizedRecordProjection) (captured created : Text) :
    (p.members captured created).keys = csvRecordColumns := rfl

theorem recordRow_eq (p : NormalizedRecordProjection) : recordRow p = rowOf <$> p.toDict := by
  rw [recordRow]
  cases hdict : p.toDict with
  | error e => rfl
  | ok values =>
    simp only [NormalizedRecordProjection.toDict, bind_eq_ok] at hdict
    obtain ⟨captured, -, created, -, hvalues⟩ := hdict
    have hkeys : values.keys = csvRecordColumns := by
      rw [← Except.ok.inj hvalues, keys_members]
    have hdistinct : values.Distinct := by
      rw [Dict.Distinct, hkeys]
      decide
    rw [ok_bind, ← hkeys, mapM_keys hdistinct]
    rfl

/-! ### What a cell carries -/

/-- A text that a file carries. -/
structure Storable (s : Text) : Prop where
  encoded : SurrogateFree s
  stated : s ≠ []
  unmarked : s ≠ csvNull
  short : s.length ≤ fieldSizeLimit

/-- A value that is read back in its column from its text. -/
structure Carried (column : Text) (value : Json) : Prop where
  encoded : SurrogateFree (csvValue value)
  stated : csvValue value ≠ []
  short : (csvValue value).length ≤ fieldSizeLimit
  same : readValue column (csvValue value) = value

theorem carried_null (column : Text) : Carried column .null where
  encoded := surrogateFree_lit _
  stated := by decide
  short := by decide
  same := if_pos rfl

theorem carried_str {column : Text} (hcolumn : column ≠ lit "artifact_size") (s : Text) :
    Carried column (.str s) ↔ Storable s := by
  have hvalue : csvValue (.str s) = s := rfl
  constructor
  · intro h
    refine ⟨h.encoded, h.stated, fun hmarked ↦ ?_, h.short⟩
    have hsame := h.same
    rw [hvalue, hmarked, readValue, if_pos rfl] at hsame
    cases hsame
  · intro h
    refine ⟨h.encoded, h.stated, h.short, ?_⟩
    rw [hvalue, readValue, if_neg h.unmarked, if_neg hcolumn]

theorem carried_optionJson {column : Text} (hcolumn : column ≠ lit "artifact_size")
    (o : Option Text) : Carried column (optionJson o) ↔ ∀ s ∈ o, Storable s := by
  cases o with
  | none => simp [optionJson, carried_null]
  | some s => simp [optionJson, carried_str hcolumn]

private theorem isDigit_of_mem_decimal {n : Nat} {c : CodePoint} (h : c ∈ Decimal.decimal n) :
    Decimal.isDigit c = true := List.all_eq_true.mp (Decimal.all_decimal n) c h

private theorem storable_of_digits {s : Text} (h : ∀ c ∈ s, Decimal.isDigit c = true) (hs : s ≠ [])
    (hshort : s.length ≤ fieldSizeLimit) : Storable s where
  encoded c hc := by
    have hdigit := h c hc
    simp only [Decimal.isDigit, Bool.and_eq_true, decide_eq_true_eq] at hdigit
    simp only [isSurrogate, Bool.and_eq_false_iff, decide_eq_false_iff_not]
    omega
  stated := hs
  unmarked := by
    rintro rfl
    exact absurd (h 92 (by decide)) (by decide)
  short := hshort

/-- A size is carried exactly when its digits fit a field. -/
theorem carried_int {n : Int} (hn : 0 ≤ n) :
    Carried (lit "artifact_size") (.int n) ↔ Storable (Json.intText n) := by
  have hvalue : csvValue (.int n) = Json.intText n := rfl
  have htext : Json.intText n = Decimal.decimal n.natAbs := by
    rw [Json.intText, if_neg (by omega)]
  constructor
  · intro h
    refine ⟨h.encoded, h.stated, fun hmarked ↦ ?_, h.short⟩
    rw [htext] at hmarked
    have hdigit := isDigit_of_mem_decimal (n := n.natAbs) (c := 92) (by rw [hmarked]; decide)
    exact absurd hdigit (by decide)
  · intro h
    refine ⟨h.encoded, h.stated, h.short, ?_⟩
    have hn : ((n.natAbs : Nat) : Int) = n := by omega
    rw [hvalue, readValue, if_neg h.unmarked, if_pos rfl, htext, Decimal.value_decimal, hn]

private theorem length_isoformat (t : Datetime) :
    2 < (isoformat t).length ∧ (isoformat t).length ≤ fieldSizeLimit := by
  have hzone : (lit "+00:00").length = 6 := rfl
  have hbody : (isoformatBody t).length ≤ 26 := by
    have hmark (s : String) (n : Nat) (h : (lit s).length = n) : (lit s).length = n := h
    rw [isoformatBody]
    split <;> simp only [List.length_append, Decimal.length_padded, List.length_nil,
      hmark "-" 1 rfl, hmark "T" 1 rfl, hmark ":" 1 rfl, hmark "." 1 rfl] <;> omega
  rw [isoformat, List.length_append, hzone, fieldSizeLimit]
  omega

/-- Every time is carried. -/
theorem storable_isoformat (t : Datetime) : Storable (isoformat t) where
  encoded := surrogateFree_isoformat t
  stated h := by
    have hlength := (length_isoformat t).1
    rw [h] at hlength
    exact absurd hlength (by decide)
  unmarked h := by
    have hlength := (length_isoformat t).1
    rw [h] at hlength
    exact absurd hlength (by decide)
  short := (length_isoformat t).2

/-- The texts of a projection: those that are missing aside, and a size in digits. -/
def NormalizedRecordProjection.texts (p : NormalizedRecordProjection) : List Text :=
  [some p.recordId, some p.receiptId, some p.artifactDigest, some (Json.intText p.artifactSize),
    some p.producerId, some p.producerType, p.producerVersion, some p.sourceRef, p.sourceEventId,
    p.runId, some p.sensitivity, some p.policyId, p.verificationStatus,
    p.reliabilityState].reduceOption

private theorem forall_mem_reduceOption_cons {P : Text → Prop} (o : Option Text)
    (os : List (Option Text)) :
    (∀ s ∈ (o :: os).reduceOption, P s) ↔ (∀ s ∈ o, P s) ∧ ∀ s ∈ os.reduceOption, P s := by
  cases o <;> simp [List.reduceOption]

/-- The members of a projection are carried exactly when its texts can be. -/
theorem carried_members {p : NormalizedRecordProjection} (hsize : 0 ≤ p.artifactSize)
    (captured created : Datetime) :
    (∀ m ∈ p.members (isoformat captured) (isoformat created), Carried m.1 m.2) ↔
      ∀ s ∈ p.texts, Storable s := by
  have hname (column : String) (h : column ≠ "artifact_size") :
      lit column ≠ lit "artifact_size" := fun he ↦ h (lit_inj.mp he)
  simp only [NormalizedRecordProjection.members, NormalizedRecordProjection.texts,
    List.forall_mem_cons, forall_mem_reduceOption_cons, carried_int hsize]
  rw [carried_str (hname _ (by decide)), carried_str (hname _ (by decide)),
    carried_str (hname _ (by decide)), carried_str (hname _ (by decide)),
    carried_str (hname _ (by decide)), carried_str (hname _ (by decide)),
    carried_str (hname _ (by decide)), carried_str (hname _ (by decide)),
    carried_str (hname _ (by decide)), carried_str (hname _ (by decide)),
    carried_optionJson (hname _ (by decide)), carried_optionJson (hname _ (by decide)),
    carried_optionJson (hname _ (by decide)), carried_optionJson (hname _ (by decide)),
    carried_optionJson (hname _ (by decide))]
  simp [storable_isoformat, List.reduceOption]

/-! ### Files -/

/-- The text of a file with these rows under its header. -/
def fileText (rows : List (List Text)) : Text := (csvRecordColumns :: rows).flatMap Csv.writeRow

private theorem encode_flatMap {α : Type} (write : α → Text) (l : List α) (content : Bytes) :
    Utf8.encode (l.flatMap write) = some content ↔
      ∃ parts, (l.mapM fun a ↦ Utf8.toBytes (write a)) = .ok parts ∧ content = parts.flatten := by
  induction l generalizing content with
  | nil =>
    constructor
    · intro h
      exact ⟨[], rfl, (Option.some.inj h).symm⟩
    · rintro ⟨parts, hparts, rfl⟩
      cases hparts
      rfl
  | cons a l ih =>
    rw [List.flatMap_cons, Utf8.encode_append, List.mapM_cons]
    cases ha : Utf8.encode (write a) with
    | none => simp [Utf8.toBytes, ha]
    | some part =>
      simp only [Utf8.toBytes, ha, orRaise_some, ok_bind, bind_eq_ok, Option.bind_eq_bind,
        Option.bind_some, Option.bind_eq_some_iff, ih]
      constructor
      · rintro ⟨_, ⟨parts, hparts, rfl⟩, hcontent⟩
        exact ⟨_, ⟨parts, hparts, rfl⟩, (Option.some.inj hcontent).symm⟩
      · rintro ⟨_, ⟨parts, hparts, hall⟩, rfl⟩
        cases hall
        exact ⟨_, ⟨parts, hparts, rfl⟩, rfl⟩

/-- A file is written exactly when its records can be and its text has a UTF-8 form. -/
theorem writeCsv_eq_ok {records : List NormalizedRecordProjection}
    {exportId schemaVersion disclosureMaxSensitivity : Text} {content : Bytes}
    {result : CsvExportResult} :
    writeCsv records exportId schemaVersion disclosureMaxSensitivity = .ok (content, result) ↔
      ∃ dicts, records.mapM NormalizedRecordProjection.toDict = .ok dicts ∧
        Utf8.encode (fileText (dicts.map rowOf)) = some content ∧
        result = ⟨exportId, sha256 content, records.length, schemaVersion,
          disclosureMaxSensitivity⟩ := by
  have hrow : (fun record ↦ recordRow record >>= fun row ↦ Utf8.toBytes (Csv.writeRow row)) =
      fun record : NormalizedRecordProjection ↦
        record.toDict >>= fun values ↦ Utf8.toBytes (Csv.writeRow (rowOf values)) := by
    funext record
    rw [recordRow_eq]
    cases record.toDict <;> rfl
  have htext (dicts : List (Dict Json)) : fileText (dicts.map rowOf) =
      Csv.writeRow csvRecordColumns ++ dicts.flatMap fun values ↦ Csv.writeRow (rowOf values) := by
    rw [fileText, List.flatMap_cons, List.flatMap_map]
  simp only [writeCsv, hrow, htext, bind_eq_ok, Utf8.encode_append, Option.bind_eq_bind,
    Option.bind_eq_some_iff, encode_flatMap]
  constructor
  · rintro ⟨header, hheader, parts, hparts, hresult⟩
    obtain ⟨dicts, hdicts, hparts⟩ := Paging.exists_mapM_of_bind hparts
    cases hresult
    exact ⟨dicts, hdicts, ⟨header, orRaise_eq_ok.mp hheader, _, ⟨parts, hparts, rfl⟩, rfl⟩, rfl⟩
  · rintro ⟨dicts, hdicts, ⟨header, hheader, _, ⟨parts, hparts, rfl⟩, hcontent⟩, rfl⟩
    cases hcontent
    exact ⟨header, orRaise_eq_ok.mpr hheader, parts, Paging.mapM_bind hdicts hparts, rfl⟩

section

variable {content : Bytes} {rows : List (List Text)}

private theorem reopened_fileText (h : Utf8.encode (fileText rows) = some content) :
    reopened content = .ok
      (csvRecordColumns :: rows.takeWhile (fun row ↦ decide (Csv.Fits fieldSizeLimit row)),
        if ∀ row ∈ rows, Csv.Fits fieldSizeLimit row then none else some .fieldLimit) := by
  have hheader : Csv.Fits fieldSizeLimit csvRecordColumns := by decide
  rw [reopened, Utf8.decode_encode h]
  simp only [fileText, Csv.read_writeRows, List.takeWhile_cons, hheader, decide_true, if_true,
    List.forall_mem_cons, true_and]

private theorem takeWhile_fits (h : ∀ row ∈ rows, Csv.Fits fieldSizeLimit row) :
    rows.takeWhile (fun row ↦ decide (Csv.Fits fieldSizeLimit row)) = rows := by
  rw [List.takeWhile_eq_self_iff]
  intro row hrow
  exact decide_eq_true (h row hrow)

private theorem verifyRow_eq_ok {row : List Text} {u : Unit}
    (hwidth : row.length = csvRecordColumns.length) : verifyRow row = .ok u ↔ [] ∉ row := by
  rw [verifyRow, hwidth, decide_eq_true rfl, require_true, ok_bind, require_eq_ok,
    Bool.not_eq_true', List.any_eq_false]
  constructor
  · intro h hmem
    exact h [] hmem rfl
  · intro h field hfield hempty
    rw [List.isEmpty_iff] at hempty
    exact h (hempty ▸ hfield)

/-- A file is verified exactly when the reader admits its fields, none is empty and it is told how
many there are. -/
theorem verifyCsv_fileText (h : Utf8.encode (fileText rows) = some content)
    (hwidth : ∀ row ∈ rows, row.length = csvRecordColumns.length) (expectedRows : Nat)
    (schemaVersion : Text) :
    verifyCsv content expectedRows schemaVersion = .ok () ↔
      (∀ row ∈ rows, Csv.Fits fieldSizeLimit row ∧ [] ∉ row) ∧ rows.length = expectedRows ∧
        blank schemaVersion = false := by
  rw [verifyCsv, reopened_fileText h, ok_bind]
  by_cases hfits : ∀ row ∈ rows, Csv.Fits fieldSizeLimit row
  · simp only [takeWhile_fits hfits, if_pos hfits, reduceCtorEq, if_false, raised, ok_bind,
      List.head?_cons, Option.getD_some, decide_true, require_true, List.tail_cons, bind_eq_ok,
      require_eq_ok, exists_const, decide_eq_true_eq, Bool.not_eq_true']
    constructor
    · rintro ⟨⟨⟩, hrows, hcount, hschema⟩
      have hrows := forM_eq_ok.mp hrows
      exact ⟨fun row hrow ↦ ⟨hfits row hrow, (verifyRow_eq_ok (hwidth row hrow)).mp (hrows row hrow)⟩,
        hcount, hschema⟩
    · rintro ⟨hrows, hcount, hschema⟩
      have hverified (row : List Text) (hrow : row ∈ rows) : verifyRow row = .ok () :=
        (verifyRow_eq_ok (hwidth row hrow)).mpr (hrows row hrow).2
      exact ⟨(), forM_eq_ok.mpr hverified, hcount, hschema⟩
  · constructor
    · intro hverified
      simp only [if_neg hfits, bind_eq_ok, raised, csvExportError, reduceCtorEq, false_and,
        and_false, exists_false] at hverified
    · rintro ⟨hrows, -⟩
      exact absurd (fun row hrow ↦ (hrows row hrow).1) hfits

/-- A file is read exactly when the reader admits its fields. -/
theorem readCsv_fileText (h : Utf8.encode (fileText rows) = some content)
    (hfits : ∀ row ∈ rows, Csv.Fits fieldSizeLimit row) :
    readCsv content = .ok (rows.map readRow) := by
  rw [readCsv, reopened_fileText h, takeWhile_fits hfits, if_pos hfits]
  rfl

end

/-! ### Read back -/

open NormalizedRecordProjection (fromRecord Same)

private theorem surrogateFree_fileText {rows : List (List Text)} :
    SurrogateFree (fileText rows) ↔ ∀ row ∈ rows, ∀ field ∈ row, SurrogateFree field := by
  have hspecial (c : CodePoint) (h : Csv.special c = true) : isSurrogate c = false := by
    simp only [Csv.special, Bool.or_eq_true, decide_eq_true_eq] at h
    obtain ((rfl | rfl) | rfl) | rfl := h <;> rfl
  have hcolumns (field : Text) (h : field ∈ csvRecordColumns) : SurrogateFree field := by
    simp only [csvRecordColumns, List.mem_cons, List.not_mem_nil, or_false] at h
    obtain rfl | rfl | rfl | rfl | rfl | rfl | rfl | rfl | rfl | rfl | rfl | rfl | rfl | rfl | rfl |
      rfl := h <;> exact surrogateFree_lit _
  constructor
  · intro h row hrow field hfield c hc
    apply h c
    exact List.mem_flatMap.mpr ⟨row, List.mem_cons_of_mem _ hrow, Csv.mem_writeRow hfield hc⟩
  · intro h c hc
    obtain ⟨row, hrow, hc⟩ := List.mem_flatMap.mp hc
    obtain hc | ⟨field, hfield, hchar⟩ := Csv.mem_of_mem_writeRow hc
    · exact hspecial c hc
    · obtain rfl | hrow := List.mem_cons.mp hrow
      · exact hcolumns field hfield c hchar
      · exact h row hrow field hfield c hchar

/-- A row is read as its record exactly when each value is read from its text. -/
private theorem readRow_rowOf {values : Dict Json} (h : values.keys = csvRecordColumns) :
    readRow (rowOf values) = values ↔ ∀ m ∈ values, readValue m.1 (csvValue m.2) = m.2 := by
  have hzip : values.keys.zip (rowOf values) = values.map fun m ↦ (m.1, csvValue m.2) := by
    rw [Dict.keys, rowOf, List.zip_map']
  have hid : values = values.map id := (List.map_id values).symm
  rw [readRow, ← h, hzip, List.map_map]
  conv_lhs => rhs; rw [hid]
  rw [List.map_inj_left]
  constructor
  · intro hread m hm
    exact congrArg Prod.snd (hread m hm)
  · intro hread m hm
    exact Prod.ext rfl (hread m hm)

/-- Records with these members are written, verified with their number and read back exactly when
every value is carried. -/
private theorem readBack_iff {dicts : List (Dict Json)}
    (hkeys : ∀ values ∈ dicts, values.keys = csvRecordColumns) (schemaVersion : Text) :
    (∃ content, Utf8.encode (fileText (dicts.map rowOf)) = some content ∧
      verifyCsv content dicts.length schemaVersion = .ok () ∧ readCsv content = .ok dicts) ↔
      blank schemaVersion = false ∧ ∀ values ∈ dicts, ∀ m ∈ values, Carried m.1 m.2 := by
  have hwidth (row : List Text) (hrow : row ∈ dicts.map rowOf) :
      row.length = csvRecordColumns.length := by
    obtain ⟨values, hvalues, rfl⟩ := List.mem_map.mp hrow
    rw [← hkeys values hvalues, rowOf, Dict.keys, List.length_map, List.length_map]
  have hcell {values : Dict Json} (hvalues : values ∈ dicts) {m : Text × Json} (hm : m ∈ values) :
      rowOf values ∈ dicts.map rowOf ∧ csvValue m.2 ∈ rowOf values :=
    ⟨List.mem_map_of_mem hvalues, List.mem_map.mpr ⟨m, hm, rfl⟩⟩
  constructor
  · rintro ⟨content, hcontent, hverified, hread⟩
    rw [verifyCsv_fileText hcontent hwidth] at hverified
    obtain ⟨hrows, -, hschema⟩ := hverified
    have hencoded := surrogateFree_fileText.mp (Utf8.surrogateFree_of_encode hcontent)
    rw [readCsv_fileText hcontent fun row hrow ↦ (hrows row hrow).1, Except.ok.injEq,
      List.map_map] at hread
    have hid : dicts = dicts.map id := (List.map_id dicts).symm
    conv_rhs at hread => rw [hid]
    have hread := List.map_inj_left.mp hread
    refine ⟨hschema, fun values hvalues m hm ↦ ?_⟩
    obtain ⟨hrow, hfield⟩ := hcell hvalues hm
    refine ⟨hencoded _ hrow _ hfield, fun hempty ↦ ?_, (hrows _ hrow).1 _ hfield, ?_⟩
    · exact (hrows _ hrow).2 (hempty ▸ hfield)
    · exact (readRow_rowOf (hkeys values hvalues)).mp (hread values hvalues) m hm
  · rintro ⟨hschema, hcarried⟩
    have hfield {row : List Text} (hrow : row ∈ dicts.map rowOf) {field : Text}
        (hfield : field ∈ row) :
        SurrogateFree field ∧ field ≠ [] ∧ field.length ≤ fieldSizeLimit := by
      obtain ⟨values, hvalues, rfl⟩ := List.mem_map.mp hrow
      obtain ⟨m, hm, rfl⟩ := List.mem_map.mp hfield
      have h := hcarried values hvalues m hm
      exact ⟨h.encoded, h.stated, h.short⟩
    have hfree : SurrogateFree (fileText (dicts.map rowOf)) :=
      surrogateFree_fileText.mpr fun row hrow field h ↦ (hfield hrow h).1
    obtain ⟨content, hcontent⟩ := Option.isSome_iff_exists.mp ((Utf8.encode_isSome_iff _).mpr hfree)
    have hfits (row : List Text) (hrow : row ∈ dicts.map rowOf) : Csv.Fits fieldSizeLimit row :=
      fun field h ↦ (hfield hrow h).2.2
    refine ⟨content, hcontent, ?_, ?_⟩
    · rw [verifyCsv_fileText hcontent hwidth]
      refine ⟨fun row hrow ↦ ⟨hfits row hrow, fun hempty ↦ ?_⟩, List.length_map _, hschema⟩
      exact (hfield hrow hempty).2.1 rfl
    · rw [readCsv_fileText hcontent hfits, List.map_map, Except.ok.injEq]
      conv_rhs => rw [← List.map_id dicts]
      rw [List.map_inj_left]
      intro values hvalues
      exact (readRow_rowOf (hkeys values hvalues)).mpr fun m hm ↦ (hcarried values hvalues m hm).same

/-! ### Lossless exports -/

/-- A record that an export carries: its creation time is one in UTC, and each text that it states
is one that a file carries. -/
structure Exportable (record : RecordQuery.ConstructedRecord) : Prop where
  dated : ∃ created, record.val.createdAt.toUtc = .ok created
  storable : ∀ s ∈ (fromRecord record).texts, Storable s

/-- The file of the records is verified with the number of rows that was returned, which is theirs,
and holds exactly what they are. -/
def Lossless (exportId schemaVersion disclosureMaxSensitivity : Text)
    (records : List RecordQuery.ConstructedRecord) : Prop :=
  ∃ content result originals,
    writeCsv (records.map fromRecord) exportId schemaVersion disclosureMaxSensitivity =
      .ok (content, result) ∧
    result.rowCount = records.length ∧
    verifyCsv content result.rowCount schemaVersion = .ok () ∧
    (records.map fromRecord).mapM NormalizedRecordProjection.toDict = .ok originals ∧
    readCsv content = .ok originals

private theorem toDict_eq_ok {p : NormalizedRecordProjection} {values : Dict Json} :
    p.toDict = .ok values ↔ ∃ captured created, p.capturedAt.toUtc = .ok captured ∧
      p.createdAt.toUtc = .ok created ∧
      values = p.members (isoformat captured) (isoformat created) := by
  simp only [NormalizedRecordProjection.toDict, AwareDatetime.utcText, bind_eq_ok]
  constructor
  · rintro ⟨_, ⟨captured, hcaptured, hcapturedText⟩, _, ⟨created, hcreated, hcreatedText⟩, hvalues⟩
    have hcapturedText := Except.ok.inj hcapturedText
    have hcreatedText := Except.ok.inj hcreatedText
    rw [← hcapturedText, ← hcreatedText] at hvalues
    exact ⟨captured, created, hcaptured, hcreated, (Except.ok.inj hvalues).symm⟩
  · rintro ⟨captured, created, hcaptured, hcreated, rfl⟩
    exact ⟨_, ⟨captured, hcaptured, rfl⟩, _, ⟨created, hcreated, rfl⟩, rfl⟩

private theorem keys_of_toDict {p : NormalizedRecordProjection} {values : Dict Json}
    (h : p.toDict = .ok values) : values.keys = csvRecordColumns := by
  obtain ⟨captured, created, -, -, rfl⟩ := toDict_eq_ok.mp h
  exact keys_members p _ _

/-- A record is exportable exactly when it has members, all of which are carried. -/
private theorem exportable_iff (record : RecordQuery.ConstructedRecord) :
    Exportable record ↔ ∃ values, (fromRecord record).toDict = .ok values ∧
      ∀ m ∈ values, Carried m.1 m.2 := by
  obtain ⟨captured, hconstructed⟩ := record.property
  have hsize : 0 ≤ (fromRecord record).artifactSize := hconstructed.checked.artifactSize
  constructor
  · rintro ⟨⟨created, hcreated⟩, hstorable⟩
    exact ⟨_, toDict_eq_ok.mpr ⟨captured, created, hconstructed.captured, hcreated, rfl⟩,
      (carried_members hsize captured created).mpr hstorable⟩
  · rintro ⟨values, hvalues, hcarried⟩
    obtain ⟨captured', created, -, hcreated, rfl⟩ := toDict_eq_ok.mp hvalues
    exact ⟨⟨created, hcreated⟩, (carried_members hsize captured' created).mp hcarried⟩

private theorem lossless_iff (exportId schemaVersion disclosureMaxSensitivity : Text)
    (records : List RecordQuery.ConstructedRecord) :
    Lossless exportId schemaVersion disclosureMaxSensitivity records ↔
      blank schemaVersion = false ∧ ∀ record ∈ records, Exportable record := by
  constructor
  · rintro ⟨content, result, dicts, hwrite, -, hverified, hdicts, hread⟩
    obtain ⟨written, hwritten, hcontent, rfl⟩ := writeCsv_eq_ok.mp hwrite
    obtain rfl : written = dicts := Except.ok.inj (hwritten.symm.trans hdicts)
    have hkeys (values : Dict Json) (hvalues : values ∈ written) :
        values.keys = csvRecordColumns := by
      obtain ⟨p, -, hp⟩ := (mem_of_mapM_eq_ok hdicts).mp hvalues
      exact keys_of_toDict hp
    have hlength : (records.map fromRecord).length = written.length :=
      (Paging.mapM_eq_ok_iff.mp hdicts).length_eq
    rw [hlength] at hverified
    obtain ⟨hschema, hcarried⟩ :=
      (readBack_iff hkeys schemaVersion).mp ⟨content, hcontent, hverified, hread⟩
    refine ⟨hschema, fun record hrecord ↦ ?_⟩
    obtain ⟨values, hvalues, hp⟩ := exists_of_mapM_eq_ok hdicts (List.mem_map_of_mem hrecord)
    exact (exportable_iff record).mpr ⟨values, hp, hcarried values hvalues⟩
  · rintro ⟨hschema, hrecords⟩
    have hdict (p : NormalizedRecordProjection) (hp : p ∈ records.map fromRecord) :
        ∃ values, p.toDict = .ok values := by
      obtain ⟨record, hrecord, rfl⟩ := List.mem_map.mp hp
      obtain ⟨values, hvalues, -⟩ := (exportable_iff record).mp (hrecords record hrecord)
      exact ⟨values, hvalues⟩
    obtain ⟨dicts, hdicts⟩ := exists_mapM_eq_ok hdict
    have hof (values : Dict Json) (hvalues : values ∈ dicts) :
        values.keys = csvRecordColumns ∧ ∀ m ∈ values, Carried m.1 m.2 := by
      obtain ⟨p, hp, hvalue⟩ := (mem_of_mapM_eq_ok hdicts).mp hvalues
      obtain ⟨record, hrecord, rfl⟩ := List.mem_map.mp hp
      obtain ⟨values', hvalues', hcarried⟩ := (exportable_iff record).mp (hrecords record hrecord)
      obtain rfl : values' = values := Except.ok.inj (hvalues'.symm.trans hvalue)
      exact ⟨keys_of_toDict hvalue, hcarried⟩
    obtain ⟨content, hcontent, hverified, hread⟩ :=
      (readBack_iff (fun values h ↦ (hof values h).1) schemaVersion).mpr
        ⟨hschema, fun values h ↦ (hof values h).2⟩
    have hlength : dicts.length = records.length := by
      rw [← (Paging.mapM_eq_ok_iff.mp hdicts).length_eq, List.length_map]
    rw [hlength] at hverified
    refine ⟨content, _, dicts, writeCsv_eq_ok.mpr ⟨dicts, hdicts, hcontent, rfl⟩, List.length_map _,
      ?_, hdicts, hread⟩
    rw [List.length_map]
    exact hverified

/-- Projections with the same members are equal. -/
private theorem same_of_toDict {p q : NormalizedRecordProjection} {values : Dict Json}
    (hp : p.toDict = .ok values) (hq : q.toDict = .ok values) : Same p q := by
  obtain ⟨captured, created, hcaptured, hcreated, rfl⟩ := toDict_eq_ok.mp hp
  obtain ⟨captured', created', hcaptured', hcreated', hvalues⟩ := toDict_eq_ok.mp hq
  simp only [NormalizedRecordProjection.members, List.cons.injEq, Prod.mk.injEq, Json.str.injEq,
    Json.int.injEq, optionJson_injective.eq_iff, isoformat_injective.eq_iff, true_and, and_true]
    at hvalues
  obtain ⟨h1, h2, h3, h4, h5, h6, h7, h8, h9, h10, rfl, h11, h12, h13, h14, rfl⟩ := hvalues
  refine ⟨?_, ?_, ?_⟩
  · cases p
    cases q
    dsimp only at h1 h2 h3 h4 h5 h6 h7 h8 h9 h10 h11 h12 h13 h14
    rw [h1, h2, h3, h4, h5, h6, h7, h8, h9, h10, h11, h12, h13, h14]
  · rw [← AwareDatetime.instant_toUtc hcaptured, AwareDatetime.instant_toUtc hcaptured']
  · rw [← AwareDatetime.instant_toUtc hcreated, AwareDatetime.instant_toUtc hcreated']

/-- A report of the scanner, with a reliability state. -/
private def scan {receipt : ExternalEvidenceReceipt} {captured : Datetime}
    (h : Received receipt captured) (reliabilityState : Option Text) :
    RecordQuery.ConstructedRecord :=
  ⟨⟨receipt, .ofUtc RetentionAdapter.epoch, lit "internal", lit "default", none, reliabilityState,
    not_blank_of_isSha256 (Workspace.isSha256_receiptId h), .refl false, .refl false⟩, captured,
    h.constructed⟩

private theorem received_scanned {receipt : ExternalEvidenceReceipt}
    (h : EvidenceFiles.receiptFor none [] RecordQuery.scanned = .ok receipt) :
    ∃ captured, Received receipt captured :=
  (Workspace.received_of_receiptFor (a := RecordQuery.scanned) Workspace.redactsDicts_none
    List.nodup_nil h).1

/-- A short text of ASCII characters, neither empty nor the marker. -/
private def short (s : Text) : Bool :=
  s.all (fun c ↦ c.val < 0x80) && !s.isEmpty && s ≠ csvNull && s.length ≤ 64

private theorem storable_of_short {s : Text} (h : short s = true) : Storable s := by
  simp only [short, Bool.and_eq_true, Bool.not_eq_true', decide_eq_true_eq, List.all_eq_true,
    List.isEmpty_eq_false_iff] at h
  obtain ⟨⟨⟨hascii, hstated⟩, hunmarked⟩, hlength⟩ := h
  exact ⟨Utf8.IsAscii.surrogateFree hascii, hstated, hunmarked, hlength.trans (by decide)⟩

/-- The texts of a receipt that a file states. -/
private def receiptTexts (receipt : ExternalEvidenceReceipt) : List Text :=
  [some receipt.receiptId, some receipt.artifactDigest, some (Json.intText receipt.artifactSize),
    some receipt.producerId, some receipt.producerType, receipt.producerVersion,
    some receipt.sourceRef, receipt.sourceEventId, receipt.runId].reduceOption

private theorem exists_scan : ∃ receipt captured, ∃ h : Received receipt captured,
    Exportable (scan h (some (lit "a \"b\", c\n"))) := by
  have hall : ((EvidenceFiles.receiptFor none [] RecordQuery.scanned).toOption.any fun receipt ↦
      (receiptTexts receipt).all short) = true := by decide +kernel
  cases hreceipt : EvidenceFiles.receiptFor none [] RecordQuery.scanned with
  | error e =>
    rw [hreceipt] at hall
    cases hall
  | ok receipt =>
    rw [hreceipt] at hall
    have hall := List.all_eq_true.mp hall
    obtain ⟨captured, hreceived⟩ := received_scanned hreceipt
    have hrest : [lit "internal", lit "default", lit "a \"b\", c\n"].all short = true := by
      decide +kernel
    have hrest := List.all_eq_true.mp hrest
    refine ⟨receipt, captured, hreceived, ⟨_, AwareDatetime.toUtc_ofUtc _⟩, fun s hs ↦ ?_⟩
    have hs : s ∈ receiptTexts receipt ∨ s ∈ [lit "internal", lit "default", lit "a \"b\", c\n"] := by
      simp only [NormalizedRecordProjection.texts, scan, NormalizedRecordProjection.fromRecord,
        receiptTexts, List.reduceOption, List.mem_filterMap, id, exists_eq_right, List.mem_cons,
        List.not_mem_nil, Option.some.injEq, reduceCtorEq, or_false, false_or] at hs ⊢
      tauto
    exact storable_of_short (hs.elim (hall s) (hrest s))

end StateWake.Lifecycle.CsvExport
