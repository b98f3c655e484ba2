import StateWake.Base.Text

/-!
# Comma-separated values

`csv.writer` with `QUOTE_MINIMAL` and `csv.reader` of the default dialect, over the lines of a file
opened with `newline=""`. A row is read back as it was written when no field is longer than the
reader admits; the first field that is longer ends the reading with an error.

Library support; no repository notion occurs here.
-/

namespace StateWake.Base.Csv

open Text

/-- The delimiter. -/
def comma : CodePoint := 44

/-- The quote character. -/
def quote : CodePoint := 34

/-- `\n`, which also ends a written row. -/
def lf : CodePoint := 10

/-- `\r`. -/
def cr : CodePoint := 13

/-! ### Writing -/

/-- The characters for which `QUOTE_MINIMAL` quotes a field. -/
def special (c : CodePoint) : Bool := c = comma || c = quote || c = lf || c = cr

/-- A field with each of its quotes written twice. -/
def doubled (field : Text) : Text := field.flatMap fun c ↦ if c = quote then [quote, quote] else [c]

/-- A field as it is written. -/
def writeField (field : Text) : Text :=
  if field.any special then quote :: (doubled field ++ [quote]) else field

/-- The fields of a row, joined by the delimiter. -/
def joined : List Text → Text
  | [] => []
  | [field] => writeField field
  | field :: fields => writeField field ++ comma :: joined fields

/-- `writer.writerow`: a row of one empty field is quoted, to tell it from a row without fields. -/
def writeRow (row : List Text) : Text :=
  if row = [[]] then [quote, quote, lf] else joined row ++ [lf]

private theorem mem_doubled {field : Text} {c : CodePoint} : c ∈ doubled field ↔ c ∈ field := by
  rw [doubled, List.mem_flatMap]
  constructor
  · rintro ⟨d, hd, hc⟩
    split at hc
    · next hquote =>
      simp only [List.mem_cons, List.not_mem_nil, or_false, or_self] at hc
      rwa [hc, ← hquote]
    · rwa [List.mem_singleton.mp hc]
  · intro hc
    refine ⟨c, hc, ?_⟩
    split
    · next hquote =>
      rw [hquote]
      exact List.mem_cons_self
    · exact List.mem_singleton_self c

private theorem mem_writeField {field : Text} {c : CodePoint} (hc : c ∈ field) :
    c ∈ writeField field := by
  rw [writeField]
  split
  · exact List.mem_cons_of_mem _ (List.mem_append_left _ (mem_doubled.mpr hc))
  · exact hc

private theorem mem_of_mem_writeField {field : Text} {c : CodePoint} (hc : c ∈ writeField field) :
    c ∈ field ∨ special c = true := by
  rw [writeField] at hc
  split at hc
  · obtain rfl | hc := List.mem_cons.mp hc
    · exact Or.inr rfl
    · obtain hc | hc := List.mem_append.mp hc
      · exact Or.inl (mem_doubled.mp hc)
      · rw [List.mem_singleton.mp hc]
        exact Or.inr rfl
  · exact Or.inl hc

/-- The characters of a written row are those of its fields and those of the dialect. -/
theorem mem_writeRow {row : List Text} {field : Text} (hfield : field ∈ row) {c : CodePoint}
    (hc : c ∈ field) : c ∈ writeRow row := by
  have hjoined (row : List Text) (hfield : field ∈ row) : c ∈ joined row := by
    induction row using joined.induct with
    | case1 => cases hfield
    | case2 other =>
      rw [List.mem_singleton.mp hfield] at hc
      exact mem_writeField hc
    | case3 other others hothers ih =>
      rw [joined, List.mem_append, List.mem_cons]
      · obtain rfl | hfield := List.mem_cons.mp hfield
        · exact Or.inl (mem_writeField hc)
        · exact Or.inr (Or.inr (ih hfield))
      · exact hothers
  rw [writeRow]
  split
  · next hempty =>
    rw [hempty, List.mem_singleton] at hfield
    rw [hfield] at hc
    cases hc
  · exact List.mem_append_left _ (hjoined row hfield)

theorem mem_of_mem_writeRow {row : List Text} {c : CodePoint} (hc : c ∈ writeRow row) :
    special c = true ∨ ∃ field ∈ row, c ∈ field := by
  have hjoined (row : List Text) (hc : c ∈ joined row) :
      special c = true ∨ ∃ field ∈ row, c ∈ field := by
    induction row using joined.induct with
    | case1 => cases hc
    | case2 field =>
      rw [joined] at hc
      obtain hc | hc := mem_of_mem_writeField hc
      · exact Or.inr ⟨field, List.mem_singleton_self _, hc⟩
      · exact Or.inl hc
    | case3 field fields hfields ih =>
      rw [joined, List.mem_append, List.mem_cons] at hc
      · obtain hc | rfl | hc := hc
        · obtain hc | hc := mem_of_mem_writeField hc
          · exact Or.inr ⟨field, List.mem_cons_self, hc⟩
          · exact Or.inl hc
        · exact Or.inl rfl
        · obtain hc | ⟨other, hother, hc⟩ := ih hc
          · exact Or.inl hc
          · exact Or.inr ⟨other, List.mem_cons_of_mem _ hother, hc⟩
      · exact hfields
  rw [writeRow] at hc
  split at hc
  · simp only [List.mem_cons, List.not_mem_nil, or_false] at hc
    obtain rfl | rfl | rfl := hc <;> exact Or.inl rfl
  · obtain hc | hc := List.mem_append.mp hc
    · exact hjoined row hc
    · rw [List.mem_singleton.mp hc]
      exact Or.inl rfl

/-! ### Reading -/

/-- `csv.Error` as the reader raises it. -/
inductive CsvError where
  | fieldLimit
  | newLine
  deriving DecidableEq

/-- The states of the reader. -/
inductive Mode where
  | startRecord
  | startField
  | inField
  | inQuotedField
  | quoteInQuotedField
  | eatCrnl
  deriving DecidableEq

/-- The reader: the field it reads and the fields of the row that it has read. -/
structure State where
  mode : Mode
  field : Text
  fields : List Text

/-- The reader before a row. -/
def State.initial : State := ⟨.startRecord, [], []⟩

/-- The field is complete; the reader goes on in a mode. -/
def State.save (st : State) (mode : Mode) : State := ⟨mode, [], st.fields ++ [st.field]⟩

/-- The rows that an iteration yields, and the error it then raises, if any. -/
abbrev Rows : Type := List (List Text) × Option CsvError

/-- A row before others. -/
def Rows.cons (row : List Text) (rows : Rows) : Rows := (row :: rows.1, rows.2)

section Reader

variable (limit : Nat)

/-- A character of the field. -/
def State.add (st : State) (c : CodePoint) (mode : Mode) : Except CsvError State :=
  if st.field.length < limit then .ok ⟨mode, st.field ++ [c], st.fields⟩ else .error .fieldLimit

/-- A character where a field starts. -/
def startField (st : State) (c : CodePoint) : Except CsvError State :=
  if c = lf ∨ c = cr then .ok (st.save .eatCrnl)
  else if c = quote then .ok { st with mode := .inQuotedField }
  else if c = comma then .ok (st.save .startField)
  else st.add limit c .inField

/-- `parse_process_char` on a character. -/
def process (st : State) (c : CodePoint) : Except CsvError State :=
  match st.mode with
  | .startRecord => if c = lf ∨ c = cr then .ok { st with mode := .eatCrnl } else startField limit st c
  | .startField => startField limit st c
  | .inField =>
    if c = lf ∨ c = cr then .ok (st.save .eatCrnl)
    else if c = comma then .ok (st.save .startField)
    else st.add limit c .inField
  | .inQuotedField =>
    if c = quote then .ok { st with mode := .quoteInQuotedField } else st.add limit c .inQuotedField
  | .quoteInQuotedField =>
    if c = quote then st.add limit c .inQuotedField
    else if c = comma then .ok (st.save .startField)
    else if c = lf ∨ c = cr then .ok (st.save .eatCrnl)
    else st.add limit c .inField
  | .eatCrnl => if c = lf ∨ c = cr then .ok st else .error .newLine

/-- `parse_process_char` at the end of a line. -/
def endOfLine (st : State) : State :=
  match st.mode with
  | .startRecord | .inQuotedField => st
  | .startField | .inField | .quoteInQuotedField => st.save .startRecord
  | .eatCrnl => { st with mode := .startRecord }

/-- A line, character by character. -/
def readLine (st : State) (line : Text) : Except CsvError State :=
  endOfLine <$> line.foldlM (process limit) st

/-- Iteration over a reader: the rows of the lines that are left. -/
def readLines : State → List Text → Rows
  | st, [] =>
    if st.field = [] ∧ st.mode ≠ .inQuotedField then ([], none)
    else ([st.fields ++ [st.field]], none)
  | st, line :: rest =>
    match readLine limit st line with
    | .error e => ([], some e)
    | .ok st =>
      if st.mode = .startRecord then (readLines .initial rest).cons st.fields
      else readLines st rest

end Reader

/-- Whether a character ends a line before what follows it. -/
def endsLine (c : CodePoint) (rest : Text) : Bool := c = lf || c = cr && rest.head? ≠ some lf

/-- The lines of a file opened with `newline=""`, each with its line ending. -/
def lines : Text → List Text
  | [] => []
  | c :: rest =>
    if endsLine c rest then [c] :: lines rest
    else
      match lines rest with
      | [] => [[c]]
      | line :: others => (c :: line) :: others

/-- `list(csv.reader(handle))`, up to the error that ends it. -/
def read (limit : Nat) (content : Text) : Rows := readLines limit .initial (lines content)

/-! ### One character at a time -/

section Reader

variable {limit : Nat}

private theorem lines_ne_nil {s : Text} (h : s ≠ []) : lines s ≠ [] := by
  cases s with
  | nil => exact absurd rfl h
  | cons c s =>
    rw [lines]
    split
    · exact List.cons_ne_nil _ _
    · split <;> exact List.cons_ne_nil _ _

/-- The rest of a line is read after a character of it, and the next line after the last one. -/
theorem readLines_lines_cons (st : State) (c : CodePoint) (s : Text) :
    readLines limit st (lines (c :: s)) =
      match process limit st c with
      | .error e => ([], some e)
      | .ok st =>
        if endsLine c s ∨ s = [] then readLines limit st ([] :: lines s)
        else readLines limit st (lines s) := by
  rw [lines]
  by_cases hline : endsLine c s = true
  · rw [if_pos hline, readLines, readLine, List.foldlM_cons]
    cases process limit st c with
    | error e => rfl
    | ok st' =>
      simp only [hline, true_or, if_true]
      rfl
  · rw [if_neg hline]
    cases hs : lines s with
    | nil =>
      have hnil : s = [] := by
        by_contra h
        exact lines_ne_nil h hs
      rw [readLines, readLine, List.foldlM_cons]
      cases process limit st c with
      | error e => rfl
      | ok st' =>
        simp only [hnil, or_true, if_true]
        rfl
    | cons line others =>
      have hne : s ≠ [] := fun h ↦ by
        rw [h] at hs
        exact List.cons_ne_nil _ _ hs.symm
      simp only [readLines, readLine, List.foldlM_cons]
      cases process limit st c with
      | error e => rfl
      | ok st' =>
        simp only [hline, hne, Bool.false_eq_true, or_self, if_false]
        rfl

/-! ### One field at a time -/

/-- Within a line nothing but its characters counts. -/
private theorem readLines_plain {c : CodePoint} (hc : c ≠ lf ∧ c ≠ cr) {s : Text} (hs : s ≠ [])
    (st : State) :
    readLines limit st (lines (c :: s)) =
      match process limit st c with
      | .error e => ([], some e)
      | .ok st => readLines limit st (lines s) := by
  have hline : endsLine c s = false := by
    simp only [endsLine, hc.1, hc.2, decide_false, Bool.false_and, Bool.or_self]
  rw [readLines_lines_cons]
  simp only [hline, hs, Bool.false_eq_true, or_self, if_false]

/-- A line break within quotes is a character like any other. -/
private theorem readLines_quoted (field : Text) (fields : List Text) (c : CodePoint) (s : Text) :
    readLines limit ⟨.inQuotedField, field, fields⟩ (lines (c :: s)) =
      match process limit ⟨.inQuotedField, field, fields⟩ c with
      | .error e => ([], some e)
      | .ok st =>
        if (endsLine c s ∨ s = []) ∧ st.mode ≠ .inQuotedField then
          readLines limit st ([] :: lines s)
        else readLines limit st (lines s) := by
  rw [readLines_lines_cons]
  cases process limit ⟨.inQuotedField, field, fields⟩ c with
  | error e => rfl
  | ok st =>
    dsimp only
    by_cases hm : st.mode = .inQuotedField
    · have hend : endOfLine st = st := by simp only [endOfLine, hm]
      have hline : readLines limit st ([] :: lines s) = readLines limit st (lines s) := by
        rw [readLines, readLine, List.foldlM_nil]
        simp only [pure, Except.pure, Functor.map, Except.map, hend, hm, reduceCtorEq, if_false]
      simp only [hline, hm, ne_eq, not_true_eq_false, and_false, ite_self]
    · simp only [hm, ne_eq, not_false_eq_true, and_true]

/-- A field outside quotes is read up to what follows it. -/
private theorem readLines_unquoted {field : Text} (hplain : field.any special = false)
    (done : Text) (fields : List Text) (hdone : done.length ≤ limit) {s : Text} (hs : s ≠ []) :
    readLines limit ⟨.inField, done, fields⟩ (lines (field ++ s)) =
      if done.length + field.length ≤ limit then
        readLines limit ⟨.inField, done ++ field, fields⟩ (lines s)
      else ([], some .fieldLimit) := by
  induction field generalizing done with
  | nil => simp only [List.nil_append, List.append_nil, List.length_nil, Nat.add_zero, hdone, if_true]
  | cons c field ih =>
    rw [List.any_cons, Bool.or_eq_false_iff] at hplain
    obtain ⟨hc, hplain⟩ := hplain
    simp only [special, Bool.or_eq_false_iff, decide_eq_false_iff_not] at hc
    obtain ⟨⟨⟨hcomma, hquote⟩, hlf⟩, hcr⟩ := hc
    have hne : field ++ s ≠ [] := List.append_ne_nil_of_right_ne_nil _ hs
    rw [List.cons_append, readLines_plain ⟨hlf, hcr⟩ hne]
    simp only [process, hlf, hcr, hcomma, or_self, if_false, State.add]
    by_cases hroom : done.length < limit
    · have hlen : (done ++ [c]).length ≤ limit := by
        rw [List.length_append, List.length_singleton]
        exact hroom
      simp only [hroom, if_true]
      rw [ih hplain (done ++ [c]) hlen]
      simp only [List.length_append, List.length_cons, List.length_nil, List.append_assoc,
        List.cons_append, List.nil_append, Nat.zero_add, Nat.add_assoc, Nat.add_comm 1]
    · have hlong : ¬ done.length + (c :: field).length ≤ limit := by
        rw [List.length_cons]
        omega
      simp only [hroom, hlong, if_false]

/-- A field within quotes is read up to the closing quote. -/
private theorem readLines_doubled (field done : Text) (fields : List Text)
    (hdone : done.length ≤ limit) {s : Text} (hs : s ≠ []) :
    readLines limit ⟨.inQuotedField, done, fields⟩ (lines (doubled field ++ quote :: s)) =
      if done.length + field.length ≤ limit then
        readLines limit ⟨.quoteInQuotedField, done ++ field, fields⟩ (lines s)
      else ([], some .fieldLimit) := by
  have hplain : quote ≠ lf ∧ quote ≠ cr := by decide
  induction field generalizing done with
  | nil =>
    rw [doubled, List.flatMap_nil, List.nil_append, readLines_plain hplain hs]
    simp only [process, if_true, List.append_nil, List.length_nil, Nat.add_zero, hdone]
  | cons c field ih =>
    have hnext (hroom : done.length < limit) := ih (done ++ [c]) (by
      rw [List.length_append, List.length_singleton]
      exact hroom)
    have hlong (hroom : ¬ done.length < limit) : ¬ done.length + (c :: field).length ≤ limit := by
      rw [List.length_cons]
      omega
    have hsize : (done ++ [c]).length + field.length = done.length + (c :: field).length := by
      simp only [List.length_append, List.length_cons, List.length_nil]
      omega
    have hrest : doubled field ++ quote :: s ≠ [] := by simp
    have hcons : doubled (c :: field) = (if c = quote then [quote, quote] else [c]) ++ doubled field := rfl
    rw [hcons]
    by_cases hc : c = quote
    · -- the first of the two quotes may close the field, the second says that it does not
      subst hc
      rw [if_pos rfl, List.append_assoc, List.cons_append, List.cons_append, List.nil_append,
        readLines_plain hplain (List.cons_ne_nil _ _)]
      simp only [process, if_true]
      rw [readLines_plain hplain hrest]
      simp only [process, if_true, State.add]
      by_cases hroom : done.length < limit
      · simp only [hroom, if_true]
        rw [hnext hroom, hsize, List.append_assoc, List.singleton_append]
      · simp only [hroom, hlong hroom, if_false]
    · rw [if_neg hc, List.append_assoc, List.singleton_append, readLines_quoted]
      simp only [process, hc, if_false, State.add]
      by_cases hroom : done.length < limit
      · simp only [hroom, if_true, ne_eq, not_true_eq_false, and_false, if_false]
        rw [hnext hroom, hsize, List.append_assoc, List.singleton_append]
      · simp only [hroom, hlong hroom, if_false]

/-- The modes in which a reader may stand after a field. -/
private def Ended (mode : Mode) (field : Text) : Prop :=
  mode = .inField ∨ mode = .quoteInQuotedField ∨
    field = [] ∧ (mode = .startField ∨ mode = .startRecord)

/-- A written field is read whole, or ends the reading. -/
private theorem readLines_writeField {mode : Mode} (hmode : mode = .startField ∨ mode = .startRecord)
    (field : Text) : ∃ after, Ended after field ∧ (field = [] → after = mode) ∧
      ∀ fields s, s ≠ [] →
        readLines limit ⟨mode, [], fields⟩ (lines (writeField field ++ s)) =
          if field.length ≤ limit then readLines limit ⟨after, field, fields⟩ (lines s)
          else ([], some .fieldLimit) := by
  have hstart (fields : List Text) (c : CodePoint) (hc : c ≠ lf ∧ c ≠ cr) :
      process limit ⟨mode, [], fields⟩ c = startField limit ⟨mode, [], fields⟩ c := by
    obtain rfl | rfl := hmode
    · rfl
    · simp only [process, hc.1, hc.2, or_self, if_false]
  cases hspecial : field.any special with
  | true =>
    have hquote : quote ≠ lf ∧ quote ≠ cr := by decide
    apply Exists.intro Mode.quoteInQuotedField
    constructor
    · exact Or.inr (Or.inl rfl)
    constructor
    · rintro rfl
      cases hspecial
    intro fields s hs
    have hrest : doubled field ++ quote :: s ≠ [] := by simp
    rw [writeField, if_pos hspecial, List.cons_append, List.append_assoc, List.singleton_append,
      readLines_plain hquote hrest, hstart fields quote hquote]
    simp only [startField, hquote.1, hquote.2, or_self, if_false, if_true]
    rw [readLines_doubled field [] fields (Nat.zero_le _) hs]
    simp only [List.length_nil, Nat.zero_add, List.nil_append]
  | false =>
    have hwrite : writeField field = field := by
      rw [writeField, hspecial]
      rfl
    cases field with
    | nil =>
      refine ⟨mode, Or.inr (Or.inr ⟨rfl, hmode⟩), fun _ ↦ rfl, fun fields s _ ↦ ?_⟩
      rw [hwrite, List.nil_append, List.length_nil, if_pos (Nat.zero_le _)]
    | cons c field =>
      refine ⟨.inField, Or.inl rfl, fun h ↦ absurd h (List.cons_ne_nil _ _), fun fields s hs ↦ ?_⟩
      rw [List.any_cons, Bool.or_eq_false_iff] at hspecial
      obtain ⟨hc, hplain⟩ := hspecial
      simp only [special, Bool.or_eq_false_iff, decide_eq_false_iff_not] at hc
      obtain ⟨⟨⟨hcomma, hquote⟩, hlf⟩, hcr⟩ := hc
      rw [hwrite, List.cons_append, readLines_plain ⟨hlf, hcr⟩ (by simp [hs]),
        hstart fields c ⟨hlf, hcr⟩]
      simp only [startField, hlf, hcr, hquote, hcomma, or_self, if_false, State.add, List.length_nil,
        List.nil_append]
      by_cases hroom : 0 < limit
      · simp only [hroom, if_true]
        rw [readLines_unquoted hplain [c] fields hroom hs, List.length_singleton,
          List.singleton_append, List.length_cons, Nat.add_comm 1]
      · have hlong : ¬ (c :: field).length ≤ limit := by
          rw [List.length_cons]
          omega
        simp only [hroom, hlong, if_false]

/-- A delimiter ends the field before it. -/
private theorem readLines_comma {mode : Mode} {field : Text} (h : Ended mode field)
    (fields : List Text) {s : Text} (hs : s ≠ []) :
    readLines limit ⟨mode, field, fields⟩ (lines (comma :: s)) =
      readLines limit ⟨.startField, [], fields ++ [field]⟩ (lines s) := by
  have hcomma : comma ≠ lf ∧ comma ≠ cr ∧ comma ≠ quote := by decide
  rw [readLines_plain ⟨hcomma.1, hcomma.2.1⟩ hs]
  obtain rfl | rfl | ⟨rfl, rfl | rfl⟩ := h <;>
    simp only [process, startField, hcomma.1, hcomma.2.1, hcomma.2.2, or_self, if_false, if_true,
      State.save]

/-- The line ending yields the row. -/
private theorem readLines_lf {mode : Mode} {field : Text} (h : Ended mode field)
    (hmode : mode ≠ .startRecord) (fields : List Text) (s : Text) :
    readLines limit ⟨mode, field, fields⟩ (lines (lf :: s)) =
      (readLines limit .initial (lines s)).cons (fields ++ [field]) := by
  have hline : endsLine lf s = true := rfl
  have hquote : lf ≠ quote ∧ lf ≠ comma := by decide
  have hsave : process limit ⟨mode, field, fields⟩ lf = .ok ⟨.eatCrnl, [], fields ++ [field]⟩ := by
    obtain rfl | rfl | ⟨rfl, rfl | rfl⟩ := h
    · simp only [process, true_or, if_true, State.save]
    · simp only [process, hquote.1, hquote.2, if_false, true_or, if_true, State.save]
    · simp only [process, startField, true_or, if_true, State.save]
    · exact absurd rfl hmode
  rw [readLines_lines_cons, hsave]
  simp only [hline, true_or, if_true, readLines]
  rfl

/-! ### Rows -/

/-- The reader admits every field of the row. -/
def Fits (limit : Nat) (row : List Text) : Prop := ∀ field ∈ row, field.length ≤ limit

instance (row : List Text) : Decidable (Fits limit row) := List.decidableBAll _ _

private theorem readLines_joined (row : List Text) (hrow : row ≠ []) {mode : Mode}
    (hmode : mode = .startField ∨ mode = .startRecord ∧ row ≠ [[]]) (done : List Text) (s : Text) :
    readLines limit ⟨mode, [], done⟩ (lines (joined row ++ lf :: s)) =
      if Fits limit row then (readLines limit .initial (lines s)).cons (done ++ row)
      else ([], some .fieldLimit) := by
  have hstart : mode = .startField ∨ mode = .startRecord := hmode.imp_right And.left
  induction row using joined.induct generalizing mode done with
  | case1 => exact absurd rfl hrow
  | case2 field =>
    obtain ⟨after, hended, hafter, hread⟩ := @readLines_writeField limit _ hstart field
    have hrecord : after ≠ .startRecord := by
      rintro rfl
      obtain h | h | ⟨rfl, -⟩ := hended
      · cases h
      · cases h
      · obtain rfl | ⟨-, h⟩ := hmode
        · cases hafter rfl
        · exact h rfl
    rw [joined, hread done _ (List.cons_ne_nil _ _), readLines_lf hended hrecord]
    simp only [Fits, List.forall_mem_singleton]
  | case3 field fields hfields ih =>
    obtain ⟨after, hended, -, hread⟩ := @readLines_writeField limit _ hstart field
    have hrest : joined fields ++ lf :: s ≠ [] := by simp
    have hnext := ih hfields (Or.inl rfl) (done ++ [field]) (Or.inl rfl)
    rw [joined, List.append_assoc, List.cons_append, hread done _ (List.cons_ne_nil _ _),
      readLines_comma hended done hrest, hnext, List.append_assoc, List.singleton_append]
    · simp only [Fits, List.forall_mem_cons]
      by_cases hfield : field.length ≤ limit <;> simp only [hfield, true_and, false_and, if_true, if_false]
    · exact hfields

/-- A written row is read back, or ends the reading where a field is longer than the limit. -/
theorem readLines_writeRow (row : List Text) (s : Text) :
    readLines limit .initial (lines (writeRow row ++ s)) =
      if Fits limit row then (readLines limit .initial (lines s)).cons row
      else ([], some .fieldLimit) := by
  have hquote : quote ≠ lf ∧ quote ≠ cr := by decide
  by_cases hempty : row = [[]]
  · -- the one row whose quotes are not those of its field
    subst hempty
    have hfits : Fits limit [[]] := List.forall_mem_singleton.mpr (Nat.zero_le _)
    rw [writeRow, if_pos rfl, if_pos hfits, List.cons_append, List.cons_append, List.singleton_append,
      readLines_plain hquote (List.cons_ne_nil _ _)]
    simp only [State.initial, process, startField, hquote.1, hquote.2, or_self, if_false, if_true]
    rw [readLines_plain hquote (List.cons_ne_nil _ _)]
    simp only [process, if_true]
    exact readLines_lf (Or.inr (Or.inl rfl)) (fun h ↦ by cases h) [] s
  · rw [writeRow, if_neg hempty, List.append_assoc, List.singleton_append]
    cases row with
    | nil =>
      have hline : endsLine lf s = true := rfl
      have hfits : Fits limit [] := List.forall_mem_nil _
      rw [joined, List.nil_append, readLines_lines_cons, if_pos hfits]
      simp only [State.initial, process, true_or, if_true, hline]
      rfl
    | cons field fields =>
      exact readLines_joined _ (List.cons_ne_nil _ _) (Or.inr ⟨rfl, hempty⟩) [] s

/-- Written rows are read back up to the first that the reader does not admit. -/
theorem read_writeRows (rows : List (List Text)) :
    read limit (rows.flatMap writeRow) =
      (rows.takeWhile fun row ↦ decide (Fits limit row),
        if ∀ row ∈ rows, Fits limit row then none else some .fieldLimit) := by
  rw [read]
  induction rows with
  | nil => rfl
  | cons row rows ih =>
    rw [List.flatMap_cons, readLines_writeRow, ih]
    by_cases hrow : Fits limit row
    · simp only [hrow, if_true, Rows.cons, List.takeWhile_cons, decide_true, List.forall_mem_cons,
        true_and]
    · simp only [hrow, if_false, List.takeWhile_cons, decide_false, Bool.false_eq_true,
        List.forall_mem_cons, false_and]

end Reader

end StateWake.Base.Csv
