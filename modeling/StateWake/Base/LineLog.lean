import StateWake.Base.Lines
import StateWake.Base.RegisterHistory
import StateWake.Base.Utf8

/-!
# Logs of lines

A log is a file that holds one line for each of its records. A reader folds a step over the
lines in order, skipping blank ones; a step may fail and may depend on what the lines before
it gave. When every record's line is accepted after the records before it, the reader returns
what the records give, and one more line is read by one more step.

Library support; no repository notion occurs here.
-/

namespace StateWake.Base.LineLog

open Text RegisterHistory

section Reading

variable {σ : Type} (step : σ → Nat → Text → Except PyError σ)

/-- Read lines in order from a line number on; blank lines are skipped but numbered. -/
def readLines : σ → Nat → List Text → Except PyError σ
  | s, _, [] => .ok s
  | s, number, line :: lines =>
    if blank line then readLines s (number + 1) lines
    else do
      let s ← step s number line
      readLines s (number + 1) lines

variable {step} {s s' : σ} {number : Nat}

theorem readLines_append (lines more : List Text) :
    readLines step s number (lines ++ more) =
      readLines step s number lines >>= fun s ↦
        readLines step s (number + lines.length) more := by
  induction lines generalizing s number with
  | nil => rfl
  | cons line lines ih =>
    rw [List.cons_append, readLines, readLines, List.length_cons,
      show number + (lines.length + 1) = number + 1 + lines.length by omega]
    split
    · rw [ih]
    · cases step s number line with
      | error e => rfl
      | ok s' => rw [ok_bind, ok_bind, ih]

theorem readLines_singleton {line : Text} (h : blank line = false) :
    readLines step s number [line] = step s number line := by
  rw [readLines, if_neg (by rw [h]; decide)]
  cases step s number line with
  | error e => rfl
  | ok s' => rfl

/-- What every accepted line keeps holds after all of them. -/
theorem readLines_keeps {I : σ → Prop}
    (hkeeps : ∀ s number line s', I s → step s number line = .ok s' → I s') (hs : I s)
    {lines : List Text} (h : readLines step s number lines = .ok s') : I s' := by
  induction lines generalizing s number with
  | nil =>
    cases h
    exact hs
  | cons line lines ih =>
    rw [readLines] at h
    split at h
    · exact ih hs h
    · obtain ⟨t, ht, h⟩ := bind_eq_ok.mp h
      exact ih (hkeeps _ _ _ _ hs ht) h

end Reading

section Records

variable {ρ σ : Type} (line : ρ → Text) (step : σ → Nat → Text → Except PyError σ)
  (after : List ρ → σ)

/-- Every record's line is accepted after the records before it, wherever it stands. -/
def Reads (h : List ρ) : Prop :=
  Prefixwise (fun pre r ↦ blank (line r) = false ∧
    ∀ number, step (after pre) number (line r) = .ok (after (pre ++ [r]))) h

variable {line step after} {h : List ρ}

/-- The lines of the records give what the records give. -/
theorem readLines_of_reads (hr : Reads line step after h) (number : Nat) :
    readLines step (after []) number (h.map line) = .ok (after h) := by
  induction h using List.reverseRecOn with
  | nil => rfl
  | append_singleton h r ih =>
    obtain ⟨hh, hblank, hstep⟩ := prefixwise_append_singleton.mp hr
    rw [List.map_append, readLines_append, ih hh, ok_bind, List.map_singleton,
      readLines_singleton hblank, hstep]

/-- One more line is read by one more step. -/
theorem readLines_append_line (hr : Reads line step after h) (number : Nat) {r : ρ}
    (hblank : blank (line r) = false) :
    readLines step (after []) number ((h ++ [r]).map line) =
      step (after h) (number + h.length) (line r) := by
  rw [List.map_append, readLines_append, readLines_of_reads hr, ok_bind, List.map_singleton,
    readLines_singleton hblank, List.length_map]

end Records

section Files

variable {ρ : Type} (line : ρ → Text)

/-- The bytes of a file that holds one line for each record. -/
def encode (h : List ρ) : Bytes := Utf8.ascii (Lines.terminated (h.map line))

/-- A line that can stand in a log. -/
structure Plain (l : Text) : Prop where
  ascii : Utf8.IsAscii l
  unbroken : Lines.Unbroken l
  visible : blank l = false

variable {line} {h g : List ρ}

@[simp] theorem encode_nil : encode line [] = [] := rfl

theorem encode_append : encode line (h ++ g) = encode line h ++ encode line g := by
  simp [encode, Utf8.ascii]

theorem encode_singleton (r : ρ) : encode line [r] = Utf8.ascii (line r ++ [Lines.newline]) := by
  simp [encode]

theorem length_encode_singleton (r : ρ) : (encode line [r]).length = (line r).length + 1 := by
  simp [encode_singleton, Utf8.ascii]

/-- A cut before the line feed cuts the line. -/
theorem take_encode_singleton {r : ρ} {k : Nat} (hk : k ≤ (line r).length) :
    (encode line [r]).take k = Utf8.ascii ((line r).take k) := by
  rw [encode_singleton, Utf8.ascii, ← List.map_take, List.take_append_of_le_length hk, Utf8.ascii]

/-- The bytes of a line with its line feed. -/
theorem Plain.toBytes_line {r : ρ} (hp : Plain (line r)) :
    Utf8.toBytes (line r ++ [Lines.newline]) = .ok (encode line [r]) := by
  have hascii : Utf8.IsAscii (line r ++ [Lines.newline]) := by
    intro c hc
    rcases List.mem_append.mp hc with hc | hc
    · exact hp.ascii c hc
    · rw [List.mem_singleton.mp hc]
      decide
  rw [Utf8.toBytes_of_isAscii hascii, encode_singleton]

theorem encode_eq_nil_iff : encode line h = [] ↔ h = [] := by
  cases h with
  | nil => simp
  | cons r h => simp [encode, Utf8.ascii]

private theorem isAscii_terminated (hp : ∀ r ∈ h, Plain (line r)) :
    Utf8.IsAscii (Lines.terminated (h.map line)) := by
  intro c hc
  rcases Lines.mem_terminated hc with rfl | ⟨l, hl, hc⟩
  · decide
  · obtain ⟨r, hr, rfl⟩ := List.mem_map.mp hl
    exact (hp r hr).ascii c hc

private theorem unbroken_lines (hp : ∀ r ∈ h, Plain (line r)) :
    ∀ l ∈ h.map line, Lines.Unbroken l := by
  intro l hl
  obtain ⟨r, hr, rfl⟩ := List.mem_map.mp hl
  exact (hp r hr).unbroken

/-- The file of a log decodes to its lines. -/
theorem decode_encode (hp : ∀ r ∈ h, Plain (line r)) :
    Utf8.decode (encode line h) = some (Lines.terminated (h.map line)) :=
  Utf8.decode_ascii (isAscii_terminated hp)

/-- The file of a log with more text after it decodes to its lines and the text. -/
theorem decode_encode_append (hp : ∀ r ∈ h, Plain (line r)) {p : Text} (ha : Utf8.IsAscii p) :
    Utf8.decode (encode line h ++ Utf8.ascii p) = some (Lines.terminated (h.map line) ++ p) := by
  have hall : Utf8.IsAscii (Lines.terminated (h.map line) ++ p) := by
    intro c hc
    rcases List.mem_append.mp hc with hc | hc
    · exact isAscii_terminated hp c hc
    · exact ha c hc
  rw [← Utf8.decode_ascii hall, encode, Utf8.ascii, Utf8.ascii, Utf8.ascii, List.map_append]

/-- `text.splitlines()` of a log: its lines. -/
theorem splitlines_terminated (hp : ∀ r ∈ h, Plain (line r)) :
    Lines.splitlines (Lines.terminated (h.map line)) = h.map line :=
  Lines.splitlines_terminated _ (unbroken_lines hp)

/-- The lines of a log opened in text mode: its lines with their line feeds. -/
theorem fileLines_terminated (hp : ∀ r ∈ h, Plain (line r)) :
    Lines.fileLines (Lines.terminated (h.map line)) =
      h.map fun r ↦ line r ++ [Lines.newline] := by
  rw [Lines.fileLines_terminated _ (unbroken_lines hp), List.map_map]
  rfl

/-- The lines of a log opened in text mode with unbroken text after it. -/
theorem fileLines_terminated_append (hp : ∀ r ∈ h, Plain (line r)) {p : Text}
    (hu : Lines.Unbroken p) :
    Lines.fileLines (Lines.terminated (h.map line) ++ p) =
      (h.map fun r ↦ line r ++ [Lines.newline]) ++ if p = [] then [] else [p] := by
  rw [Lines.fileLines_terminated_append _ (unbroken_lines hp) hu, List.map_map]
  rfl

end Files

end StateWake.Base.LineLog
