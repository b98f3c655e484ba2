import StateWake.Incident.RoundTrip

/-!
# Two readers of the incident evidence store

`adapters/incident_evidence.py`. The store reads its file in text mode and an investigation reads a
snapshot of it within bounds, with `str.splitlines`. After every append that returns both give the
records before it, unchanged, and then the record of the incident.
-/

namespace StateWake.Incident

open StateWake.Base Text Utils RegisterHistory

/-- `read_incident_evidence_snapshot`, `adapters/incident_evidence.py:200–227`. -/
def readIncidentEvidenceSnapshot (file : Option Bytes) (maxBytes maxRecords : Int) :
    Except PyError (List StoredIncidentRecord) := do
  require ⟨.valueError, lit "max_bytes must be positive"⟩ (0 < maxBytes)
  require ⟨.valueError, lit "max_records must be positive"⟩ (0 < maxRecords)
  let raw ← orRaise ⟨.fileNotFoundError, []⟩ file
  require ⟨.overflowError, lit "incident evidence source exceeds read limit"⟩
    (raw.length ≤ maxBytes)
  let text ← Utf8.ofBytes raw
  parseIncidentRecords (Lines.splitlines text) (some maxRecords)

variable {file : Option Bytes} {h : List StoredIncidentRecord} {call : Call}

/-- A file that holds the lines of some records is read as these records within bounds that admit
it. -/
theorem readSnapshot_represents {raw : Bytes} (hr : Represents (some raw) h)
    {maxBytes maxRecords : Int} (hpositive : 0 < maxBytes ∧ 0 < maxRecords)
    (hbytes : raw.length ≤ maxBytes) (hrecords : h.length ≤ maxRecords) :
    readIncidentEvidenceSnapshot (some raw) maxBytes maxRecords =
      .ok (h.map StoredIncidentRecord.stored) := by
  have hcontent : raw = LineLog.encode lineOf h := hr.content
  have hreads : LineLog.Reads lineOf (parseLine (some maxRecords))
      (List.map StoredIncidentRecord.stored) h := by
    have hunterminated : LineLog.Reads (fun r ↦ lineOf r ++ []) (parseLine (some maxRecords))
        (List.map StoredIncidentRecord.stored) h :=
      reads_of_written hr.written (by simp) (by simpa using hrecords)
    simpa only [List.append_nil] using hunterminated
  rw [readIncidentEvidenceSnapshot, decide_eq_true hpositive.1, require_true, ok_bind,
    decide_eq_true hpositive.2, require_true, ok_bind, orRaise_some, ok_bind,
    decide_eq_true hbytes, require_true, ok_bind, Utf8.ofBytes, hcontent,
    LineLog.decode_encode (plain_of_written hr.written), orRaise_some, ok_bind,
    LineLog.splitlines_terminated (plain_of_written hr.written), parseIncidentRecords,
    Option.all_some, decide_eq_true hpositive.2, require_true, ok_bind]
  exact LineLog.readLines_of_reads hreads 1

/-! ### What an append leaves -/

/-- A list of stored records: the sequence numbers count them, and each names the digest of the
record before it. -/
def Linked (records : List StoredIncidentRecord) : Prop :=
  Prefixwise (fun before r ↦ r.sequence = before.length ∧
    r.previousDigest = before.getLast?.map StoredIncidentRecord.digest) records

/-- What both readers give after an append that returns: the records before it, unchanged, and the
record of the incident, linked to them. The bounds of a snapshot admit what the file holds. -/
structure Appended (file after : Option Bytes) (call : Call) (record : StoredIncidentRecord) :
    Prop where
  reads : ∃ before stored incident,
    readUnlocked file = .ok before ∧ readUnlocked after = .ok (before ++ [stored]) ∧
    (∀ maxBytes maxRecords : Int, (after.getD []).length ≤ maxBytes →
      before.length + 1 ≤ maxRecords →
        readIncidentEvidenceSnapshot after maxBytes maxRecords = .ok (before ++ [stored])) ∧
    call.incident.val.toDict = .ok incident ∧ stored.incident.val.toDict = .ok incident ∧
    stored.toDict = record.toDict ∧ Linked (before ++ [stored])

/-- Every append that returns is read back. -/
def KeepsRecords (file : Option Bytes) (call : Call) : Prop :=
  ∀ record, (append file call).1 = .ok record →
    Appended file (append file call).2 call record

/-- What is read back of written records is linked. -/
private theorem linked_of_written (hs : Prefixwise Written h) :
    Linked (h.map StoredIncidentRecord.stored) := by
  intro before stored after hsplit
  obtain ⟨before', rest, rfl, rfl, hrest⟩ := List.map_eq_append_iff.mp hsplit
  obtain ⟨r, after', rfl, rfl, rfl⟩ := List.map_eq_cons_iff.mp hrest
  have hw := hs before' r after' rfl
  constructor
  · rw [List.length_map]
    exact hw.sequence
  · rw [getLast?_stored]
    exact hw.linked

/-- An incident that has a digest has a written form. -/
private theorem exists_incidentDict {i : SecurityIncidentEvidence} {d : Text}
    (hd : i.val.digest = .ok d) : ∃ incident, i.val.toDict = .ok incident := by
  obtain ⟨incident, hincident, -⟩ := exists_members hd
  exact ⟨incident, hincident⟩

/-- An append to a file of records is read back, and leaves a file of records. -/
private theorem keepsRecords_of_represents (hr : Represents file h) (call : Call) :
    KeepsRecords file call ∧ ∃ h', Represents (append file call).2 h' := by
  by_cases hs : Storable call.incident
  · obtain ⟨record, hok, hr', hincident, htime⟩ := append_of_storable hr hs
    refine ⟨fun record' hok' ↦ ?_, h ++ [record], hr'⟩
    rw [hok] at hok'
    cases hok'
    obtain ⟨-, d, hd⟩ := storable_iff.mp hs
    obtain ⟨incident, hdict⟩ := exists_incidentDict hd
    have hafter := readUnlocked_represents hr'
    have hlinked := linked_of_written hr'.written
    rw [List.map_append, List.map_singleton] at hafter hlinked
    refine ⟨_, record.stored, incident, readUnlocked_represents hr, hafter, ?_, hdict, ?_,
      record.toDict_stored, hlinked⟩
    · intro maxBytes maxRecords hbytes hrecords
      cases hfile : (append file call).2 with
      | none =>
        rw [hfile] at hr'
        have hnil : h ++ [record] = [] := LineLog.encode_eq_nil_iff.mp hr'.content.symm
        simp at hnil
      | some raw =>
        rw [hfile] at hr' hbytes
        rw [List.length_map] at hrecords
        have hraw : raw.length ≠ 0 := by
          intro hzero
          have hnil : h ++ [record] = [] := by
            apply LineLog.encode_eq_nil_iff.mp
            rw [← hr'.content, Option.getD_some]
            exact List.length_eq_zero_iff.mp hzero
          simp at hnil
        rw [Option.getD_some] at hbytes
        rw [readSnapshot_represents hr' (by omega) hbytes
          (by rw [List.length_append, List.length_singleton]; omega), List.map_append,
          List.map_singleton]
    · rw [StoredIncidentRecord.stored, SecurityIncidentEvidence.toDict_stored, hincident, hdict]
  · cases happend : (append file call).1 with
    | ok record => exact absurd (storable_of_append happend) hs
    | error e =>
      refine ⟨fun record hok ↦ ?_, h, ?_⟩
      · rw [happend] at hok
        cases hok
      · rw [append_error happend]
        exact hr

end StateWake.Incident
