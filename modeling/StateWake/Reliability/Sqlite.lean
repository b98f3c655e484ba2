import StateWake.Reliability.History
import Mathlib.Data.List.Forall2

/-!
# The SQLite reliability-state store

`adapters/reliability_state.py:226–355`. The store is the table of rows in `sequence`
order. A text bound to a statement is encoded as UTF-8, so a surrogate in a queried
subject raises; every stored text is free of them. Rows that hold the transitions of a
valid history behave as that history.
-/

namespace StateWake.Reliability

open StateWake.Base Text KeyedHistory ReliabilityStateTransition

namespace Sqlite

/-- A row of `reliability_state_transitions`. -/
structure Row where
  sequence : Nat
  transitionId : Text
  subjectId : Text
  digest : Text
  payload : Text

/-- Binding a text parameter: encoded as UTF-8, or `UnicodeEncodeError`. -/
def bindText (s : Text) : Except PyError Text := do
  let _ ← Utf8.toBytes s
  pure s

/-- `ReliabilityStateTransition.from_dict(json.loads(row["payload"]))`. -/
def rowTransition (row : Row) : Except PyError ReliabilityStateTransition := do
  let value ← Json.loads row.payload
  let payload ← orRaise ⟨.attributeError, []⟩ value.asObject
  fromDict payload

/-- The checks of `append` inside its transaction,
`adapters/reliability_state.py:271–308`: the stored transition to return instead of
inserting, if any. -/
def checkAppend (rows : List Row) (transition : ReliabilityStateTransition) :
    Except PyError (Option ReliabilityStateTransition) := do
  let transitionId ← bindText transition.transitionId
  match rows.find? fun row ↦ decide (row.transitionId = transitionId) with
  | some row => do
    let existing ← rowTransition row
    let stored ← existing.toDict
    let given ← transition.toDict
    require ⟨.valueError, lit "transition identity collision: " ++ transition.transitionId⟩
      (stored = given)
    pure (some existing)
  | none => do
    let subjectId ← bindText transition.subjectId
    match (rows.filter fun row ↦ decide (row.subjectId = subjectId)).getLast? with
    | some row => do
      requireTip transition row.digest
      let previous ← rowTransition row
      requirePredecessor transition previous
      pure none
    | none => do
      requireTip transition []
      pure none

/-- `INSERT` with the `UNIQUE` constraint on `transition_id`. -/
def insert (rows : List Row) (transition : ReliabilityStateTransition) (payload : Text) :
    Except PyError (List Row) := do
  let digest ← transition.computedDigest
  require ⟨.integrityError, []⟩ (rows.all fun row ↦ row.transitionId ≠ transition.transitionId)
  pure (rows ++ [⟨rows.length + 1, transition.transitionId, transition.subjectId, digest, payload⟩])

/-- `append`, `adapters/reliability_state.py:258–327`: an exception rolls back. -/
def append (rows : List Row) (transition : ReliabilityStateTransition) :
    Except PyError ReliabilityStateTransition × List Row :=
  match transition.toDict with
  | .error e => (.error e, rows)
  | .ok members =>
    match checkAppend rows transition with
    | .error e => (.error e, rows)
    | .ok (some existing) => (.ok existing, rows)
    | .ok none =>
      match insert rows transition (Json.dumps Json.compact (.obj members)) with
      | .error e => (.error e, rows)
      | .ok rows => (.ok transition, rows)

/-- One row against the tips before it, `adapters/reliability_state.py:343–366`. -/
def checkRow (tips : Dict Text) (row : Row) : Except PyError (ReliabilityStateTransition × Text) := do
  let value ← Json.loads row.payload
  let payload ← orRaise ⟨.valueError, lit "transition record must be a JSON object"⟩ value.asObject
  let transition ← fromDict payload
  require ⟨.valueError, lit "stored transition subject_id column does not match payload"⟩
    (row.subjectId = transition.subjectId)
  let digest ← transition.computedDigest
  require ⟨.valueError, lit "stored transition digest column does not match payload"⟩
    (row.digest = digest)
  let expected := (tips.get? transition.subjectId).getD []
  require ⟨.valueError, lit "previous transition digest does not match subject tip; expected " ++
    if expected = [] then lit "<empty>" else expected⟩
    (transition.previousTransitionDigest = expected)
  require ⟨.valueError, lit "stored transition digest mismatch"⟩
    ((payload.get? (lit "digest")).bind Json.asText = some digest)
  pure (transition, digest)

/-- The selected rows, verified in order, `adapters/reliability_state.py:341–373`. -/
def readRows : Dict Text → List Row → Except PyError (List ReliabilityStateTransition)
  | _, [] => .ok []
  | tips, row :: rows =>
    match checkRow tips row with
    | .error e =>
      if !e.kind.isRecordError then .error e
      else valueError (lit "Invalid reliability-state transition at SQLite sequence " ++
        Decimal.decimal row.sequence ++ lit ": " ++ e.message)
    | .ok (transition, digest) => do
      let rest ← readRows (tips.set transition.subjectId digest) rows
      pure (transition :: rest)

/-- `read`, `adapters/reliability_state.py:329–374`. -/
def read (rows : List Row) (subjectId : Option Text) :
    Except PyError (List ReliabilityStateTransition) :=
  match subjectId with
  | none => readRows [] rows
  | some s => do
    let s ← bindText s
    readRows [] (rows.filter fun row ↦ decide (row.subjectId = s))

/-- `SqliteReliabilityStateStore`. -/
def store : StateStore (List Row) := ⟨append, fun rows subjectId ↦ (read rows subjectId, rows)⟩

/-! ### The rows of a history -/

/-- A row holds a transition. -/
structure Holds (row : Row) (t : ReliabilityStateTransition) : Prop where
  transitionId : row.transitionId = t.transitionId
  subjectId : row.subjectId = t.subjectId
  digest : row.digest = t.digestText
  payload : row.payload =
    Json.dumps Json.compact (.obj (t.payload ++ [(lit "digest", .str t.digestText)]))

/-- Rows that hold the transitions of a history in order. -/
def Represents (rows : List Row) (h : List ReliabilityStateTransition) : Prop :=
  List.Forall₂ Holds rows h

private theorem loads_payload {row : Row} {t : ReliabilityStateTransition} (hr : Holds row t) :
    Json.loads row.payload = .ok (.obj (Json.readMembers Json.compact
      (t.payload ++ [(lit "digest", .str t.digestText)]))) := by
  rw [hr.payload, Json.loads_dumps_obj Json.compact (t.writable_toDict _)]

private theorem rowTransition_of_holds {row : Row} {t : ReliabilityStateTransition}
    (hr : Holds row t) (he : t.Encodable) : rowTransition row = .ok t := by
  rw [rowTransition, loads_payload hr, ok_bind, Json.asObject_obj, orRaise_some, ok_bind,
    fromDict_readMembers he.toDict]

private theorem bindText_of_surrogateFree {s : Text} (h : SurrogateFree s) : bindText s = .ok s := by
  obtain ⟨b, hb⟩ := Option.isSome_iff_exists.mp ((Utf8.encode_isSome_iff s).mpr h)
  rw [bindText, Utf8.toBytes, hb]
  rfl

private theorem surrogateFree_ids {t : ReliabilityStateTransition} (he : t.Encodable) :
    SurrogateFree t.transitionId ∧ SurrogateFree t.subjectId := by
  have h := surrogateFree_texts he.computedDigest
  constructor
  · exact h _ (by simp [ReliabilityStateTransition.payload])
  · exact h _ (by simp [ReliabilityStateTransition.payload])

private theorem find?_holds {rows : List Row} {h : List ReliabilityStateTransition}
    (hr : Represents rows h) (id : Text) :
    match h.find? fun e ↦ decide (e.transitionId = id) with
    | some t => ∃ row, rows.find? (fun row ↦ decide (row.transitionId = id)) = some row ∧ Holds row t
    | none => rows.find? (fun row ↦ decide (row.transitionId = id)) = none := by
  induction hr with
  | nil => rfl
  | @cons row t rows h hrow _ ih =>
    rw [List.find?_cons, List.find?_cons, hrow.transitionId]
    by_cases hid : t.transitionId = id
    · rw [decide_eq_true hid]
      exact ⟨row, rfl, hrow⟩
    · rw [decide_eq_false hid]
      exact ih

private theorem filter_holds {rows : List Row} {h : List ReliabilityStateTransition}
    (hr : Represents rows h) (s : Text) :
    Represents (rows.filter fun row ↦ decide (row.subjectId = s)) (select (some s) h) :=
  List.rel_filter (fun _ _ hrow ↦ by simp [hrow.subjectId]) hr

private theorem getLast?_holds {rows : List Row} {h : List ReliabilityStateTransition}
    (hr : Represents rows h) :
    match h.getLast? with
    | some t => ∃ row, rows.getLast? = some row ∧ Holds row t
    | none => rows.getLast? = none := by
  induction hr with
  | nil => rfl
  | @cons row t rows h hrow hrest ih =>
    cases hrest with
    | nil => exact ⟨row, rfl, hrow⟩
    | cons hrow' hrest' => simpa [List.getLast?_cons_cons] using ih

/-! ### Reading a history -/

private theorem checkRow_of_holds {row : Row} {t : ReliabilityStateTransition} (hr : Holds row t)
    (he : t.Encodable) {tips : Dict Text}
    (hp : t.previousTransitionDigest = (tips.get? t.subjectId).getD []) :
    checkRow tips row = .ok (t, t.digestText) := by
  have hw := t.writable_toDict t.digestText
  have hread := Json.get?_readMembers_of_pairFree Json.compact hw
    (fun s hs ↦ (surrogateFree_texts he.computedDigest s hs).pairFree)
    (show Dict.get? _ (lit "digest") = some (.str t.digestText) by
      simp [ReliabilityStateTransition.payload])
  rw [Json.sortKeys_str] at hread
  rw [checkRow, loads_payload hr, ok_bind, Json.asObject_obj, orRaise_some, ok_bind,
    fromDict_readMembers he.toDict Json.compact, ok_bind]
  simp only [hr.subjectId, hr.digest, hp, decide_true, require_true, ok_bind, he.computedDigest,
    hread, Option.bind_some, Json.asText_str]
  rfl

/-- Rows that hold the rest of a valid history are read with the tips of what came before. -/
private theorem readRows_of_represents (tips : Dict Text) (rows : List Row)
    (pre post : List ReliabilityStateTransition) (hr : Represents rows post)
    (henc : ∀ t ∈ post, t.Encodable)
    (hlink : Stepwise ReliabilityStateTransition.subjectId Extends (pre ++ post))
    (htips : ∀ s, (tips.get? s).getD [] = digestOfTip (tip? s pre)) :
    readRows tips rows = .ok post := by
  induction hr generalizing pre tips with
  | nil => rfl
  | @cons row t rows post hrow _ ih =>
    have he : t.Encodable := henc t (by simp)
    have hext : Extends (tip? t.subjectId pre) t := hlink pre t post rfl
    have hp : t.previousTransitionDigest = (tips.get? t.subjectId).getD [] := by
      rw [htips, hext.1]
    have hrest := ih (tips.set t.subjectId t.digestText) (pre ++ [t])
      (fun u hu ↦ henc u (List.mem_cons_of_mem t hu)) (by simpa using hlink) fun s ↦ by
        rw [Dict.get?_set, tip?_append_singleton]
        by_cases hs : s = t.subjectId
        · rw [if_pos hs, if_pos hs.symm]
          rfl
        · rw [if_neg hs, if_neg (Ne.symm hs), htips]
    rw [readRows, checkRow_of_holds hrow he hp]
    simp only [hrest, ok_bind]
    rfl

/-- Reading rows that hold a valid history, of any subject a statement can be bound to. -/
theorem read_represents {rows : List Row} {h : List ReliabilityStateTransition} (hv : Valid h)
    (hr : Represents rows h) {subjectId : Option Text} (hs : ∀ s ∈ subjectId, SurrogateFree s) :
    read rows subjectId = .ok (select subjectId h) := by
  cases subjectId with
  | none => exact readRows_of_represents [] rows [] h hr hv.encodable hv.linked fun _ ↦ rfl
  | some s =>
    rw [read, bindText_of_surrogateFree (hs s rfl), ok_bind]
    exact readRows_of_represents [] _ [] _ (filter_holds hr s)
      (fun t ht ↦ hv.encodable t (List.mem_filter.mp ht).1) (hv.linked.select s) fun _ ↦ rfl

/-- A subject with a surrogate cannot be queried. -/
theorem read_surrogate (rows : List Row) {s : Text} (hs : ¬SurrogateFree s) :
    read rows (some s) = .error ⟨.unicodeEncodeError, []⟩ := by
  have hn : Utf8.encode s = none := by
    rw [← Option.not_isSome_iff_eq_none, Utf8.encode_isSome_iff]
    exact hs
  rw [read, bindText, Utf8.toBytes, hn]
  rfl

/-! ### Appending to a history -/

/-- The checks pass exactly where the transition extends the tip of its subject. -/
private theorem checkAppend_row_new {rows : List Row} {h : List ReliabilityStateTransition}
    {t : ReliabilityStateTransition} (hv : Valid h) (hr : Represents rows h) (he : t.Encodable)
    (hf : (h.find? fun e ↦ decide (e.transitionId = t.transitionId)) = none) :
    if Extends (tip? t.subjectId h) t then checkAppend rows t = .ok none
    else ∃ e, checkAppend rows t = .error e := by
  obtain ⟨hid, hsub⟩ := surrogateFree_ids he
  have hfind := find?_holds hr t.transitionId
  rw [hf] at hfind
  have hlast := getLast?_holds (filter_holds hr t.subjectId)
  have htip : (select (some t.subjectId) h).getLast? = tip? t.subjectId h := rfl
  rw [htip] at hlast
  simp only [checkAppend, bindText_of_surrogateFree hid, ok_bind, hfind,
    bindText_of_surrogateFree hsub, Extends]
  cases ht : tip? t.subjectId h with
  | none =>
    rw [ht] at hlast
    simp only [hlast]
    by_cases hp : t.previousTransitionDigest = []
    · simp [requireTip, hp]
    · simp [requireTip, hp, require]
  | some p =>
    rw [ht] at hlast
    obtain ⟨row, hrow, hholds⟩ := hlast
    have hpe := hv.encodable p (mem_of_tip? ht).1
    simp only [hrow, hholds.digest, rowTransition_of_holds hholds hpe, digestOfTip_some,
      Option.mem_def, Option.some.injEq, forall_eq', requireTip, requirePredecessor]
    by_cases hp : t.previousTransitionDigest = p.digestText
    · by_cases hfrom : t.fromState = p.toState
      · simp [hp, hfrom]
      · simp [hp, hfrom, require]
    · simp [hp, require]

private theorem newRow_holds (rows : List Row) (t : ReliabilityStateTransition) :
    Holds ⟨rows.length + 1, t.transitionId, t.subjectId, t.digestText,
      Json.dumps Json.compact (.obj (t.payload ++ [(lit "digest", .str t.digestText)]))⟩ t :=
  ⟨rfl, rfl, rfl, rfl⟩

private theorem represents_append_singleton {rows : List Row}
    {h : List ReliabilityStateTransition} (hr : Represents rows h) {row : Row}
    {t : ReliabilityStateTransition} (hrow : Holds row t) :
    Represents (rows ++ [row]) (h ++ [t]) :=
  List.rel_append hr (.cons hrow .nil)

private theorem insert_of_new {rows : List Row} {h : List ReliabilityStateTransition}
    {t : ReliabilityStateTransition} (hr : Represents rows h) (he : t.Encodable)
    (hf : (h.find? fun e ↦ decide (e.transitionId = t.transitionId)) = none) (payload : Text) :
    insert rows t payload = .ok (rows ++
      [⟨rows.length + 1, t.transitionId, t.subjectId, t.digestText, payload⟩]) := by
  have hfind := find?_holds hr t.transitionId
  rw [hf] at hfind
  have hall : (rows.all fun row ↦ row.transitionId ≠ t.transitionId) = true := by
    rw [List.all_eq_true]
    intro row hrow
    simpa using List.find?_eq_none.mp hfind row hrow
  rw [insert, he.computedDigest, ok_bind, hall, require_true, ok_bind]
  rfl

/-- An accepted append returns the transition and leaves rows that hold the accepted
history. -/
theorem append_of_accepts {rows : List Row} {h h' : List ReliabilityStateTransition}
    {t : ReliabilityStateTransition} (hv : Valid h) (hr : Represents rows h)
    (ha : accepts h t = some h') :
    ∃ rows', append rows t = (.ok t, rows') ∧ Represents rows' h' := by
  unfold accepts at ha
  split at ha
  · next he =>
    obtain ⟨hid, -⟩ := surrogateFree_ids he
    cases hf : h.find? fun e ↦ decide (e.transitionId = t.transitionId) with
    | some existing =>
      simp only [hf] at ha
      split at ha
      · next heq =>
        cases ha
        subst heq
        have hfind := find?_holds hr existing.transitionId
        rw [hf] at hfind
        obtain ⟨row, hrow, hholds⟩ := hfind
        refine ⟨rows, ?_, hr⟩
        have hcheck : checkAppend rows existing = .ok (some existing) := by
          simp only [checkAppend, bindText_of_surrogateFree hid, ok_bind, hrow,
            rowTransition_of_holds hholds he, he.toDict, decide_true, require_true]
          rfl
        simp only [append, he.toDict, hcheck]
      · cases ha
    | none =>
      simp only [hf] at ha
      have hnew := checkAppend_row_new hv hr he hf
      split at ha
      · next hext =>
        cases ha
        rw [if_pos hext] at hnew
        have hinsert := insert_of_new hr he hf
          (Json.dumps Json.compact (.obj (t.payload ++ [(lit "digest", .str t.digestText)])))
        refine ⟨_, ?_, represents_append_singleton hr (newRow_holds rows t)⟩
        simp only [append, he.toDict, hnew, hinsert]
      · cases ha
  · cases ha

/-- A rejected append raises and leaves the rows. -/
theorem append_of_rejects {rows : List Row} {h : List ReliabilityStateTransition}
    {t : ReliabilityStateTransition} (hv : Valid h) (hr : Represents rows h)
    (ha : accepts h t = none) : ∃ e, append rows t = (.error e, rows) := by
  by_cases he : t.Encodable
  · obtain ⟨hid, -⟩ := surrogateFree_ids he
    rw [accepts, if_pos he] at ha
    have hcheck : ∃ e, checkAppend rows t = .error e := by
      cases hf : h.find? fun e ↦ decide (e.transitionId = t.transitionId) with
      | some existing =>
        have hne : existing ≠ t := by
          rintro rfl
          simp [hf] at ha
        have hfind := find?_holds hr t.transitionId
        rw [hf] at hfind
        obtain ⟨row, hrow, hholds⟩ := hfind
        have hex := hv.encodable existing (List.mem_of_find?_eq_some hf)
        have hdict : ¬(existing.payload ++ [(lit "digest", .str existing.digestText)] =
            t.payload ++ [(lit "digest", .str t.digestText)]) := fun heq ↦
          hne (toDict_inj hex.toDict (by rw [heq]; exact he.toDict))
        simp only [checkAppend, bindText_of_surrogateFree hid, ok_bind, hrow,
          rowTransition_of_holds hholds hex, hex.toDict, he.toDict, decide_eq_false hdict]
        exact ⟨_, rfl⟩
      | none =>
        have hnew := checkAppend_row_new hv hr he hf
        split at hnew
        · next hext => simp [hf, hext] at ha
        · exact hnew
    obtain ⟨e, hcheck⟩ := hcheck
    exact ⟨e, by simp only [append, he.toDict, hcheck]⟩
  · obtain ⟨e, hd⟩ := not_encodable he
    exact ⟨e, by simp only [append, hd]⟩

/-- The SQLite store implements the abstract one. -/
theorem implements : Implements store Represents where
  append_ok hv hr ha := append_of_accepts hv hr ha
  append_error hv hr ha := by
    obtain ⟨e, he⟩ := append_of_rejects hv hr ha
    exact ⟨e, _, he, hr⟩
  read_ok subjectId hv hr hs := ⟨_, congrArg (·, _) (read_represents hv hr hs), hr⟩
  read_any subjectId hv hr := by
    refine ⟨_, _, rfl, hr, fun l hl ↦ ?_⟩
    by_cases hs : ∀ s ∈ subjectId, SurrogateFree s
    · rw [read_represents hv hr hs] at hl
      exact (Except.ok.inj hl).symm
    · cases subjectId with
      | none => exact absurd (fun s hs' ↦ (by cases hs')) hs
      | some s =>
        rw [read_surrogate _ fun h ↦ hs fun s' hs' ↦ by cases hs'; exact h] at hl
        cases hl

theorem represents_empty : Represents [] [] := .nil

end Sqlite
end StateWake.Reliability
