import StateWake.Reliability.History
import StateWake.Base.JsonTruncated
import Mathlib.Data.List.DropRight

/-!
# The JSONL reliability-state store

`adapters/reliability_state.py:31–186`. The store is one file, absent until the first
append; `recoverPartialTail` is the option that lets a read truncate a torn last record.
A file that holds the line of every transition of a valid history reads back as that
history, and appends to it are the abstract ones.
-/

namespace StateWake.Reliability

open StateWake.Base Text KeyedHistory ReliabilityStateTransition

namespace Jsonl

/-- The line feed byte. -/
def newlineByte : UInt8 := 10

/-- One line of a snapshot against the tips before it,
`adapters/reliability_state.py:55–69`. -/
def parseLine (tips : Dict Text) (line : Text) :
    Except PyError (ReliabilityStateTransition × Text) := do
  let value ← Json.loads line
  let payload ← orRaise ⟨.valueError, lit "transition record must be a JSON object"⟩ value.asObject
  let transition ← fromDict payload
  let expected := (tips.get? transition.subjectId).getD []
  require ⟨.valueError, lit "previous transition digest does not match subject tip; expected " ++
    if expected = [] then lit "<empty>" else expected⟩
    (transition.previousTransitionDigest = expected)
  let digest ← transition.computedDigest
  require ⟨.valueError, lit "stored transition digest mismatch"⟩
    ((payload.get? (lit "digest")).bind Json.asText = some digest)
  pure (transition, digest)

/-- The lines of a snapshot from a line number on, `adapters/reliability_state.py:50–79`.
Exceptions outside `except (JSONDecodeError, TypeError, KeyError, ValueError)` pass. -/
def parseLines (subjectId : Option Text) (unterminated : Bool) :
    Nat → Dict Text → List Text → Except PyError (List ReliabilityStateTransition)
  | _, _, [] => .ok []
  | number, tips, line :: lines =>
    if blank line then parseLines subjectId unterminated (number + 1) tips lines
    else
      match parseLine tips line with
      | .error e =>
        if !e.kind.isRecordError then .error e
        else if unterminated && lines.isEmpty then
          valueError (lit "reliability-state history has an incomplete final record")
        else
          valueError (lit "Invalid reliability-state transition at line " ++
            Decimal.decimal number ++ lit ": " ++ e.message)
      | .ok (transition, digest) => do
        let rest ← parseLines subjectId unterminated (number + 1)
          (tips.set transition.subjectId digest) lines
        pure (select subjectId [transition] ++ rest)

/-- `parse_reliability_state_history`, `adapters/reliability_state.py:31–80`. -/
def parseHistory (raw : Bytes) (subjectId : Option Text) :
    Except PyError (List ReliabilityStateTransition) :=
  if raw = [] then .ok []
  else
    match Utf8.decode raw with
    | none => valueError (lit "reliability-state history is not valid UTF-8")
    | some text =>
      parseLines subjectId (raw.getLast? != some newlineByte) 1 [] (Lines.splitlines text)

/-- Whether an unterminated tail is a complete record,
`adapters/reliability_state.py:164–176`. -/
def completeTail (tail : Bytes) : Except PyError Bool :=
  let record : Except PyError Bool := do
    let text ← Utf8.ofBytes tail
    let value ← Json.loads text
    match value.asObject with
    | some payload => do
      let _ ← fromDict payload
      pure true
    | none => pure false
  match record with
  | .ok complete => .ok complete
  | .error e => if e.kind.isRecordError then .ok false else .error e

/-- `_recover_partial_tail`, `adapters/reliability_state.py:157–186`: the bytes left after
truncating an incomplete tail. -/
def recoverPartialTail (raw : Bytes) : Except PyError Bytes :=
  if raw = [] ∨ raw.getLast? = some newlineByte then .ok raw
  else do
    let complete ← completeTail (raw.rtakeWhile (· ≠ newlineByte))
    pure (if complete then raw else raw.rdropWhile (· ≠ newlineByte))

/-- `_read_unlocked`, `adapters/reliability_state.py:147–155`. -/
def readUnlocked (recover : Bool) (file : Option Bytes) (subjectId : Option Text) :
    Except PyError (List ReliabilityStateTransition) × Option Bytes :=
  match file with
  | none => (.ok [], none)
  | some raw =>
    if recover then
      match recoverPartialTail raw with
      | .error e => (.error e, some raw)
      | .ok raw => (parseHistory raw subjectId, some raw)
    else (parseHistory raw subjectId, some raw)

/-- The checks of `append` against the transitions read,
`adapters/reliability_state.py:104–123`: the stored transition to return instead of writing,
if any. -/
def checkAppend (transitions : List ReliabilityStateTransition) (transition : ReliabilityStateTransition) :
    Except PyError (Option ReliabilityStateTransition) :=
  match transitions.find? fun e ↦ decide (e.transitionId = transition.transitionId) with
  | some existing => do
    let stored ← existing.toDict
    let given ← transition.toDict
    require ⟨.valueError, lit "transition identity collision: " ++ transition.transitionId⟩
      (stored = given)
    pure (some existing)
  | none =>
    match tip? transition.subjectId transitions with
    | some previous => do
      let expected ← previous.computedDigest
      requireTip transition expected
      requirePredecessor transition previous
      pure none
    | none => do
      requireTip transition []
      pure none

/-- `append`, `adapters/reliability_state.py:99–140`. -/
def append (recover : Bool) (file : Option Bytes) (transition : ReliabilityStateTransition) :
    Except PyError ReliabilityStateTransition × Option Bytes :=
  match readUnlocked recover file none with
  | (.error e, file) => (.error e, file)
  | (.ok transitions, file) =>
    match checkAppend transitions transition with
    | .error e => (.error e, file)
    | .ok (some existing) => (.ok existing, file)
    | .ok none =>
      match transition.toDict with
      | .error e => (.error e, file)
      | .ok members =>
        match Utf8.toBytes (Json.dumps Json.compact (.obj members) ++ [Lines.newline]) with
        | .error e => (.error e, file)
        | .ok payload => (.ok transition, some (file.getD [] ++ payload))

/-- `JsonlReliabilityStateStore`. -/
def store (recover : Bool) : StateStore (Option Bytes) := ⟨append recover, readUnlocked recover⟩

@[simp] theorem store_append (recover : Bool) : (store recover).append = append recover := rfl

@[simp] theorem store_read (recover : Bool) : (store recover).read = readUnlocked recover := rfl

/-! ### The file of a history -/

/-- The line of a transition, without its line feed. -/
def lineOf (t : ReliabilityStateTransition) : Text :=
  Json.dumps Json.compact (.obj (t.payload ++ [(lit "digest", .str t.digestText)]))

/-- The bytes of a file that holds one line for each transition. -/
def encode (h : List ReliabilityStateTransition) : Bytes :=
  Utf8.ascii (Lines.terminated (h.map lineOf))

/-- A file that holds a history; an absent file holds the empty one. -/
def Represents (file : Option Bytes) (h : List ReliabilityStateTransition) : Prop :=
  file.getD [] = encode h

theorem isAscii_lineOf (t : ReliabilityStateTransition) : Utf8.IsAscii (lineOf t) :=
  Json.isAscii_dumps rfl (t.writable_toDict _)

theorem unbroken_lineOf (t : ReliabilityStateTransition) : Lines.Unbroken (lineOf t) :=
  Json.unbroken_compact (t.writable_toDict _)

private theorem isAscii_terminated (h : List ReliabilityStateTransition) :
    Utf8.IsAscii (Lines.terminated (h.map lineOf)) := by
  intro c hc
  rcases Lines.mem_terminated hc with rfl | ⟨l, hl, hc⟩
  · decide
  · obtain ⟨t, -, rfl⟩ := List.mem_map.mp hl
    exact isAscii_lineOf t c hc

private theorem splitlines_history (h : List ReliabilityStateTransition) :
    Lines.splitlines (Lines.terminated (h.map lineOf)) = h.map lineOf :=
  Lines.splitlines_terminated _ fun l hl ↦ by
    obtain ⟨t, -, rfl⟩ := List.mem_map.mp hl
    exact unbroken_lineOf t

@[simp] theorem encode_nil : encode [] = [] := rfl

theorem encode_append (h g : List ReliabilityStateTransition) :
    encode (h ++ g) = encode h ++ encode g := by
  simp [encode, Utf8.ascii]

theorem encode_singleton (t : ReliabilityStateTransition) :
    encode [t] = Utf8.ascii (lineOf t ++ [Lines.newline]) := by
  simp [encode]

/-- The file of a history is empty or ends with a line feed. -/
theorem encode_ends (h : List ReliabilityStateTransition) :
    encode h = [] ∨ (encode h).getLast? = some newlineByte := by
  induction h using List.reverseRecOn with
  | nil => exact .inl rfl
  | append_singleton h t _ =>
    right
    rw [encode_append, encode_singleton, Utf8.ascii, List.map_append, ← List.append_assoc,
      List.map_singleton, List.getLast?_append]
    rfl

/-! ### Reading a history -/

/-- The line of a transition is read as that transition where it names the tip. -/
theorem parseLine_lineOf {t : ReliabilityStateTransition} (he : t.Encodable) {tips : Dict Text}
    (hp : t.previousTransitionDigest = (tips.get? t.subjectId).getD []) :
    parseLine tips (lineOf t) = .ok (t, t.digestText) := by
  have hw := t.writable_toDict t.digestText
  have hread := Json.get?_readMembers_of_pairFree Json.compact hw
    (fun s hs ↦ (surrogateFree_texts he.computedDigest s hs).pairFree)
    (show Dict.get? _ (lit "digest") = some (.str t.digestText) by simp [payload])
  rw [Json.sortKeys_str] at hread
  rw [parseLine, lineOf, Json.loads_dumps_obj Json.compact hw, ok_bind, Json.asObject_obj,
    orRaise_some, ok_bind, fromDict_readMembers he.toDict Json.compact, ok_bind]
  simp only [hp, decide_true, require_true, ok_bind, he.computedDigest, hread, Option.bind_some,
    Json.asText_str]
  rfl

/-- The lines of the rest of a valid history, read with the tips of what came before, give
the selected transitions of the rest, and then whatever the lines after them give. -/
theorem parseLines_map_lineOf_append (subjectId : Option Text) (unterminated : Bool)
    (number : Nat) (tips : Dict Text) (pre post : List ReliabilityStateTransition)
    (more : List Text) (hv : Valid (pre ++ post))
    (htips : ∀ s, (tips.get? s).getD [] = digestOfTip (tip? s pre)) :
    ∃ tips' : Dict Text, (∀ s, (tips'.get? s).getD [] = digestOfTip (tip? s (pre ++ post))) ∧
      parseLines subjectId unterminated number tips (post.map lineOf ++ more) =
        (parseLines subjectId unterminated (number + post.length) tips' more).map
          (select subjectId post ++ ·) := by
  induction post generalizing pre tips number with
  | nil =>
    refine ⟨tips, by simpa using htips, ?_⟩
    have hselect : select subjectId [] = [] := by cases subjectId <;> rfl
    rw [List.map_nil, List.nil_append, List.length_nil, Nat.add_zero, hselect]
    cases parseLines subjectId unterminated number tips more with
    | error e => rfl
    | ok l => rfl
  | cons t post ih =>
    have he : t.Encodable := hv.encodable t (by simp)
    have hext : Extends (tip? t.subjectId pre) t := hv.linked pre t post rfl
    have hp : t.previousTransitionDigest = (tips.get? t.subjectId).getD [] := by
      rw [htips, hext.1]
    obtain ⟨tips', htips', hrest⟩ := ih (number + 1) (tips.set t.subjectId t.digestText)
      (pre ++ [t]) (by simpa using hv) fun s ↦ by
        rw [Dict.get?_set, tip?_append_singleton]
        by_cases hs : s = t.subjectId
        · rw [if_pos hs, if_pos hs.symm]
          rfl
        · rw [if_neg hs, if_neg (Ne.symm hs), htips]
    refine ⟨tips', by simpa using htips', ?_⟩
    rw [List.map_cons, List.cons_append, parseLines,
      if_neg (by rw [lineOf, Json.not_blank_dumps_obj]; decide), parseLine_lineOf he hp]
    simp only [hrest, List.length_cons, Nat.add_right_comm number 1]
    have hselect : select subjectId (t :: post) = select subjectId [t] ++ select subjectId post := by
      cases subjectId with
      | none => rfl
      | some s => exact ofKey_append s [t] post
    rw [hselect, Nat.add_assoc]
    cases parseLines subjectId unterminated (number + (post.length + 1)) tips' more with
    | error e => rfl
    | ok l => exact congrArg Except.ok (List.append_assoc ..).symm

/-- A file that holds a valid history parses as it. -/
theorem parseHistory_encode {h : List ReliabilityStateTransition} (hv : Valid h)
    (subjectId : Option Text) : parseHistory (encode h) subjectId = .ok (select subjectId h) := by
  rw [parseHistory]
  split
  · next hempty =>
    cases h with
    | nil => cases subjectId <;> rfl
    | cons t h =>
      rw [show t :: h = [t] ++ h from rfl, encode_append, encode_singleton] at hempty
      simp [Utf8.ascii] at hempty
  · rw [encode, Utf8.decode_ascii (isAscii_terminated h)]
    obtain ⟨tips, -, hparse⟩ := parseLines_map_lineOf_append subjectId
      ((Utf8.ascii (Lines.terminated (h.map lineOf))).getLast? != some newlineByte) 1 [] [] h []
      hv fun s ↦ rfl
    rw [List.append_nil] at hparse
    simp only [splitlines_history, hparse, parseLines, Except.map, List.append_nil]

/-- Recovery leaves the file of a history alone. -/
theorem recoverPartialTail_encode (h : List ReliabilityStateTransition) :
    recoverPartialTail (encode h) = .ok (encode h) := by
  rw [recoverPartialTail, if_pos (encode_ends h)]

/-- Reading a file that holds a valid history. -/
theorem readUnlocked_represents {file : Option Bytes} {h : List ReliabilityStateTransition}
    (hv : Valid h) (hr : Represents file h) (recover : Bool) (subjectId : Option Text) :
    readUnlocked recover file subjectId = (.ok (select subjectId h), file) := by
  cases file with
  | none =>
    have hn : h = [] := by
      cases h with
      | nil => rfl
      | cons t h =>
        rw [Represents, show t :: h = [t] ++ h from rfl, encode_append, encode_singleton] at hr
        simp [Utf8.ascii] at hr
    subst hn
    cases subjectId <;> rfl
  | some raw =>
    have hraw : raw = encode h := hr
    subst hraw
    rw [readUnlocked]
    simp only [recoverPartialTail_encode, parseHistory_encode hv]
    split <;> rfl

/-! ### Appending to a history -/

/-- The checks pass exactly where the transition extends the tip of its subject. -/
private theorem checkAppend_new {h : List ReliabilityStateTransition} {t : ReliabilityStateTransition}
    (hv : Valid h) (hf : (h.find? fun e ↦ decide (e.transitionId = t.transitionId)) = none) :
    if Extends (tip? t.subjectId h) t then checkAppend h t = .ok none else ∃ e, checkAppend h t = .error e := by
  simp only [checkAppend, hf, Extends]
  cases ht : tip? t.subjectId h with
  | none =>
    by_cases hp : t.previousTransitionDigest = []
    · simp [requireTip, hp]
    · simp [requireTip, hp, require]
  | some p =>
    have hpe := hv.encodable p (mem_of_tip? ht).1
    simp only [hpe.computedDigest, ok_bind, digestOfTip_some, Option.mem_def, Option.some.injEq,
      forall_eq', requireTip, requirePredecessor]
    by_cases hp : t.previousTransitionDigest = p.digestText
    · by_cases hfrom : t.fromState = p.toState
      · simp [hp, hfrom]
      · simp [hp, hfrom, require]
    · simp [hp, require]

/-- The checks of `append` on an accepted transition. -/
theorem checkAppend_of_accepts {h h' : List ReliabilityStateTransition} {t : ReliabilityStateTransition}
    (hv : Valid h) (ha : accepts h t = some h') :
    (checkAppend h t = .ok (some t) ∧ h' = h) ∨ (checkAppend h t = .ok none ∧ h' = h ++ [t]) := by
  unfold accepts at ha
  split at ha
  · next he =>
    cases hf : h.find? fun e ↦ decide (e.transitionId = t.transitionId) with
    | some existing =>
      simp only [hf] at ha
      split at ha
      · next heq =>
        cases ha
        subst heq
        left
        refine ⟨?_, rfl⟩
        rw [checkAppend, hf]
        simp only [he.toDict, ok_bind, decide_true, require_true]
        rfl
      · cases ha
    | none =>
      simp only [hf] at ha
      have hnew := checkAppend_new hv hf
      split at ha
      · next hext =>
        cases ha
        rw [if_pos hext] at hnew
        exact .inr ⟨hnew, rfl⟩
      · cases ha
  · cases ha

/-- A rejected append writes nothing: a check raises, or the transition has no encoding. -/
theorem checkAppend_of_rejects {h : List ReliabilityStateTransition} {t : ReliabilityStateTransition}
    (hv : Valid h) (ha : accepts h t = none) :
    (∃ e, checkAppend h t = .error e) ∨ (checkAppend h t = .ok none ∧ ∃ e, t.toDict = .error e) := by
  unfold accepts at ha
  cases hf : h.find? fun e ↦ decide (e.transitionId = t.transitionId) with
  | some existing =>
    left
    have hex := hv.encodable existing (List.mem_of_find?_eq_some hf)
    rw [checkAppend, hf]
    simp only [hex.toDict, ok_bind]
    by_cases he : t.Encodable
    · rw [if_pos he, hf] at ha
      have hne : existing ≠ t := by
        rintro rfl
        simp at ha
      have hdict : ¬(existing.payload ++ [(lit "digest", .str existing.digestText)] =
          t.payload ++ [(lit "digest", .str t.digestText)]) := fun heq ↦
        hne (toDict_inj hex.toDict (by rw [heq]; exact he.toDict))
      simp only [he.toDict, ok_bind, decide_eq_false hdict]
      exact ⟨_, rfl⟩
    · obtain ⟨e, hd⟩ := not_encodable he
      exact ⟨e, by rw [hd]; rfl⟩
  | none =>
    have hnew := checkAppend_new hv hf
    split at hnew
    · next hext =>
      by_cases he : t.Encodable
      · rw [if_pos he, hf] at ha
        simp [hext] at ha
      · exact .inr ⟨hnew, not_encodable he⟩
    · exact .inl hnew

private theorem toBytes_lineOf (t : ReliabilityStateTransition) :
    Utf8.toBytes (lineOf t ++ [Lines.newline]) = .ok (encode [t]) := by
  rw [encode_singleton, Utf8.toBytes_of_isAscii]
  intro c hc
  rcases List.mem_append.mp hc with hc | hc
  · exact isAscii_lineOf t c hc
  · rw [List.mem_singleton.mp hc]
    decide

/-- Appending a stored transition again returns it and writes nothing. -/
theorem append_known (recover : Bool) {file : Option Bytes} {h : List ReliabilityStateTransition}
    {t : ReliabilityStateTransition} (hv : Valid h) (hr : Represents file h)
    (ha : accepts h t = some h) : append recover file t = (.ok t, file) := by
  rw [append, readUnlocked_represents hv hr]
  rcases checkAppend_of_accepts hv ha with ⟨hcheck, -⟩ | ⟨-, hne⟩
  · simp only [select, hcheck]
  · simp at hne

/-- Appending a new transition writes its line at the end of what the read left, whatever
the file holds. -/
theorem append_of_readUnlocked {recover : Bool} {file file' : Option Bytes}
    {h : List ReliabilityStateTransition} {t : ReliabilityStateTransition} (hv : Valid h)
    (hread : readUnlocked recover file none = (.ok h, file')) (ha : accepts h t = some (h ++ [t])) :
    append recover file t = (.ok t, some (file'.getD [] ++ encode [t])) := by
  rw [append, hread]
  rcases checkAppend_of_accepts hv ha with ⟨-, hne⟩ | ⟨hcheck, -⟩
  · simp at hne
  · have he := (accepts_cases ha).1
    have hbytes := toBytes_lineOf t
    rw [lineOf] at hbytes
    simp only [hcheck, he.toDict, hbytes]

/-- Appending a new transition writes its line at the end of the file. -/
theorem append_new (recover : Bool) {file : Option Bytes} {h : List ReliabilityStateTransition}
    {t : ReliabilityStateTransition} (hv : Valid h) (hr : Represents file h)
    (ha : accepts h t = some (h ++ [t])) :
    append recover file t = (.ok t, some (file.getD [] ++ encode [t])) :=
  append_of_readUnlocked hv (readUnlocked_represents hv hr recover none) ha

theorem Represents.append {file : Option Bytes} {h : List ReliabilityStateTransition}
    (hr : Represents file h) (t : ReliabilityStateTransition) :
    Represents (some (file.getD [] ++ encode [t])) (h ++ [t]) := by
  rw [Represents, Option.getD_some, hr, encode_append]

/-- An accepted append returns the transition and leaves the accepted history. -/
theorem append_of_accepts (recover : Bool) {file : Option Bytes}
    {h h' : List ReliabilityStateTransition} {t : ReliabilityStateTransition} (hv : Valid h)
    (hr : Represents file h) (ha : accepts h t = some h') :
    ∃ file', Jsonl.append recover file t = (.ok t, file') ∧ Represents file' h' := by
  rcases (accepts_cases ha).2 with ⟨rfl, -⟩ | ⟨rfl, -⟩
  · exact ⟨file, append_known recover hv hr ha, hr⟩
  · exact ⟨_, append_new recover hv hr ha, hr.append t⟩

/-- A rejected append raises and leaves the file. -/
theorem append_of_rejects (recover : Bool) {file : Option Bytes}
    {h : List ReliabilityStateTransition} {t : ReliabilityStateTransition} (hv : Valid h)
    (hr : Represents file h) (ha : accepts h t = none) :
    ∃ e, append recover file t = (.error e, file) := by
  rw [append, readUnlocked_represents hv hr]
  rcases checkAppend_of_rejects hv ha with ⟨e, hcheck⟩ | ⟨hcheck, e, hd⟩
  · exact ⟨e, by simp only [select, hcheck]⟩
  · exact ⟨e, by simp only [select, hcheck, hd]⟩

/-- The JSONL store implements the abstract one. -/
theorem implements (recover : Bool) : Implements (store recover) Represents where
  append_ok hv hr ha := append_of_accepts recover hv hr ha
  append_error hv hr ha := by
    obtain ⟨e, he⟩ := append_of_rejects recover hv hr ha
    exact ⟨e, _, he, hr⟩
  read_ok subjectId hv hr _ := ⟨_, readUnlocked_represents hv hr recover subjectId, hr⟩
  read_any subjectId hv hr := ⟨_, _, readUnlocked_represents hv hr recover subjectId, hr, by
    rintro l hl
    cases hl
    rfl⟩

theorem represents_empty : Represents none [] := rfl

end Jsonl
end StateWake.Reliability
