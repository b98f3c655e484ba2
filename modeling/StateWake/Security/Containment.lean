import StateWake.Base.FirstFailure
import StateWake.Base.JsonBytes

/-!
# The containment gate

`domain/runtime_containment.py`. Untrusted JSON is decoded only after a check of its size, and what
is decoded is walked to check the number of its values, their nesting and the size of its texts. The
walk makes its checks in one order, in which they are listed here; the gate fails as its caller
expects unless the first check that fails is of a text that cannot be encoded.
-/

namespace StateWake.Security

open StateWake.Base Text

/-! ### The gate -/

/-- The limits that JSON is checked against, `domain/runtime_containment.py:24–60`. -/
structure RuntimeContainmentLimits where
  maxInputBytes : Nat
  maxJsonDepth : Nat
  maxJsonNodes : Nat
  maxStringBytes : Nat
  inputBytes_pos : 0 < maxInputBytes
  jsonDepth_pos : 0 < maxJsonDepth
  jsonNodes_pos : 0 < maxJsonNodes
  stringBytes_pos : 0 < maxStringBytes

/-- The defaults of the limits. -/
def RuntimeContainmentLimits.defaults : RuntimeContainmentLimits where
  maxInputBytes := 64 * 1024 * 1024
  maxJsonDepth := 64
  maxJsonNodes := 10000
  maxStringBytes := 256 * 1024
  inputBytes_pos := by decide
  jsonDepth_pos := by decide
  jsonNodes_pos := by decide
  stringBytes_pos := by decide

/-- What the gate raises: its two errors, `domain/runtime_containment.py:16–21`, of which the second
is a case of the first, or any other. -/
inductive Raised where
  | violation (message : Text)
  | malformed (message : Text)
  | python (e : PyError)
  | recursionError
  deriving DecidableEq

/-- `ContainmentViolationError` and its subclass. -/
def Raised.isViolation : Raised → Bool
  | violation _ => true
  | malformed _ => true
  | _ => false

/-- What stops a scan before the end of a text or an error in it: an integer of too many digits, or
nesting too deep for the stack. -/
inductive Interruption where
  | digits
  | nesting

/-- The error of an interruption. -/
def Interruption.raised : Interruption → Raised
  | digits => .python ⟨.valueError, lit "Exceeds the limit for integer string conversion"⟩
  | nesting => .recursionError

/-- What the interpreter itself sets bounds to: which texts it stops the scan of, and how many calls
of the walk its stack has room for. -/
structure Interpreter where
  interrupts : Text → Option Interruption
  frames : Nat

/-- `json.loads` of bytes. -/
def Interpreter.loads (py : Interpreter) (raw : Bytes) : Except Raised Json :=
  match Json.decodeBytes raw with
  | none => .error (.python ⟨.unicodeDecodeError, []⟩)
  | some text =>
    match py.interrupts text with
    | some interruption => .error interruption.raised
    | none =>
      match Json.parse text with
      | some v => .ok v
      | none => .error (.python ⟨.jsonDecodeError, []⟩)

/-- `payload: bytes | str`. -/
inductive Payload where
  | bytes (b : Bytes)
  | text (s : Text)

/-- The bytes of a payload, `domain/runtime_containment.py:146`. -/
def Payload.raw : Payload → Except Raised Bytes
  | bytes b => .ok b
  | text s =>
    match Utf8.encode s with
    | some b => .ok b
    | none => .error (.python ⟨.unicodeEncodeError, []⟩)

/-- `validate_input_size`, `domain/runtime_containment.py:80–89`. -/
def validateInputSize (size : Int) (limits : RuntimeContainmentLimits) (label : Text) :
    Except Raised Unit :=
  if size < 0 then .error (.violation (label ++ lit " size must be non-negative"))
  else if (limits.maxInputBytes : Int) < size then
    .error (.violation (label ++ lit " exceeds maximum input size of " ++
      Json.intText limits.maxInputBytes ++ lit " bytes"))
  else .ok ()

section Walk

variable (py : Interpreter) (limits : RuntimeContainmentLimits)

/-- What a call of the walk checks first, `domain/runtime_containment.py:101–109`: the values
counted and the nesting. -/
def enter (depth counts : Nat) : Except Raised Nat :=
  if py.frames ≤ depth then .error .recursionError
  else if limits.maxJsonNodes < counts + 1 then
    .error (.violation (lit "JSON node count exceeds maximum of " ++
      Json.intText limits.maxJsonNodes))
  else if limits.maxJsonDepth < depth then
    .error (.violation (lit "JSON nesting depth exceeds maximum of " ++
      Json.intText limits.maxJsonDepth))
  else .ok (counts + 1)

/-- The check of a string or a key, `domain/runtime_containment.py:111–115` and `119–123`. -/
def checkText (what path s : Text) : Except Raised Unit :=
  match Utf8.encode s with
  | none => .error (.python ⟨.unicodeEncodeError, []⟩)
  | some b =>
    if limits.maxStringBytes < b.length then
      .error (.violation (lit "JSON " ++ what ++ lit " at " ++ path ++
        lit " exceeds maximum size of " ++ Json.intText limits.maxStringBytes ++ lit " bytes"))
    else .ok ()

mutual
/-- `_walk_json`, `domain/runtime_containment.py:92–139`. -/
def walkJson (depth counts : Nat) (path : Text) : Json → Except Raised Nat
  | .str s => do
    let counts ← enter py limits depth counts
    checkText limits (lit "string") path s
    pure counts
  | .obj members => do
    let counts ← enter py limits depth counts
    walkMembers (depth + 1) counts path members
  | .arr items => do
    let counts ← enter py limits depth counts
    walkItems (depth + 1) counts path 0 items
  | _ => enter py limits depth counts

/-- The loop over the members of an object. -/
def walkMembers (depth counts : Nat) (path : Text) : List (Text × Json) → Except Raised Nat
  | [] => .ok counts
  | (key, child) :: members => do
    checkText limits (lit "key") path key
    let counts ← walkJson depth counts (path ++ lit "." ++ key) child
    walkMembers depth counts path members

/-- The loop over the elements of an array. -/
def walkItems (depth counts : Nat) (path : Text) (index : Nat) :
    List Json → Except Raised Nat
  | [] => .ok counts
  | child :: items => do
    let counts ← walkJson depth counts (path ++ lit "[" ++ Json.intText index ++ lit "]") child
    walkItems depth counts path (index + 1) items
end

end Walk

/-- The `except` clause, `domain/runtime_containment.py:150–151`. -/
def asMalformed (label : Text) : Except Raised Json → Except Raised Json
  | .error (.python ⟨.jsonDecodeError, _⟩) =>
    .error (.malformed (label ++ lit " is not valid JSON"))
  | loaded => loaded

/-- `load_bounded_json`, `domain/runtime_containment.py:142–153`. -/
def loadBoundedJson (py : Interpreter) (limits : RuntimeContainmentLimits) (label : Text)
    (payload : Payload) : Except Raised Json := do
  let raw ← payload.raw
  validateInputSize raw.length limits label
  let value ← asMalformed label (py.loads raw)
  let _ ← walkJson py limits 0 0 label value
  pure value

/-! ### The checks of the walk -/

/-- A check of the walk: of a value at a depth, or of a string or a key. -/
inductive Check where
  | node (depth : Nat)
  | text (what path s : Text)

mutual
/-- The checks of a value, in the order the walk makes them. -/
def checks (depth : Nat) (path : Text) : Json → List Check
  | .str s => [.node depth, .text (lit "string") path s]
  | .obj members => .node depth :: checksMembers (depth + 1) path members
  | .arr items => .node depth :: checksItems (depth + 1) path 0 items
  | _ => [.node depth]

def checksMembers (depth : Nat) (path : Text) : List (Text × Json) → List Check
  | [] => []
  | (key, child) :: members => .text (lit "key") path key ::
      (checks depth (path ++ lit "." ++ key) child ++ checksMembers depth path members)

def checksItems (depth : Nat) (path : Text) (index : Nat) : List Json → List Check
  | [] => []
  | child :: items => checks depth (path ++ lit "[" ++ Json.intText index ++ lit "]") child ++
      checksItems depth path (index + 1) items
end

section Checks

variable (py : Interpreter) (limits : RuntimeContainmentLimits)

/-- One check, after so many values. -/
def check (counts : Nat) : Check → Except Raised Nat
  | .node depth => enter py limits depth counts
  | .text what path s => do
    checkText limits what path s
    pure counts

theorem walkItems_eq_foldlM {items : List Json}
    (ih : ∀ v ∈ items, ∀ depth counts path, walkJson py limits depth counts path v =
      (checks depth path v).foldlM (check py limits) counts) (depth counts : Nat) (path : Text)
    (index : Nat) : walkItems py limits depth counts path index items =
      (checksItems depth path index items).foldlM (check py limits) counts := by
  induction items generalizing counts index with
  | nil => rfl
  | cons child items step =>
    have hrest := fun counts ↦ step (fun v hv ↦ ih v (List.mem_cons_of_mem _ hv)) counts (index + 1)
    rw [walkItems, checksItems, List.foldlM_append, ih child List.mem_cons_self]
    simp only [hrest]

theorem walkMembers_eq_foldlM {members : List (Text × Json)}
    (ih : ∀ m ∈ members, ∀ depth counts path, walkJson py limits depth counts path m.2 =
      (checks depth path m.2).foldlM (check py limits) counts) (depth counts : Nat) (path : Text) :
    walkMembers py limits depth counts path members =
      (checksMembers depth path members).foldlM (check py limits) counts := by
  induction members generalizing counts with
  | nil => rfl
  | cons m members step =>
    obtain ⟨key, child⟩ := m
    have hrest := fun counts ↦ step (fun m hm ↦ ih m (List.mem_cons_of_mem _ hm)) counts
    have hchild := ih (key, child) List.mem_cons_self
    rw [walkMembers, checksMembers, List.foldlM_cons, check]
    simp only [List.foldlM_append, hchild, hrest, bind_assoc, pure_bind]

/-- The walk makes its checks until one fails. -/
theorem walkJson_eq_foldlM (v : Json) : ∀ depth counts path,
    walkJson py limits depth counts path v =
      (checks depth path v).foldlM (check py limits) counts := by
  have hsingle (depth counts : Nat) : enter py limits depth counts =
      [Check.node depth].foldlM (check py limits) counts := by
    rw [List.foldlM_cons, check]
    cases enter py limits depth counts <;> rfl
  induction v with
  | null => exact fun depth counts _ ↦ hsingle depth counts
  | bool b => exact fun depth counts _ ↦ hsingle depth counts
  | int n => exact fun depth counts _ ↦ hsingle depth counts
  | float l => exact fun depth counts _ ↦ hsingle depth counts
  | str s =>
    intro depth counts path
    rw [walkJson, checks, List.foldlM_cons]
    simp only [List.foldlM_cons, List.foldlM_nil, check, bind_assoc, pure_bind]
  | arr items ih =>
    intro depth counts path
    rw [walkJson, checks, List.foldlM_cons, check]
    simp only [walkItems_eq_foldlM py limits ih]
  | obj members ih =>
    intro depth counts path
    rw [walkJson, checks, List.foldlM_cons, check]
    simp only [walkMembers_eq_foldlM py limits ih]

/-- The depth of the value a check is of. -/
def Check.depth? : Check → Option Nat
  | node depth => some depth
  | text .. => none

/-- The text a check is of. -/
def Check.text? : Check → Option Text
  | node _ => none
  | text _ _ s => some s

mutual
/-- The depths of a value and of every value in it. -/
def depths (depth : Nat) : Json → List Nat
  | .obj members => depth :: depthsMembers (depth + 1) members
  | .arr items => depth :: depthsItems (depth + 1) items
  | _ => [depth]

def depthsMembers (depth : Nat) : List (Text × Json) → List Nat
  | [] => []
  | (_, child) :: members => depths depth child ++ depthsMembers depth members

def depthsItems (depth : Nat) : List Json → List Nat
  | [] => []
  | child :: items => depths depth child ++ depthsItems depth items
end

theorem filterMap_depth?_checksItems {items : List Json}
    (ih : ∀ v ∈ items, ∀ depth path, (checks depth path v).filterMap Check.depth? = depths depth v)
    (depth : Nat) (path : Text) (index : Nat) :
    (checksItems depth path index items).filterMap Check.depth? = depthsItems depth items := by
  induction items generalizing index with
  | nil => rfl
  | cons child items step =>
    rw [checksItems, depthsItems, List.filterMap_append, ih child List.mem_cons_self]
    rw [step (fun v hv ↦ ih v (List.mem_cons_of_mem _ hv))]

theorem filterMap_depth?_checksMembers {members : List (Text × Json)}
    (ih : ∀ m ∈ members, ∀ depth path,
      (checks depth path m.2).filterMap Check.depth? = depths depth m.2)
    (depth : Nat) (path : Text) :
    (checksMembers depth path members).filterMap Check.depth? = depthsMembers depth members := by
  induction members with
  | nil => rfl
  | cons m members step =>
    obtain ⟨key, child⟩ := m
    rw [checksMembers, depthsMembers, List.filterMap_cons_none rfl, List.filterMap_append,
      ih (key, child) List.mem_cons_self]
    rw [step (fun m hm ↦ ih m (List.mem_cons_of_mem _ hm))]

/-- Every value of a value is checked once. -/
theorem filterMap_depth?_checks (v : Json) : ∀ depth path,
    (checks depth path v).filterMap Check.depth? = depths depth v := by
  induction v with
  | null => exact fun _ _ ↦ rfl
  | bool b => exact fun _ _ ↦ rfl
  | int n => exact fun _ _ ↦ rfl
  | float l => exact fun _ _ ↦ rfl
  | str s => exact fun _ _ ↦ rfl
  | arr items ih =>
    intro depth path
    rw [checks, depths]
    exact congrArg (depth :: ·) (filterMap_depth?_checksItems ih _ _ _)
  | obj members ih =>
    intro depth path
    rw [checks, depths]
    exact congrArg (depth :: ·) (filterMap_depth?_checksMembers ih _ _)

theorem filterMap_text?_checksItems {items : List Json}
    (ih : ∀ v ∈ items, ∀ depth path, (checks depth path v).filterMap Check.text? = Json.texts v)
    (depth : Nat) (path : Text) (index : Nat) :
    (checksItems depth path index items).filterMap Check.text? = Json.textsItems items := by
  induction items generalizing index with
  | nil => rfl
  | cons child items step =>
    rw [checksItems, Json.textsItems, List.filterMap_append, ih child List.mem_cons_self]
    rw [step (fun v hv ↦ ih v (List.mem_cons_of_mem _ hv))]

theorem filterMap_text?_checksMembers {members : List (Text × Json)}
    (ih : ∀ m ∈ members, ∀ depth path,
      (checks depth path m.2).filterMap Check.text? = Json.texts m.2)
    (depth : Nat) (path : Text) :
    (checksMembers depth path members).filterMap Check.text? = Json.textsMembers members := by
  induction members with
  | nil => rfl
  | cons m members step =>
    obtain ⟨key, child⟩ := m
    have hrest := step (fun m hm ↦ ih m (List.mem_cons_of_mem _ hm))
    have hchild := ih (key, child) List.mem_cons_self
    rw [checksMembers, Json.textsMembers]
    change key :: _ = key :: (_ ++ _)
    rw [List.filterMap_append, hchild, hrest]

/-- Every text of a value is checked once. -/
theorem filterMap_text?_checks (v : Json) : ∀ depth path,
    (checks depth path v).filterMap Check.text? = Json.texts v := by
  induction v with
  | null => exact fun _ _ ↦ rfl
  | bool b => exact fun _ _ ↦ rfl
  | int n => exact fun _ _ ↦ rfl
  | float l => exact fun _ _ ↦ rfl
  | str s => exact fun _ _ ↦ rfl
  | arr items ih =>
    intro depth path
    rw [checks, Json.texts, List.filterMap_cons_none rfl, filterMap_text?_checksItems ih]
  | obj members ih =>
    intro depth path
    rw [checks, Json.texts, List.filterMap_cons_none rfl, filterMap_text?_checksMembers ih]

/-- A value is within the limits: the number of values in it with itself, their depths from its own
at 0, and the size of its strings and keys. -/
structure Within (limits : RuntimeContainmentLimits) (v : Json) : Prop where
  nodes : (depths 0 v).length ≤ limits.maxJsonNodes
  depth : ∀ depth ∈ depths 0 v, depth ≤ limits.maxJsonDepth
  strings : ∀ s ∈ Json.texts v, ∃ b, Utf8.encode s = some b ∧ b.length ≤ limits.maxStringBytes

/-- Checks that pass: of so many values, at such depths and of such texts. -/
structure Passed (cs : List Check) : Prop where
  nodes : (cs.filterMap Check.depth?).length ≤ limits.maxJsonNodes
  depth : ∀ depth ∈ cs.filterMap Check.depth?, depth < py.frames ∧ depth ≤ limits.maxJsonDepth
  strings : ∀ s ∈ cs.filterMap Check.text?,
    ∃ b, Utf8.encode s = some b ∧ b.length ≤ limits.maxStringBytes

/-- A check that fails as the caller of the gate does not expect: of a text that cannot be encoded,
or of a value deeper than the stack. -/
def Check.Escapes : Check → Prop
  | node depth => py.frames ≤ depth
  | text _ _ s => Utf8.encode s = none

theorem check_of_escapes {c : Check} (h : c.Escapes py) (counts : Nat) :
    ∃ raised, check py limits counts c = .error raised ∧ raised.isViolation = false := by
  cases c with
  | node depth => exact ⟨_, if_pos h, rfl⟩
  | text what path s =>
    refine ⟨.python ⟨.unicodeEncodeError, []⟩, ?_, rfl⟩
    rw [check, checkText, h]
    rfl

theorem escapes_of_check {c : Check} {counts : Nat} {raised : Raised}
    (h : check py limits counts c = .error raised) (hraised : raised.isViolation = false) :
    c.Escapes py := by
  cases c with
  | node depth =>
    rw [check, enter] at h
    split at h
    · assumption
    · split at h
      · cases h
        cases hraised
      · split at h
        · cases h
          cases hraised
        · cases h
  | text what path s =>
    rw [check, checkText] at h
    cases hencode : Utf8.encode s with
    | none => exact hencode
    | some b =>
      rw [hencode] at h
      dsimp only at h
      split at h
      · cases h
        cases hraised
      · cases h

theorem enter_eq_ok_iff {depth counts n : Nat} : enter py limits depth counts = .ok n ↔
    depth < py.frames ∧ counts + 1 ≤ limits.maxJsonNodes ∧ depth ≤ limits.maxJsonDepth ∧
      n = counts + 1 := by
  rw [enter]
  split
  · refine ⟨fun h ↦ (by cases h), fun h ↦ ?_⟩
    omega
  · split
    · refine ⟨fun h ↦ (by cases h), fun h ↦ ?_⟩
      omega
    · split
      · refine ⟨fun h ↦ (by cases h), fun h ↦ ?_⟩
        omega
      · constructor
        · intro h
          have hn := Except.ok.inj h
          omega
        · intro h
          rw [h.2.2.2]

theorem checkText_eq_ok_iff {what path s : Text} : checkText limits what path s = .ok () ↔
    ∃ b, Utf8.encode s = some b ∧ b.length ≤ limits.maxStringBytes := by
  rw [checkText]
  cases Utf8.encode s with
  | none => exact ⟨fun h ↦ (by cases h), fun ⟨b, h, _⟩ ↦ (by cases h)⟩
  | some b =>
    dsimp only
    split
    · refine ⟨fun h ↦ (by cases h), fun ⟨b', h, hlength⟩ ↦ ?_⟩
      cases h
      omega
    · exact ⟨fun _ ↦ ⟨b, rfl, by omega⟩, fun _ ↦ rfl⟩

theorem passed_node {cs : List Check} {depth : Nat} : Passed py limits (cs ++ [.node depth]) ↔
    Passed py limits cs ∧ (cs.filterMap Check.depth?).length + 1 ≤ limits.maxJsonNodes ∧
      depth < py.frames ∧ depth ≤ limits.maxJsonDepth := by
  have hdepths : (cs ++ [Check.node depth]).filterMap Check.depth? =
      cs.filterMap Check.depth? ++ [depth] := List.filterMap_append
  have htexts : (cs ++ [Check.node depth]).filterMap Check.text? = cs.filterMap Check.text? := by
    rw [List.filterMap_append]
    exact List.append_nil _
  constructor
  · intro h
    have hnodes := h.nodes
    have hdepth := h.depth
    have hstrings := h.strings
    rw [hdepths, List.length_append] at hnodes
    rw [hdepths] at hdepth
    rw [htexts] at hstrings
    change _ + 1 ≤ _ at hnodes
    exact ⟨⟨by omega, fun d hd ↦ hdepth d (List.mem_append_left _ hd), hstrings⟩, hnodes,
      hdepth depth (List.mem_append_right _ (List.mem_singleton_self _))⟩
  · intro ⟨h, hnodes, hdepth⟩
    constructor
    · rw [hdepths, List.length_append]
      exact hnodes
    · rw [hdepths]
      intro d hd
      apply (List.mem_append.mp hd).elim (h.depth d)
      intro hd
      rw [List.mem_singleton.mp hd]
      exact hdepth
    · rw [htexts]
      exact h.strings

theorem passed_text {cs : List Check} {what path s : Text} :
    Passed py limits (cs ++ [.text what path s]) ↔
      Passed py limits cs ∧ ∃ b, Utf8.encode s = some b ∧ b.length ≤ limits.maxStringBytes := by
  have hdepths : (cs ++ [Check.text what path s]).filterMap Check.depth? =
      cs.filterMap Check.depth? := by
    rw [List.filterMap_append]
    exact List.append_nil _
  have htexts : (cs ++ [Check.text what path s]).filterMap Check.text? =
      cs.filterMap Check.text? ++ [s] := List.filterMap_append
  constructor
  · intro h
    have hnodes := h.nodes
    have hdepth := h.depth
    have hstrings := h.strings
    rw [hdepths] at hnodes hdepth
    rw [htexts] at hstrings
    exact ⟨⟨hnodes, hdepth, fun t ht ↦ hstrings t (List.mem_append_left _ ht)⟩,
      hstrings s (List.mem_append_right _ (List.mem_singleton_self _))⟩
  · intro ⟨h, hs⟩
    constructor
    · rw [hdepths]
      exact h.nodes
    · rw [hdepths]
      exact h.depth
    · rw [htexts]
      intro t ht
      apply (List.mem_append.mp ht).elim (h.strings t)
      intro ht
      rw [List.mem_singleton.mp ht]
      exact hs

/-- One more check passes where it is of a value or a text within the limits. -/
theorem check_eq_ok_iff {cs : List Check} (hcs : Passed py limits cs) (c : Check) (n : Nat) :
    check py limits (cs.filterMap Check.depth?).length c = .ok n ↔
      Passed py limits (cs ++ [c]) ∧ n = ((cs ++ [c]).filterMap Check.depth?).length := by
  cases c with
  | node depth =>
    rw [check, enter_eq_ok_iff, passed_node, List.filterMap_append, List.length_append]
    change _ ↔ _ ∧ n = (cs.filterMap Check.depth?).length + 1
    constructor
    · intro ⟨hframes, hnodes, hdepth, hn⟩
      exact ⟨⟨hcs, hnodes, hframes, hdepth⟩, hn⟩
    · intro ⟨⟨_, hnodes, hframes, hdepth⟩, hn⟩
      exact ⟨hframes, hnodes, hdepth, hn⟩
  | text what path s =>
    rw [check, passed_text, List.filterMap_append, List.length_append]
    change _ ↔ _ ∧ n = (cs.filterMap Check.depth?).length + 0
    rw [← checkText_eq_ok_iff limits]
    cases checkText limits what path s with
    | error e => exact ⟨fun h ↦ (by cases h), fun ⟨⟨_, h⟩, _⟩ ↦ (by cases h)⟩
    | ok u => exact ⟨fun h ↦ ⟨⟨hcs, rfl⟩, (Except.ok.inj h).symm⟩, fun h ↦ congrArg _ h.2.symm⟩

/-- The walk passes where all its checks do. -/
theorem foldlM_check_eq_ok_iff {cs : List Check} {n : Nat} :
    cs.foldlM (check py limits) 0 = .ok n ↔
      Passed py limits cs ∧ n = (cs.filterMap Check.depth?).length := by
  have hnil : Passed py limits [] :=
    ⟨Nat.zero_le _, fun _ h ↦ absurd h List.not_mem_nil, fun _ h ↦ absurd h List.not_mem_nil⟩
  apply FirstFailure.foldlM_eq_ok_iff hnil (fun cs c n hcs ↦ check_eq_ok_iff py limits hcs c n)
  intro cs c h
  cases c with
  | node depth => exact ((passed_node py limits).mp h).1
  | text what path s => exact ((passed_text py limits).mp h).1

end Checks

/-! ### What the gate returns and raises -/

section Gate

variable (py : Interpreter) (limits : RuntimeContainmentLimits) (label : Text) (payload : Payload)

/-- The bytes of a payload decode to a value, and they and it are within the limits. -/
def Admitted (v : Json) : Prop :=
  ∃ raw text, payload.raw = .ok raw ∧ raw.length ≤ limits.maxInputBytes ∧
    Json.decodeBytes raw = some text ∧ Json.parse text = some v ∧ Within limits v

/-- A payload is of text that can be encoded, and is too large or decodes without an interruption,
where no check that escapes follows checks that pass. -/
def Contained : Prop :=
  ∃ raw, payload.raw = .ok raw ∧ (limits.maxInputBytes < raw.length ∨
    ∃ text, Json.decodeBytes raw = some text ∧ py.interrupts text = none ∧
      ∀ v, Json.parse text = some v → ∀ pre c post, checks 0 label v = pre ++ c :: post →
        Passed py limits pre → ¬c.Escapes py)

variable {py limits label payload} {raw : Bytes} {text : Text}

theorem validateInputSize_of_lt (h : limits.maxInputBytes < raw.length) :
    ∃ message, validateInputSize raw.length limits label = .error (.violation message) := by
  rw [validateInputSize, if_neg (by omega), if_pos (by omega)]
  exact ⟨_, rfl⟩

theorem validateInputSize_of_le (h : raw.length ≤ limits.maxInputBytes) :
    validateInputSize raw.length limits label = .ok () := by
  rw [validateInputSize, if_neg (by omega), if_neg (by omega)]

theorem loadBoundedJson_of_lt (hraw : payload.raw = .ok raw)
    (h : limits.maxInputBytes < raw.length) :
    ∃ message, loadBoundedJson py limits label payload = .error (.violation message) := by
  obtain ⟨message, hsize⟩ := @validateInputSize_of_lt limits label raw h
  refine ⟨message, ?_⟩
  rw [loadBoundedJson, hraw]
  change (validateInputSize raw.length limits label >>= _) = _
  rw [hsize]
  rfl

/-- The gate on bytes that are not too large. -/
theorem loadBoundedJson_of_le (hraw : payload.raw = .ok raw)
    (h : raw.length ≤ limits.maxInputBytes) :
    loadBoundedJson py limits label payload =
      asMalformed label (py.loads raw) >>= fun v ↦
        (checks 0 label v).foldlM (check py limits) 0 >>= fun _ ↦ pure v := by
  rw [loadBoundedJson, hraw]
  change (validateInputSize raw.length limits label >>= _) = _
  rw [validateInputSize_of_le h]
  simp only [← walkJson_eq_foldlM]
  rfl

/-- The gate on a text that is no JSON. -/
theorem loadBoundedJson_of_parse_eq_none (hraw : payload.raw = .ok raw)
    (h : raw.length ≤ limits.maxInputBytes) (htext : Json.decodeBytes raw = some text)
    (hrun : py.interrupts text = none) (hparse : Json.parse text = none) :
    loadBoundedJson py limits label payload =
      .error (.malformed (label ++ lit " is not valid JSON")) := by
  rw [loadBoundedJson_of_le hraw h, Interpreter.loads, htext]
  dsimp only
  rw [hrun]
  dsimp only
  rw [hparse]
  rfl

/-- The gate on a text that is JSON. -/
theorem loadBoundedJson_of_parse_eq_some (hraw : payload.raw = .ok raw)
    (h : raw.length ≤ limits.maxInputBytes) (htext : Json.decodeBytes raw = some text)
    (hrun : py.interrupts text = none) {v : Json} (hparse : Json.parse text = some v) :
    loadBoundedJson py limits label payload =
      (checks 0 label v).foldlM (check py limits) 0 >>= fun _ ↦ pure v := by
  rw [loadBoundedJson_of_le hraw h, Interpreter.loads, htext]
  dsimp only
  rw [hrun]
  dsimp only
  rw [hparse]
  rfl

/-- Where the gate fails with nothing but a violation, the payload decodes without an interruption
if it is not too large. -/
theorem decodes_of_isViolation (hraw : payload.raw = .ok raw)
    (h : raw.length ≤ limits.maxInputBytes)
    (hraised : ∀ raised, loadBoundedJson py limits label payload = .error raised →
      raised.isViolation = true) :
    ∃ text, Json.decodeBytes raw = some text ∧ py.interrupts text = none := by
  rw [loadBoundedJson_of_le hraw h, Interpreter.loads] at hraised
  cases htext : Json.decodeBytes raw with
  | none =>
    rw [htext] at hraised
    cases hraised _ rfl
  | some text =>
    refine ⟨text, rfl, ?_⟩
    cases hrun : py.interrupts text with
    | none => rfl
    | some interruption =>
      rw [htext] at hraised
      dsimp only at hraised
      rw [hrun] at hraised
      cases interruption with
      | digits => cases hraised _ rfl
      | nesting => cases hraised _ rfl

/-- What a run of the checks fails with is a violation where no check that escapes follows checks
that pass. -/
theorem foldlM_isViolation_iff {cs : List Check} :
    (∀ raised, cs.foldlM (check py limits) 0 = .error raised → raised.isViolation = true) ↔
      ∀ pre c post, cs = pre ++ c :: post → Passed py limits pre → ¬c.Escapes py := by
  constructor
  · intro h pre c post hcs hpre hescapes
    have hpassed := (foldlM_check_eq_ok_iff py limits).mpr ⟨hpre, rfl⟩
    obtain ⟨raised, hraised, hno⟩ := check_of_escapes py limits hescapes
      (pre.filterMap Check.depth?).length
    have hyes := h raised (by rw [hcs, FirstFailure.foldlM_of_failure hpassed hraised])
    rw [hno] at hyes
    cases hyes
  · intro h raised hraised
    obtain ⟨pre, c, post, counts, hcs, hpre, hc⟩ := FirstFailure.exists_of_foldlM_eq_error hraised
    have hpassed := ((foldlM_check_eq_ok_iff py limits).mp hpre).1
    by_contra hno
    exact h pre c post hcs hpassed (escapes_of_check py limits hc (Bool.eq_false_iff.mpr hno))

/-- Checks within the limits pass where none escapes after checks that pass. -/
theorem passed_of_within {v : Json} (hv : Within limits v)
    (h : ∀ pre c post, checks 0 label v = pre ++ c :: post → Passed py limits pre →
      ¬c.Escapes py) : Passed py limits (checks 0 label v) := by
  have hdepths := filterMap_depth?_checks v 0 label
  have htexts := filterMap_text?_checks v 0 label
  have hprefix (pre : List Check) :
      ∀ post, checks 0 label v = pre ++ post → Passed py limits pre := by
    induction pre using List.reverseRecOn with
    | nil =>
      exact fun _ _ ↦ ⟨Nat.zero_le _, fun _ h ↦ absurd h List.not_mem_nil,
        fun _ h ↦ absurd h List.not_mem_nil⟩
    | append_singleton pre c ih =>
      intro post hcs
      rw [List.append_assoc] at hcs
      have hpassed := ih _ hcs
      have hc := h pre c post hcs hpassed
      rw [hcs, List.filterMap_append] at hdepths htexts
      cases c with
      | node depth =>
        have hmem : depth ∈ depths 0 v := by
          rw [← hdepths]
          exact List.mem_append_right _ List.mem_cons_self
        have hlength := congrArg List.length hdepths
        rw [List.length_append] at hlength
        change _ + ((post.filterMap Check.depth?).length + 1) = _ at hlength
        have hnodes := hv.nodes
        exact (passed_node py limits).mpr
          ⟨hpassed, by omega, Nat.lt_of_not_le hc, hv.depth depth hmem⟩
      | text what path s =>
        have hmem : s ∈ Json.texts v := by
          rw [← htexts]
          exact List.mem_append_right _ List.mem_cons_self
        exact (passed_text py limits).mpr ⟨hpassed, hv.strings s hmem⟩
  exact hprefix _ [] (List.append_nil _).symm

theorem within_of_passed {v : Json} (h : Passed py limits (checks 0 label v)) :
    Within limits v := by
  have hnodes := h.nodes
  have hdepth := h.depth
  have hstrings := h.strings
  rw [filterMap_depth?_checks] at hnodes hdepth
  rw [filterMap_text?_checks] at hstrings
  exact ⟨hnodes, fun depth hd ↦ (hdepth depth hd).2, hstrings⟩

/-- A payload that is contained and not too large is no JSON, or JSON whose checks are run. -/
theorem Contained.cases (h : Contained py limits label payload) :
    (∃ raised, loadBoundedJson py limits label payload = .error raised ∧
      raised.isViolation = true ∧ ∀ v, ¬Admitted limits payload v) ∨
    ∃ v, loadBoundedJson py limits label payload =
        ((checks 0 label v).foldlM (check py limits) 0 >>= fun _ ↦ pure v) ∧
      (∀ pre c post, checks 0 label v = pre ++ c :: post → Passed py limits pre →
        ¬c.Escapes py) ∧
      ∀ v', Admitted limits payload v' ↔ v' = v ∧ Within limits v := by
  obtain ⟨raw, hraw, h⟩ := h
  by_cases hsize : limits.maxInputBytes < raw.length
  · obtain ⟨message, hload⟩ := @loadBoundedJson_of_lt py limits label payload raw hraw hsize
    refine .inl ⟨_, hload, rfl, fun v ⟨raw', _, hraw', hle, _⟩ ↦ ?_⟩
    cases hraw.symm.trans hraw'
    omega
  · obtain ⟨text, htext, hrun, h⟩ := h.resolve_left hsize
    have hle := Nat.le_of_not_lt hsize
    cases hparse : Json.parse text with
    | none =>
      have hload := @loadBoundedJson_of_parse_eq_none py limits label payload raw text hraw hle htext
        hrun hparse
      refine .inl ⟨_, hload, rfl, fun v ⟨raw', text', hraw', _, htext', hparse', _⟩ ↦ ?_⟩
      cases hraw.symm.trans hraw'
      cases htext.symm.trans htext'
      cases hparse.symm.trans hparse'
    | some v =>
      have hload := @loadBoundedJson_of_parse_eq_some py limits label payload raw text hraw hle htext
        hrun v hparse
      refine .inr ⟨v, hload, h v hparse, fun v' ↦ ⟨fun hadmitted ↦ ?_, fun hv ↦ ?_⟩⟩
      · obtain ⟨raw', text', hraw', _, htext', hparse', hwithin⟩ := hadmitted
        cases hraw.symm.trans hraw'
        cases htext.symm.trans htext'
        cases hparse.symm.trans hparse'
        exact ⟨rfl, hwithin⟩
      · rw [hv.1]
        exact ⟨raw, text, hraw, hle, htext, hparse, hv.2⟩

theorem contained_of_isViolation (h : ∀ raised,
    loadBoundedJson py limits label payload = .error raised → raised.isViolation = true) :
    Contained py limits label payload := by
  cases hraw : payload.raw with
  | error raised =>
    cases payload with
    | bytes b => cases hraw
    | text s =>
      rw [loadBoundedJson, Payload.raw] at h
      rw [Payload.raw] at hraw
      cases hencode : Utf8.encode s with
      | some b =>
        rw [hencode] at hraw
        cases hraw
      | none =>
        rw [hencode] at h
        cases h _ rfl
  | ok raw =>
    refine ⟨raw, hraw, ?_⟩
    by_cases hsize : limits.maxInputBytes < raw.length
    · exact .inl hsize
    · have hle := Nat.le_of_not_lt hsize
      obtain ⟨text, htext, hrun⟩ := decodes_of_isViolation hraw hle h
      refine .inr ⟨text, htext, hrun, fun v hparse ↦ foldlM_isViolation_iff.mp ?_⟩
      intro raised hraised
      apply h
      rw [loadBoundedJson_of_parse_eq_some hraw hle htext hrun hparse, hraised]
      rfl

end Gate

/-- The gate returns or raises a violation, and returns exactly the value of a payload that is
admitted, if and only if the payload is contained. -/
theorem loadBoundedJson_exact (py : Interpreter) (limits : RuntimeContainmentLimits) (label : Text)
    (payload : Payload) :
    (((∃ v, loadBoundedJson py limits label payload = .ok v) ∨
        ∃ raised, loadBoundedJson py limits label payload = .error raised ∧
          raised.isViolation = true) ∧
      ∀ v, loadBoundedJson py limits label payload = .ok v ↔ Admitted limits payload v) ↔
      Contained py limits label payload := by
  constructor
  · intro ⟨h, _⟩
    apply contained_of_isViolation
    intro raised hraised
    apply h.elim
    · intro ⟨v, hv⟩
      cases hv.symm.trans hraised
    · intro ⟨raised', hraised', hviolation⟩
      cases hraised'.symm.trans hraised
      exact hviolation
  · intro h
    apply h.cases.elim
    · intro ⟨raised, hload, hviolation, hno⟩
      refine ⟨.inr ⟨raised, hload, hviolation⟩, fun v ↦ ⟨fun hv ↦ ?_, fun hv ↦ absurd hv (hno v)⟩⟩
      cases hload.symm.trans hv
    · intro ⟨v, hload, hescapes, hadmitted⟩
      rw [hload]
      cases hfold : (checks 0 label v).foldlM (check py limits) 0 with
      | ok counts =>
        have hpassed := ((foldlM_check_eq_ok_iff py limits).mp hfold).1
        refine ⟨.inl ⟨v, rfl⟩, fun v' ↦ ?_⟩
        rw [hadmitted]
        constructor
        · intro hv
          exact ⟨(Except.ok.inj hv).symm, within_of_passed hpassed⟩
        · intro hv
          rw [hv.1]
          rfl
      | error raised =>
        refine ⟨.inr ⟨raised, rfl, foldlM_isViolation_iff.mpr hescapes raised hfold⟩, fun v' ↦ ?_⟩
        rw [hadmitted]
        constructor
        · intro hv
          cases hv
        · intro hv
          have hpassed := passed_of_within hv.2 hescapes
          rw [(foldlM_check_eq_ok_iff py limits).mpr ⟨hpassed, rfl⟩] at hfold
          cases hfold

/-- The eight bytes of a string that escapes a lone surrogate: `"\ud800"`. -/
def loneSurrogate : Bytes := [0x22, 0x5C, 0x75, 0x64, 0x38, 0x30, 0x30, 0x22]

/-- A lone surrogate in a string escapes the gate. -/
theorem loadBoundedJson_loneSurrogate :
    loadBoundedJson ⟨fun _ ↦ none, 1000⟩ .defaults (lit "JSON") (.bytes loneSurrogate) =
        .error (.python ⟨.unicodeEncodeError, []⟩) ∧
      ¬((∃ v, loadBoundedJson ⟨fun _ ↦ none, 1000⟩ .defaults (lit "JSON")
          (.bytes loneSurrogate) = .ok v) ∨
        ∃ raised, loadBoundedJson ⟨fun _ ↦ none, 1000⟩ .defaults (lit "JSON")
          (.bytes loneSurrogate) = .error raised ∧ raised.isViolation = true) := by
  have hload : loadBoundedJson ⟨fun _ ↦ none, 1000⟩ .defaults (lit "JSON")
      (.bytes loneSurrogate) = .error (.python ⟨.unicodeEncodeError, []⟩) := by
    have htext : Json.decodeBytes loneSurrogate = some (lit "\"\\ud800\"") := by decide +kernel
    have hparse : Json.parse (lit "\"\\ud800\"") = some (.str [0xD800]) := by decide +kernel
    rw [loadBoundedJson_of_parse_eq_some rfl (by decide) htext rfl hparse]
    decide
  refine ⟨hload, fun h ↦ ?_⟩
  rw [hload] at h
  apply h.elim
  · intro ⟨v, hv⟩
    cases hv
  · intro ⟨raised, hraised, hviolation⟩
    cases hraised
    cases hviolation

end StateWake.Security
