import StateWake.Provenance.Graph
import StateWake.Reliability.EvidenceChain

/-!
# Behavioral comparisons

`domain/reliability_comparison.py`, the states of `domain/state.py` with their changes from
`domain/diff.py`, and the verification of `services/reliability_comparison_service.py`. What
evidence manifests and run events say is given by `BehaviorSources`.
-/

namespace StateWake.Reliability

open StateWake.Base Text Utils Operations Provenance

/-- `ReliabilityComparisonInput`, `domain/reliability_comparison.py:32–40`, with what its
constructor checked. -/
@[ext]
structure ReliabilityComparisonInput where
  role : Text
  kind : Text
  identity : Text
  digest : Text
  source : Text
  named : ∀ s ∈ [role, kind, identity, source], blank s = false
  digested : isSha256 digest = true
  relative : absolute source = false ∧ lit ".." ∉ components (slashes source)

instance : DecidableEq ReliabilityComparisonInput := fun _ _ ↦
  decidable_of_iff' _ ReliabilityComparisonInput.ext_iff

namespace ReliabilityComparisonInput

/-- The constructor, `__post_init__` at `domain/reliability_comparison.py:42–51`. -/
def create (role kind identity digest source : Text) :
    Except PyError ReliabilityComparisonInput :=
  if hn : ∀ s ∈ [role, kind, identity, source], blank s = false then
    if hd : isSha256 digest = true then
      if hr : absolute source = false ∧ lit ".." ∉ components (slashes source) then
        .ok ⟨role, kind, identity, digest, source, hn, hd, hr⟩
      else valueError (lit "source must be relative and must not contain '..'.")
    else valueError (lit "digest must be lowercase SHA-256 hex.")
  else
    -- the first blank field is named
    valueError ((([(role, lit "role"), (kind, lit "kind"), (identity, lit "identity"),
      (source, lit "source")].find? fun f ↦ blank f.1).elim [] Prod.snd) ++
        lit " must not be empty.")

/-- `to_dict`, `domain/reliability_comparison.py:53–61`. -/
def toDict (i : ReliabilityComparisonInput) : Dict Json :=
  [(lit "role", .str i.role),
    (lit "kind", .str i.kind),
    (lit "identity", .str i.identity),
    (lit "digest", .str i.digest),
    (lit "source", .str (slashes i.source))]

/-- One input of a stored comparison, `domain/reliability_comparison.py:136–149`. -/
def fromJson (item : Json) : Except PyError ReliabilityComparisonInput := do
  let members ← orRaise ⟨.valueError, lit "each comparison input must be a JSON object."⟩
    item.asObject
  let role ← requiredText members (lit "role")
  let kind ← requiredText members (lit "kind")
  let identity ← requiredText members (lit "identity")
  let digest ← requiredText members (lit "digest")
  let source ← requiredText members (lit "source")
  create role kind identity digest source

/-- The reference to an input, `services/reliability_comparison_service.py:244–252`. -/
def reference (i : ReliabilityComparisonInput) : EvidenceReference where
  kind := i.kind
  identity := i.identity
  digest := i.digest
  source := some i.source
  receiptRef := none
  named := by simp [i.named i.kind (by simp), i.named i.identity (by simp)]
  digested := i.digested
  sourced := by
    rintro s ⟨⟩
    exact i.named i.source (by simp)
  bound := fun h ↦ absurd rfl h

end ReliabilityComparisonInput

/-- `dict(value)` of a decoded value: an object, or an array of pairs with text keys. -/
def dictOf : Json → Except PyError (Dict Json)
  | .obj members => .ok members
  | .arr items => do
    let pairs ← items.mapM fun
      | .arr [.str key, value] => .ok (key, value)
      | .str [key, value] => .ok ([key], .str [value])
      | _ => .error ⟨.typeError, []⟩
    pure (Dict.ofPairs pairs)
  | .str [] => .ok []
  | _ => .error ⟨.typeError, []⟩

/-- `ReliabilityBehavioralComparison`, `domain/reliability_comparison.py:64–76`. -/
structure ReliabilityBehavioralComparison where
  comparisonId : Text
  before : List ReliabilityComparisonInput
  after : List ReliabilityComparisonInput
  diff : Dict Json
  significance : Text
  discrepancy : List Text
  deriving DecidableEq

namespace ReliabilityBehavioralComparison

/-- `payload`, `domain/reliability_comparison.py:101–110`. -/
def payload (c : ReliabilityBehavioralComparison) : Dict Json :=
  [(lit "format_version", .str (lit "1")),
    (lit "before", .arr (c.before.map fun i ↦ .obj i.toDict)),
    (lit "after", .arr (c.after.map fun i ↦ .obj i.toDict)),
    (lit "diff", .obj c.diff),
    (lit "significance", .str c.significance),
    (lit "discrepancy", .arr (c.discrepancy.map .str))]

/-- `computed_digest` and `computed_comparison_id`, `domain/reliability_comparison.py:112–118`. -/
def computedDigest (c : ReliabilityBehavioralComparison) : Except PyError Text := do
  let content ← canonicalBytes c.payload
  pure (sha256 content)

/-- `_SIGNIFICANCE`, `domain/reliability_comparison.py:14`. -/
def significances : List Text := [lit "none", lit "low", lit "medium", lit "high"]

/-- The constructor with a supplied format version and digest, `__post_init__` at
`domain/reliability_comparison.py:78–99`. -/
def create (c : ReliabilityBehavioralComparison) (formatVersion digest : Text) :
    Except PyError ReliabilityBehavioralComparison := do
  require ⟨.valueError, lit "unsupported reliability behavioral comparison format version."⟩
    (formatVersion = lit "1")
  require ⟨.valueError, lit "comparison_id must not be empty."⟩ (!blank c.comparisonId)
  require ⟨.valueError, lit "significance must be one of none, low, medium, high."⟩
    (c.significance ∈ significances)
  require ⟨.valueError, lit "comparison must have at least one before and one after input."⟩
    (!c.before.isEmpty && !c.after.isEmpty)
  let expected ← c.computedDigest
  require ⟨.valueError, lit "reliability behavioral comparison digest mismatch."⟩
    (digest.isEmpty || digest = expected)
  require ⟨.valueError, lit "reliability behavioral comparison identity mismatch."⟩
    (c.comparisonId = expected)
  pure c

/-- The inputs of one side, `domain/reliability_comparison.py:132–150`. -/
def parseInputs (items : Json) : Except PyError (List ReliabilityComparisonInput) := do
  let items ← orRaise ⟨.valueError, lit "comparison inputs must be arrays."⟩ items.asList
  items.mapM ReliabilityComparisonInput.fromJson

/-- `from_dict`, `domain/reliability_comparison.py:126–165`. -/
def fromDict (members : Dict Json) : Except PyError ReliabilityBehavioralComparison := do
  let formatVersion := ((members.get? (lit "format_version")).map Json.pyStr).getD (lit "1")
  let comparisonId ← requiredText members (lit "comparison_id")
  let before ← parseInputs ((members.get? (lit "before")).getD (.arr []))
  let after ← parseInputs ((members.get? (lit "after")).getD (.arr []))
  let diff ← Json.index members (lit "diff")
  let diff ← dictOf diff
  let significance ← requiredText members (lit "significance")
  let discrepancy ← stringSequence ((members.get? (lit "discrepancy")).getD (.arr []))
    (lit "discrepancy")
  create ⟨comparisonId, before, after, diff, significance, discrepancy⟩ formatVersion
    (optionalText members (lit "digest"))

/-- `load_reliability_behavioral_comparison`,
`services/reliability_comparison_service.py:323–330`, of a file's bytes. -/
def load (raw : Bytes) : Except PyError ReliabilityBehavioralComparison := do
  let members ← loadObject raw (lit "payload")
  fromDict members

/-- `comparison_input_references`, `services/reliability_comparison_service.py:244–252`. -/
def inputReferences (c : ReliabilityBehavioralComparison) : List EvidenceReference :=
  (c.before ++ c.after).map ReliabilityComparisonInput.reference

/-- The kinds of the inputs of a loaded comparison can be encoded. -/
theorem surrogateFree_of_load {raw : Bytes} {c : ReliabilityBehavioralComparison}
    (h : load raw = .ok c) : ∀ r ∈ c.inputReferences, SurrogateFree r.kind := by
  simp only [load, fromDict, create, bind_eq_ok] at h
  obtain ⟨_, -, _, -, _, -, _, -, _, -, _, -, _, -, _, -, _, -, _, -, _, -, _, -, _, hdigest, _, -,
    _, -, h⟩ := h
  rw [Except.ok.inj h, computedDigest, bind_eq_ok] at hdigest
  obtain ⟨content, hcontent, -⟩ := hdigest
  have htexts := Json.forall_texts_obj.mp (surrogateFree_of_canonicalBytes hcontent)
  simp only [payload, List.forall_mem_cons] at htexts
  obtain ⟨-, ⟨-, hbefore⟩, ⟨-, hafter⟩, -⟩ := htexts
  have hinput : ∀ i ∈ c.before ++ c.after, ∀ s ∈ Json.texts (.obj i.toDict), SurrogateFree s := by
    intro i hi s hs
    rcases List.mem_append.mp hi with hi | hi
    · exact hbefore s (Json.mem_texts_arr.mpr ⟨_, List.mem_map_of_mem hi, hs⟩)
    · exact hafter s (Json.mem_texts_arr.mpr ⟨_, List.mem_map_of_mem hi, hs⟩)
  intro r hr
  obtain ⟨i, hi, rfl⟩ := List.mem_map.mp hr
  refine hinput i hi i.kind ?_
  rw [Json.mem_texts_obj]
  exact ⟨_, List.mem_cons_of_mem _ List.mem_cons_self, .inr (Json.mem_texts_str.mpr rfl)⟩

end ReliabilityBehavioralComparison

/-! ### States -/

/-- `SystemState`, `domain/state.py:29–41`. -/
structure SystemState where
  stateId : Text
  capturedAt : Datetime
  agentVersion : Text
  model : Text
  promptDigest : Text
  toolDigests : Dict Text
  retrievalDigest : Option Text
  memoryDigest : Option Text
  policyDigest : Option Text
  deriving DecidableEq

namespace SystemState

/-- The constructor's checks, `__post_init__` at `domain/state.py:43–56`. A parsed time is
aware. -/
def check (s : SystemState) : Except PyError Unit := do
  require ⟨.valueError, lit "state_id must not be empty."⟩ (!blank s.stateId)
  require ⟨.valueError, lit "agent_version must not be empty."⟩ (!blank s.agentVersion)
  require ⟨.valueError, lit "model must not be empty."⟩ (!blank s.model)
  require ⟨.valueError, lit "prompt_digest must not be empty."⟩ (!blank s.promptDigest)
  require ⟨.valueError, lit "tool_digests must contain non-empty names and digests."⟩
    (s.toolDigests.all fun t ↦ !blank t.1 && !blank t.2)

/-- `fingerprint_payload`, `domain/state.py:58–68`. -/
def fingerprintPayload (s : SystemState) : Dict Json :=
  [(lit "agent_version", .str s.agentVersion),
    (lit "model", .str s.model),
    (lit "prompt_digest", .str s.promptDigest),
    (lit "tool_digests", .obj (Dict.mapValues .str (Dict.sorted s.toolDigests))),
    (lit "retrieval_digest", optionJson s.retrievalDigest),
    (lit "memory_digest", optionJson s.memoryDigest),
    (lit "policy_digest", optionJson s.policyDigest)]

/-- `from_dict`, `domain/state.py:82–122`. -/
def fromDict (members : Dict Json) : Except PyError SystemState := do
  let missing := [lit "state_id", lit "captured_at", lit "agent_version", lit "model",
    lit "prompt_digest"].filter fun key ↦ (members.get? key).isNone
  require ⟨.valueError, lit "Missing required state fields: " ++
    List.intercalate (lit ", ") missing⟩ missing.isEmpty
  let tools ← orRaise ⟨.valueError, lit "tool_digests must be a JSON object."⟩
    ((members.get? (lit "tool_digests")).getD (.obj [])).asObject
  let stateId ← requiredText members (lit "state_id")
  let captured ← requiredText members (lit "captured_at")
  let capturedAt ← parseDatetime captured (lit "captured_at")
  let agentVersion ← requiredText members (lit "agent_version")
  let model ← requiredText members (lit "model")
  let promptDigest ← requiredText members (lit "prompt_digest")
  let state : SystemState := ⟨stateId, capturedAt, agentVersion, model, promptDigest,
    Dict.mapValues Json.pyStr tools, nullableText members (lit "retrieval_digest"),
    nullableText members (lit "memory_digest"), nullableText members (lit "policy_digest")⟩
  state.check
  pure state

/-- `load_state`, `services/state_service.py:10–15`, of a file's bytes. -/
def load (raw : Bytes) : Except PyError SystemState := do
  let members ← loadObject raw (lit "payload")
  fromDict members

end SystemState

/-! ### Differences -/

/-- `FieldChange`, `domain/diff.py:15–21`. -/
structure FieldChange where
  path : Text
  before : Json
  after : Json
  deriving DecidableEq

/-- The keys of two dictionaries in order. -/
def unionKeys (left right : Dict Json) : List Text :=
  ((left.keys ++ right.keys).dedup).insertionSort (· ≤ ·)

/-- The changed members of two dictionaries under a prefix. -/
def memberChanges (field : Text → Text) (left right : Dict Json) : List FieldChange :=
  (unionKeys left right).filterMap fun key ↦
    let before := (left.get? key).getD .null
    let after := (right.get? key).getD .null
    if before = after then none else some ⟨field key, before, after⟩

/-- `_state_changes`, `domain/diff.py:99–126`. -/
def stateChanges (before after : SystemState) : List FieldChange :=
  let left := before.fingerprintPayload
  let right := after.fingerprintPayload
  (unionKeys left right).flatMap fun key ↦
    match (left.get? key).getD .null, (right.get? key).getD .null with
    | .obj before, .obj after => memberChanges (fun child ↦ key ++ lit "." ++ child) before after
    | before, after => if before = after then [] else [⟨key, before, after⟩]

/-- `ActionChange`, `domain/diff.py:24–30`. -/
structure ActionChange where
  changeType : Text
  before : Json
  after : Json
  deriving DecidableEq

/-- `BehavioralDiff`, `domain/diff.py:33–42`. -/
structure BehavioralDiff where
  stateChanges : List FieldChange
  outcomeBefore : Option Text
  outcomeAfter : Option Text
  evidenceAdded : List Text
  evidenceRemoved : List Text
  actionChanges : List ActionChange

/-- The fields whose change is of medium significance. -/
def criticalPaths : List Text :=
  [lit "model", lit "prompt_digest", lit "policy_digest", lit "retrieval_digest"]

/-- `risk`, `domain/diff.py:75–96`. -/
def BehavioralDiff.risk (d : BehavioralDiff) : Text :=
  if d.outcomeBefore ≠ d.outcomeAfter then lit "high"
  else if d.actionChanges ≠ [] then
    if d.actionChanges.any fun c ↦ [lit "added", lit "removed"].contains c.changeType then
      lit "high"
    else lit "medium"
  else if d.stateChanges ≠ [] then
    if d.stateChanges.any fun c ↦ criticalPaths.contains c.path ||
        (lit "tool_digests.").isPrefixOf c.path then lit "medium"
    else lit "low"
  else if d.evidenceAdded ≠ [] ∨ d.evidenceRemoved ≠ [] then lit "low"
  else lit "none"

/-- `_diff_payload`, `services/reliability_comparison_service.py:42–61`. -/
def BehavioralDiff.payload (d : BehavioralDiff) : Dict Json :=
  [(lit "state_changes", .arr (d.stateChanges.map fun c ↦
      .obj [(lit "path", .str c.path), (lit "before", c.before), (lit "after", c.after)])),
    (lit "outcome_before", optionJson d.outcomeBefore),
    (lit "outcome_after", optionJson d.outcomeAfter),
    (lit "evidence_added", .arr (d.evidenceAdded.map .str)),
    (lit "evidence_removed", .arr (d.evidenceRemoved.map .str)),
    (lit "action_changes", .arr (d.actionChanges.map fun c ↦
      .obj [(lit "change_type", .str c.changeType), (lit "before", c.before),
        (lit "after", c.after)]))]

/-- `_discrepancy`, `services/reliability_comparison_service.py:64–77`. -/
def BehavioralDiff.discrepancy (d : BehavioralDiff) : List Text :=
  (if d.stateChanges ≠ [] then [lit "state_change"] else []) ++
    (if d.outcomeBefore ≠ d.outcomeAfter then [lit "outcome_change"] else []) ++
    (if d.evidenceAdded ≠ [] then [lit "evidence_added"] else []) ++
    (if d.evidenceRemoved ≠ [] then [lit "evidence_removed"] else []) ++
    (if d.actionChanges ≠ [] then [lit "action_change"] else [])

/-- What the other artifacts of a comparison say: the evidence a manifest lists, the outcome of a
run's events, and the changes between the actions of two runs. -/
structure BehaviorSources where
  evidenceIds : Bytes → Except PyError (List Text)
  outcome : Option (Bytes × Text) → Except PyError (Option Text)
  actionChanges : Option (Bytes × Text) → Option (Bytes × Text) → Except PyError (List ActionChange)

/-! ### Verification -/

/-- The input of a role. -/
def inputOf (inputs : List ReliabilityComparisonInput) (role : Text) :
    Option ReliabilityComparisonInput :=
  inputs.find? fun i ↦ i.role = role

/-- The bytes of an input's source, `services/reliability_comparison_service.py:261–268`. -/
def inputContent (root : SourceRoot) (i : ReliabilityComparisonInput) : Except PyError Bytes := do
  require ⟨.valueError, lit "comparison source escapes root: " ++ i.source⟩
    (root.inside (slashes i.source))
  let content ← orRaise ⟨.fileNotFoundError, slashes i.source⟩ (root.file (slashes i.source))
  require ⟨.valueError, lit "comparison source digest mismatch: " ++ i.source⟩
    (sha256 content = i.digest)
  pure content

/-- The bytes of an optional input with its identity. -/
def optionalContent (root : SourceRoot) (i : Option ReliabilityComparisonInput) :
    Except PyError (Option (Bytes × Text)) :=
  match i with
  | none => .ok none
  | some i => do
    let content ← inputContent root i
    pure (some (content, i.identity))

/-- `verify_reliability_behavioral_comparison`,
`services/reliability_comparison_service.py:255–320`. -/
def verifyBehavioralComparison (sources : BehaviorSources) (root : SourceRoot)
    (c : ReliabilityBehavioralComparison) : Except PyError Unit := do
  let beforeInput ← orRaise ⟨.stopIteration, []⟩ (inputOf c.before (lit "before_state"))
  let beforeState ← inputContent root beforeInput
  let afterInput ← orRaise ⟨.stopIteration, []⟩ (inputOf c.after (lit "after_state"))
  let afterState ← inputContent root afterInput
  let beforeEvidence ← optionalContent root (inputOf c.before (lit "before_evidence"))
  let afterEvidence ← optionalContent root (inputOf c.after (lit "after_evidence"))
  let beforeEvents ← optionalContent root (inputOf c.before (lit "before_events"))
  let afterEvents ← optionalContent root (inputOf c.after (lit "after_events"))
  let beforeIds ← beforeEvidence.elim (pure []) fun m ↦ sources.evidenceIds m.1
  let afterIds ← afterEvidence.elim (pure []) fun m ↦ sources.evidenceIds m.1
  let before ← SystemState.load beforeState
  let after ← SystemState.load afterState
  let outcomeBefore ← sources.outcome beforeEvents
  let outcomeAfter ← sources.outcome afterEvents
  let actionChanges ← sources.actionChanges beforeEvents afterEvents
  let diff : BehavioralDiff := ⟨stateChanges before after, outcomeBefore, outcomeAfter,
    ((afterIds.filter (· ∉ beforeIds)).dedup).insertionSort (· ≤ ·),
    ((beforeIds.filter (· ∉ afterIds)).dedup).insertionSort (· ≤ ·), actionChanges⟩
  require ⟨.valueError,
    lit "reliability behavioral comparison semantics do not match existing BehavioralDiff"⟩
    (ordered c.diff = ordered diff.payload)
  require ⟨.valueError, lit "reliability behavioral comparison significance mismatch"⟩
    (c.significance = diff.risk)
  require ⟨.valueError, lit "reliability behavioral comparison discrepancy mismatch"⟩
    (c.discrepancy = diff.discrepancy)

end StateWake.Reliability
