import Mathlib.Algebra.Order.Group.Multiset
import Mathlib.Tactic.Abel
import StateWake.Base.Sha256Evaluation
import StateWake.Reliability.Comparison

/-!
# Lineage closure

`services/reliability_lineage_service.py` and `domain/reliability_lineage.py`: every material
reference of a chain is bound to its node of the provenance graph, and every node leads to that
of the run. Bindings have roles, and those of a comparison's inputs are made of their kinds and
identities: two inputs can ask for one role, and two references for one node.
-/

namespace StateWake.Reliability

open StateWake.Base Text Utils Operations Provenance

/-- `ReliabilityLineageBinding`, `domain/reliability_lineage.py:29–36`, with what its constructor
checked. -/
structure ReliabilityLineageBinding where
  role : Text
  nodeId : Text
  identity : Text
  digest : Text
  named : ∀ s ∈ [role, nodeId, identity], blank s = false
  digested : isSha256 digest = true

namespace ReliabilityLineageBinding

/-- The constructor, `__post_init__` at `domain/reliability_lineage.py:38–48`. -/
def create (role nodeId identity digest : Text) : Except PyError ReliabilityLineageBinding :=
  if hn : ∀ s ∈ [role, nodeId, identity], blank s = false then
    if hd : isSha256 digest = true then .ok ⟨role, nodeId, identity, digest, hn, hd⟩
    else valueError (lit "digest must be lowercase SHA-256 hex.")
  else valueError (lit "lineage binding role, node_id, and identity must not be empty.")

/-- `to_dict`, `domain/reliability_lineage.py:50–57`. -/
def toDict (b : ReliabilityLineageBinding) : Dict Json :=
  [(lit "role", .str b.role),
    (lit "node_id", .str b.nodeId),
    (lit "identity", .str b.identity),
    (lit "digest", .str b.digest)]

end ReliabilityLineageBinding

/-- `ReliabilityLineageClosure`, `domain/reliability_lineage.py:60–69`. -/
structure ReliabilityLineageClosure where
  formatVersion : Text
  provenanceGraphDigest : Text
  runRole : Text
  bindings : List ReliabilityLineageBinding
  reachableRoles : List Text
  digest : Text

namespace ReliabilityLineageClosure

/-- `payload`, `domain/reliability_lineage.py:97–105`. -/
def payload (c : ReliabilityLineageClosure) : Dict Json :=
  [(lit "format_version", .str c.formatVersion),
    (lit "provenance_graph_digest", .str c.provenanceGraphDigest),
    (lit "run_role", .str c.runRole),
    (lit "bindings", .arr (c.bindings.map fun b ↦ .obj b.toDict)),
    (lit "reachable_roles", .arr (c.reachableRoles.map .str))]

/-- `computed_digest`, `domain/reliability_lineage.py:107–109`. -/
def computedDigest (c : ReliabilityLineageClosure) : Except PyError Text := do
  let content ← canonicalBytes c.payload
  pure (sha256 content)

/-- The roles of the bindings. -/
def roles (c : ReliabilityLineageClosure) : List Text :=
  c.bindings.map ReliabilityLineageBinding.role

/-- The nodes of the bindings. -/
def nodeIds (c : ReliabilityLineageClosure) : List Text :=
  c.bindings.map ReliabilityLineageBinding.nodeId

/-- The constructor, `__post_init__` at `domain/reliability_lineage.py:71–95`. -/
def create (c : ReliabilityLineageClosure) : Except PyError ReliabilityLineageClosure := do
  require ⟨.valueError, lit "unsupported reliability lineage closure format version."⟩
    (c.formatVersion = lit "1")
  require ⟨.valueError, lit "provenance_graph_digest must be lowercase SHA-256 hex."⟩
    (isSha256 c.provenanceGraphDigest)
  require ⟨.valueError, lit "lineage run_role must be 'run'."⟩ (c.runRole = lit "run")
  require ⟨.valueError, lit "lineage closure requires bindings."⟩ (!c.bindings.isEmpty)
  require ⟨.valueError, lit "lineage binding roles must be unique."⟩ c.roles.Nodup
  require ⟨.valueError, lit "lineage binding node IDs must be unique."⟩ c.nodeIds.Nodup
  require ⟨.valueError, lit "lineage closure must bind a run node."⟩ (lit "run" ∈ c.roles)
  require ⟨.valueError, lit "reachable lineage roles must have bindings."⟩
    (∀ role ∈ c.reachableRoles, role ∈ c.roles)
  let computed ← c.computedDigest
  require ⟨.valueError, lit "reliability lineage closure digest mismatch."⟩
    (c.digest.isEmpty || c.digest = computed)
  pure { c with digest := computed }

end ReliabilityLineageClosure

/-! ### Material references -/

/-- The inputs of the comparison of a chain, where its file is found,
`services/reliability_lineage_service.py:37–50`. -/
def comparisonInputs (root : SourceRoot) (chain : ReliabilityEvidenceChain) :
    Except PyError (List EvidenceReference) :=
  match chain.comparisonRef.bind fun r ↦ r.source.bind fun s ↦ root.file (slashes s) with
  | none => .ok []
  | some content => do
    let comparison ← ReliabilityBehavioralComparison.load content
    pure comparison.inputReferences

/-- What tells the inputs of a comparison apart. -/
def inputLabel (r : EvidenceReference) : Text := r.kind ++ lit ":" ++ r.identity

/-- `_material_references`, `services/reliability_lineage_service.py:22–55`, with the inputs of the
comparison. -/
def materialReferences (chain : ReliabilityEvidenceChain) (inputs : List EvidenceReference) :
    List (Text × EvidenceReference) :=
  [(lit "run", chain.run), (lit "state", chain.state)] ++
    chain.evidence.zipIdx.map (fun r ↦ (lit "evidence:" ++ Json.intText r.2, r.1)) ++
    chain.decisionBasisRef.toList.map (fun r ↦ (lit "decision_basis", r)) ++
    chain.comparisonRef.toList.map (fun r ↦ (lit "comparison", r)) ++
    inputs.map (fun r ↦ (lit "comparison-input:" ++ inputLabel r, r)) ++
    chain.reconciliationRef.toList.map (fun r ↦ (lit "reconciliation", r)) ++
    chain.recoveryRef.toList.map fun r ↦ (lit "recovery", r)

/-- `_binding_for_reference`, `services/reliability_lineage_service.py:58–79`. -/
def bindingForReference (graph : ProvenanceGraph) (m : Text × EvidenceReference) :
    Except PyError ReliabilityLineageBinding :=
  match graph.nodes.filter fun n ↦ n.identity = m.2.identity ∧ n.digest = m.2.digest with
  | [] => valueError (lit "provenance lineage node not found for " ++ m.1 ++ lit ": " ++
      m.2.identity)
  | [n] => ReliabilityLineageBinding.create m.1 n.nodeId n.identity n.digest
  | _ => valueError (lit "provenance lineage identity is ambiguous for " ++ m.1 ++ lit ": " ++
      m.2.identity)

/-! ### The decision basis -/

/-- The inputs a decision basis declares, `services/reliability_lineage_service.py:126–138`. -/
def basisDigests (root : SourceRoot) (reference : EvidenceReference) :
    Except PyError (List Text) := do
  let content ← orRaise ⟨.fileNotFoundError,
    lit "decision basis source is required for lineage closure"⟩
    (reference.source.bind fun s ↦ root.file (slashes s))
  let basis ← loadObject content (lit "payload")
  iterTexts ((basis.get? (lit "input_digests")).getD (.arr []))

/-- The digests of a chain's lineage, `services/reliability_lineage_service.py:139–149`. -/
def lineageDigests (chain : ReliabilityEvidenceChain) : List Text :=
  (chain.run :: chain.state :: chain.evidence ++ chain.reconciliationRef.toList ++
    chain.recoveryRef.toList ++ chain.comparisonRef.toList).map EvidenceReference.digest

/-- The digests of what only verifies a chain, `services/reliability_lineage_service.py:157–162`. -/
def contextDigests (chain : ReliabilityEvidenceChain) : List Text :=
  ([chain.provenance, chain.integrity] ++ chain.attestationRef.toList).map EvidenceReference.digest

/-- The check on one declared input, `services/reliability_lineage_service.py:170–188`. -/
def checkBasisInput (chain : ReliabilityEvidenceChain) (graph : ProvenanceGraph)
    (bindings : List ReliabilityLineageBinding) (d : Text) : Except PyError Unit :=
  if d ∈ contextDigests chain then .ok () else do
    let candidates := bindings.filter fun b ↦ b.digest = d
    require ⟨.valueError, lit "decision-basis input lacks a provenance lineage node: " ++ d⟩
      (!candidates.isEmpty)
    let basis ← orRaise ⟨.stopIteration, []⟩
      (bindings.find? fun b ↦ b.role = lit "decision_basis")
    let reached ← candidates.anyM fun b ↦ graph.reachable basis.nodeId b.nodeId
    require ⟨.valueError, lit "decision-basis lineage does not reach declared input: " ++ d⟩
      reached

/-- The checks on the decision basis, `services/reliability_lineage_service.py:125–188`. -/
def checkDecisionBasis (root : SourceRoot) (chain : ReliabilityEvidenceChain)
    (graph : ProvenanceGraph) (bindings : List ReliabilityLineageBinding) :
    Except PyError Unit :=
  match chain.decisionBasisRef with
  | none => .ok ()
  | some reference => do
    let digests ← basisDigests root reference
    let missing := digests.filter fun d ↦ d ∉ lineageDigests chain ++ contextDigests chain
    require ⟨.valueError, lit "decision-basis input is outside the reliability chain lineage: ['" ++
      List.intercalate (lit "', '") missing ++ lit "']"⟩ missing.isEmpty
    forM digests (checkBasisInput chain graph bindings)

/-! ### The closure -/

/-- The graph of a chain, `services/reliability_lineage_service.py:86–108`. -/
def provenanceGraph (root : SourceRoot) (chain : ReliabilityEvidenceChain) :
    Except PyError ProvenanceGraph := do
  let source ← orRaise ⟨.valueError,
    lit "reliability provenance reference must retain a local graph source"⟩
    chain.provenance.source
  require ⟨.valueError, lit "reliability provenance source escapes evidence root: " ++ source⟩
    (root.inside (slashes source))
  let content ← orRaise ⟨.fileNotFoundError, lit "reliability provenance source not found: " ++
    slashes source⟩ (root.file (slashes source))
  require ⟨.valueError,
    lit "reliability provenance graph file digest does not match the evidence chain"⟩
    (sha256 content = chain.provenance.digest)
  let graph ← loadProvenanceGraph content
  verifyArtifactDigests graph root
  graph.validateRequiredEdges
  pure graph

/-- The check that a binding leads to the run, `services/reliability_lineage_service.py:116–123`. -/
def checkConnected (graph : ProvenanceGraph) (run b : ReliabilityLineageBinding) :
    Except PyError Unit :=
  if b.role = lit "run" then .ok ()
  else do
    let connected ← graph.reachable b.nodeId run.nodeId
    require ⟨.valueError, lit "provenance lineage is not connected to declared run for " ++
      b.role ++ lit ": " ++ b.identity⟩ connected

/-- `build_reliability_lineage_closure`, `services/reliability_lineage_service.py:82–196`. -/
def buildReliabilityLineageClosure (root : SourceRoot) (chain : ReliabilityEvidenceChain) :
    Except PyError ReliabilityLineageClosure := do
  let graph ← provenanceGraph root chain
  let inputs ← comparisonInputs root chain
  let bindings ← (materialReferences chain inputs).mapM (bindingForReference graph)
  let run ← orRaise ⟨.stopIteration, []⟩ (bindings.find? fun b ↦ b.role = lit "run")
  forM bindings (checkConnected graph run)
  checkDecisionBasis root chain graph bindings
  let graphDigest ← graph.graphDigest
  ReliabilityLineageClosure.create ⟨lit "1", graphDigest, lit "run", bindings,
    (bindings.filter fun b ↦ b.role ≠ lit "run").map ReliabilityLineageBinding.role, []⟩

/-! ### Roles -/

variable {chain : ReliabilityEvidenceChain} {inputs : List EvidenceReference}
  {root : SourceRoot} {graph : ProvenanceGraph} {r : EvidenceReference}

/-- The references but for the inputs of the comparison, before and after them. -/
theorem mem_materialReferences {m : Text × EvidenceReference} :
    m ∈ materialReferences chain inputs ↔ m = (lit "run", chain.run) ∨
      m = (lit "state", chain.state) ∨
      (∃ x ∈ chain.evidence.zipIdx, m = (lit "evidence:" ++ Json.intText x.2, x.1)) ∨
      (∃ x, chain.decisionBasisRef = some x ∧ m = (lit "decision_basis", x)) ∨
      (∃ x, chain.comparisonRef = some x ∧ m = (lit "comparison", x)) ∨
      (∃ x ∈ inputs, m = (lit "comparison-input:" ++ inputLabel x, x)) ∨
      (∃ x, chain.reconciliationRef = some x ∧ m = (lit "reconciliation", x)) ∨
      ∃ x, chain.recoveryRef = some x ∧ m = (lit "recovery", x) := by
  simp only [materialReferences, List.mem_append, List.mem_cons, List.not_mem_nil, or_false,
    List.mem_map, Option.mem_toList, or_assoc, eq_comm (b := m)]

/-- A text with a prefix differs from one that does not begin with it. -/
private theorem append_ne {s t u : Text} (h : s.isPrefixOf u = false) : s ++ t ≠ u := by
  rintro rfl
  rw [← Bool.not_eq_true, List.isPrefixOf_iff_prefix] at h
  exact h (List.prefix_append s t)

/-- The role of the run is that of the run alone. -/
theorem run_mem_materialReferences (h : (lit "run", r) ∈ materialReferences chain inputs) :
    r = chain.run := by
  rw [mem_materialReferences] at h
  simp only [Prod.mk.injEq] at h
  rcases h with h | h | ⟨x, -, h, -⟩ | ⟨x, -, h, -⟩ | ⟨x, -, h, -⟩ | ⟨x, -, h, -⟩ | ⟨x, -, h, -⟩ |
    ⟨x, -, h, -⟩
  · exact h.2
  · exact absurd h.1 (by decide)
  · exact absurd h.symm (append_ne (by decide))
  · exact absurd h (by decide)
  · exact absurd h (by decide)
  · exact absurd h.symm (append_ne (by decide))
  · exact absurd h (by decide)
  · exact absurd h (by decide)

/-- The role of the decision basis is that of the decision basis alone. -/
theorem basis_mem_materialReferences
    (h : (lit "decision_basis", r) ∈ materialReferences chain inputs) :
    chain.decisionBasisRef = some r := by
  rw [mem_materialReferences] at h
  simp only [Prod.mk.injEq] at h
  rcases h with h | h | ⟨x, -, h, -⟩ | ⟨x, hx, -, h⟩ | ⟨x, -, h, -⟩ | ⟨x, -, h, -⟩ | ⟨x, -, h, -⟩ |
    ⟨x, -, h, -⟩
  · exact absurd h.1 (by decide)
  · exact absurd h.1 (by decide)
  · exact absurd h.symm (append_ne (by decide))
  · rw [h, hx]
  · exact absurd h (by decide)
  · exact absurd h.symm (append_ne (by decide))
  · exact absurd h (by decide)
  · exact absurd h (by decide)

/-- The roles that do not depend on what they are given to. -/
private def fixedRoles (chain : ReliabilityEvidenceChain) : List Text :=
  [lit "run", lit "state"] ++ chain.decisionBasisRef.toList.map (fun _ ↦ lit "decision_basis") ++
    chain.comparisonRef.toList.map (fun _ ↦ lit "comparison") ++
    chain.reconciliationRef.toList.map (fun _ ↦ lit "reconciliation") ++
    chain.recoveryRef.toList.map fun _ ↦ lit "recovery"

private theorem sublist_fixedRoles : (fixedRoles chain).Sublist [lit "run", lit "state",
    lit "decision_basis", lit "comparison", lit "reconciliation", lit "recovery"] := by
  have hoption : ∀ (o : Option EvidenceReference) (role : Text),
      (o.toList.map fun _ ↦ role).Sublist [role] := by
    intro o role
    cases o with
    | none => exact List.nil_sublist _
    | some r => exact List.Sublist.refl _
  exact (((List.Sublist.refl [lit "run", lit "state"]).append (hoption _ _)).append
    (hoption _ _)).append (hoption _ _) |>.append (hoption _ _)

/-- The roles of the evidence. -/
private def evidenceRoles (chain : ReliabilityEvidenceChain) : List Text :=
  (List.range' 0 chain.evidence.length).map fun i : Nat ↦
    lit "evidence:" ++ Json.intText i

/-- The roles of the inputs of the comparison. -/
private def inputRoles (inputs : List EvidenceReference) : List Text :=
  (inputs.map inputLabel).map fun label ↦ lit "comparison-input:" ++ label

private theorem perm_roles : ((materialReferences chain inputs).map Prod.fst).Perm
    (fixedRoles chain ++ (evidenceRoles chain ++ inputRoles inputs)) := by
  have hevidence : (chain.evidence.zipIdx.map fun r ↦ lit "evidence:" ++ Json.intText r.2) =
      evidenceRoles chain := by
    rw [evidenceRoles, ← List.zipIdx_map_snd 0 chain.evidence, List.map_map]
    rfl
  simp only [materialReferences, List.map_append, List.map_map, Function.comp_def,
    List.map_cons, List.map_nil]
  rw [hevidence, fixedRoles, inputRoles, List.map_map, ← Multiset.coe_eq_coe]
  simp only [← Multiset.coe_add]
  simp only [Function.comp_def]
  abel

private theorem nodup_evidenceRoles : (evidenceRoles chain).Nodup := by
  refine List.Nodup.map (fun i j h ↦ ?_) List.nodup_range'
  have hdecimal : Json.intText i = Json.intText j := List.append_cancel_left h
  rw [Json.intText, Json.intText, if_neg (by omega), if_neg (by omega)] at hdecimal
  have hvalue := congrArg Decimal.value hdecimal
  rw [Decimal.value_decimal, Decimal.value_decimal, Int.natAbs_natCast, Int.natAbs_natCast] at hvalue
  exact hvalue

/-- Roles are distinct exactly when the inputs of the comparison have distinct labels. -/
theorem nodup_roles_iff : ((materialReferences chain inputs).map Prod.fst).Nodup ↔
    (inputs.map inputLabel).Nodup := by
  rw [perm_roles.nodup_iff, List.nodup_append, List.nodup_append]
  constructor
  · exact fun h ↦ h.2.1.2.1.of_map
  · intro h
    have hfixed : (fixedRoles chain).Nodup := List.Nodup.sublist sublist_fixedRoles (by decide)
    refine ⟨hfixed, ⟨nodup_evidenceRoles, h.map fun _ _ ↦ List.append_cancel_left, ?_⟩, ?_⟩
    · intro a ha b hb hab
      obtain ⟨i, -, rfl⟩ := List.mem_map.mp ha
      obtain ⟨label, -, rfl⟩ := List.mem_map.mp hb
      have hhead := congrArg List.head? hab
      rw [List.head?_append_of_ne_nil _ (by decide), List.head?_append_of_ne_nil _ (by decide)]
        at hhead
      exact absurd hhead (by decide)
    · intro a ha b hb
      have hplain : (lit "evidence:").isPrefixOf a = false ∧
          (lit "comparison-input:").isPrefixOf a = false := by
        have hmem := sublist_fixedRoles.subset ha
        clear ha hb
        revert a
        decide
      rcases List.mem_append.mp hb with hb | hb
      · obtain ⟨i, -, rfl⟩ := List.mem_map.mp hb
        exact (append_ne hplain.1).symm
      · obtain ⟨label, -, rfl⟩ := List.mem_map.mp hb
        exact (append_ne hplain.2).symm

private theorem role_of_mem {m : Text × EvidenceReference}
    (h : m ∈ materialReferences chain inputs) (hinputs : ∀ r ∈ inputs, SurrogateFree r.kind) :
    blank m.1 = false ∧ (SurrogateFree m.2.identity → SurrogateFree m.1) := by
  have hlit : ∀ s : String, blank (lit s) = false → ∀ (t u : Text),
      (SurrogateFree u → SurrogateFree t) →
        blank (lit s ++ t) = false ∧ (SurrogateFree u → SurrogateFree (lit s ++ t)) :=
    fun s hs t u ht ↦ ⟨not_blank_append hs t,
      fun hu ↦ surrogateFree_append (surrogateFree_lit s) (ht hu)⟩
  have hfixed : ∀ s : String, blank (lit s) = false → ∀ u : Text,
      blank (lit s) = false ∧ (SurrogateFree u → SurrogateFree (lit s)) :=
    fun s hs _ ↦ ⟨hs, fun _ ↦ surrogateFree_lit s⟩
  rw [mem_materialReferences] at h
  rcases h with rfl | rfl | ⟨x, -, rfl⟩ | ⟨x, -, rfl⟩ | ⟨x, -, rfl⟩ | ⟨x, hx, rfl⟩ | ⟨x, -, rfl⟩ |
    ⟨x, -, rfl⟩
  · exact hfixed _ (by decide) _
  · exact hfixed _ (by decide) _
  · exact hlit _ (by decide) _ _ fun _ ↦ Json.surrogateFree_intText _
  · exact hfixed _ (by decide) _
  · exact hfixed _ (by decide) _
  · exact hlit _ (by decide) _ _ fun hidentity ↦ surrogateFree_append
      (surrogateFree_append (hinputs x hx) (surrogateFree_lit _)) hidentity
  · exact hfixed _ (by decide) _
  · exact hfixed _ (by decide) _

/-! ### Bindings -/

/-- The node of a reference. -/
structure Matches (graph : ProvenanceGraph) (r : EvidenceReference) (n : ProvenanceNode) :
    Prop where
  mem : n ∈ graph.nodes
  identity : n.identity = r.identity
  digest : n.digest = r.digest

/-- Every material reference has exactly one node, and a path leads from it to that of the run. -/
def Traced (chain : ReliabilityEvidenceChain) (inputs : List EvidenceReference)
    (graph : ProvenanceGraph) : Prop :=
  ∃ run, Matches graph chain.run run ∧ ∀ m ∈ materialReferences chain inputs,
    ∃ n, Matches graph m.2 n ∧ (∀ p, Matches graph m.2 p → p = n) ∧
      graph.Path n.nodeId run.nodeId

/-- The binding of a reference to a node. -/
structure BoundTo (m : Text × EvidenceReference) (n : ProvenanceNode)
    (b : ReliabilityLineageBinding) : Prop where
  role : b.role = m.1
  nodeId : b.nodeId = n.nodeId
  identity : b.identity = m.2.identity
  digest : b.digest = m.2.digest

/-- A reference with exactly one node is bound to it. -/
theorem bindingForReference_eq_ok {m : Text × EvidenceReference} {n : ProvenanceNode}
    (hn : Matches graph m.2 n) (hunique : ∀ p, Matches graph m.2 p → p = n) (hlawful : n.Lawful)
    (hrole : blank m.1 = false) :
    ∃ b, bindingForReference graph m = .ok b ∧ BoundTo m n b := by
  have hfilter : graph.nodes.filter
      (fun n ↦ n.identity = m.2.identity ∧ n.digest = m.2.digest) = [n] := by
    refine List.perm_singleton.mp ((List.perm_ext_iff_of_nodup
      (graph.connected.distinct.of_map.filter _) (List.nodup_singleton n)).mpr fun p ↦ ?_)
    rw [List.mem_filter, decide_eq_true_eq, List.mem_singleton]
    constructor
    · exact fun h ↦ hunique p ⟨h.1, h.2.1, h.2.2⟩
    · rintro rfl
      exact ⟨hn.mem, hn.identity, hn.digest⟩
  have hnamed : ∀ s ∈ [m.1, n.nodeId, n.identity], blank s = false := by
    simp [hrole, hlawful.named.1, hlawful.named.2.2]
  refine ⟨⟨m.1, n.nodeId, n.identity, n.digest, hnamed, hlawful.digested⟩, ?_, rfl, rfl,
    hn.identity, hn.digest⟩
  rw [bindingForReference, hfilter]
  dsimp only
  rw [ReliabilityLineageBinding.create, dif_pos hnamed, dif_pos hlawful.digested]

/-- A binding is to a node of its reference. -/
theorem boundTo_of_bindingForReference {m : Text × EvidenceReference}
    {b : ReliabilityLineageBinding} (h : bindingForReference graph m = .ok b) :
    ∃ n, Matches graph m.2 n ∧ BoundTo m n b := by
  rw [bindingForReference] at h
  split at h
  · cases h
  next n hfilter =>
    have hmem : n ∈ graph.nodes.filter
        (fun n ↦ n.identity = m.2.identity ∧ n.digest = m.2.digest) := by
      rw [hfilter]
      exact List.mem_cons_self
    rw [List.mem_filter, decide_eq_true_eq] at hmem
    rw [ReliabilityLineageBinding.create] at h
    split at h
    · split at h
      · cases h
        exact ⟨n, ⟨hmem.1, hmem.2.1, hmem.2.2⟩, rfl, rfl, hmem.2.1, hmem.2.2⟩
      · cases h
    · cases h
  · cases h

/-- The bindings of the material references: as many, in their order, each to the node of its
reference. -/
structure Binds (chain : ReliabilityEvidenceChain) (inputs : List EvidenceReference)
    (graph : ProvenanceGraph) (run : ProvenanceNode)
    (bindings : List ReliabilityLineageBinding) : Prop where
  roles : bindings.map ReliabilityLineageBinding.role = (materialReferences chain inputs).map Prod.fst
  identities : (bindings.map fun b ↦ (b.identity, b.digest)) =
    (materialReferences chain inputs).map fun m ↦ (m.2.identity, m.2.digest)
  bound : ∀ b, b ∈ bindings ↔ ∃ m ∈ materialReferences chain inputs, ∃ n, Matches graph m.2 n ∧
    (∀ p, Matches graph m.2 p → p = n) ∧ graph.Path n.nodeId run.nodeId ∧ BoundTo m n b

theorem BoundTo.unique {m : Text × EvidenceReference} {n : ProvenanceNode}
    {b c : ReliabilityLineageBinding} (hb : BoundTo m n b) (hc : BoundTo m n c) : b = c := by
  obtain ⟨role, nodeId, identity, digest, _, _⟩ := b
  obtain ⟨role', nodeId', identity', digest', _, _⟩ := c
  have hrole : role = role' := hb.role.trans hc.role.symm
  have hnodeId : nodeId = nodeId' := hb.nodeId.trans hc.nodeId.symm
  have hidentity : identity = identity' := hb.identity.trans hc.identity.symm
  have hdigest : digest = digest' := hb.digest.trans hc.digest.symm
  subst hrole hnodeId hidentity hdigest
  rfl

/-- Traced references are bound. -/
theorem exists_binds (hlawful : ∀ n ∈ graph.nodes, n.Lawful) {run : ProvenanceNode}
    (hrole : ∀ m ∈ materialReferences chain inputs, blank m.1 = false)
    (htraced : ∀ m ∈ materialReferences chain inputs, ∃ n, Matches graph m.2 n ∧
      (∀ p, Matches graph m.2 p → p = n) ∧ graph.Path n.nodeId run.nodeId) :
    ∃ bindings, (materialReferences chain inputs).mapM (bindingForReference graph) = .ok bindings ∧
      Binds chain inputs graph run bindings := by
  obtain ⟨bindings, hbindings⟩ := exists_mapM_eq_ok (f := bindingForReference graph)
    fun m hm ↦ by
      obtain ⟨n, hn, hunique, -⟩ := htraced m hm
      obtain ⟨b, hb, -⟩ := bindingForReference_eq_ok hn hunique (hlawful n hn.mem) (hrole m hm)
      exact ⟨b, hb⟩
  refine ⟨bindings, hbindings, ?_, ?_, fun b ↦ ?_⟩
  · refine map_of_mapM_eq_ok (fun m b hb ↦ ?_) hbindings
    obtain ⟨n, -, hto⟩ := boundTo_of_bindingForReference hb
    exact hto.role
  · refine map_of_mapM_eq_ok (fun m b hb ↦ ?_) hbindings
    obtain ⟨n, -, hto⟩ := boundTo_of_bindingForReference hb
    rw [hto.identity, hto.digest]
  · rw [mem_of_mapM_eq_ok hbindings]
    refine exists_congr fun m ↦ and_congr_right fun hm ↦ ?_
    obtain ⟨n, hn, hunique, hpath⟩ := htraced m hm
    obtain ⟨c, hc, hto⟩ := bindingForReference_eq_ok hn hunique (hlawful n hn.mem) (hrole m hm)
    constructor
    · intro hb
      rw [hc] at hb
      cases hb
      exact ⟨n, hn, hunique, hpath, hto⟩
    · rintro ⟨p, hp, -, -, hbp⟩
      rw [hunique p hp] at hbp
      rw [hbp.unique hto, hc]

/-- Two bindings share a node exactly when they share an identity and a digest. -/
theorem Binds.nodeId_eq_iff {run : ProvenanceNode} {bindings : List ReliabilityLineageBinding}
    (h : Binds chain inputs graph run bindings) {b c : ReliabilityLineageBinding}
    (hb : b ∈ bindings) (hc : c ∈ bindings) :
    b.nodeId = c.nodeId ↔ (b.identity, b.digest) = (c.identity, c.digest) := by
  obtain ⟨m, -, n, hn, hunique, -, hbn⟩ := (h.bound b).mp hb
  obtain ⟨m', -, n', hn', -, -, hcn'⟩ := (h.bound c).mp hc
  rw [Prod.mk.injEq, hbn.nodeId, hcn'.nodeId, hbn.identity, hcn'.identity, hbn.digest,
    hcn'.digest]
  constructor
  · intro hid
    have heq := List.inj_on_of_nodup_map graph.connected.distinct hn.mem hn'.mem hid
    rw [← hn.identity, ← hn.digest, heq]
    exact ⟨hn'.identity, hn'.digest⟩
  · rintro ⟨hidentity, hdigest⟩
    rw [hunique n' ⟨hn'.mem, hn'.identity.trans hidentity.symm, hn'.digest.trans hdigest.symm⟩]

/-- Nodes are bound once exactly when no two references share an identity and a digest. -/
theorem Binds.nodup_nodeIds_iff {run : ProvenanceNode} {bindings : List ReliabilityLineageBinding}
    (h : Binds chain inputs graph run bindings) :
    (bindings.map ReliabilityLineageBinding.nodeId).Nodup ↔
      ((materialReferences chain inputs).map fun m ↦ (m.2.identity, m.2.digest)).Nodup := by
  rw [← h.identities, List.Nodup, List.Nodup, List.pairwise_map, List.pairwise_map]
  exact List.Pairwise.iff_of_mem fun hb hc ↦ not_congr (h.nodeId_eq_iff hb hc)

/-! ### Checks on the bindings -/

section

variable {run : ProvenanceNode} {bindings : List ReliabilityLineageBinding}

/-- The binding of a role that one reference alone has is to that reference's node. -/
theorem Binds.find?_role (h : Binds chain inputs graph run bindings) {role : Text}
    (hm : (role, r) ∈ materialReferences chain inputs)
    (honly : ∀ x, (role, x) ∈ materialReferences chain inputs → x = r) :
    ∃ b n, bindings.find? (fun b ↦ b.role = role) = some b ∧ Matches graph r n ∧
      (∀ p, Matches graph r p → p = n) ∧ b.nodeId = n.nodeId := by
  have hroles : role ∈ bindings.map ReliabilityLineageBinding.role := by
    rw [h.roles]
    exact List.mem_map_of_mem hm
  obtain ⟨c, hc, hrole⟩ := List.mem_map.mp hroles
  obtain ⟨b, hb⟩ : ∃ b, bindings.find? (fun b ↦ b.role = role) = some b :=
    Option.isSome_iff_exists.mp (List.find?_isSome.mpr ⟨c, hc, decide_eq_true hrole⟩)
  have hfound := List.find?_some hb
  obtain ⟨m, hmem, n, hn, hunique, -, hto⟩ := (h.bound b).mp (List.mem_of_find?_eq_some hb)
  obtain ⟨name, x⟩ := m
  have hname : name = role := hto.role.symm.trans (of_decide_eq_true hfound)
  subst hname
  rw [honly x hmem] at hn hunique
  exact ⟨b, n, hb, hn, hunique, hto.nodeId⟩

/-- A reference is bound to its node. -/
theorem Binds.exists_binding (h : Binds chain inputs graph run bindings)
    {m : Text × EvidenceReference} (hm : m ∈ materialReferences chain inputs)
    {n : ProvenanceNode} (hn : Matches graph m.2 n) :
    ∃ b ∈ bindings, b.digest = m.2.digest ∧ b.nodeId = n.nodeId := by
  have hmem : (m.2.identity, m.2.digest) ∈ bindings.map fun b ↦ (b.identity, b.digest) := by
    rw [h.identities]
    exact List.mem_map_of_mem hm
  obtain ⟨b, hb, heq⟩ := List.mem_map.mp hmem
  rw [Prod.mk.injEq] at heq
  obtain ⟨m', -, n', -, hunique, -, hto⟩ := (h.bound b).mp hb
  have hsame : n = n' := hunique n ⟨hn.mem,
    hn.identity.trans (heq.1.symm.trans hto.identity),
    hn.digest.trans (heq.2.symm.trans hto.digest)⟩
  exact ⟨b, hb, heq.2, by rw [hto.nodeId, hsame]⟩

/-- Every binding of traced references leads to the run. -/
theorem Binds.connected (h : Binds chain inputs graph run bindings)
    (hrun : run ∈ graph.nodes) {b : ReliabilityLineageBinding} (hb : b.nodeId = run.nodeId) :
    forM bindings (checkConnected graph b) = .ok () := by
  rw [forM_eq_ok]
  intro c hc
  obtain ⟨m, -, n, hn, -, hpath, hto⟩ := (h.bound c).mp hc
  rw [checkConnected]
  by_cases hrole : c.role = lit "run"
  · rw [if_pos hrole]
  · rw [if_neg hrole, hto.nodeId, hb, (ProvenanceGraph.reachable_eq_true hn.mem hrun).mpr hpath,
      ok_bind, require_true]

/-- A search through steps that all succeed finds what it looks for. -/
private theorem anyM_eq_ok {α : Type} {l : List α} {f : α → Except PyError Bool} {P : α → Prop}
    (h : ∀ a ∈ l, ∃ found, f a = .ok found ∧ (found = true ↔ P a)) :
    ∃ found, l.anyM f = .ok found ∧ (found = true ↔ ∃ a ∈ l, P a) := by
  induction l with
  | nil => exact ⟨false, rfl, by simp⟩
  | cons a l ih =>
    obtain ⟨⟨found, hfound, hiff⟩, hl⟩ := List.forall_mem_cons.mp h
    rw [List.anyM, hfound, ok_bind]
    cases found with
    | true => exact ⟨true, rfl, iff_of_true rfl ⟨a, List.mem_cons_self, hiff.mp rfl⟩⟩
    | false =>
      obtain ⟨rest, hrest, hany⟩ := ih hl
      refine ⟨rest, hrest, hany.trans ?_⟩
      rw [List.exists_mem_cons_iff, or_iff_right fun ha ↦ Bool.false_ne_true (hiff.mpr ha)]

/-- A node of a reference leads to that of a material reference with a digest. -/
def LeadsTo (chain : ReliabilityEvidenceChain) (inputs : List EvidenceReference)
    (graph : ProvenanceGraph) (reference : EvidenceReference) (d : Text) : Prop :=
  ∃ m ∈ materialReferences chain inputs, m.2.digest = d ∧ ∃ n p, Matches graph reference n ∧
    Matches graph m.2 p ∧ graph.Path n.nodeId p.nodeId

/-- The search of the bindings that carry a digest finds whether one is led to. -/
theorem Binds.anyM_reachable (h : Binds chain inputs graph run bindings) {n : ProvenanceNode}
    (hn : Matches graph r n) (hunique : ∀ p, Matches graph r p → p = n) (d : Text) :
    ∃ found, ((bindings.filter fun b ↦ b.digest = d).anyM fun b ↦
        graph.reachable n.nodeId b.nodeId) = .ok found ∧
      (found = true ↔ LeadsTo chain inputs graph r d) := by
  obtain ⟨found, hfound, hiff⟩ := anyM_eq_ok (l := bindings.filter fun b ↦ b.digest = d)
    (f := fun b ↦ graph.reachable n.nodeId b.nodeId)
    (P := fun b ↦ graph.Path n.nodeId b.nodeId) fun b hb ↦ by
      obtain ⟨m, -, p, hp, -, -, hto⟩ := (h.bound b).mp (List.mem_of_mem_filter hb)
      rw [hto.nodeId]
      exact ProvenanceGraph.reachable_eq_ok hn.mem hp.mem
  refine ⟨found, hfound, hiff.trans ?_⟩
  constructor
  · rintro ⟨b, hb, hpath⟩
    obtain ⟨hb, hdigest⟩ := List.mem_filter.mp hb
    obtain ⟨m, hm, p, hp, -, -, hto⟩ := (h.bound b).mp hb
    rw [hto.nodeId] at hpath
    exact ⟨m, hm, hto.digest.symm.trans (of_decide_eq_true hdigest), n, p, hn, hp, hpath⟩
  · rintro ⟨m, hm, hdigest, n', p, hn', hp, hpath⟩
    obtain ⟨b, hb, hdigest', hnodeId⟩ := h.exists_binding hm hp
    rw [hunique n' hn', ← hnodeId] at hpath
    exact ⟨b, List.mem_filter.mpr ⟨hb, decide_eq_true (hdigest'.trans hdigest)⟩, hpath⟩

/-- A declared input passes exactly when it is there for verification or led to. -/
theorem Binds.checkBasisInput_eq_ok (h : Binds chain inputs graph run bindings)
    (hbasis : chain.decisionBasisRef = some r) {d : Text} :
    checkBasisInput chain graph bindings d = .ok () ↔
      d ∈ contextDigests chain ∨ LeadsTo chain inputs graph r d := by
  have hmem : (lit "decision_basis", r) ∈ materialReferences chain inputs :=
    mem_materialReferences.mpr (.inr (.inr (.inr (.inl ⟨r, hbasis, rfl⟩))))
  obtain ⟨basis, n, hfind, hn, hunique, hnode⟩ := h.find?_role hmem fun x hx ↦ by
    have hx := basis_mem_materialReferences hx
    rw [hbasis] at hx
    exact (Option.some.inj hx).symm
  by_cases hcontext : d ∈ contextDigests chain
  · rw [checkBasisInput, if_pos hcontext]
    exact iff_of_true rfl (.inl hcontext)
  obtain ⟨found, hfound, hiff⟩ := h.anyM_reachable hn hunique d
  rw [checkBasisInput, if_neg hcontext, or_iff_right hcontext, ← hiff, hfind]
  dsimp only
  rw [require_bind_eq_ok, orRaise_some, ok_bind, hnode, hfound, ok_bind, require_eq_ok]
  refine and_iff_right_of_imp fun htrue ↦ ?_
  cases hcandidates : bindings.filter fun b ↦ b.digest = d with
  | cons b rest => rfl
  | nil =>
    rw [hcandidates] at hfound
    cases hfound
    cases htrue

/-- The decision basis of a chain declares inputs of its lineage only, and leads to each that is
not there for verification alone. -/
def BasisReaches (root : SourceRoot) (chain : ReliabilityEvidenceChain)
    (inputs : List EvidenceReference) (graph : ProvenanceGraph) : Prop :=
  ∀ reference, chain.decisionBasisRef = some reference →
    ∃ digests, basisDigests root reference = .ok digests ∧ ∀ d ∈ digests,
      d ∈ contextDigests chain ∨
        (d ∈ lineageDigests chain ∧ LeadsTo chain inputs graph reference d)

/-- The check of the decision basis is that it reaches its inputs. -/
theorem Binds.checkDecisionBasis_eq_ok (h : Binds chain inputs graph run bindings) :
    checkDecisionBasis root chain graph bindings = .ok () ↔
      BasisReaches root chain inputs graph := by
  cases hbasis : chain.decisionBasisRef with
  | none =>
    rw [checkDecisionBasis, hbasis]
    refine iff_of_true rfl fun reference hreference ↦ ?_
    rw [hbasis] at hreference
    cases hreference
  | some reference =>
    have hiff : ∀ digests : List Text, ((∀ d ∈ digests, d ∈ lineageDigests chain ++
        contextDigests chain) ∧ ∀ d ∈ digests, d ∈ contextDigests chain ∨
          LeadsTo chain inputs graph reference d) ↔
        ∀ d ∈ digests, d ∈ contextDigests chain ∨
          (d ∈ lineageDigests chain ∧ LeadsTo chain inputs graph reference d) := by
      intro digests
      rw [← forall₂_and]
      refine forall₂_congr fun d _ ↦ ?_
      rw [List.mem_append]
      tauto
    simp only [checkDecisionBasis, hbasis, bind_eq_ok, require_eq_ok, Unique.exists_iff,
      forM_eq_ok, h.checkBasisInput_eq_ok hbasis, List.isEmpty_iff, List.filter_eq_nil_iff,
      decide_eq_true_eq, not_not, hiff]
    constructor
    · rintro hdigests reference' hreference
      rw [hbasis] at hreference
      cases hreference
      exact hdigests
    · exact fun hreaches ↦ hreaches reference hbasis

/-! ### Closing a chain -/

/-- When a traced chain can be closed: the inputs of its comparison have distinct labels, no two
of its references are the same artifact, its decision basis reaches what it declares, and its graph
can be encoded. -/
structure Closable (root : SourceRoot) (chain : ReliabilityEvidenceChain)
    (inputs : List EvidenceReference) (graph : ProvenanceGraph) : Prop where
  labels : (inputs.map inputLabel).Nodup
  artifacts : ((materialReferences chain inputs).map fun m ↦ (m.2.identity, m.2.digest)).Nodup
  basis : BasisReaches root chain inputs graph
  encodable : ∃ digest, graph.graphDigest = .ok digest

private theorem writable_closure (c : ReliabilityLineageClosure) :
    Json.Writable (.obj c.payload) := by
  have hbindings : Json.Writable (.arr (c.bindings.map fun b ↦ .obj b.toDict)) := by
    rw [Json.writable_arr]
    intro v hv
    obtain ⟨b, -, rfl⟩ := List.mem_map.mp hv
    simp [ReliabilityLineageBinding.toDict, Dict.Distinct]
  rw [Json.writable_obj]
  simp only [ReliabilityLineageClosure.payload, List.forall_mem_cons]
  refine ⟨by simp [Dict.Distinct], ?_, ?_, ?_, ⟨?_, hbindings⟩, ?_, List.forall_mem_nil _⟩
  all_goals simp

/-- Bindings of roles that can be encoded, to nodes of a graph that can, have a digest. -/
theorem Binds.computedDigest_isOk (h : Binds chain inputs graph run bindings) {digest : Text}
    (hdigest : graph.graphDigest = .ok digest)
    (hroles : ∀ m ∈ materialReferences chain inputs, SurrogateFree m.1) :
    ∃ d, ReliabilityLineageClosure.computedDigest ⟨lit "1", digest, lit "run", bindings,
      (bindings.filter fun b ↦ b.role ≠ lit "run").map ReliabilityLineageBinding.role, []⟩ =
        .ok d := by
  have hbinding : ∀ b ∈ bindings, SurrogateFree b.role ∧ SurrogateFree b.nodeId ∧
      SurrogateFree b.identity := by
    intro b hb
    obtain ⟨m, hm, n, hn, -, -, hto⟩ := (h.bound b).mp hb
    obtain ⟨hnodeId, hidentity⟩ := ProvenanceGraph.surrogateFree_of_graphDigest hdigest hn.mem
    rw [hn.identity] at hidentity
    rw [hto.role, hto.nodeId, hto.identity]
    exact ⟨hroles m hm, hnodeId, hidentity⟩
  obtain ⟨content, hcontent⟩ := (canonicalBytes_isOk_iff (writable_closure ⟨lit "1", digest,
      lit "run", bindings, (bindings.filter fun b ↦ b.role ≠ lit "run").map
        ReliabilityLineageBinding.role, []⟩)).mpr (by
    have hstr : ∀ {s : Text}, SurrogateFree s → ∀ t ∈ Json.texts (.str s), SurrogateFree t := by
      intro s hs t ht
      rw [Json.mem_texts_str.mp ht]
      exact hs
    have hbindings : ∀ t ∈ Json.texts (.arr (bindings.map fun b ↦ .obj b.toDict)),
        SurrogateFree t := by
      intro t ht
      obtain ⟨v, hv, ht⟩ := Json.mem_texts_arr.mp ht
      obtain ⟨b, hb, rfl⟩ := List.mem_map.mp hv
      obtain ⟨hrole, hnodeId, hidentity⟩ := hbinding b hb
      refine Json.forall_texts_obj.mpr ?_ t ht
      simp only [ReliabilityLineageBinding.toDict, List.forall_mem_cons]
      exact ⟨⟨surrogateFree_lit _, hstr hrole⟩, ⟨surrogateFree_lit _, hstr hnodeId⟩,
        ⟨surrogateFree_lit _, hstr hidentity⟩,
        ⟨surrogateFree_lit _, hstr (surrogateFree_of_isSha256 b.digested)⟩, nofun⟩
    have hreachable : ∀ t ∈ Json.texts (.arr (((bindings.filter fun b ↦ b.role ≠ lit "run").map
        ReliabilityLineageBinding.role).map .str)), SurrogateFree t := by
      intro t ht
      obtain ⟨v, hv, ht⟩ := Json.mem_texts_arr.mp ht
      obtain ⟨role, hrole, rfl⟩ := List.mem_map.mp hv
      obtain ⟨b, hb, rfl⟩ := List.mem_map.mp hrole
      exact hstr (hbinding b (List.mem_of_mem_filter hb)).1 t ht
    rw [Json.forall_texts_obj]
    simp only [ReliabilityLineageClosure.payload, List.forall_mem_cons]
    exact ⟨⟨surrogateFree_lit _, hstr (surrogateFree_lit _)⟩, ⟨surrogateFree_lit _,
      hstr (surrogateFree_of_isSha256 (ProvenanceGraph.isSha256_of_graphDigest hdigest))⟩,
      ⟨surrogateFree_lit _, hstr (surrogateFree_lit _)⟩, ⟨surrogateFree_lit _, hbindings⟩,
      ⟨surrogateFree_lit _, hreachable⟩, nofun⟩)
  exact ⟨sha256 content, by rw [ReliabilityLineageClosure.computedDigest, hcontent]; rfl⟩

/-- The constructor accepts the bindings of a graph exactly when roles and nodes are distinct. -/
theorem Binds.create_isOk_iff (h : Binds chain inputs graph run bindings) {digest : Text}
    (hdigest : graph.graphDigest = .ok digest)
    (hroles : ∀ m ∈ materialReferences chain inputs, SurrogateFree m.1) :
    (∃ closure, ReliabilityLineageClosure.create ⟨lit "1", digest, lit "run", bindings,
      (bindings.filter fun b ↦ b.role ≠ lit "run").map ReliabilityLineageBinding.role, []⟩ =
        .ok closure) ↔
      (bindings.map ReliabilityLineageBinding.role).Nodup ∧
        (bindings.map ReliabilityLineageBinding.nodeId).Nodup := by
  obtain ⟨d, hd⟩ := h.computedDigest_isOk hdigest hroles
  have hrun : lit "run" ∈ bindings.map ReliabilityLineageBinding.role := by
    rw [h.roles]
    exact List.mem_map_of_mem (mem_materialReferences.mpr (.inl rfl))
  have hne : bindings.isEmpty = false := by
    cases bindings with
    | nil => cases hrun
    | cons b rest => rfl
  have hreachable : ∀ role ∈ (bindings.filter fun b ↦ b.role ≠ lit "run").map
      ReliabilityLineageBinding.role, role ∈ bindings.map ReliabilityLineageBinding.role := by
    intro role hrole
    obtain ⟨b, hb, rfl⟩ := List.mem_map.mp hrole
    exact List.mem_map_of_mem (List.mem_of_mem_filter hb)
  simp only [ReliabilityLineageClosure.create, ReliabilityLineageClosure.roles,
    ReliabilityLineageClosure.nodeIds, hd, ok_bind, bind_eq_ok, require_eq_ok, exists_const,
    decide_eq_true_eq, ProvenanceGraph.isSha256_of_graphDigest hdigest, hne, hrun,
    List.isEmpty_nil, Bool.true_or, Bool.not_false, true_and]
  constructor
  · rintro ⟨closure, hnodup, hnodes, -⟩
    exact ⟨of_decide_eq_true hnodup, of_decide_eq_true hnodes⟩
  · rintro ⟨hnodup, hnodes⟩
    exact ⟨_, decide_eq_true hnodup, decide_eq_true hnodes, decide_eq_true hreachable, rfl⟩

end

/-- A graph that was found for a chain has lawful nodes. -/
theorem lawful_of_provenanceGraph (h : provenanceGraph root chain = .ok graph) :
    ∀ n ∈ graph.nodes, n.Lawful := by
  simp only [provenanceGraph, bind_eq_ok] at h
  obtain ⟨_, -, _, -, _, -, _, -, g, hg, _, -, _, -, h⟩ := h
  rw [← Except.ok.inj h]
  exact lawful_of_loadProvenanceGraph hg

/-- The kinds of the inputs of a chain's comparison can be encoded. -/
theorem surrogateFree_of_comparisonInputs (h : comparisonInputs root chain = .ok inputs) :
    ∀ r ∈ inputs, SurrogateFree r.kind := by
  rw [comparisonInputs] at h
  split at h
  · cases h
    exact nofun
  · rw [bind_eq_ok] at h
    obtain ⟨comparison, hcomparison, h⟩ := h
    rw [← Except.ok.inj h]
    exact ReliabilityBehavioralComparison.surrogateFree_of_load hcomparison

private theorem closes_iff (hgraph : provenanceGraph root chain = .ok graph)
    (hinputs : comparisonInputs root chain = .ok inputs) (htraced : Traced chain inputs graph) :
    (∃ closure, buildReliabilityLineageClosure root chain = .ok closure) ↔
      Closable root chain inputs graph := by
  obtain ⟨run, hrun, htraced⟩ := htraced
  have hrole := fun m (hm : m ∈ materialReferences chain inputs) ↦
    role_of_mem hm (surrogateFree_of_comparisonInputs hinputs)
  obtain ⟨bindings, hbindings, hbinds⟩ := exists_binds (lawful_of_provenanceGraph hgraph)
    (fun m hm ↦ (hrole m hm).1) htraced
  have hmem : (lit "run", chain.run) ∈ materialReferences chain inputs :=
    mem_materialReferences.mpr (.inl rfl)
  obtain ⟨b, n, hfind, hn, hunique, hnode⟩ := hbinds.find?_role hmem
    fun x hx ↦ run_mem_materialReferences hx
  rw [← hunique run hrun] at hnode
  have hcreate : ∀ digest, graph.graphDigest = .ok digest → _ := fun digest hdigest ↦
    hbinds.create_isOk_iff hdigest fun m hm ↦ by
      obtain ⟨n, hn, -⟩ := htraced m hm
      have hidentity := (ProvenanceGraph.surrogateFree_of_graphDigest hdigest hn.mem).2
      rw [hn.identity] at hidentity
      exact (hrole m hm).2 hidentity
  rw [buildReliabilityLineageClosure, hgraph, ok_bind, hinputs, ok_bind, hbindings, ok_bind, hfind,
    orRaise_some, ok_bind, hbinds.connected hrun.mem hnode, ok_bind]
  simp only [bind_eq_ok, Unique.exists_iff, hbinds.checkDecisionBasis_eq_ok, exists_and_left]
  constructor
  · rintro ⟨hbasis, closure, digest, hdigest, hclosure⟩
    obtain ⟨hroles, hnodes⟩ := (hcreate digest hdigest).mp ⟨closure, hclosure⟩
    rw [hbinds.roles, nodup_roles_iff] at hroles
    exact ⟨hroles, hbinds.nodup_nodeIds_iff.mp hnodes, hbasis, digest, hdigest⟩
  · intro h
    obtain ⟨digest, hdigest⟩ := h.encodable
    obtain ⟨closure, hclosure⟩ := (hcreate digest hdigest).mpr
      ⟨by rw [hbinds.roles, nodup_roles_iff]; exact h.labels,
        hbinds.nodup_nodeIds_iff.mpr h.artifacts⟩
    exact ⟨h.basis, closure, digest, hdigest, hclosure⟩

/-- A traced chain is closed exactly when it is closable. -/
theorem lineage_closes_iff (hgraph : provenanceGraph root chain = .ok graph)
    (hinputs : comparisonInputs root chain = .ok inputs) (htraced : Traced chain inputs graph) :
    (∃ closure, buildReliabilityLineageClosure root chain = .ok closure) ↔
      Closable root chain inputs graph :=
  closes_iff hgraph hinputs htraced

/-! ### A comparison with the state of its chain -/

/-- A captured state. -/
private def stateFile (stateId : String) : Bytes :=
  Utf8.ascii (Json.dumps Json.compact (.obj [(lit "state_id", .str (lit stateId)),
    (lit "captured_at", .str (lit "2024-01-01T00:00:00+00:00")),
    (lit "agent_version", .str (lit "1")), (lit "model", .str (lit "m")),
    (lit "prompt_digest", .str (lit "p"))]))

private def stateInput (role stateId source : String)
    (hn : ∀ s ∈ [lit role, lit "state", lit stateId, lit source], blank s = false)
    (hr : absolute (lit source) = false ∧ lit ".." ∉ components (slashes (lit source))) :
    ReliabilityComparisonInput :=
  ⟨lit role, lit "state", lit stateId, sha256 (stateFile stateId), lit source, hn,
    isSha256_sha256 _, hr⟩

/-- Two states of an agent that behaves the same. -/
private def unchanged (comparisonId : Text) : ReliabilityBehavioralComparison :=
  ⟨comparisonId, [stateInput "before_state" "b" "b.json" (by decide) (by decide)],
    [stateInput "after_state" "a" "a.json" (by decide) (by decide)],
    BehavioralDiff.payload ⟨[], none, none, [], [], []⟩, lit "none", []⟩

private def comparisonFile : Bytes :=
  let id := ((unchanged []).computedDigest.toOption).getD []
  Utf8.ascii (Json.dumps Json.compact (.obj ((lit "comparison_id", .str id) ::
    (unchanged id).payload)))

/-- The graph of a run, the two states, one piece of evidence and the comparison. -/
private def lineageNodes : List ProvenanceNode :=
  [⟨lit "run", lit "run", sha256 [], lit "r", [], none⟩,
    ⟨lit "before", lit "state", sha256 (stateFile "b"), lit "b", [lit "run"], none⟩,
    ⟨lit "after", lit "state", sha256 (stateFile "a"), lit "a", [lit "run"], none⟩,
    ⟨lit "evidence", lit "evidence", sha256 [], lit "e", [lit "run"], none⟩,
    ⟨lit "comparison", lit "comparison", sha256 comparisonFile, lit "c", [lit "run"], none⟩]

private def graphFile : Bytes :=
  Utf8.ascii (Json.dumps Json.compact
    (.obj [(lit "nodes", .arr (lineageNodes.map fun n ↦ .obj n.toDict))]))

private def comparedRoot : SourceRoot :=
  ⟨fun _ ↦ true, fun source ↦
    if source = lit "b.json" then some (stateFile "b")
    else if source = lit "a.json" then some (stateFile "a")
    else if source = lit "c.json" then some comparisonFile
    else if source = lit "g.json" then some graphFile
    else none⟩

/-- No evidence and no events were compared. -/
private def statesOnly : BehaviorSources :=
  ⟨fun _ ↦ .ok [], fun _ ↦ .ok none, fun _ _ ↦ .ok []⟩

private def comparedReference (kind identity : String) (digest : Text) (source : Option Text)
    (hk : ¬(blank (lit kind) = true ∨ blank (lit identity) = true)) (hd : isSha256 digest = true)
    (hs : ∀ s ∈ source, blank s = false) : EvidenceReference :=
  ⟨lit kind, lit identity, digest, source, none, hk, hd, hs, fun h ↦ absurd rfl h⟩

private theorem compared_accepts : Decision.review = .accept →
    VerificationStatus.verified = .verified ∧
      (ReconciliationState.verified = .verified ∨ ReconciliationState.verified = .recovered) ∧
        (ReliabilityState.degraded = .reliable ∨ ReliabilityState.degraded = .recovered) := nofun

private theorem compared_rejects : Decision.review = .reject →
    ReliabilityState.degraded = .unreliable ∨ ReliabilityState.degraded = .degraded := nofun

/-- A chain whose state is the later one of its comparison. -/
private def comparedChain : ReliabilityEvidenceChain where
  chainId := lit "chain"
  run := comparedReference "run" "r" (sha256 []) none (by decide)
    isSha256_sha256_nil EvidenceReference.unsourced
  state := comparedReference "state" "a" (sha256 (stateFile "a")) none (by decide)
    (isSha256_sha256 _) EvidenceReference.unsourced
  evidence := [comparedReference "evidence" "e" (sha256 []) none (by decide)
    isSha256_sha256_nil EvidenceReference.unsourced]
  provenance := comparedReference "provenance" "g" (sha256 graphFile) (some (lit "g.json"))
    (by decide) (isSha256_sha256 _) (by rintro s ⟨⟩; decide)
  integrity := comparedReference "integrity" "i" (sha256 []) none (by decide)
    isSha256_sha256_nil EvidenceReference.unsourced
  verificationStatus := .verified
  reliabilityState := .degraded
  reconciliationState := .verified
  reconciliationRef := none
  recoveryRef := none
  attestationRef := none
  decisionBasisRef := none
  comparisonRef := some (comparedReference "comparison" "c" (sha256 comparisonFile)
    (some (lit "c.json")) (by decide) (isSha256_sha256 _) (by rintro s ⟨⟩; decide))
  reconciliationBindingRef := none
  decision := .review
  decisionRationale := []
  named := .refl false
  runKind := rfl
  stateKind := rfl
  provenanceKind := rfl
  integrityKind := rfl
  basisKind := ReliabilityEvidenceChain.baseless
  comparisonKind := by rintro r ⟨⟩; rfl
  bindingKind := ReliabilityEvidenceChain.unreconciled
  evidenced := List.cons_ne_nil _ _
  reconciled := fun _ ↦ rfl
  accepts := compared_accepts
  rejects := compared_rejects

/-! The digests are evaluated once each, so that the files below are made of known texts. -/

private theorem sha256_empty : sha256 [] =
    ofWords [0xe3b0c442, 0x98fc1c14, 0x9afbf4c8, 0x996fb924,
      0x27ae41e4, 0x649b934c, 0xa495991b, 0x7852b855] := by
  decide +kernel

private theorem sha256_stateFile :
    sha256 (stateFile "b") =
      ofWords [0x5b816803, 0xc4278059, 0x08bead1a, 0xa2827b4a,
      0x82def0fb, 0x708fdb86, 0x368d6f89, 0xe29840f2] ∧
    sha256 (stateFile "a") =
      ofWords [0x94df4ee6, 0x68376482, 0xeb2a11df, 0x056b5acf,
      0x9ce0892a, 0xecc30d19, 0x01520fcc, 0xdd971ec9] := by
  simp only [sha256_eq_evaluated]
  decide +kernel

/-- The identity of the comparison of the example. -/
private def unchangedId : Text :=
  ofWords [0xcca9e4a0, 0xfd0abbf0, 0xd2a6c831, 0x445b8636,
      0x7e9e12ff, 0x11de0842, 0x3f7ca7cf, 0x93354b2f]

private theorem computedDigest_unchanged :
    (unchanged []).computedDigest.toOption = some unchangedId := by
  simp only [unchanged, stateInput, sha256_stateFile]
  simp only [ReliabilityBehavioralComparison.computedDigest, sha256_eq_evaluated]
  decide +kernel

private theorem comparisonFile_eq : comparisonFile = Utf8.ascii (Json.dumps Json.compact (.obj
    ((lit "comparison_id", .str unchangedId) :: (unchanged unchangedId).payload))) := by
  rw [comparisonFile, computedDigest_unchanged, Option.getD_some]

private theorem sha256_comparisonFile : sha256 comparisonFile =
    ofWords [0xc4a63b9d, 0xf6588ed2, 0x9d4d4278, 0x21ff0f41,
      0x07c5fa44, 0x703a709e, 0x376fcade, 0xa6276a7e] := by
  rw [comparisonFile_eq]
  simp only [unchanged, stateInput, sha256_stateFile]
  rw [sha256_eq_evaluated]
  decide +kernel

/-- What the graph of the example is loaded as. -/
private theorem graph_loads :
    (loadProvenanceGraph graphFile).toOption.map (fun g ↦ (g.nodes, g.graphDigest.toBool,
      (verifyArtifactDigests g comparedRoot).toBool, g.validateRequiredEdges.toBool)) =
      some (lineageNodes, true, true, true) := by
  have hwritable : Json.Writable (.obj [(lit "nodes", .arr (lineageNodes.map fun n ↦
      .obj n.toDict))]) := by
    simp [lineageNodes, ProvenanceNode.toDict, Dict.Distinct, optionJson]
  rw [loadProvenanceGraph, graphFile, loadObject_dumps hwritable]
  simp only [lineageNodes, sha256_stateFile, sha256_comparisonFile, sha256_empty]
  decide +kernel

/-- What the comparison of the example is loaded as. -/
private theorem comparison_loads :
    (ReliabilityBehavioralComparison.load comparisonFile).toOption.map
      (fun c ↦ (c.inputReferences, (verifyBehavioralComparison statesOnly comparedRoot c).toBool)) =
      some ((unchanged []).inputReferences, true) := by
  have hwritable : Json.Writable (.obj ((lit "comparison_id", .str unchangedId) ::
      (unchanged unchangedId).payload)) := by
    simp [unchanged, ReliabilityBehavioralComparison.payload, Dict.Distinct, stateInput,
      ReliabilityComparisonInput.toDict, BehavioralDiff.payload]
  rw [ReliabilityBehavioralComparison.load, comparisonFile_eq, loadObject_dumps hwritable]
  simp only [unchanged, stateInput, sha256_stateFile]
  decide +kernel

private theorem unit_of_toBool {x : Except PyError Unit} (h : x.toBool = true) : x = .ok () := by
  obtain ⟨u, hu⟩ := exists_ok_of_toBool h
  exact hu

private theorem ok_of_toOption {α : Type} {x : Except PyError α} {a : α}
    (h : x.toOption = some a) : x = .ok a := by
  cases x with
  | error e => cases h
  | ok b =>
    cases h
    rfl

/-- The graph of the example. -/
private theorem graph_compared : ∃ graph digest, provenanceGraph comparedRoot comparedChain =
    .ok graph ∧ graph.graphDigest = .ok digest ∧ graph.nodes = lineageNodes := by
  obtain ⟨graph, hgraph, heq⟩ := Option.map_eq_some_iff.mp graph_loads
  rw [Prod.mk.injEq, Prod.mk.injEq, Prod.mk.injEq] at heq
  obtain ⟨hnodes, hdigest, hfiles, hedges⟩ := heq
  obtain ⟨digest, hdigest⟩ := exists_ok_of_toBool hdigest
  refine ⟨graph, digest, ?_, hdigest, hnodes⟩
  have hsource : comparedChain.provenance.source = some (lit "g.json") := rfl
  have hfile : comparedRoot.file (slashes (lit "g.json")) = some graphFile := by
    have hname : slashes (lit "g.json") = lit "g.json" := by decide
    rw [hname]
    rfl
  have hsame : sha256 graphFile = comparedChain.provenance.digest := rfl
  have hinside : comparedRoot.inside (slashes (lit "g.json")) = true := rfl
  rw [provenanceGraph, hsource, orRaise_some, ok_bind, hinside, require_true, ok_bind, hfile,
    orRaise_some, ok_bind, hsame, decide_eq_true rfl, require_true, ok_bind,
    ok_of_toOption hgraph, ok_bind, unit_of_toBool hfiles, ok_bind, unit_of_toBool hedges, ok_bind]
  rfl

/-- The comparison of a chain is found under a root and bears its inputs out. -/
def ComparisonVerified (sources : BehaviorSources) (root : SourceRoot)
    (chain : ReliabilityEvidenceChain) : Prop :=
  ∃ reference source content comparison, chain.comparisonRef = some reference ∧
    reference.source = some source ∧ root.file (slashes source) = some content ∧
    sha256 content = reference.digest ∧
    ReliabilityBehavioralComparison.load content = .ok comparison ∧
    verifyBehavioralComparison sources root comparison = .ok ()

private theorem comparison_compared : ComparisonVerified statesOnly comparedRoot comparedChain ∧
    comparisonInputs comparedRoot comparedChain = .ok (unchanged []).inputReferences := by
  obtain ⟨comparison, hload, heq⟩ := Option.map_eq_some_iff.mp comparison_loads
  rw [Prod.mk.injEq] at heq
  obtain ⟨hinputs, hverified⟩ := heq
  have hname : slashes (lit "c.json") = lit "c.json" := by decide
  have hfile : comparedRoot.file (slashes (lit "c.json")) = some comparisonFile := by
    rw [hname]
    rfl
  have hload := ok_of_toOption hload
  refine ⟨⟨_, _, comparisonFile, comparison, rfl, rfl, hfile, rfl, hload,
    unit_of_toBool hverified⟩, ?_⟩
  have hsource : (comparedChain.comparisonRef.bind fun r ↦
      r.source.bind fun s ↦ comparedRoot.file (slashes s)) = some comparisonFile := hfile
  rw [comparisonInputs, hsource]
  dsimp only
  rw [hload, ok_bind, hinputs]
  rfl

/-- Every reference of the example has its node, next to that of the run. -/
private theorem traced_compared {graph : ProvenanceGraph} (hnodes : graph.nodes = lineageNodes) :
    Traced comparedChain (unchanged []).inputReferences graph := by
  have hidentities : (lineageNodes.map ProvenanceNode.identity).Nodup := by decide
  have hmaterial : (materialReferences comparedChain (unchanged []).inputReferences).map
      (fun m ↦ (m.2.identity, m.2.digest)) = [(lit "r", sha256 []), (lit "a", sha256 (stateFile "a")),
        (lit "e", sha256 []), (lit "c", sha256 comparisonFile), (lit "b", sha256 (stateFile "b")),
        (lit "a", sha256 (stateFile "a"))] := rfl
  have hsub : [(lit "r", sha256 []), (lit "a", sha256 (stateFile "a")), (lit "e", sha256 []),
      (lit "c", sha256 comparisonFile), (lit "b", sha256 (stateFile "b")),
      (lit "a", sha256 (stateFile "a"))] ⊆ lineageNodes.map fun n ↦ (n.identity, n.digest) := by
    simp [lineageNodes]
  have hrun : ∀ n ∈ lineageNodes, n.nodeId = lit "run" ∨ lit "run" ∈ n.derivedFrom := by decide
  refine ⟨⟨lit "run", lit "run", sha256 [], lit "r", [], none⟩,
    ⟨hnodes ▸ List.mem_cons_self, rfl, rfl⟩, fun m hm ↦ ?_⟩
  have hpair := hsub (hmaterial ▸ List.mem_map_of_mem hm)
  obtain ⟨n, hn, heq⟩ := List.mem_map.mp hpair
  rw [Prod.mk.injEq] at heq
  have hmem : n ∈ graph.nodes := hnodes ▸ hn
  refine ⟨n, ⟨hmem, heq.1, heq.2⟩, fun p hp ↦ ?_, ?_⟩
  · exact List.inj_on_of_nodup_map hidentities (hnodes ▸ hp.mem) hn (hp.identity.trans heq.1.symm)
  · dsimp only
    rcases hrun n hn with hid | hsource
    · rw [hid]
      exact .refl
    · refine .single ?_
      rw [Search.Edge, ProvenanceGraph.sources_of_mem hmem]
      exact hsource

/-- Not every traced chain whose comparison verifies is closed. -/
theorem not_lineage_closes : ¬∀ (sources : BehaviorSources) (root : SourceRoot)
    (chain : ReliabilityEvidenceChain) (graph : ProvenanceGraph) (inputs : List EvidenceReference)
    (digest : Text), provenanceGraph root chain = .ok graph → graph.graphDigest = .ok digest →
      ComparisonVerified sources root chain → comparisonInputs root chain = .ok inputs →
      Traced chain inputs graph →
        ∃ closure, buildReliabilityLineageClosure root chain = .ok closure := by
  intro hall
  obtain ⟨graph, digest, hgraph, hdigest, hnodes⟩ := graph_compared
  obtain ⟨hverified, hinputs⟩ := comparison_compared
  have htraced := traced_compared hnodes
  have hclosable := (closes_iff hgraph hinputs htraced).mp
    (hall _ _ _ _ _ _ hgraph hdigest hverified hinputs htraced)
  -- the state of the chain and the later input of the comparison are the same artifact
  have htwice : (lit "a", sha256 (stateFile "a")) ∉ _ :=
    (List.nodup_cons.mp (List.nodup_cons.mp hclosable.artifacts).2).1
  apply htwice
  simp [unchanged, ReliabilityBehavioralComparison.inputReferences, stateInput,
    ReliabilityComparisonInput.reference]

/-- The example is traced, and so closed exactly when closable. -/
theorem lineage_closes_iff_compared : ∃ graph, provenanceGraph comparedRoot comparedChain =
    .ok graph ∧ ((∃ closure, buildReliabilityLineageClosure comparedRoot comparedChain =
      .ok closure) ↔ Closable comparedRoot comparedChain (unchanged []).inputReferences graph) := by
  obtain ⟨graph, digest, hgraph, -, hnodes⟩ := graph_compared
  exact ⟨graph, hgraph, lineage_closes_iff hgraph comparison_compared.2 (traced_compared hnodes)⟩

end StateWake.Reliability
