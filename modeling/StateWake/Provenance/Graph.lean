import StateWake.Base.Search
import StateWake.Operations.Bundle

/-!
# Provenance graphs

`domain/provenance.py` and the loading of `services/provenance_service.py`. A graph exists only
when its constructor accepted it: node identifiers are distinct and sources are nodes.
-/

namespace StateWake.Provenance

open StateWake.Base Text Utils Operations

/-- `ProvenanceNode`, `domain/provenance.py:24–33`. -/
structure ProvenanceNode where
  nodeId : Text
  kind : Text
  digest : Text
  identity : Text
  derivedFrom : List Text
  path : Option Text
  deriving DecidableEq

namespace ProvenanceNode

/-- A path below a directory, `domain/provenance.py:45–50`. -/
def relative (path : Text) : Bool :=
  !blank path && !absolute path && !(components (slashes path)).contains (lit "..")

/-- What the constructor checks of a node. -/
structure Lawful (n : ProvenanceNode) : Prop where
  named : blank n.nodeId = false ∧ blank n.kind = false ∧ blank n.identity = false
  digested : isSha256 n.digest = true
  located : ∀ p ∈ n.path, relative p = true
  sourced : ∀ s ∈ n.derivedFrom, blank s = false
  other : n.nodeId ∉ n.derivedFrom

/-- The constructor's checks, `__post_init__` at `domain/provenance.py:35–54`. -/
def check (n : ProvenanceNode) : Except PyError Unit := do
  require ⟨.valueError, lit "node_id, kind, and identity must not be empty."⟩
    (blank n.nodeId = false ∧ blank n.kind = false ∧ blank n.identity = false)
  require ⟨.valueError, lit "digest must be lowercase SHA-256 hex."⟩ (isSha256 n.digest)
  require ⟨.valueError, lit "path must be relative and must not contain '..'."⟩
    (n.path.all relative)
  require ⟨.valueError, lit "derived_from must not contain blank values."⟩
    (∀ s ∈ n.derivedFrom, blank s = false)
  require ⟨.valueError, lit "a provenance node cannot derive from itself."⟩
    (n.nodeId ∉ n.derivedFrom)

/-- The constructor accepts exactly lawful nodes. -/
theorem check_eq_ok {n : ProvenanceNode} : n.check = .ok () ↔ n.Lawful := by
  simp only [check, require_bind_eq_ok, require_eq_ok, decide_eq_true_eq,
    Option.all_eq_true_iff_get]
  constructor
  · rintro ⟨hnamed, hdigested, hlocated, hsourced, hother⟩
    refine ⟨hnamed, hdigested, fun p hp ↦ ?_, hsourced, hother⟩
    have h := hlocated (Option.isSome_iff_exists.mpr ⟨p, hp⟩)
    rw [Option.get_of_eq_some _ hp] at h
    exact h
  · intro h
    exact ⟨h.named, h.digested, fun hsome ↦ h.located _ (Option.some_get hsome).symm, h.sourced,
      h.other⟩

/-- `to_dict`, `domain/provenance.py:56–65`. -/
def toDict (n : ProvenanceNode) : Dict Json :=
  [(lit "node_id", .str n.nodeId),
    (lit "kind", .str n.kind),
    (lit "digest", .str n.digest),
    (lit "identity", .str n.identity),
    (lit "derived_from", .arr (n.derivedFrom.map .str)),
    (lit "path", optionJson n.path)]

end ProvenanceNode

/-- The identifiers of nodes. -/
def nodeIds (nodes : List ProvenanceNode) : List Text := nodes.map ProvenanceNode.nodeId

/-- What the constructor of a graph checks. -/
structure Connected (nodes : List ProvenanceNode) (requiredEdges : List (Text × Text)) :
    Prop where
  distinct : (nodeIds nodes).Nodup
  sourced : ∀ n ∈ nodes, ∀ s ∈ n.derivedFrom, s ∈ nodeIds nodes
  edged : ∀ e ∈ requiredEdges, e.1 ∈ nodeIds nodes ∧ e.2 ∈ nodeIds nodes

/-- `ProvenanceGraph`, `domain/provenance.py:68–73`, with what its constructor checked. -/
structure ProvenanceGraph where
  nodes : List ProvenanceNode
  requiredEdges : List (Text × Text)
  connected : Connected nodes requiredEdges

namespace ProvenanceGraph

/-- The constructor's checks, `__post_init__` at `domain/provenance.py:75–91`. -/
def check (nodes : List ProvenanceNode) (requiredEdges : List (Text × Text)) :
    Except PyError Unit := do
  require ⟨.valueError, lit "provenance node IDs must be unique."⟩ (nodeIds nodes).Nodup
  forM nodes fun n ↦ do
    let unknown := n.derivedFrom.filter fun s ↦ s ∉ nodeIds nodes
    require ⟨.valueError, lit "node '" ++ n.nodeId ++ lit "' references unknown provenance: " ++
      List.intercalate (lit ", ") unknown⟩ unknown.isEmpty
  forM requiredEdges fun e ↦
    require ⟨.valueError, lit "required provenance edges must reference known node IDs."⟩
      (e.1 ∈ nodeIds nodes ∧ e.2 ∈ nodeIds nodes)

theorem check_eq_ok {nodes : List ProvenanceNode} {requiredEdges : List (Text × Text)} :
    check nodes requiredEdges = .ok () ↔ Connected nodes requiredEdges := by
  simp only [check, bind_eq_ok, Unique.exists_iff, PUnit.default_eq_unit, require_eq_ok,
    forM_eq_ok, decide_eq_true_eq, List.isEmpty_iff, List.filter_eq_nil_iff, not_not]
  constructor
  · rintro ⟨hdistinct, hsourced, hedged⟩
    exact ⟨hdistinct, hsourced, hedged⟩
  · intro h
    exact ⟨h.distinct, h.sourced, h.edged⟩

/-- The constructor. -/
def create (nodes : List ProvenanceNode) (requiredEdges : List (Text × Text)) :
    Except PyError ProvenanceGraph :=
  match h : check nodes requiredEdges with
  | .ok () => .ok ⟨nodes, requiredEdges, check_eq_ok.mp h⟩
  | .error e => .error e

/-- The constructor accepts exactly connected nodes. -/
theorem create_of_connected {nodes : List ProvenanceNode} {requiredEdges : List (Text × Text)}
    (h : Connected nodes requiredEdges) :
    create nodes requiredEdges = .ok ⟨nodes, requiredEdges, h⟩ := by
  rw [create]
  split
  · rfl
  next e he =>
    rw [check_eq_ok.mpr h] at he
    cases he

theorem connected_of_create {nodes : List ProvenanceNode} {requiredEdges : List (Text × Text)}
    {g : ProvenanceGraph} (h : create nodes requiredEdges = .ok g) :
    g.nodes = nodes ∧ g.requiredEdges = requiredEdges := by
  rw [create] at h
  split at h
  · cases h
    exact ⟨rfl, rfl⟩
  · cases h

/-- The identifiers of the nodes. -/
def ids (g : ProvenanceGraph) : List Text := nodeIds g.nodes

/-- The node of an identifier. -/
def node? (g : ProvenanceGraph) (nodeId : Text) : Option ProvenanceNode :=
  g.nodes.find? fun n ↦ n.nodeId = nodeId

/-- `node`, `domain/provenance.py:93–98`. -/
def node (g : ProvenanceGraph) (nodeId : Text) : Except PyError ProvenanceNode :=
  orRaise ⟨.keyError, nodeId⟩ (g.node? nodeId)

/-- The sources of a node. Every source of a node is a node, so following them finds one. -/
def sources (g : ProvenanceGraph) (nodeId : Text) : List Text :=
  (g.node? nodeId).elim [] ProvenanceNode.derivedFrom

variable {g : ProvenanceGraph} {n : ProvenanceNode} {nodeId : Text}

theorem mem_ids : nodeId ∈ g.ids ↔ ∃ n ∈ g.nodes, n.nodeId = nodeId := List.mem_map

theorem node?_of_mem (h : n ∈ g.nodes) : g.node? n.nodeId = some n := by
  obtain ⟨m, hm⟩ : ∃ m, g.node? n.nodeId = some m :=
    Option.isSome_iff_exists.mp (List.find?_isSome.mpr ⟨n, h, decide_eq_true rfl⟩)
  have hid := List.find?_some hm
  have heq := List.inj_on_of_nodup_map g.connected.distinct (List.mem_of_find?_eq_some hm) h
    (of_decide_eq_true hid)
  rw [hm, heq]

theorem node_eq_ok (h : n ∈ g.nodes) : g.node n.nodeId = .ok n := by
  rw [node, node?_of_mem h, orRaise_some]

@[simp] theorem sources_of_mem (h : n ∈ g.nodes) : g.sources n.nodeId = n.derivedFrom := by
  rw [sources, node?_of_mem h]
  rfl

/-- Sources are nodes. -/
theorem closed_sources (g : ProvenanceGraph) : Search.Closed g.sources g.ids := by
  intro x hx y hy
  obtain ⟨n, hn, rfl⟩ := mem_ids.mp hx
  rw [sources_of_mem hn] at hy
  exact g.connected.sourced n hn y hy

/-! ### Cycles and paths -/

/-- A path along sources. -/
def Path (g : ProvenanceGraph) (start target : Text) : Prop :=
  Relation.ReflTransGen (Search.Edge g.sources) start target

/-- No node derives from itself through others. -/
def Acyclic (g : ProvenanceGraph) : Prop :=
  ∀ x ∈ g.ids, ¬Relation.TransGen (Search.Edge g.sources) x x

/-- `validate_acyclic`, `domain/provenance.py:129–147`. -/
def validateAcyclic (g : ProvenanceGraph) : Except PyError Unit := do
  let _ ← orRaise ⟨.valueError, lit "provenance graph cycle detected."⟩
    (Search.visitAll g.sources g.ids)
  pure ()

theorem validateAcyclic_eq_ok : g.validateAcyclic = .ok () ↔ g.Acyclic := by
  rw [Acyclic, ← Search.visitAll_isSome_iff g.closed_sources, Option.isSome_iff_exists]
  simp only [validateAcyclic, bind_eq_ok, orRaise_eq_ok]
  exact exists_congr fun _ ↦ and_iff_left rfl

/-- The edges of a graph. -/
def edges (g : ProvenanceGraph) : List (Text × Text) :=
  g.nodes.flatMap fun n ↦ n.derivedFrom.map fun parent ↦ (n.nodeId, parent)

/-- `validate_required_edges`, `domain/provenance.py:149–160`. -/
def validateRequiredEdges (g : ProvenanceGraph) : Except PyError Unit := do
  g.validateAcyclic
  let missing := g.requiredEdges.filter fun e ↦ e ∉ g.edges
  require ⟨.valueError, lit "required provenance edges are missing: " ++
    List.intercalate (lit ", ") (missing.map fun e ↦ e.1 ++ lit "->" ++ e.2)⟩ missing.isEmpty

theorem validateRequiredEdges_eq_ok : g.validateRequiredEdges = .ok () ↔
    g.Acyclic ∧ ∀ e ∈ g.requiredEdges, e ∈ g.edges := by
  simp only [validateRequiredEdges, bind_eq_ok, Unique.exists_iff, PUnit.default_eq_unit,
    validateAcyclic_eq_ok, require_eq_ok, List.isEmpty_iff, List.filter_eq_nil_iff, decide_eq_true_eq,
    not_not]

/-- `reachable`, `domain/provenance.py:172–186`. -/
def reachable (g : ProvenanceGraph) (start target : Text) : Except PyError Bool := do
  let _ ← g.node start
  let _ ← g.node target
  pure (Search.find g.sources target (Search.edgeCount g.sources g.ids + 2) [] [start])

/-- Between nodes, what is reachable is what a path leads to. -/
theorem reachable_eq_ok {m : ProvenanceNode} (hn : n ∈ g.nodes) (hm : m ∈ g.nodes) :
    ∃ found, g.reachable n.nodeId m.nodeId = .ok found ∧
      (found = true ↔ g.Path n.nodeId m.nodeId) := by
  refine ⟨_, by rw [reachable, node_eq_ok hn, ok_bind, node_eq_ok hm, ok_bind]; rfl, ?_⟩
  exact Search.find_iff g.closed_sources (mem_ids.mpr ⟨n, hn, rfl⟩)

theorem reachable_eq_true {m : ProvenanceNode} (hn : n ∈ g.nodes) (hm : m ∈ g.nodes) :
    g.reachable n.nodeId m.nodeId = .ok true ↔ g.Path n.nodeId m.nodeId := by
  obtain ⟨found, hfound, hiff⟩ := reachable_eq_ok hn hm
  rw [hfound, Except.ok.injEq, hiff]

/-! ### Identity -/

/-- `payload`, `domain/provenance.py:100–108`. -/
def payload (g : ProvenanceGraph) : Dict Json :=
  [(lit "nodes", .arr ((g.nodes.insertionSort fun a b ↦ a.nodeId ≤ b.nodeId).map fun n ↦
      .obj n.toDict)),
    (lit "required_edges", .arr ((g.requiredEdges.insertionSort fun a b ↦
      a.1 < b.1 ∨ (a.1 = b.1 ∧ a.2 ≤ b.2)).map fun e ↦ .arr [.str e.1, .str e.2]))]

/-- `graph_digest`, `domain/provenance.py:110–112`. -/
def graphDigest (g : ProvenanceGraph) : Except PyError Text := do
  let content ← canonicalBytes g.payload
  pure (sha256 content)

theorem isSha256_of_graphDigest {d : Text} (h : g.graphDigest = .ok d) : isSha256 d = true := by
  rw [graphDigest, bind_eq_ok] at h
  obtain ⟨content, -, h⟩ := h
  cases h
  exact isSha256_sha256 content

/-- UTF-8 can encode the texts of a graph that has a digest. -/
theorem surrogateFree_of_graphDigest {d : Text} (h : g.graphDigest = .ok d) (hn : n ∈ g.nodes) :
    SurrogateFree n.nodeId ∧ SurrogateFree n.identity := by
  rw [graphDigest, bind_eq_ok] at h
  obtain ⟨content, hcontent, -⟩ := h
  have htexts := Json.forall_texts_obj.mp (surrogateFree_of_canonicalBytes hcontent)
  rw [payload, List.forall_mem_cons] at htexts
  have hnode : ∀ s ∈ Json.texts (.obj n.toDict), SurrogateFree s := by
    intro s hs
    refine htexts.1.2 s (Json.mem_texts_arr.mpr ⟨_, List.mem_map_of_mem ?_, hs⟩)
    exact (List.mem_insertionSort _).mpr hn
  rw [Json.forall_texts_obj] at hnode
  simp only [ProvenanceNode.toDict, List.forall_mem_cons] at hnode
  exact ⟨hnode.1.2 _ (Json.mem_texts_str.mpr rfl), hnode.2.2.2.1.2 _ (Json.mem_texts_str.mpr rfl)⟩

end ProvenanceGraph

/-! ### Loading -/

/-- One entry of `nodes`, `services/provenance_service.py:31–43`. -/
def nodeFromDict (raw : Json) : Except PyError ProvenanceNode := do
  let members ← orRaise ⟨.valueError, lit "each provenance node must be an object."⟩ raw.asObject
  let derivedFrom ← iterTexts ((members.get? (lit "derived_from")).getD (.arr []))
  let n : ProvenanceNode := ⟨optionalText members (lit "node_id"),
    optionalText members (lit "kind"), optionalText members (lit "digest"),
    optionalText members (lit "identity"), derivedFrom, nullableText members (lit "path")⟩
  n.check
  pure n

/-- One entry of `required_edges`, `services/provenance_service.py:48–51`. -/
def edgeFromList (raw : Json) : Except PyError (Text × Text) :=
  match raw with
  | .arr [child, parent] => .ok (child.pyStr, parent.pyStr)
  | _ => valueError (lit "each required edge must be a two-item array.")

/-- `load_provenance_graph`, `services/provenance_service.py:22–56`, of a file's bytes. -/
def loadProvenanceGraph (raw : Bytes) : Except PyError ProvenanceGraph := do
  let members ← loadObject raw (lit "payload")
  let rawNodes ← orRaise ⟨.valueError, lit "nodes must be a non-empty JSON array."⟩
    ((members.get? (lit "nodes")).bind Json.asList)
  require ⟨.valueError, lit "nodes must be a non-empty JSON array."⟩ (!rawNodes.isEmpty)
  let nodes ← rawNodes.mapM nodeFromDict
  let rawEdges ← orRaise ⟨.valueError, lit "required_edges must be a JSON array."⟩
    ((members.get? (lit "required_edges")).getD (.arr [])).asList
  let requiredEdges ← rawEdges.mapM edgeFromList
  let graph ← ProvenanceGraph.create nodes requiredEdges
  match members.get? (lit "graph_digest") with
  | none | some .null => pure graph
  | some supplied => do
    let digest ← graph.graphDigest
    require ⟨.valueError, lit "provenance graph digest does not match contents."⟩
      (supplied = .str digest)
    pure graph

/-- The nodes of a loaded graph are lawful. -/
theorem lawful_of_loadProvenanceGraph {raw : Bytes} {g : ProvenanceGraph}
    (h : loadProvenanceGraph raw = .ok g) : ∀ n ∈ g.nodes, n.Lawful := by
  have hlawful : ∀ {members : List Json} {nodes : List ProvenanceNode},
      members.mapM nodeFromDict = .ok nodes → ∀ n ∈ nodes, n.Lawful := by
    intro members nodes hnodes n hn
    obtain ⟨raw, -, hraw⟩ := (mem_of_mapM_eq_ok hnodes).mp hn
    simp only [nodeFromDict, bind_eq_ok] at hraw
    obtain ⟨_, -, _, -, _, hcheck, hraw⟩ := hraw
    rw [← Except.ok.inj hraw]
    exact ProvenanceNode.check_eq_ok.mp hcheck
  simp only [loadProvenanceGraph, bind_eq_ok] at h
  obtain ⟨members, -, rawNodes, -, _, -, nodes, hnodes, rawEdges, -, edges, -, graph, hgraph, h⟩ :=
    h
  have heq : graph = g := by
    split at h
    · exact Except.ok.inj h
    · exact Except.ok.inj h
    · simp only [bind_eq_ok] at h
      obtain ⟨_, -, _, -, h⟩ := h
      exact Except.ok.inj h
  rw [← heq, (ProvenanceGraph.connected_of_create hgraph).1]
  exact hlawful hnodes

/-! ### Artifacts -/

/-- What a root directory shows of a relative source: whether it stays inside once resolved, and
the bytes of the file it names, if it names one. -/
structure SourceRoot where
  inside : Text → Bool
  file : Text → Option Bytes

/-- `verify_artifact_digests`, `services/provenance_service.py:128–149`. -/
def verifyArtifactDigests (g : ProvenanceGraph) (root : SourceRoot) : Except PyError Unit := do
  let mismatches ← g.nodes.mapM fun n ↦
    match n.path with
    | none => pure none
    | some path => do
      require ⟨.valueError, lit "provenance artifact path escapes graph directory: " ++ path⟩
        (root.inside path)
      let content ← orRaise ⟨.fileNotFoundError, lit "provenance artifact not found: " ++ path⟩
        (root.file path)
      pure (if sha256 content = n.digest then none else
        some (n.nodeId ++ lit ": expected " ++ n.digest ++ lit ", got " ++ sha256 content))
  let mismatches := mismatches.filterMap id
  require ⟨.valueError, lit "provenance artifact digest mismatches: " ++
    List.intercalate (lit "; ") mismatches⟩ mismatches.isEmpty

end StateWake.Provenance
