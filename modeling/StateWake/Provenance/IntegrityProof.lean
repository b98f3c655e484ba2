import StateWake.Provenance.Graph

/-!
# Integrity proofs

The queries of `domain/provenance.py` over the relation the nodes state, whatever the graph, and
`build_integrity_proof` of `services/provenance_service.py`, which collects their answers.
-/

namespace StateWake.Provenance

open StateWake.Base Text Utils

namespace ProvenanceGraph

variable {g : ProvenanceGraph} {x y : Text}

/-- Some node of the identifier names the other among its sources. -/
def DerivesFrom (g : ProvenanceGraph) (x y : Text) : Prop :=
  ∃ n ∈ g.nodes, n.nodeId = x ∧ y ∈ n.derivedFrom

/-- Following sources follows what the nodes state. -/
theorem edge_sources_iff : Search.Edge g.sources x y ↔ g.DerivesFrom x y := by
  constructor
  · intro h
    cases hnode : g.node? x with
    | none =>
      rw [Search.Edge, sources, hnode] at h
      exact absurd h List.not_mem_nil
    | some n =>
      have hmem : n ∈ g.nodes := List.mem_of_find?_eq_some hnode
      have hid := List.find?_some hnode
      rw [Search.Edge, sources, hnode] at h
      exact ⟨n, hmem, of_decide_eq_true hid, h⟩
  · intro h
    obtain ⟨n, hmem, rfl, hsource⟩ := h
    rw [Search.Edge, sources_of_mem hmem]
    exact hsource

theorem edge_sources_eq : Search.Edge g.sources = g.DerivesFrom := by
  ext x y
  exact edge_sources_iff

/-- Only nodes derive from anything. -/
theorem DerivesFrom.mem_left (h : g.DerivesFrom x y) : x ∈ g.ids := by
  obtain ⟨n, hmem, hid, -⟩ := h
  exact mem_ids.mpr ⟨n, hmem, hid⟩

/-- A graph is acyclic when nothing derives from itself. -/
theorem acyclic_iff : g.Acyclic ↔ ¬∃ x, Relation.TransGen g.DerivesFrom x x := by
  rw [Acyclic, edge_sources_eq]
  constructor
  · intro h hcycle
    obtain ⟨x, hx⟩ := hcycle
    obtain ⟨y, hxy, -⟩ := Relation.TransGen.head'_iff.mp hx
    exact h x hxy.mem_left hx
  · intro h x _ hx
    exact h ⟨x, hx⟩

theorem mem_edges {e : Text × Text} : e ∈ g.edges ↔ g.DerivesFrom e.1 e.2 := by
  rw [edges, List.mem_flatMap]
  constructor
  · intro h
    obtain ⟨n, hmem, he⟩ := h
    obtain ⟨parent, hparent, rfl⟩ := List.mem_map.mp he
    exact ⟨n, hmem, rfl, hparent⟩
  · intro h
    obtain ⟨n, hmem, hid, hparent⟩ := h
    exact ⟨n, hmem, List.mem_map.mpr ⟨e.2, hparent, Prod.ext hid rfl⟩⟩

/-- An identifier that no node has. -/
theorem node_eq_error (h : x ∉ g.ids) : g.node x = .error ⟨.keyError, x⟩ := by
  have hnone : g.node? x = none := by
    apply List.find?_eq_none.mpr
    intro n hmem heq
    exact h (mem_ids.mpr ⟨n, hmem, of_decide_eq_true heq⟩)
  rw [node, hnone]
  rfl

/-- Between identifiers of which one is no node, there is nothing to search. -/
theorem reachable_eq_error (h : ¬(x ∈ g.ids ∧ y ∈ g.ids)) :
    ∃ key, g.reachable x y = .error ⟨.keyError, key⟩ := by
  by_cases hx : x ∈ g.ids
  · have hy : y ∉ g.ids := fun hy ↦ h ⟨hx, hy⟩
    obtain ⟨n, hmem, rfl⟩ := mem_ids.mp hx
    refine ⟨y, ?_⟩
    rw [reachable, node_eq_ok hmem, ok_bind, node_eq_error hy]
    rfl
  · refine ⟨x, ?_⟩
    rw [reachable, node_eq_error hx]
    rfl

/-- What `reachable` answers, whether or not the graph has cycles. -/
theorem reachable_eq_ok_iff {found : Bool} : g.reachable x y = .ok found ↔
    (x ∈ g.ids ∧ y ∈ g.ids) ∧ (found = true ↔ Relation.ReflTransGen g.DerivesFrom x y) := by
  by_cases h : x ∈ g.ids ∧ y ∈ g.ids
  · obtain ⟨n, hn, rfl⟩ := mem_ids.mp h.1
    obtain ⟨m, hm, rfl⟩ := mem_ids.mp h.2
    obtain ⟨answer, hanswer, hiff⟩ := reachable_eq_ok hn hm
    rw [Path, edge_sources_eq] at hiff
    rw [hanswer, Except.ok.injEq, ← hiff, and_iff_right h, eq_comm, Bool.eq_iff_iff]
  · obtain ⟨key, herror⟩ := reachable_eq_error h
    rw [herror]
    exact iff_of_false nofun fun hok ↦ h hok.1

/-- The required edges pass where the nodes state them and nothing derives from itself. -/
theorem validateRequiredEdges_eq_ok_iff : g.validateRequiredEdges = .ok () ↔
    (¬∃ x, Relation.TransGen g.DerivesFrom x x) ∧
      ∀ e ∈ g.requiredEdges, g.DerivesFrom e.1 e.2 := by
  rw [validateRequiredEdges_eq_ok, acyclic_iff]
  exact and_congr_right fun _ ↦ forall₂_congr fun _ _ ↦ mem_edges

/-- A graph is refused for a cycle and for nothing else. -/
theorem validateAcyclic_eq_error :
    g.validateAcyclic = .error ⟨.valueError, lit "provenance graph cycle detected."⟩ ↔
      ¬g.Acyclic := by
  rw [← validateAcyclic_eq_ok, validateAcyclic]
  cases Search.visitAll g.sources g.ids with
  | none => exact iff_of_true rfl fun h ↦ by cases h
  | some left => exact iff_of_false (fun h ↦ by cases h) (not_not_intro rfl)

/-- The visits of a graph go no deeper than it has nodes. -/
theorem visitAll_ends (g : ProvenanceGraph) (out : Option (List Text)) :
    g.ids.foldlM (Search.visitOr g.sources out (g.ids.length + 1) []) [] =
      Search.visitAll g.sources g.ids := by
  apply Search.foldlM_congr
  intro x hx visited
  apply Search.visitOr_eq_visit out g.closed_sources hx List.nodup_nil (List.nil_subset _)
  rw [List.length_nil]
  omega

/-- The search from a node takes no more turns than the nodes have sources. -/
theorem find_ends (hx : x ∈ g.ids) (out : Bool) (target : Text) :
    Search.findOr g.sources out target (Search.edgeCount g.sources g.ids + 2) [] [x] =
      Search.find g.sources target (Search.edgeCount g.sources g.ids + 2) [] [x] := by
  apply Search.findOr_eq_find out g.closed_sources _ (fun x hx _ ↦ hx)
  · rw [List.length_singleton]
    omega
  · intro y hy
    rw [List.mem_singleton.mp hy]
    exact hx

/-- Whatever the graph, the checks and the search end, a cycle is refused exactly where an
identifier derives from itself, a search finds exactly what the nodes derive from, and the
required edges pass exactly when nothing derives from itself and the nodes state them all. -/
theorem queries_iff (g : ProvenanceGraph) :
    (g.validateAcyclic = .error ⟨.valueError, lit "provenance graph cycle detected."⟩ ↔
      ∃ x, Relation.TransGen g.DerivesFrom x x) ∧
    (g.validateAcyclic = .ok () ↔ ¬∃ x, Relation.TransGen g.DerivesFrom x x) ∧
    (∀ a b found, g.reachable a b = .ok found ↔ (a ∈ g.ids ∧ b ∈ g.ids) ∧
      (found = true ↔ Relation.ReflTransGen g.DerivesFrom a b)) ∧
    (∀ a b, (∃ key, g.reachable a b = .error ⟨.keyError, key⟩) ↔ ¬(a ∈ g.ids ∧ b ∈ g.ids)) ∧
    (g.validateRequiredEdges = .ok () ↔ (¬∃ x, Relation.TransGen g.DerivesFrom x x) ∧
      ∀ e ∈ g.requiredEdges, g.DerivesFrom e.1 e.2) ∧
    (∀ out, g.ids.foldlM (Search.visitOr g.sources out (g.ids.length + 1) []) [] =
      Search.visitAll g.sources g.ids) ∧
    ∀ a ∈ g.ids, ∀ out target,
      Search.findOr g.sources out target (Search.edgeCount g.sources g.ids + 2) [] [a] =
        Search.find g.sources target (Search.edgeCount g.sources g.ids + 2) [] [a] := by
  refine ⟨?_, ?_, fun a b found ↦ reachable_eq_ok_iff, fun a b ↦ ?_,
    validateRequiredEdges_eq_ok_iff, g.visitAll_ends, fun a ha out target ↦ find_ends ha out target⟩
  · rw [validateAcyclic_eq_error, acyclic_iff, not_not]
  · rw [validateAcyclic_eq_ok, acyclic_iff]
  · constructor
    · intro h hmem
      obtain ⟨key, hkey⟩ := h
      by_cases hpath : Relation.ReflTransGen g.DerivesFrom a b
      · rw [reachable_eq_ok_iff.mpr ⟨hmem, iff_of_true rfl hpath⟩] at hkey
        cases hkey
      · rw [reachable_eq_ok_iff.mpr ⟨hmem, iff_of_false Bool.false_ne_true hpath⟩] at hkey
        cases hkey
    · exact reachable_eq_error

/-! ### Identities -/

/-- What differs from the identity expected of a node, `domain/provenance.py:165–168`. -/
def identityMismatch (g : ProvenanceGraph) (expected : Text × Text) :
    Except PyError (Option Text) := do
  let n ← g.node expected.1
  pure (if n.identity = expected.2 then none else
    some (expected.1 ++ lit ": expected '" ++ expected.2 ++ lit "', got '" ++ n.identity ++
      lit "'"))

/-- `verify_identities`, `domain/provenance.py:162–170`. -/
def verifyIdentities (g : ProvenanceGraph) (identities : Dict Text) : Except PyError Unit := do
  let mismatches := (← identities.mapM g.identityMismatch).filterMap id
  require ⟨.valueError, lit "provenance identity mismatches: " ++
    List.intercalate (lit "; ") mismatches⟩ mismatches.isEmpty

theorem identityMismatch_eq_ok_none {e : Text × Text} :
    g.identityMismatch e = .ok none ↔ ∃ n ∈ g.nodes, n.nodeId = e.1 ∧ n.identity = e.2 := by
  by_cases hmem : e.1 ∈ g.ids
  · obtain ⟨n, hn, hid⟩ := mem_ids.mp hmem
    have hnode : g.node e.1 = .ok n := hid ▸ node_eq_ok hn
    rw [identityMismatch, hnode, ok_bind]
    by_cases heq : n.identity = e.2
    · rw [if_pos heq]
      exact iff_of_true rfl ⟨n, hn, hid, heq⟩
    · rw [if_neg heq]
      apply iff_of_false nofun
      intro h
      obtain ⟨m, hm, hmid, hmidentity⟩ := h
      have hsame : m = n :=
        List.inj_on_of_nodup_map g.connected.distinct hm hn (hmid.trans hid.symm)
      exact heq (hsame ▸ hmidentity)
  · rw [identityMismatch, node_eq_error hmem]
    apply iff_of_false nofun
    intro h
    obtain ⟨n, hn, hid, -⟩ := h
    exact hmem (mem_ids.mpr ⟨n, hn, hid⟩)

/-- Identities pass exactly when each is that of a node. -/
theorem verifyIdentities_eq_ok {identities : Dict Text} : g.verifyIdentities identities = .ok () ↔
    ∀ e ∈ identities, ∃ n ∈ g.nodes, n.nodeId = e.1 ∧ n.identity = e.2 := by
  rw [verifyIdentities, bind_eq_ok]
  constructor
  · intro h e he
    obtain ⟨mismatches, hmismatches, h⟩ := h
    rw [require_eq_ok, List.isEmpty_iff, List.filterMap_eq_nil_iff] at h
    obtain ⟨mismatch, hmem, hmismatch⟩ := exists_of_mapM_eq_ok hmismatches he
    rw [show mismatch = none from h mismatch hmem] at hmismatch
    exact identityMismatch_eq_ok_none.mp hmismatch
  · intro h
    refine ⟨identities.map fun _ ↦ none,
      mapM_eq_ok_map fun e he ↦ identityMismatch_eq_ok_none.mpr (h e he), ?_⟩
    rw [require_eq_ok, List.isEmpty_iff, List.filterMap_eq_nil_iff]
    intro mismatch hmem
    obtain ⟨e, -, rfl⟩ := List.mem_map.mp hmem
    rfl

end ProvenanceGraph

/-! ### Proofs -/

/-- `IntegrityProof`, `domain/provenance.py:198–206`. -/
structure IntegrityProof where
  graphDigest : Text
  requiredEdgesVerified : Bool
  requiredIdentitiesVerified : Bool
  reachablePairs : List (Text × Text × Bool)
  verified : Bool
  deriving DecidableEq

namespace IntegrityProof

/-- The constructor's check, `__post_init__` at `domain/provenance.py:208–211`. -/
def check (p : IntegrityProof) : Except PyError Unit :=
  require ⟨.valueError, lit "graph_digest must be lowercase SHA-256 hex."⟩ (isSha256 p.graphDigest)

end IntegrityProof

/-- Whether a check passed, where `except ValueError` takes what it raises. -/
def passed (r : Except PyError Unit) : Except PyError Bool :=
  match r with
  | .ok () => .ok true
  | .error e => if e.kind.isValueError then .ok false else .error e

theorem passed_eq_ok_true {r : Except PyError Unit} : passed r = .ok true ↔ r = .ok () := by
  cases r with
  | ok u => exact iff_of_true rfl rfl
  | error e =>
    rw [passed]
    by_cases h : e.kind.isValueError = true
    · rw [if_pos h]
      exact iff_of_false nofun nofun
    · rw [if_neg h]
      exact iff_of_false nofun nofun

/-- One reachable pair, where `except KeyError` takes a missing node. -/
def pairResult (g : ProvenanceGraph) (pair : Text × Text) : Except PyError (Text × Text × Bool) :=
  match g.reachable pair.1 pair.2 with
  | .ok found => .ok (pair.1, pair.2, found)
  | .error e => if e.kind = .keyError then .ok (pair.1, pair.2, false) else .error e

/-- `build_integrity_proof`, `services/provenance_service.py:150–187`. -/
def buildIntegrityProof (g : ProvenanceGraph) (identities : Option (Dict Text))
    (reachablePairs : List (Text × Text)) : Except PyError IntegrityProof := do
  let requiredEdgesOk ← passed g.validateRequiredEdges
  let identityOk ← identities.elim (pure true) fun expected ↦ passed (g.verifyIdentities expected)
  let pairResults ← reachablePairs.mapM (pairResult g)
  let reachableOk := pairResults.all fun r ↦ r.2.2
  let digest ← g.graphDigest
  let proof : IntegrityProof := ⟨digest, requiredEdgesOk, identityOk, pairResults,
    requiredEdgesOk && identityOk && reachableOk⟩
  proof.check
  pure proof

/-- A pair passes where the nodes state a path. -/
theorem pairResult_eq_ok_true {g : ProvenanceGraph} {pair : Text × Text} {r : Text × Text × Bool}
    (h : pairResult g pair = .ok r) : r.2.2 = true ↔ (pair.1 ∈ g.ids ∧ pair.2 ∈ g.ids) ∧
      Relation.ReflTransGen g.DerivesFrom pair.1 pair.2 := by
  by_cases hmem : pair.1 ∈ g.ids ∧ pair.2 ∈ g.ids
  · rw [and_iff_right hmem]
    cases hfound : g.reachable pair.1 pair.2 with
    | ok found =>
      rw [pairResult, hfound] at h
      cases h
      exact (ProvenanceGraph.reachable_eq_ok_iff.mp hfound).2
    | error e =>
      obtain ⟨n, hn, hid⟩ := ProvenanceGraph.mem_ids.mp hmem.1
      obtain ⟨m, hm, hmid⟩ := ProvenanceGraph.mem_ids.mp hmem.2
      obtain ⟨answer, hanswer, -⟩ := ProvenanceGraph.reachable_eq_ok hn hm
      rw [hid, hmid, hfound] at hanswer
      cases hanswer
  · obtain ⟨key, hkey⟩ := ProvenanceGraph.reachable_eq_error hmem
    rw [pairResult, hkey] at h
    cases h
    exact iff_of_false Bool.false_ne_true fun h ↦ hmem h.1

/-- A proof is verified exactly when nothing derives from itself, the nodes state every required
edge and have every expected identity, and each pair lies on a path. -/
theorem verified_iff {g : ProvenanceGraph} {identities : Option (Dict Text)}
    {pairs : List (Text × Text)} {p : IntegrityProof}
    (h : buildIntegrityProof g identities pairs = .ok p) : p.verified = true ↔
      ((¬∃ x, Relation.TransGen g.DerivesFrom x x) ∧
        ∀ e ∈ g.requiredEdges, g.DerivesFrom e.1 e.2) ∧
      (∀ expected ∈ identities, ∀ e ∈ expected,
        ∃ n ∈ g.nodes, n.nodeId = e.1 ∧ n.identity = e.2) ∧
      ∀ pair ∈ pairs, (pair.1 ∈ g.ids ∧ pair.2 ∈ g.ids) ∧
        Relation.ReflTransGen g.DerivesFrom pair.1 pair.2 := by
  simp only [buildIntegrityProof, bind_eq_ok] at h
  obtain ⟨edgesOk, hedges, identityOk, hidentity, results, hresults, digest, -, -, -, h⟩ := h
  cases h
  have hleft : edgesOk = true ↔ (¬∃ x, Relation.TransGen g.DerivesFrom x x) ∧
      ∀ e ∈ g.requiredEdges, g.DerivesFrom e.1 e.2 := by
    rw [← ProvenanceGraph.validateRequiredEdges_eq_ok_iff, ← passed_eq_ok_true, hedges,
      Except.ok.injEq]
  have hmiddle : identityOk = true ↔ ∀ expected ∈ identities, ∀ e ∈ expected,
      ∃ n ∈ g.nodes, n.nodeId = e.1 ∧ n.identity = e.2 := by
    cases identities with
    | none =>
      cases hidentity
      exact iff_of_true rfl nofun
    | some expected =>
      rw [Option.elim_some] at hidentity
      simp only [Option.mem_def, Option.some.injEq, forall_eq']
      rw [← ProvenanceGraph.verifyIdentities_eq_ok, ← passed_eq_ok_true, hidentity,
        Except.ok.injEq]
  have hright : (results.all fun r ↦ r.2.2) = true ↔ ∀ pair ∈ pairs,
      (pair.1 ∈ g.ids ∧ pair.2 ∈ g.ids) ∧
        Relation.ReflTransGen g.DerivesFrom pair.1 pair.2 := by
    rw [List.all_eq_true]
    constructor
    · intro hall pair hpair
      obtain ⟨r, hr, hresult⟩ := exists_of_mapM_eq_ok hresults hpair
      exact (pairResult_eq_ok_true hresult).mp (hall r hr)
    · intro hall r hr
      obtain ⟨pair, hpair, hresult⟩ := (mem_of_mapM_eq_ok hresults).mp hr
      exact (pairResult_eq_ok_true hresult).mpr (hall pair hpair)
  rw [Bool.and_eq_true, Bool.and_eq_true, hleft, hmiddle, hright, and_assoc]

end StateWake.Provenance
