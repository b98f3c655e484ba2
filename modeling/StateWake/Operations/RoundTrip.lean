import Mathlib.Data.List.Dedup
import StateWake.Operations.Assembly
import StateWake.Operations.Disclosure

/-!
# A bundle's file and its verification

A built bundle is read back from its file as it was, with its files. Its provenance has a node of
the name `bundle` besides those of the artifacts, and it must have no cycle; the builder asks for
neither.
-/

namespace StateWake.Operations

open StateWake.Base Text Utils Lifecycle Provenance

/-! ### The provenance of a bundle -/

namespace OperationalBundle

/-- One artifact is a source of another. -/
def Derives (b : OperationalBundle) (x y : Text) : Prop :=
  ∃ a ∈ b.artifacts, a.artifactId = x ∧ y ∈ a.derivedFrom

/-- No artifact derives from itself through others. -/
def Acyclic (b : OperationalBundle) : Prop := ∀ x, ¬Relation.TransGen b.Derives x x

variable {b : OperationalBundle}

theorem Derives.mem_ids (hb : b.Lawful) {x y : Text} (h : b.Derives x y) :
    x ∈ b.ids ∧ y ∈ b.ids := by
  obtain ⟨a, ha, rfl, hy⟩ := h
  obtain ⟨p, hp, hid, -⟩ := hb.inherits a ha y hy
  exact ⟨OperationalBundle.mem_ids.mpr ⟨a, ha, rfl⟩, OperationalBundle.mem_ids.mpr ⟨p, hp, hid⟩⟩

end OperationalBundle

/-- The nodes of a bundle's provenance. -/
def bundleNodes (raw : Bytes) (b : OperationalBundle) : List ProvenanceNode :=
  b.artifacts.map artifactNode ++ [bundleNode raw b]

/-- Its required edges. -/
def bundleEdges (raw : Bytes) (b : OperationalBundle) : List (Text × Text) :=
  ((bundleNodes raw b).flatMap fun n ↦ n.derivedFrom.map fun parent ↦ (n.nodeId, parent)) ++
    b.ids.map fun id ↦ (lit "bundle", id)

variable {b : OperationalBundle} {raw : Bytes} {g : ProvenanceGraph}

theorem nodeIds_bundleNodes : nodeIds (bundleNodes raw b) = b.ids ++ [lit "bundle"] := by
  rw [nodeIds, bundleNodes, List.map_append, List.map_map]
  rfl

/-- The name of the bundle is free exactly when its nodes are distinct. -/
theorem connected_bundleNodes_iff (hb : b.Lawful) :
    Connected (bundleNodes raw b) (bundleEdges raw b) ↔ lit "bundle" ∉ b.ids := by
  constructor
  · intro h hmem
    have hdistinct := h.distinct
    rw [nodeIds_bundleNodes, List.nodup_append] at hdistinct
    exact hdistinct.2.2 _ hmem _ (List.mem_singleton_self _) rfl
  · intro hfree
    have hsources : ∀ n ∈ bundleNodes raw b, ∀ s ∈ n.derivedFrom,
        s ∈ nodeIds (bundleNodes raw b) := by
      intro n hn s hs
      rw [nodeIds_bundleNodes, List.mem_append]
      rcases List.mem_append.mp hn with hn | hn
      · obtain ⟨a, ha, rfl⟩ := List.mem_map.mp hn
        exact .inl (OperationalBundle.Derives.mem_ids hb ⟨a, ha, rfl, hs⟩).2
      · rw [List.mem_singleton.mp hn] at hs
        exact .inl hs
    refine ⟨?_, hsources, fun e he ↦ ?_⟩
    · rw [nodeIds_bundleNodes, List.nodup_append]
      refine ⟨hb.distinct, List.nodup_singleton _, fun x hx y hy ↦ ?_⟩
      rw [List.mem_singleton.mp hy]
      rintro rfl
      exact hfree hx
    · rcases List.mem_append.mp he with he | he
      · obtain ⟨n, hn, he⟩ := List.mem_flatMap.mp he
        obtain ⟨parent, hparent, rfl⟩ := List.mem_map.mp he
        exact ⟨List.mem_map_of_mem hn, hsources n hn parent hparent⟩
      · obtain ⟨id, hid, rfl⟩ := List.mem_map.mp he
        rw [nodeIds_bundleNodes, List.mem_append, List.mem_append]
        exact ⟨.inr (List.mem_singleton_self _), .inl hid⟩

/-- The nodes of a bundle pass where its name is free and no artifact is its own source. -/
theorem lawful_bundleNodes (hb : b.Lawful) (hfree : lit "bundle" ∉ b.ids)
    (hself : ∀ a ∈ b.artifacts, a.artifactId ∉ a.derivedFrom) :
    ∀ n ∈ bundleNodes raw b, n.Lawful := by
  intro n hn
  rcases List.mem_append.mp hn with hn | hn
  · obtain ⟨a, ha, rfl⟩ := List.mem_map.mp hn
    have hlawful := hb.artifacts a ha
    exact ⟨⟨hlawful.not_blank, hlawful.sorted, not_blank_append (by decide) _⟩, hlawful.digested,
      nofun, hlawful.sourced, hself a ha⟩
  · rw [List.mem_singleton.mp hn]
    refine ⟨⟨?_, ?_, not_blank_append (by decide) _⟩, isSha256_sha256 raw, nofun, fun s hs ↦ ?_,
      hfree⟩
    · show blank (lit "bundle") = false
      decide
    · show blank (lit "operational_bundle") = false
      decide
    · obtain ⟨a, ha, rfl⟩ := OperationalBundle.mem_ids.mp hs
      exact (hb.artifacts a ha).not_blank

/-- The graph of a bundle is built exactly when its name is free and no artifact is its own
source. -/
theorem provenanceGraphForBundle_eq_ok (hb : b.Lawful) :
    provenanceGraphForBundle raw b = .ok g ↔ lit "bundle" ∉ b.ids ∧
      (∀ a ∈ b.artifacts, a.artifactId ∉ a.derivedFrom) ∧ g.nodes = bundleNodes raw b ∧
        g.requiredEdges = bundleEdges raw b := by
  simp only [provenanceGraphForBundle, bind_eq_ok, Unique.exists_iff, forM_eq_ok,
    PUnit.default_eq_unit, ProvenanceNode.check_eq_ok]
  constructor
  · rintro ⟨hlawful, hcreate⟩
    have hg := ProvenanceGraph.connected_of_create hcreate
    have hconnected : Connected (bundleNodes raw b) (bundleEdges raw b) := by
      have h := g.connected
      rw [hg.1, hg.2] at h
      exact h
    refine ⟨(connected_bundleNodes_iff hb).mp hconnected, fun a ha ↦ ?_, hg.1, hg.2⟩
    exact (hlawful (artifactNode a) (List.mem_append_left _ (List.mem_map_of_mem ha))).other
  · rintro ⟨hfree, hself, hnodes, hedges⟩
    refine ⟨lawful_bundleNodes hb hfree hself, ?_⟩
    have hconnected : Connected (bundleNodes raw b) (bundleEdges raw b) :=
      (connected_bundleNodes_iff hb).mpr hfree
    have hcreate := ProvenanceGraph.create_of_connected hconnected
    obtain ⟨nodes, edges, connected⟩ := g
    cases hnodes
    cases hedges
    exact hcreate

/-! ### Cycles -/

section

variable (hb : b.Lawful) (hfree : lit "bundle" ∉ b.ids) (hnodes : g.nodes = bundleNodes raw b)

include hnodes in
private theorem sources_artifact {a : OperationalArtifact} (ha : a ∈ b.artifacts) :
    g.sources a.artifactId = a.derivedFrom :=
  ProvenanceGraph.sources_of_mem (n := artifactNode a)
    (by rw [hnodes]; exact List.mem_append_left _ (List.mem_map_of_mem ha))

include hnodes in
private theorem bundleNode_mem : bundleNode raw b ∈ g.nodes := by
  rw [hnodes]
  exact List.mem_append_right _ (List.mem_singleton_self _)

include hb hnodes in
/-- Every edge of a bundle's graph leads to an artifact. -/
private theorem edge_mem_ids {x y : Text} (h : Search.Edge g.sources x y) : y ∈ b.ids := by
  by_cases hx : x ∈ b.ids
  · obtain ⟨a, ha, rfl⟩ := OperationalBundle.mem_ids.mp hx
    rw [Search.Edge, sources_artifact hnodes ha] at h
    exact (OperationalBundle.Derives.mem_ids hb ⟨a, ha, rfl, h⟩).2
  · rw [Search.Edge, ProvenanceGraph.sources] at h
    cases hnode : g.node? x with
    | none =>
      rw [hnode] at h
      cases h
    | some n =>
      rw [hnode] at h
      have hmem : n ∈ bundleNodes raw b := by
        rw [← hnodes]
        exact List.mem_of_find?_eq_some hnode
      have hid := List.find?_some hnode
      rcases List.mem_append.mp hmem with hmem | hmem
      · obtain ⟨a, ha, rfl⟩ := List.mem_map.mp hmem
        exact absurd (OperationalBundle.mem_ids.mpr ⟨a, ha, of_decide_eq_true hid⟩) hx
      · rw [List.mem_singleton.mp hmem] at h
        exact h

include hnodes in
private theorem edge_iff_derives {x y : Text} (hx : x ∈ b.ids) (hdistinct : b.ids.Nodup) :
    Search.Edge g.sources x y ↔ b.Derives x y := by
  obtain ⟨a, ha, rfl⟩ := OperationalBundle.mem_ids.mp hx
  rw [Search.Edge, sources_artifact hnodes ha]
  constructor
  · exact fun h ↦ ⟨a, ha, rfl, h⟩
  · rintro ⟨p, hp, hid, hy⟩
    rw [List.inj_on_of_nodup_map hdistinct hp ha hid] at hy
    exact hy

include hb hnodes in
/-- The graph of a bundle has a cycle exactly when its artifacts do. -/
theorem acyclic_iff : g.Acyclic ↔ b.Acyclic := by
  have hderives : ∀ x y, Relation.TransGen b.Derives x y →
      Relation.TransGen (Search.Edge g.sources) x y := fun x y h ↦
    Relation.TransGen.mono (fun u v (huv : b.Derives u v) ↦
      (edge_iff_derives hnodes (huv.mem_ids hb).1 hb.distinct).mpr huv) x y h
  have hedges : ∀ x y, x ∈ b.ids → Relation.TransGen (Search.Edge g.sources) x y →
      Relation.TransGen b.Derives x y := by
    intro x y hx h
    induction h with
    | single hedge => exact .single ((edge_iff_derives hnodes hx hb.distinct).mp hedge)
    | tail hpath hedge ih =>
      obtain ⟨w, -, hw⟩ := Relation.TransGen.tail'_iff.mp hpath
      have hmid := edge_mem_ids hb hnodes hw
      exact ih.tail ((edge_iff_derives hnodes hmid hb.distinct).mp hedge)
  constructor
  · intro h x hcycle
    obtain ⟨y, hfirst, -⟩ := Relation.TransGen.head'_iff.mp hcycle
    have hx := (hfirst.mem_ids hb).1
    obtain ⟨a, ha, hid⟩ := OperationalBundle.mem_ids.mp hx
    refine h x (ProvenanceGraph.mem_ids.mpr ⟨artifactNode a, ?_, hid⟩) (hderives x x hcycle)
    rw [hnodes]
    exact List.mem_append_left _ (List.mem_map_of_mem ha)
  · intro h x _ hcycle
    obtain ⟨w, -, hw⟩ := Relation.TransGen.tail'_iff.mp hcycle
    exact h x (hedges x x (edge_mem_ids hb hnodes hw) hcycle)

end

/-! ### Verified provenance -/

/-- UTF-8 can encode the texts of a bundle's artifacts. -/
theorem OperationalBundle.Encodable.artifact {t : Datetime} (h : b.Encodable t)
    {a : OperationalArtifact} (ha : a ∈ b.artifacts) :
    SurrogateFree a.artifactId ∧ SurrogateFree a.kind ∧ ∀ s ∈ a.derivedFrom, SurrogateFree s := by
  have htexts := Json.forall_texts_obj.mp h
  simp only [sharedPayload, List.forall_mem_cons] at htexts
  obtain ⟨-, -, -, ⟨-, hartifacts⟩, -⟩ := htexts
  have hone : ∀ s ∈ Json.texts (.obj a.toDict), SurrogateFree s := fun s hs ↦
    hartifacts s (Json.mem_texts_arr.mpr ⟨_, List.mem_map_of_mem ha, hs⟩)
  rw [Json.forall_texts_obj] at hone
  simp only [OperationalArtifact.toDict, List.forall_mem_cons] at hone
  obtain ⟨⟨-, hid⟩, -, ⟨-, hkind⟩, -, -, -, ⟨-, hsources⟩, -⟩ := hone
  refine ⟨hid _ (Json.mem_texts_str.mpr rfl), hkind _ (Json.mem_texts_str.mpr rfl), fun s hs ↦ ?_⟩
  exact hsources s (Json.mem_texts_arr.mpr ⟨_, List.mem_map_of_mem hs, Json.mem_texts_str.mpr rfl⟩)

/-- The texts of a bundle's nodes. -/
private theorem surrogateFree_bundleNodes {t : Datetime} (h : b.Encodable t)
    (hb : b.Lawful) (hid : SurrogateFree b.bundleId) : ∀ n ∈ bundleNodes raw b,
      ∀ s ∈ Json.texts (.obj n.toDict), SurrogateFree s := by
  have hnode : ∀ n : ProvenanceNode, SurrogateFree n.nodeId → SurrogateFree n.kind →
      isSha256 n.digest = true → SurrogateFree n.identity →
      (∀ s ∈ n.derivedFrom, SurrogateFree s) → n.path = none →
      ∀ s ∈ Json.texts (.obj n.toDict), SurrogateFree s := by
    intro n hnodeId hkind hdigest hidentity hsources hpath
    have hstr : ∀ {s : Text}, SurrogateFree s → ∀ t ∈ Json.texts (.str s), SurrogateFree t := by
      intro s hs t ht
      rw [Json.mem_texts_str.mp ht]
      exact hs
    rw [Json.forall_texts_obj]
    simp only [ProvenanceNode.toDict, List.forall_mem_cons, hpath]
    refine ⟨⟨surrogateFree_lit _, hstr hnodeId⟩, ⟨surrogateFree_lit _, hstr hkind⟩,
      ⟨surrogateFree_lit _, hstr (surrogateFree_of_isSha256 hdigest)⟩,
      ⟨surrogateFree_lit _, hstr hidentity⟩, ⟨surrogateFree_lit _, fun s hs ↦ ?_⟩,
      ⟨surrogateFree_lit _, by simp [optionJson]⟩, List.forall_mem_nil _⟩
    obtain ⟨v, hv, hs⟩ := Json.mem_texts_arr.mp hs
    obtain ⟨source, hsource, rfl⟩ := List.mem_map.mp hv
    exact hstr (hsources source hsource) s hs
  intro n hn
  rcases List.mem_append.mp hn with hn | hn
  · obtain ⟨a, ha, rfl⟩ := List.mem_map.mp hn
    obtain ⟨hartifact, hkind, hsources⟩ := h.artifact ha
    exact hnode _ hartifact hkind (hb.artifacts a ha).digested
      (surrogateFree_append (surrogateFree_lit _) hartifact) hsources rfl
  · rw [List.mem_singleton.mp hn]
    refine hnode _ (surrogateFree_lit _) (surrogateFree_lit _) (isSha256_sha256 raw)
      (surrogateFree_append (surrogateFree_lit _) hid) (fun s hs ↦ ?_) rfl
    obtain ⟨a, ha, rfl⟩ := OperationalBundle.mem_ids.mp hs
    exact (h.artifact ha).1

private theorem writable_graph (g : ProvenanceGraph) : Json.Writable (.obj g.payload) := by
  have hnodes : Json.Writable (.arr ((g.nodes.insertionSort fun a b ↦ a.nodeId ≤ b.nodeId).map
      fun n ↦ .obj n.toDict)) := by
    rw [Json.writable_arr]
    intro v hv
    obtain ⟨n, -, rfl⟩ := List.mem_map.mp hv
    simp [ProvenanceNode.toDict, Dict.Distinct]
  have hedges : Json.Writable (.arr ((g.requiredEdges.insertionSort fun a b ↦
      a.1 < b.1 ∨ (a.1 = b.1 ∧ a.2 ≤ b.2)).map fun e ↦ .arr [.str e.1, .str e.2])) := by
    rw [Json.writable_arr]
    intro v hv
    obtain ⟨e, -, rfl⟩ := List.mem_map.mp hv
    simp
  rw [Json.writable_obj]
  simp only [ProvenanceGraph.payload, List.forall_mem_cons]
  exact ⟨by simp [Dict.Distinct], ⟨by simp, hnodes⟩, ⟨by simp, hedges⟩, List.forall_mem_nil _⟩

/-- A graph whose nodes can be encoded has a digest. -/
theorem graphDigest_isOk (hnodes : ∀ n ∈ g.nodes, ∀ s ∈ Json.texts (.obj n.toDict),
    SurrogateFree s) : ∃ d, g.graphDigest = .ok d := by
  have hid : ∀ x ∈ nodeIds g.nodes, SurrogateFree x := by
    intro x hx
    obtain ⟨n, hn, rfl⟩ := List.mem_map.mp hx
    refine hnodes n hn _ (Json.mem_texts_obj.mpr ⟨_, List.mem_cons_self, .inr ?_⟩)
    exact Json.mem_texts_str.mpr rfl
  obtain ⟨content, hcontent⟩ := (canonicalBytes_isOk_iff (writable_graph g)).mpr (by
    rw [Json.forall_texts_obj]
    simp only [ProvenanceGraph.payload, List.forall_mem_cons]
    refine ⟨⟨surrogateFree_lit _, fun s hs ↦ ?_⟩, ⟨surrogateFree_lit _, fun s hs ↦ ?_⟩,
      List.forall_mem_nil _⟩
    · obtain ⟨v, hv, hs⟩ := Json.mem_texts_arr.mp hs
      obtain ⟨n, hn, rfl⟩ := List.mem_map.mp hv
      exact hnodes n ((List.mem_insertionSort _).mp hn) s hs
    · obtain ⟨v, hv, hs⟩ := Json.mem_texts_arr.mp hs
      obtain ⟨e, he, rfl⟩ := List.mem_map.mp hv
      obtain ⟨hchild, hparent⟩ := g.connected.edged e ((List.mem_insertionSort _).mp he)
      obtain ⟨w, hw, hs⟩ := Json.mem_texts_arr.mp hs
      rw [List.mem_cons, List.mem_singleton] at hw
      rcases hw with rfl | rfl
      · rw [Json.mem_texts_str.mp hs]
        exact hid _ hchild
      · rw [Json.mem_texts_str.mp hs]
        exact hid _ hparent)
  exact ⟨sha256 content, by rw [ProvenanceGraph.graphDigest, hcontent]; rfl⟩

section

variable (hb : b.Lawful) (hfree : lit "bundle" ∉ b.ids) (hnodes : g.nodes = bundleNodes raw b)

include hnodes in
/-- The bundle's node leads to every artifact. -/
private theorem pairs_reachable : (b.ids.map fun id ↦ (lit "bundle", id)).all (fun p ↦
    (g.reachable p.1 p.2).toOption.getD false) = true := by
  rw [List.all_eq_true]
  intro p hp
  obtain ⟨id, hid, rfl⟩ := List.mem_map.mp hp
  obtain ⟨a, ha, rfl⟩ := OperationalBundle.mem_ids.mp hid
  have hmem : artifactNode a ∈ g.nodes := by
    rw [hnodes]
    exact List.mem_append_left _ (List.mem_map_of_mem ha)
  have hpath : g.Path (bundleNode raw b).nodeId (artifactNode a).nodeId := by
    refine .single ?_
    rw [Search.Edge, ProvenanceGraph.sources_of_mem (bundleNode_mem hnodes)]
    exact hid
  have hreachable := (ProvenanceGraph.reachable_eq_true (bundleNode_mem hnodes) hmem).mpr hpath
  show ((g.reachable (bundleNode raw b).nodeId (artifactNode a).nodeId).toOption.getD false) = true
  rw [hreachable]
  rfl

include hnodes in
/-- The required edges of a bundle are edges. -/
private theorem edges_required : ∀ e ∈ bundleEdges raw b, e ∈ g.edges := by
  intro e he
  rw [ProvenanceGraph.edges, hnodes]
  rcases List.mem_append.mp he with he | he
  · exact he
  · obtain ⟨id, hid, rfl⟩ := List.mem_map.mp he
    exact List.mem_flatMap.mpr ⟨bundleNode raw b, List.mem_append_right _
      (List.mem_singleton_self _), List.mem_map_of_mem hid⟩

include hb hfree hnodes in
/-- Each node of a bundle is that of the artifact of its name. -/
private theorem nodes_checked : forM g.nodes (checkArtifactNode b) = .ok () := by
  rw [forM_eq_ok, hnodes]
  intro n hn
  rw [checkArtifactNode]
  rcases List.mem_append.mp hn with hn | hn
  · obtain ⟨a, ha, rfl⟩ := List.mem_map.mp hn
    have hname : (artifactNode a).nodeId ≠ lit "bundle" := fun h ↦
      hfree (OperationalBundle.mem_ids.mpr ⟨a, ha, h⟩)
    have hfind : b.artifact? (artifactNode a).nodeId = some a :=
      OperationalBundle.artifact?_of_mem hb.distinct ha
    rw [if_neg hname, hfind, orRaise_some, ok_bind, decide_eq_true ⟨rfl, rfl⟩, require_true,
      ok_bind]
    exact require_eq_ok.mpr (decide_eq_true rfl)
  · rw [List.mem_singleton.mp hn]
    exact if_pos rfl

end

/-- The provenance of a bundle verifies exactly when its own name is free and its artifacts derive
from each other without a cycle. -/
theorem verifyBundleProvenance_eq_ok {t : Datetime} (hb : b.Lawful) (he : b.Encodable t)
    (hid : SurrogateFree b.bundleId) :
    verifyBundleProvenance raw b = .ok () ↔ lit "bundle" ∉ b.ids ∧ b.Acyclic := by
  constructor
  · intro h
    simp only [verifyBundleProvenance, bind_eq_ok, integrityVerified, require_eq_ok] at h
    obtain ⟨g, hgraph, verified, ⟨d, -, hverified⟩, -, hpass, -⟩ := h
    obtain ⟨hfree, -, hnodes, -⟩ := (provenanceGraphForBundle_eq_ok hb).mp hgraph
    rw [← Except.ok.inj hverified, Bool.and_eq_true] at hpass
    obtain ⟨u, hedges⟩ := exists_ok_of_toBool hpass.1
    exact ⟨hfree, (acyclic_iff hb hnodes).mp
      (ProvenanceGraph.validateRequiredEdges_eq_ok.mp hedges).1⟩
  · rintro ⟨hfree, hacyclic⟩
    have hself : ∀ a ∈ b.artifacts, a.artifactId ∉ a.derivedFrom := fun a ha hmem ↦
      hacyclic a.artifactId (.single ⟨a, ha, rfl, hmem⟩)
    have hgraph : provenanceGraphForBundle raw b = .ok ⟨bundleNodes raw b, bundleEdges raw b,
        (connected_bundleNodes_iff hb).mpr hfree⟩ :=
      (provenanceGraphForBundle_eq_ok hb).mpr ⟨hfree, hself, rfl, rfl⟩
    generalize (⟨bundleNodes raw b, bundleEdges raw b, (connected_bundleNodes_iff hb).mpr hfree⟩ :
      ProvenanceGraph) = g at hgraph
    obtain ⟨-, -, hnodes, hrequired⟩ := (provenanceGraphForBundle_eq_ok hb).mp hgraph
    have hedges : g.validateRequiredEdges = .ok () :=
      ProvenanceGraph.validateRequiredEdges_eq_ok.mpr ⟨(acyclic_iff hb hnodes).mpr hacyclic,
        by rw [hrequired]; exact edges_required hnodes⟩
    obtain ⟨d, hdigest⟩ := graphDigest_isOk (g := g)
      (by rw [hnodes]; exact surrogateFree_bundleNodes he hb hid)
    have hverified : integrityVerified g (b.ids.map fun id ↦ (lit "bundle", id)) = .ok true := by
      rw [integrityVerified, hedges, pairs_reachable hnodes, hdigest]
      rfl
    have hnode : g.node (lit "bundle") = .ok (bundleNode raw b) :=
      ProvenanceGraph.node_eq_ok (bundleNode_mem hnodes)
    rw [verifyBundleProvenance, hgraph, ok_bind, hverified, ok_bind, require_true, ok_bind, hnode,
      ok_bind, decide_eq_true ⟨rfl, rfl⟩, require_true, ok_bind]
    exact nodes_checked hb hfree hnodes

/-! ### Reading a manifest back -/

section

variable {int : Json → Except PyError Int} (hint : ∀ n, int (.int n) = .ok n)

/-- A path or an identifier that is normalized already. -/
theorem safeMemberName_eq_ok {a : OperationalArtifact} (ha : a.Lawful)
    (hpath : slashes a.path = a.path) : safeMemberName a.path = .ok a.path := by
  have hne : slashes a.path ≠ [] := by
    intro hnil
    have hblank := ha.relative.1
    rw [hnil] at hblank
    cases hblank
  rw [safeMemberName, decide_eq_true ⟨hne, ha.relative.2⟩, require_true, ok_bind, hpath]
  rfl

theorem safeArtifactId_eq_ok {a : OperationalArtifact} (ha : a.Lawful)
    (hid : slashes a.artifactId = a.artifactId) : safeArtifactId a.artifactId = .ok a.artifactId := by
  rw [safeArtifactId, decide_eq_true ha.component, require_true, ok_bind, hid]
  rfl

include hint in
/-- An artifact is read back from its entry in a manifest. -/
theorem readArtifact_toDict {a : OperationalArtifact} (ha : a.Lawful)
    (hid : slashes a.artifactId = a.artifactId) (hpath : slashes a.path = a.path) :
    readArtifact int (.obj (ordered a.toDict)) = .ok a := by
  have hreads : ReadsAs (ordered a.toDict) a.toDict :=
    readsAs_sorted (by simp [OperationalArtifact.toDict, Dict.Distinct])
  have hsources : (Dict.get? (ordered a.toDict) (lit "derived_from")).getD (.arr []) =
      .arr (a.derivedFrom.map .str) := by
    rw [hreads (lit "derived_from") (.arr (a.derivedFrom.map .str)) rfl, Option.getD_some,
      Json.sortKeys_arr, List.map_map]
    rfl
  rw [readArtifact, Json.asObject_obj, orRaise_some, ok_bind,
    hreads.requiredText (lit "artifact_id") a.artifactId rfl, ok_bind,
    safeArtifactId_eq_ok ha hid, ok_bind, hreads.requiredText (lit "path") a.path rfl, ok_bind,
    safeMemberName_eq_ok ha hpath, ok_bind, hreads.requiredText (lit "kind") a.kind rfl, ok_bind,
    hreads.requiredText (lit "sha256") a.sha256 rfl, ok_bind,
    hreads.index (lit "size_bytes") (.int a.sizeBytes) rfl, ok_bind, Json.sortKeys_int, hint,
    ok_bind, hreads.requiredText (lit "sensitivity") a.sensitivity.text rfl, ok_bind, hsources,
    iterTexts_texts, ok_bind, OperationalArtifact.create_eq_ok]
  exact ⟨ha, rfl⟩

/-- The constructor gives a policy back. -/
theorem RetentionPolicy.create_eq_ok (p : RetentionPolicy) :
    RetentionPolicy.create p.policyId (p.maxAgeDays.map Int.ofNat) p.maxSensitivity.text = .ok p := by
  obtain ⟨policyId, maxAgeDays, level, named⟩ := p
  have hage : (maxAgeDays.map Int.ofNat).all (fun days ↦ 0 ≤ days) = true := by
    cases maxAgeDays with
    | none => rfl
    | some days => exact decide_eq_true (Int.natCast_nonneg days)
  have hdays : (maxAgeDays.map Int.ofNat).map Int.toNat = maxAgeDays := by
    cases maxAgeDays <;> rfl
  rw [RetentionPolicy.create, dif_pos named, Sensitivity.validate_text, hage, require_true,
    ok_bind, ok_bind, hdays]
  rfl

include hint in
/-- A retention policy is read back from a manifest. -/
theorem parseRetention_toDict (p : Option RetentionPolicy) :
    parseRetention int (Json.sortKeys (p.elim .null fun p ↦ .obj p.toDict)) = .ok p := by
  cases p with
  | none => rfl
  | some p =>
    have hreads : ReadsAs (ordered p.toDict) p.toDict :=
      readsAs_sorted (by simp [RetentionPolicy.toDict, Dict.Distinct])
    have hdays : parseMaxAge int (ordered p.toDict) =
        .ok (p.maxAgeDays.map Int.ofNat) := by
      rw [parseMaxAge, hreads (lit "max_age_days")
        (p.maxAgeDays.elim .null fun days ↦ .int days) rfl]
      cases p.maxAgeDays with
      | none => rfl
      | some days =>
        dsimp only [Option.elim]
        rw [Json.sortKeys_int]
        dsimp only
        rw [hint]
        rfl
    have hpolicy : optionalText (ordered p.toDict) (lit "policy_id") = p.policyId :=
      optionalText_of_get? (hreads (lit "policy_id") (.str p.policyId) rfl)
    have hlevel : (Dict.get? (ordered p.toDict) (lit "max_sensitivity")).map Json.pyStr =
        some p.maxSensitivity.text := by
      rw [hreads (lit "max_sensitivity") (.str p.maxSensitivity.text) rfl]
      rfl
    have hnull : Json.obj (ordered p.toDict) ≠ .null := fun h ↦ by cases h
    dsimp only [Option.elim]
    rw [sortKeys_eq_ordered, parseRetention, if_neg hnull, Json.asObject_obj, orRaise_some, ok_bind,
      hdays, ok_bind, hlevel, Option.getD_some, hpolicy]
    dsimp only
    rw [RetentionPolicy.create_eq_ok]
    rfl

/-- What the builder leaves of a bundle: normalized names, and a time in UTC. -/
structure Normal (b : OperationalBundle) (t : Datetime) : Prop where
  createdAt : b.createdAt = .ofUtc t
  ids : ∀ a ∈ b.artifacts, slashes a.artifactId = a.artifactId
  paths : ∀ a ∈ b.artifacts, slashes a.path = a.path

include hint in
/-- A bundle is read back from its manifest. -/
theorem readBundle_toDict {t : Datetime} (hb : b.Lawful) (hn : Normal b t) {payload : Dict Json}
    (hreads : ReadsAs payload ((lit "bundle_id", .str b.bundleId) ::
      (lit "manifest_id", .str b.manifestId) :: b.sharedPayload t)) :
    readBundle int payload = .ok b := by
  have hretention : (payload.get? (lit "retention_policy")).getD .null =
      Json.sortKeys (b.retentionPolicy.elim .null fun p ↦ .obj p.toDict) := by
    rw [hreads (lit "retention_policy") (b.retentionPolicy.elim .null fun p ↦ .obj p.toDict) rfl]
    rfl
  have hartifacts : (payload.get? (lit "artifacts")).getD (.arr []) =
      .arr (b.artifacts.map fun a ↦ .obj (ordered a.toDict)) := by
    rw [hreads (lit "artifacts") (.arr (b.artifacts.map fun a ↦ .obj a.toDict)) rfl,
      Option.getD_some, Json.sortKeys_arr, List.map_map]
    refine congrArg Json.arr (List.map_congr_left fun a _ ↦ ?_)
    exact sortKeys_eq_ordered a.toDict
  have hitems : (b.artifacts.map fun a ↦ Json.obj (ordered a.toDict)).mapM (readArtifact int) =
      .ok b.artifacts :=
    mapM_map_eq_ok fun a ha ↦ readArtifact_toDict hint (hb.artifacts a ha) (hn.ids a ha)
      (hn.paths a ha)
  have hcheck := (OperationalBundle.lawful_iff.mp hb).2
  obtain ⟨bundleId, manifestId, agentName, engineVersion, createdAt, artifacts, retentionPolicy⟩ := b
  obtain rfl : createdAt = .ofUtc t := hn.createdAt
  rw [readBundle, hretention, parseRetention_toDict hint, ok_bind, hartifacts, iterItems, ok_bind,
    hitems, ok_bind, hreads.requiredText (lit "bundle_id") bundleId rfl, ok_bind,
    hreads.requiredText (lit "manifest_id") manifestId rfl, ok_bind,
    hreads.requiredText (lit "agent_name") agentName rfl, ok_bind,
    hreads.requiredText (lit "engine_version") engineVersion rfl, ok_bind,
    hreads.requiredText (lit "created_at") (isoformat t) rfl, ok_bind, parseDatetime_isoformat,
    ok_bind]
  dsimp only
  rw [hcheck, ok_bind]
  rfl

end

/-! ### What the builder gives -/

theorem slashes_slashes (value : Text) : slashes (slashes value) = slashes value := by
  rw [slashes_eq (slashes value), slashes_eq value, List.map_map]
  refine List.map_congr_left fun c _ ↦ ?_
  rw [Function.comp_apply]
  by_cases hc : c = ofChar '\x5c'
  · rw [if_pos hc, if_neg (by decide)]
  · rw [if_neg hc, if_neg hc]

/-- A bundle with its files as the builder leaves them. -/
structure Built (b : OperationalBundle) (files : Dict Bytes) (t : Datetime) : Prop where
  valid : b.Valid
  normal : Normal b t
  encodable : b.Encodable t
  distinct : files.Distinct
  names : ∀ name, name ∈ files.keys ↔ name = lit "manifest.json" ∨ name ∈ b.memberNames
  contents : ∀ a ∈ b.artifacts, ∃ content, files.get? a.memberName = some content ∧
    (content.length : Int) = a.sizeBytes ∧ sha256 content = a.sha256
  manifest : ∃ text, b.manifestText = .ok text ∧
    files.get? (lit "manifest.json") = some (Utf8.ascii text)

section

variable {folder : SpecFolder} {files : Dict Bytes}

/-- A built artifact is lawful, its names are normalized, and its size and digest are those of its
content. -/
theorem buildArtifact_spec {item : Json} {e : OperationalArtifact × Bytes}
    (h : buildArtifact folder item = .ok e) : e.1.Lawful ∧ slashes e.1.artifactId = e.1.artifactId ∧
      slashes e.1.path = e.1.path ∧ (e.2.length : Int) = e.1.sizeBytes ∧
        sha256 e.2 = e.1.sha256 := by
  simp only [buildArtifact, bind_eq_ok, safeArtifactId, safeMemberName] at h
  obtain ⟨members, -, id, ⟨_, -, hid⟩, path, ⟨_, -, hpath⟩, _, -, content, -, _, -, sources, -,
    artifact, hartifact, h⟩ := h
  cases h
  have hlawful := OperationalArtifact.lawful_of_create hartifact
  simp only [OperationalArtifact.create, bind_eq_ok] at hartifact
  obtain ⟨_, -, _, -, _, -, _, -, _, -, _, -, _, -, hartifact⟩ := hartifact
  rw [← Except.ok.inj hid, ← Except.ok.inj hpath] at hartifact
  cases hartifact
  exact ⟨hlawful, slashes_slashes _, slashes_slashes _, rfl, rfl⟩

/-- A bundle under its manifest identity. -/
theorem withManifestId_spec {b d : OperationalBundle} (hb : b.check = .ok ())
    (h : withManifestId b = .ok d) : ∃ manifestId, d = { b with manifestId } ∧ d.check = .ok () ∧
      d.computedManifestId = .ok manifestId := by
  rw [withManifestId, bind_eq_ok] at h
  obtain ⟨computed, hcomputed, h⟩ := h
  split at h
  · simp only [bind_eq_ok] at h
    obtain ⟨⟨⟩, hcheck, h⟩ := h
    cases h
    exact ⟨computed, rfl, hcheck, hcomputed⟩
  · simp only [bind_eq_ok, require_eq_ok] at h
    obtain ⟨⟨⟩, hsame, h⟩ := h
    cases h
    exact ⟨b.manifestId, rfl, hb, by rw [hcomputed, of_decide_eq_true hsame]⟩

/-- A bundle under its identity. -/
theorem withBundleId_spec {b d : OperationalBundle} (hb : b.check = .ok ())
    (h : withBundleId b = .ok d) : ∃ bundleId, d = { b with bundleId } ∧ d.check = .ok () ∧
      d.computedBundleId = .ok bundleId := by
  rw [withBundleId, bind_eq_ok] at h
  obtain ⟨computed, hcomputed, h⟩ := h
  split at h
  · simp only [bind_eq_ok] at h
    obtain ⟨⟨⟩, hcheck, h⟩ := h
    cases h
    exact ⟨computed, rfl, hcheck, hcomputed⟩
  · simp only [bind_eq_ok, require_eq_ok] at h
    obtain ⟨⟨⟩, hsame, h⟩ := h
    cases h
    exact ⟨b.bundleId, rfl, hb, by rw [hcomputed, of_decide_eq_true hsame]⟩

/-- The files of entries with their manifest. -/
private theorem files_spec {entries : List (OperationalArtifact × Bytes)} (manifest : Bytes)
    (hb : b.Lawful) (hentries : b.artifacts = entries.map Prod.fst) :
    Dict.Distinct ((Dict.ofPairs (entries.map fun e ↦ (e.1.memberName, e.2))).set
      (lit "manifest.json") manifest) ∧
    (∀ name, name ∈ Dict.keys ((Dict.ofPairs (entries.map fun e ↦ (e.1.memberName, e.2))).set
      (lit "manifest.json") manifest) ↔ name = lit "manifest.json" ∨ name ∈ b.memberNames) ∧
    ∀ e ∈ entries, Dict.get? ((Dict.ofPairs (entries.map fun e ↦ (e.1.memberName, e.2))).set
      (lit "manifest.json") manifest) e.1.memberName = some e.2 := by
  have hkeys : Dict.keys (entries.map fun e ↦ (e.1.memberName, e.2)) = b.memberNames := by
    rw [Dict.keys, OperationalBundle.memberNames, hentries, List.map_map, List.map_map]
    rfl
  have hdistinct : Dict.Distinct (entries.map fun e ↦ (e.1.memberName, e.2)) := by
    rw [Dict.Distinct, hkeys]
    exact nodup_memberNames hb
  rw [Dict.ofPairs_of_distinct hdistinct]
  have hnew : lit "manifest.json" ∉ Dict.keys (entries.map fun e ↦ (e.1.memberName, e.2)) := by
    rw [hkeys]
    intro hmem
    obtain ⟨a, -, ha⟩ := List.mem_map.mp hmem
    exact a.memberName_ne ha
  refine ⟨?_, fun name ↦ ?_, fun e he ↦ ?_⟩
  · rw [Dict.set_of_not_mem hnew, Dict.Distinct, Dict.keys, List.map_append]
    refine List.nodup_append.mpr ⟨hdistinct, List.nodup_singleton _, fun x hx y hy ↦ ?_⟩
    rw [List.mem_singleton.mp hy]
    rintro rfl
    exact hnew hx
  · rw [Dict.set_of_not_mem hnew, ← hkeys, Dict.keys, List.map_append, List.mem_append, or_comm]
    simp [Dict.keys]
  · rw [Dict.get?_set, if_neg e.1.memberName_ne, Dict.get?_eq_some_iff hdistinct]
    exact List.mem_map_of_mem he

/-- A manifest that was written is ASCII. -/
private theorem isAscii_of_manifestText {t : Datetime} {text : Text} (ht : b.createdAt = .ofUtc t)
    (h : b.manifestText = .ok text) : Utf8.IsAscii text := by
  obtain ⟨text', htext', hascii⟩ :=
    OperationalBundle.manifestText_isAscii (b := b) (by rw [ht, AwareDatetime.toUtc_ofUtc])
  rw [h] at htext'
  rw [Except.ok.inj htext']
  exact hascii

/-- The builder leaves a valid bundle with its files. -/
theorem built_of_buildBundle {int : Json → Except PyError Int} {spec : Bytes}
    (h : buildBundle int folder spec = .ok (b, files)) : ∃ t, Built b files t := by
  simp only [buildBundle, bind_eq_ok] at h
  obtain ⟨payload, -, _, -, items, -, _, -, entries, hentries, _, -, t, -, _, -, _, -, _, -,
    _, hcheck, identified, hidentified, bundle, hbundle, text, htext, manifest, hmanifest, h⟩ := h
  cases h
  obtain ⟨manifestId, rfl, hcheck, hmanifestId⟩ := withManifestId_spec hcheck hidentified
  obtain ⟨bundleId, rfl, hcheck, hbundleId⟩ := withBundleId_spec hcheck hbundle
  have hentry : ∀ e ∈ entries, e.1.Lawful ∧ slashes e.1.artifactId = e.1.artifactId ∧
      slashes e.1.path = e.1.path ∧ (e.2.length : Int) = e.1.sizeBytes ∧
        sha256 e.2 = e.1.sha256 := by
    intro e he
    obtain ⟨item, -, hitem⟩ := (mem_of_mapM_eq_ok hentries).mp he
    exact buildArtifact_spec hitem
  have hlawful := OperationalBundle.lawful_iff.mpr ⟨fun a ha ↦ by
    obtain ⟨e, he, rfl⟩ := List.mem_map.mp ha
    exact (hentry e he).1, hcheck⟩
  have hvalid : OperationalBundle.Valid _ := ⟨hlawful, hmanifestId, hbundleId⟩
  obtain ⟨t', ht', hencodable⟩ :=
    OperationalBundle.encodable_of_computedManifestId hvalid.manifestId
  dsimp only at ht'
  rw [AwareDatetime.toUtc_ofUtc] at ht'
  cases ht'
  have hascii : Utf8.IsAscii text := isAscii_of_manifestText rfl htext
  rw [Utf8.toBytes, Utf8.encode_of_isAscii hascii, orRaise_some] at hmanifest
  cases hmanifest
  obtain ⟨hdistinct, hnames, hcontents⟩ := files_spec (Utf8.ascii text) hlawful rfl
  refine ⟨t, hvalid, ⟨rfl, ?_, ?_⟩, hencodable, hdistinct, hnames, ?_, text, htext, ?_⟩
  · intro a ha
    obtain ⟨e, he, rfl⟩ := List.mem_map.mp ha
    exact (hentry e he).2.1
  · intro a ha
    obtain ⟨e, he, rfl⟩ := List.mem_map.mp ha
    exact (hentry e he).2.2.1
  · intro a ha
    obtain ⟨e, he, rfl⟩ := List.mem_map.mp ha
    exact ⟨e.2, hcontents e he, (hentry e he).2.2.2⟩
  · rw [Dict.get?_set, if_pos rfl]

end

/-! ### Reading the file -/

/-- A file within the limits that holds an archive. -/
structure BundleFile.Holds (file : BundleFile) (archive : Archive) : Prop where
  members : file.members = archive
  contained : file.contained = .ok ()
  size : file.raw.length ≤ maxInputBytes

section

variable {int : Json → Except PyError Int} {files : Dict Bytes} {t : Datetime} {file : BundleFile}

private theorem mem_keys_erase {d : Dict Bytes} {key name : Text} :
    name ∈ Dict.keys (d.erase key) ↔ name ≠ key ∧ name ∈ d.keys := by
  rw [Dict.mem_keys, Dict.mem_keys]
  simp [Dict.erase, and_comm]

/-- Both identities of a valid bundle are digests. -/
theorem OperationalBundle.Valid.digested (h : b.Valid) :
    isSha256 b.bundleId = true ∧ isSha256 b.manifestId = true := by
  have hbundle := h.bundleId
  have hmanifest := h.manifestId
  simp only [computedBundleId, computedManifestId, bind_eq_ok] at hbundle hmanifest
  obtain ⟨_, -, _, -, _, -, hbundle⟩ := hbundle
  obtain ⟨_, -, _, -, hmanifest⟩ := hmanifest
  rw [← Except.ok.inj hbundle, ← Except.ok.inj hmanifest]
  exact ⟨isSha256_sha256 _, isSha256_sha256 _⟩

/-- The texts of a built manifest have no surrogates. -/
private theorem Built.surrogateFree_manifest (h : Built b files t) :
    ∀ s ∈ Json.texts (.obj ((lit "bundle_id", .str b.bundleId) ::
      (lit "manifest_id", .str b.manifestId) :: b.sharedPayload t)), SurrogateFree s := by
  have hstr : ∀ {s : Text}, isSha256 s = true → ∀ t ∈ Json.texts (.str s), SurrogateFree t := by
    intro s hs t ht
    rw [Json.mem_texts_str.mp ht]
    exact surrogateFree_of_isSha256 hs
  rw [Json.forall_texts_obj, List.forall_mem_cons, List.forall_mem_cons]
  exact ⟨⟨surrogateFree_lit _, hstr h.valid.digested.1⟩, ⟨surrogateFree_lit _,
    hstr h.valid.digested.2⟩, Json.forall_texts_obj.mp h.encodable⟩

/-- The manifest of a built bundle is read back as the bundle. -/
private theorem Built.readBundle_manifest (hint : ∀ n, int (.int n) = .ok n)
    (h : Built b files t) : ∃ text payload,
      files.get? (lit "manifest.json") = some (Utf8.ascii text) ∧
        Utf8.ofBytes (Utf8.ascii text) = .ok text ∧ Json.loads text = .ok (.obj payload) ∧
          readBundle int payload = .ok b := by
  obtain ⟨text, htext, hmanifest⟩ := h.manifest
  have hcreated : b.createdAt.toUtc = .ok t := by
    rw [h.normal.createdAt, AwareDatetime.toUtc_ofUtc]
  have hascii := isAscii_of_manifestText h.normal.createdAt htext
  rw [OperationalBundle.manifestText_eq_ok hcreated] at htext
  have hwritable := b.writable_manifest t
  have hreads := readsAs_readMembers Json.indented hwritable fun s hs ↦
    (h.surrogateFree_manifest s hs).pairFree
  refine ⟨text, _, hmanifest, Utf8.ofBytes_ascii hascii, ?_,
    readBundle_toDict hint h.valid.toLawful h.normal hreads⟩
  have hblank : ∀ c ∈ [Lines.newline], Json.isBlank c = true := by
    intro c hc
    rw [List.mem_singleton.mp hc]
    rfl
  rw [← Except.ok.inj htext, Json.loads_dumps_obj_append Json.indented hwritable hblank]

/-- The artifacts of a bundle with exactly their files. -/
structure Extracts (b : OperationalBundle) (files contents : Dict Bytes) : Prop where
  names : ∀ name, name ∈ contents.keys ↔ name ∈ b.memberNames
  same : ∀ name ∈ b.memberNames, contents.get? name = files.get? name

/-- The file of a built bundle is read as the bundle with exactly its files. -/
theorem readManifest_built (hint : ∀ n, int (.int n) = .ok n) (h : Built b files t)
    (hfile : file.Holds (exportBundle files)) :
    ∃ contents, readManifest int file = .ok (b, contents) ∧ Extracts b files contents := by
  obtain ⟨text, payload, hmanifest, hdecode, hloads, hread⟩ := h.readBundle_manifest hint
  have hget : ∀ name, file.members.get? name = files.get? name := fun name ↦ by
    rw [hfile.members, exportBundle, Dict.get?_sorted h.distinct]
  have hdistinct : file.members.Distinct := by
    rw [hfile.members]
    exact h.distinct.sorted
  have hkeys : ∀ name, name ∈ Dict.keys (file.members.erase (lit "manifest.json")) ↔
      name ∈ b.memberNames := by
    intro name
    rw [mem_keys_erase, hfile.members, exportBundle, Dict.mem_keys_sorted, h.names]
    constructor
    · exact fun hname ↦ hname.2.resolve_left hname.1
    · intro hname
      obtain ⟨a, -, rfl⟩ := List.mem_map.mp hname
      exact ⟨a.memberName_ne, .inr hname⟩
  have hcontents : checkContents b (Dict.keys (file.members.erase (lit "manifest.json"))) =
      .ok () :=
    require_eq_ok.mpr (decide_eq_true ⟨fun name hname ↦ (hkeys name).mp hname,
      fun name hname ↦ (hkeys name).mpr hname⟩)
  obtain ⟨extracted, hextracted⟩ := exists_mapM_eq_ok
    (l := b.memberNames.dedup.insertionSort (· ≤ ·)) (f := fun name ↦ do
      let content ← orRaise ⟨.keyError, name⟩ (file.members.get? name)
      pure (name, content)) fun name hname ↦ by
    rw [List.mem_insertionSort, List.mem_dedup] at hname
    obtain ⟨a, ha, rfl⟩ := List.mem_map.mp hname
    obtain ⟨content, hcontent, -⟩ := h.contents a ha
    exact ⟨(a.memberName, content), by rw [hget, hcontent]; rfl⟩
  have hsizes : forM b.artifacts (fun a : OperationalArtifact ↦ do
      let content ← orRaise ⟨.keyError, a.memberName⟩ (file.members.get? a.memberName)
      require ⟨.valueError, lit "ZIP member size mismatch for artifact " ++ a.artifactId ++
        lit ": manifest=" ++ Json.intText a.sizeBytes ++ lit ", archive=" ++
        Json.intText content.length⟩ ((content.length : Int) = a.sizeBytes)) = .ok () := by
    rw [forM_eq_ok]
    intro a ha
    obtain ⟨content, hcontent, hsize, -⟩ := h.contents a ha
    rw [hget, hcontent, orRaise_some, ok_bind]
    exact require_eq_ok.mpr (decide_eq_true hsize)
  refine ⟨Dict.ofPairs extracted, ?_, ?_⟩
  · rw [readManifest, decide_eq_true hdistinct, require_true, ok_bind, hget, hmanifest,
      orRaise_some, ok_bind, hdecode, ok_bind, hloads, ok_bind, Json.asObject_obj, orRaise_some,
      ok_bind, hread, ok_bind, hcontents, ok_bind, hfile.contained, ok_bind, hsizes, ok_bind,
      hextracted, ok_bind]
    rfl
  · have hnames : Dict.keys extracted = b.memberNames.dedup.insertionSort (· ≤ ·) := by
      have hmap := map_of_mapM_eq_ok (g := Prod.fst) (k := id) (fun name m hm ↦ by
        rw [bind_eq_ok] at hm
        obtain ⟨content, -, hm⟩ := hm
        cases hm
        rfl) hextracted
      rw [List.map_id] at hmap
      exact hmap
    have hunique : Dict.Distinct extracted := by
      rw [Dict.Distinct, hnames]
      exact (List.perm_insertionSort _ _).nodup_iff.mpr (List.nodup_dedup _)
    rw [Dict.ofPairs_of_distinct hunique]
    refine ⟨fun name ↦ ?_, fun name hname ↦ ?_⟩
    · rw [hnames, List.mem_insertionSort, List.mem_dedup]
    · obtain ⟨a, ha, rfl⟩ := List.mem_map.mp hname
      obtain ⟨content, hcontent, -⟩ := h.contents a ha
      rw [hcontent, Dict.get?_eq_some_iff hunique, mem_of_mapM_eq_ok hextracted]
      refine ⟨a.memberName, ?_, by rw [hget, hcontent]; rfl⟩
      rw [List.mem_insertionSort, List.mem_dedup]
      exact hname

/-- Verifying the file of a built bundle is verifying its provenance. -/
theorem verifyBundle_built (hint : ∀ n, int (.int n) = .ok n) (h : Built b files t)
    (hfile : file.Holds (exportBundle files)) :
    verifyBundle int file = .ok b ↔ verifyBundleProvenance file.raw b = .ok () := by
  obtain ⟨contents, hread, hextracts⟩ := readManifest_built hint h hfile
  have hcontents : checkContents b contents.keys = .ok () :=
    require_eq_ok.mpr (decide_eq_true ⟨fun name hname ↦ (hextracts.names name).mp hname,
      fun name hname ↦ (hextracts.names name).mpr hname⟩)
  have hartifacts : forM b.artifacts (checkArtifactContent contents) = .ok () := by
    rw [forM_eq_ok]
    intro a ha
    obtain ⟨content, hcontent, hsize, hdigest⟩ := h.contents a ha
    rw [checkArtifactContent, hextracts.same _ (List.mem_map_of_mem ha), hcontent, orRaise_some,
      ok_bind, decide_eq_true hsize, require_true, ok_bind]
    exact require_eq_ok.mpr (decide_eq_true hdigest)
  rw [verifyBundle, decide_eq_true hfile.size, require_true, ok_bind, hread, ok_bind]
  dsimp only
  rw [h.valid.manifestId, ok_bind, decide_eq_true rfl, require_true, ok_bind, h.valid.bundleId,
    ok_bind, decide_eq_true rfl, require_true, ok_bind, hcontents, ok_bind, hartifacts, ok_bind,
    bind_eq_ok]
  exact ⟨fun ⟨⟨⟩, hp, _⟩ ↦ hp, fun hp ↦ ⟨(), hp, rfl⟩⟩

end

private theorem roundTrips_iff {int : Json → Except PyError Int} (hint : ∀ n, int (.int n) = .ok n)
    {folder : SpecFolder} {spec : Bytes} {files : Dict Bytes}
    (hbuild : buildBundle int folder spec = .ok (b, files)) {file : BundleFile}
    (hfile : file.Holds (exportBundle files)) :
    (verifyBundle int file = .ok b ∧
      ∃ contents, readManifest int file = .ok (b, contents) ∧ Extracts b files contents) ↔
      lit "bundle" ∉ b.ids ∧ b.Acyclic := by
  obtain ⟨t, h⟩ := built_of_buildBundle hbuild
  rw [verifyBundle_built hint h hfile, verifyBundleProvenance_eq_ok h.valid.toLawful h.encodable
    (surrogateFree_of_isSha256 h.valid.digested.1)]
  exact and_iff_left (readManifest_built hint h hfile)

/-- The file of a bundle that was built is verified, and read as the bundle with exactly its files,
exactly when no artifact is named `bundle` and none derives from itself. -/
theorem bundle_roundTrips_iff {int : Json → Except PyError Int} (hint : ∀ n, int (.int n) = .ok n)
    {folder : SpecFolder} {spec : Bytes} {files : Dict Bytes}
    (hbuild : buildBundle int folder spec = .ok (b, files)) {file : BundleFile}
    (hfile : file.Holds (exportBundle files)) :
    (verifyBundle int file = .ok b ∧
      ∃ contents, readManifest int file = .ok (b, contents) ∧ Extracts b files contents) ↔
      lit "bundle" ∉ b.ids ∧ b.Acyclic :=
  roundTrips_iff hint hbuild hfile

/-! ### Bundles of one artifact -/

/-- The specification of a bundle of one artifact. -/
private def oneSpec (artifactId : String) : Bytes :=
  Utf8.ascii (Json.dumps Json.compact (.obj [(lit "bundle_id", .str (lit "pending")),
    (lit "agent_name", .str (lit "a")),
    (lit "created_at", .str (lit "2024-01-01T00:00:00+00:00")),
    (lit "artifacts", .arr [.obj [(lit "artifact_id", .str (lit artifactId)),
      (lit "path", .str (lit "p"))]])]))

private def oneFolder : SpecFolder := ⟨⟨fun _ ↦ true, fun _ ↦ some []⟩, fun _ ↦ lit "file"⟩

/-- `int` of an integer. -/
private def exactInt : Json → Except PyError Int
  | .int n => .ok n
  | _ => .error ⟨.typeError, []⟩

private theorem built_one (artifactId : String)
    (h : (buildBundle exactInt oneFolder (oneSpec artifactId)).toOption.map
      (fun r ↦ (r.1.ids, r.1.artifacts.map OperationalArtifact.derivedFrom)) =
        some ([lit artifactId], [[]])) : ∃ b files file,
      buildBundle exactInt oneFolder (oneSpec artifactId) = .ok (b, files) ∧
      BundleFile.Holds file (exportBundle files) ∧ b.ids = [lit artifactId] ∧ b.Acyclic := by
  obtain ⟨⟨b, files⟩, hbuild, heq⟩ := Option.map_eq_some_iff.mp h
  rw [Prod.mk.injEq] at heq
  obtain ⟨hids, hsources⟩ := heq
  have hacyclic : b.Acyclic := by
    intro x hcycle
    obtain ⟨y, ⟨a, ha, -, hy⟩, -⟩ := Relation.TransGen.head'_iff.mp hcycle
    have hnone : a.derivedFrom ∈ [[]] := hsources ▸ List.mem_map_of_mem ha
    rw [List.mem_singleton.mp hnone] at hy
    cases hy
  refine ⟨b, files, ⟨[], exportBundle files, .ok ()⟩, ?_, ⟨rfl, rfl, Nat.zero_le _⟩, hids, hacyclic⟩
  cases hresult : buildBundle exactInt oneFolder (oneSpec artifactId) with
  | error e =>
    rw [hresult] at hbuild
    cases hbuild
  | ok r =>
    rw [hresult] at hbuild
    rw [Option.some.inj hbuild]

/-- Not every bundle that was built is verified: an artifact named `bundle` is in the way. -/
theorem not_bundle_roundTrips : ¬∀ (int : Json → Except PyError Int), (∀ n, int (.int n) = .ok n) →
    ∀ (folder : SpecFolder) (spec : Bytes) (b : OperationalBundle) (files : Dict Bytes),
      buildBundle int folder spec = .ok (b, files) →
        ∀ file : BundleFile, file.Holds (exportBundle files) → verifyBundle int file = .ok b ∧
          ∃ contents, readManifest int file = .ok (b, contents) ∧ Extracts b files contents := by
  intro hall
  obtain ⟨b, files, file, hbuild, hfile, hids, -⟩ := built_one "bundle"
    (by decide +kernel)
  have hfree := (roundTrips_iff (fun _ ↦ rfl) hbuild hfile).mp
    (hall exactInt (fun _ ↦ rfl) _ _ _ _ hbuild _ hfile)
  rw [hids] at hfree
  exact hfree.1 (List.mem_singleton_self _)

/-- A bundle of a report is verified. -/
theorem bundle_roundTrips_report : ∃ b files file,
    buildBundle exactInt oneFolder (oneSpec "report") = .ok (b, files) ∧
      (verifyBundle exactInt file = .ok b ∧ ∃ contents,
        readManifest exactInt file = .ok (b, contents) ∧ Extracts b files contents) := by
  obtain ⟨b, files, file, hbuild, hfile, hids, hacyclic⟩ := built_one "report"
    (by decide +kernel)
  refine ⟨b, files, file, hbuild, (bundle_roundTrips_iff (fun _ ↦ rfl) hbuild hfile).mpr
    ⟨?_, hacyclic⟩⟩
  rw [hids]
  decide

end StateWake.Operations
