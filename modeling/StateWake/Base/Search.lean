import Mathlib.Algebra.GroupWithZero.Nat
import Mathlib.Algebra.BigOperators.Group.List.Basic
import Mathlib.Logic.Relation
import Mathlib.Data.List.Nodup
import Mathlib.Data.List.Perm.Subperm

/-!
# Searching a finite graph

Two searches over `next`: a worklist that looks for a target, and a depth-first visit that stops
at a cycle. With enough fuel for the vertices the first finds every path and the second every
cycle, and neither uses its fuel up.
-/

namespace StateWake.Base.Search

variable {α : Type} [DecidableEq α] (next : α → List α)

/-- One edge. -/
def Edge (x y : α) : Prop := y ∈ next x

/-- A set of vertices that edges do not leave. -/
def Closed (vertices : List α) : Prop := ∀ x ∈ vertices, ∀ y ∈ next x, y ∈ vertices

/-! ### The worklist -/

/-- The worklist: the last vertex of the stack, which is the head of the list, is next. -/
def find (target : α) : Nat → List α → List α → Bool
  | 0, _, _ => false
  | _ + 1, _, [] => false
  | fuel + 1, seen, current :: stack =>
    if current = target then true
    else if current ∈ seen then find target fuel seen stack
    else find target fuel (current :: seen) ((next current).reverse ++ stack)

/-- The edges out of some vertices. -/
def edgeCount (vertices : List α) : Nat := (vertices.map fun x ↦ (next x).length).sum

variable {next} {target : α}

/-- What is found can be reached from the stack. -/
theorem exists_path_of_find {fuel : Nat} {seen stack : List α}
    (h : find next target fuel seen stack = true) :
    ∃ x ∈ stack, Relation.ReflTransGen (Edge next) x target := by
  induction fuel generalizing seen stack with
  | zero => exact absurd h Bool.false_ne_true
  | succ fuel ih =>
    cases stack with
    | nil => exact absurd h Bool.false_ne_true
    | cons current stack =>
      rw [find] at h
      by_cases htarget : current = target
      · exact ⟨current, List.mem_cons_self, htarget ▸ .refl⟩
      rw [if_neg htarget] at h
      by_cases hseen : current ∈ seen
      · rw [if_pos hseen] at h
        obtain ⟨x, hx, hpath⟩ := ih h
        exact ⟨x, List.mem_cons_of_mem _ hx, hpath⟩
      · rw [if_neg hseen] at h
        obtain ⟨x, hx, hpath⟩ := ih h
        rw [List.mem_append, List.mem_reverse] at hx
        cases hx with
        | inl hx => exact ⟨current, List.mem_cons_self, .head hx hpath⟩
        | inr hx => exact ⟨x, List.mem_cons_of_mem _ hx, hpath⟩

/-- Everything seen leads to what is seen or stacked, and none of it is the target. -/
structure Explored (next : α → List α) (target : α) (seen stack : List α) : Prop where
  leads : ∀ x ∈ seen, ∀ y ∈ next x, y ∈ seen ∨ y ∈ stack
  other : target ∉ seen

omit [DecidableEq α] in
/-- A path that starts where the search has been passes through the stack. -/
theorem Explored.exists_path {seen stack : List α} (h : Explored next target seen stack) {x : α}
    (hx : x ∈ seen ∨ x ∈ stack) (hpath : Relation.ReflTransGen (Edge next) x target) :
    ∃ y ∈ stack, Relation.ReflTransGen (Edge next) y target := by
  induction hpath using Relation.ReflTransGen.head_induction_on with
  | refl => exact ⟨target, hx.resolve_left h.other, .refl⟩
  | head hedge hpath ih =>
    cases hx with
    | inl hx => exact ih (h.leads _ hx _ hedge)
    | inr hx => exact ⟨_, hx, .head hedge hpath⟩

theorem edgeCount_erase {vertices : List α} {x : α} (hx : x ∈ vertices) :
    edgeCount next vertices = (next x).length + edgeCount next (vertices.erase x) := by
  rw [edgeCount, ((List.perm_cons_erase hx).map _).sum_eq, List.map_cons, List.sum_cons]
  rfl

/-- The worklist finds its target where a path exists, with fuel for the stack and for the edges
out of the vertices not yet seen. -/
theorem find_of_path {fuel : Nat} {seen stack unseen vertices : List α}
    (hclosed : Closed next vertices) (hstack : ∀ x ∈ stack, x ∈ vertices)
    (hunseen : ∀ x ∈ vertices, x ∉ seen → x ∈ unseen) (h : Explored next target seen stack)
    (hfuel : stack.length + edgeCount next unseen < fuel)
    (hpath : ∃ x ∈ stack, Relation.ReflTransGen (Edge next) x target) :
    find next target fuel seen stack = true := by
  induction fuel generalizing seen stack unseen with
  | zero => exact absurd hfuel (Nat.not_lt_zero _)
  | succ fuel ih =>
    cases stack with
    | nil =>
      obtain ⟨x, hx, -⟩ := hpath
      exact absurd hx List.not_mem_nil
    | cons current stack =>
      rw [find]
      by_cases htarget : current = target
      · rw [if_pos htarget]
      rw [if_neg htarget]
      rw [List.length_cons] at hfuel
      obtain ⟨hcurrent, hrest⟩ := List.forall_mem_cons.mp hstack
      by_cases hseen : current ∈ seen
      · have hnext : Explored next target seen stack := by
          refine ⟨fun x hx y hy ↦ ?_, h.other⟩
          rcases h.leads x hx y hy with hmem | hmem
          · exact .inl hmem
          rcases List.mem_cons.mp hmem with rfl | hmem
          · exact .inl hseen
          · exact .inr hmem
        rw [if_pos hseen]
        refine ih hrest hunseen hnext (by omega) ?_
        obtain ⟨x, hx, hpath⟩ := hpath
        refine hnext.exists_path ?_ hpath
        rcases List.mem_cons.mp hx with rfl | hx
        · exact .inl hseen
        · exact .inr hx
      · have hnext : Explored next target (current :: seen)
            ((next current).reverse ++ stack) := by
          constructor
          · intro x hx y hy
            rw [List.mem_append, List.mem_reverse]
            rcases List.mem_cons.mp hx with rfl | hx
            · exact .inr (.inl hy)
            rcases h.leads x hx y hy with hmem | hmem
            · exact .inl (List.mem_cons_of_mem _ hmem)
            rcases List.mem_cons.mp hmem with rfl | hmem
            · exact .inl List.mem_cons_self
            · exact .inr (.inr hmem)
          · rw [List.mem_cons, not_or]
            exact ⟨fun heq ↦ htarget heq.symm, h.other⟩
        rw [if_neg hseen]
        have hcount : edgeCount next unseen = _ :=
          edgeCount_erase (hunseen current hcurrent hseen)
        have hunseen' : ∀ x ∈ vertices, x ∉ current :: seen → x ∈ unseen.erase current := by
          intro x hx hnot
          rw [List.mem_cons, not_or] at hnot
          exact (List.mem_erase_of_ne hnot.1).mpr (hunseen x hx hnot.2)
        refine ih ?_ hunseen' hnext ?_ ?_
        · intro x hx
          rw [List.mem_append, List.mem_reverse] at hx
          exact hx.elim (hclosed current hcurrent x) (hrest x)
        · rw [List.length_append, List.length_reverse]
          omega
        · obtain ⟨x, hx, hpath⟩ := hpath
          refine hnext.exists_path ?_ hpath
          rcases List.mem_cons.mp hx with rfl | hx
          · exact .inl List.mem_cons_self
          · exact .inr (List.mem_append_right _ hx)

/-- From one vertex the worklist decides whether a path leads to the target. -/
theorem find_iff {vertices : List α} {start : α} (hclosed : Closed next vertices)
    (hstart : start ∈ vertices) :
    find next target (edgeCount next vertices + 2) [] [start] = true ↔
      Relation.ReflTransGen (Edge next) start target := by
  constructor
  · intro h
    obtain ⟨x, hx, hpath⟩ := exists_path_of_find h
    rw [List.mem_singleton.mp hx] at hpath
    exact hpath
  · intro hpath
    refine find_of_path hclosed ?_ (fun x hx _ ↦ hx) ⟨nofun, List.not_mem_nil⟩ ?_
      ⟨start, List.mem_singleton_self _, hpath⟩
    · intro x hx
      rw [List.mem_singleton.mp hx]
      exact hstart
    · rw [List.length_singleton]
      omega

/-! ### The fuel of the worklist -/

variable (next) in
/-- The worklist, with an answer of its own where the fuel runs out. -/
def findOr (out : Bool) (target : α) : Nat → List α → List α → Bool
  | 0, _, _ => out
  | _ + 1, _, [] => false
  | fuel + 1, seen, current :: stack =>
    if current = target then true
    else if current ∈ seen then findOr out target fuel seen stack
    else findOr out target fuel (current :: seen) ((next current).reverse ++ stack)

/-- With fuel for the stack and for the edges out of the vertices not yet seen, the worklist ends
before its fuel does. -/
theorem findOr_eq_find (out : Bool) {fuel : Nat} {seen stack unseen vertices : List α}
    (hclosed : Closed next vertices) (hstack : ∀ x ∈ stack, x ∈ vertices)
    (hunseen : ∀ x ∈ vertices, x ∉ seen → x ∈ unseen)
    (hfuel : stack.length + edgeCount next unseen < fuel) :
    findOr next out target fuel seen stack = find next target fuel seen stack := by
  induction fuel generalizing seen stack unseen with
  | zero => exact absurd hfuel (Nat.not_lt_zero _)
  | succ fuel ih =>
    cases stack with
    | nil => rfl
    | cons current stack =>
      rw [List.length_cons] at hfuel
      have hcurrent : current ∈ vertices := hstack current List.mem_cons_self
      have hrest : ∀ x ∈ stack, x ∈ vertices := fun x hx ↦ hstack x (List.mem_cons_of_mem _ hx)
      rw [findOr, find]
      by_cases htarget : current = target
      · rw [if_pos htarget, if_pos htarget]
      rw [if_neg htarget, if_neg htarget]
      by_cases hseen : current ∈ seen
      · rw [if_pos hseen, if_pos hseen]
        exact ih hrest hunseen (by omega)
      · rw [if_neg hseen, if_neg hseen]
        have hcount : edgeCount next unseen = _ :=
          edgeCount_erase (hunseen current hcurrent hseen)
        have hunseen' : ∀ x ∈ vertices, x ∉ current :: seen → x ∈ unseen.erase current := by
          intro x hx hnot
          rw [List.mem_cons, not_or] at hnot
          exact (List.mem_erase_of_ne hnot.1).mpr (hunseen x hx hnot.2)
        apply ih _ hunseen'
        · rw [List.length_append, List.length_reverse]
          omega
        · intro x hx
          rw [List.mem_append, List.mem_reverse] at hx
          exact hx.elim (hclosed current hcurrent x) (hrest x)

/-! ### The visit -/

variable (next) in
/-- The visit of a vertex with those it is below and those already left: the vertices left after
it, or nothing at a cycle. -/
def visit : Nat → List α → List α → α → Option (List α)
  | 0, _, _, _ => none
  | fuel + 1, visiting, visited, x =>
    if x ∈ visiting then none
    else if x ∈ visited then some visited
    else do
      let left ← (next x).foldlM (visit fuel (x :: visiting)) visited
      pure (x :: left)

variable (next) in
/-- The visit of all vertices in turn. -/
def visitAll (vertices : List α) : Option (List α) :=
  vertices.foldlM (visit next (vertices.length + 1) []) []

variable (next) in
/-- The visit of a vertex, with an answer of its own where the fuel runs out. -/
def visitOr (out : Option (List α)) : Nat → List α → List α → α → Option (List α)
  | 0, _, _, _ => out
  | fuel + 1, visiting, visited, x =>
    if x ∈ visiting then none
    else if x ∈ visited then some visited
    else do
      let left ← (next x).foldlM (visitOr out fuel (x :: visiting)) visited
      pure (x :: left)

omit [DecidableEq α] in
/-- Folds whose steps agree on the vertices of a list agree. -/
theorem foldlM_congr {xs : List α} {f g : List α → α → Option (List α)}
    (h : ∀ x ∈ xs, ∀ v, f v x = g v x) (visited : List α) :
    xs.foldlM f visited = xs.foldlM g visited := by
  induction xs generalizing visited with
  | nil => rfl
  | cons x xs ih =>
    rw [List.foldlM_cons, List.foldlM_cons, h x List.mem_cons_self]
    exact congrArg _ (funext fun v ↦ ih (fun y hy ↦ h y (List.mem_cons_of_mem _ hy)) v)

/-- With fuel for the vertices it is not below, a visit ends before its fuel does: it is never
below one vertex twice. -/
theorem visitOr_eq_visit (out : Option (List α)) {vertices : List α}
    (hclosed : Closed next vertices) {fuel : Nat} {visiting visited : List α} {x : α}
    (hx : x ∈ vertices) (hnodup : visiting.Nodup) (hsub : visiting ⊆ vertices)
    (hfuel : vertices.length < fuel + visiting.length) :
    visitOr next out fuel visiting visited x = visit next fuel visiting visited x := by
  induction fuel generalizing visiting visited x with
  | zero =>
    have hle := (hnodup.subperm hsub).length_le
    omega
  | succ fuel ih =>
    rw [visitOr, visit]
    by_cases hvisiting : x ∈ visiting
    · rw [if_pos hvisiting, if_pos hvisiting]
    rw [if_neg hvisiting, if_neg hvisiting]
    have hbelow : (next x).foldlM (visitOr next out fuel (x :: visiting)) visited =
        (next x).foldlM (visit next fuel (x :: visiting)) visited := by
      refine foldlM_congr (fun y hy v ↦ ?_) visited
      refine ih (hclosed x hx y hy) (List.nodup_cons.mpr ⟨hvisiting, hnodup⟩)
        (List.cons_subset.mpr ⟨hx, hsub⟩) ?_
      rw [List.length_cons]
      omega
    rw [hbelow]

variable (next) in
/-- Vertices in an order in which each leads to later ones only. -/
def Layered : List α → Prop
  | [] => True
  | x :: rest => (∀ y ∈ next x, y ∈ rest) ∧ Layered rest

omit [DecidableEq α] in
/-- No walk in layered vertices goes on for ever. -/
theorem Layered.acc {vertices : List α} (h : Layered next vertices) :
    ∀ x ∈ vertices, Acc (fun y x ↦ Edge next x y) x := by
  induction vertices with
  | nil => exact nofun
  | cons x rest ih =>
    refine List.forall_mem_cons.mpr ⟨⟨x, fun y hy ↦ ih h.2 y (h.1 y hy)⟩, ih h.2⟩

omit [DecidableEq α] in
/-- A vertex from which no walk goes on for ever is on no cycle. -/
theorem not_cycle_of_acc {x : α} (h : Acc (fun y x ↦ Edge next x y) x) :
    ¬Relation.TransGen (Edge next) x x := by
  have hflip : Acc (Relation.TransGen fun y x ↦ Edge next x y) x := h.transGen
  intro hcycle
  have hswap : Relation.TransGen (fun y x ↦ Edge next x y) x x :=
    Relation.transGen_swap.mp hcycle
  clear hcycle h
  induction hflip with
  | intro x _ ih => exact ih x hswap hswap

omit [DecidableEq α] in
/-- What a fold over vertices preserves, when each of its steps does. -/
theorem foldlM_spec {visited left : List α} {xs : List α}
    {f : List α → α → Option (List α)} (h : xs.foldlM f visited = some left)
    (hf : ∀ x ∈ xs, ∀ v l, Layered next v → f v x = some l →
      Layered next l ∧ x ∈ l ∧ v ⊆ l) (hvisited : Layered next visited) :
    Layered next left ∧ (∀ x ∈ xs, x ∈ left) ∧ visited ⊆ left := by
  induction xs generalizing visited with
  | nil =>
    cases h
    exact ⟨hvisited, nofun, List.Subset.refl _⟩
  | cons x xs ih =>
    rw [List.foldlM_cons, Option.bind_eq_bind, Option.bind_eq_some_iff] at h
    obtain ⟨between, hbetween, h⟩ := h
    obtain ⟨hlayered, hx, hsub⟩ := hf x List.mem_cons_self _ _ hvisited hbetween
    obtain ⟨hleft, hxs, hrest⟩ := ih h
      (fun y hy ↦ hf y (List.mem_cons_of_mem _ hy)) hlayered
    exact ⟨hleft, List.forall_mem_cons.mpr ⟨hrest hx, hxs⟩, fun _ hy ↦ hrest (hsub hy)⟩

/-- A visit that meets no cycle leaves layered vertices, the visited one among them. -/
theorem visit_spec {fuel : Nat} {visiting visited left : List α} {x : α}
    (h : visit next fuel visiting visited x = some left) (hvisited : Layered next visited) :
    Layered next left ∧ x ∈ left ∧ visited ⊆ left := by
  induction fuel generalizing visiting visited left x with
  | zero => cases h
  | succ fuel ih =>
    rw [visit] at h
    by_cases hvisiting : x ∈ visiting
    · rw [if_pos hvisiting] at h
      cases h
    rw [if_neg hvisiting] at h
    by_cases hmem : x ∈ visited
    · rw [if_pos hmem] at h
      cases h
      exact ⟨hvisited, hmem, List.Subset.refl _⟩
    · rw [if_neg hmem, Option.bind_eq_bind, Option.bind_eq_some_iff] at h
      obtain ⟨below, hbelow, h⟩ := h
      cases h
      obtain ⟨hlayered, hnext, hsub⟩ := foldlM_spec hbelow
        (fun y _ v l hv hl ↦ ih hl hv) hvisited
      exact ⟨⟨hnext, hlayered⟩, List.mem_cons_self, List.subset_cons_of_subset _ hsub⟩

omit [DecidableEq α] in
/-- A fold whose steps all go on goes on. -/
theorem foldlM_isSome {xs visited : List α} {f : List α → α → Option (List α)}
    (hf : ∀ x ∈ xs, ∀ v, (f v x).isSome) : (xs.foldlM f visited).isSome := by
  induction xs generalizing visited with
  | nil => rfl
  | cons x xs ih =>
    obtain ⟨between, hbetween⟩ :=
      Option.isSome_iff_exists.mp (hf x List.mem_cons_self visited)
    rw [List.foldlM_cons, hbetween]
    exact ih fun y hy ↦ hf y (List.mem_cons_of_mem _ hy)

/-- A visit below vertices that all lead to it goes on, where there is no cycle. -/
theorem visit_isSome {vertices : List α} (hclosed : Closed next vertices)
    (hacyclic : ∀ x ∈ vertices, ¬Relation.TransGen (Edge next) x x) {fuel : Nat}
    {visiting visited : List α} {x : α} (hx : x ∈ vertices) (hnodup : visiting.Nodup)
    (hsub : visiting ⊆ vertices) (hfuel : vertices.length < fuel + visiting.length)
    (habove : ∀ v ∈ visiting, Relation.TransGen (Edge next) v x) :
    (visit next fuel visiting visited x).isSome := by
  induction fuel generalizing visiting visited x with
  | zero =>
    have hle := (hnodup.subperm hsub).length_le
    omega
  | succ fuel ih =>
    have hnot : x ∉ visiting := fun hmem ↦ hacyclic x hx (habove x hmem)
    rw [visit, if_neg hnot]
    by_cases hvisited : x ∈ visited
    · rw [if_pos hvisited]
      rfl
    · rw [if_neg hvisited]
      have hbelow : ((next x).foldlM (visit next fuel (x :: visiting)) visited).isSome := by
        refine foldlM_isSome fun y hy v ↦ ih (hclosed x hx y hy)
          (List.nodup_cons.mpr ⟨hnot, hnodup⟩) (List.cons_subset.mpr ⟨hx, hsub⟩) ?_ ?_
        · rw [List.length_cons]
          omega
        · exact List.forall_mem_cons.mpr ⟨.single hy, fun v hv ↦ (habove v hv).tail hy⟩
      obtain ⟨left, hleft⟩ := Option.isSome_iff_exists.mp hbelow
      rw [hleft]
      rfl

/-- The visit of a closed set of vertices ends exactly when none of them is on a cycle. -/
theorem visitAll_isSome_iff {vertices : List α} (hclosed : Closed next vertices) :
    (visitAll next vertices).isSome ↔ ∀ x ∈ vertices, ¬Relation.TransGen (Edge next) x x := by
  constructor
  · intro h x hx
    obtain ⟨left, hleft⟩ := Option.isSome_iff_exists.mp h
    have hspec := foldlM_spec hleft (fun y _ v l hv hl ↦ visit_spec hl hv) trivial
    exact not_cycle_of_acc (hspec.1.acc x (hspec.2.1 x hx))
  · intro hacyclic
    refine foldlM_isSome fun x hx v ↦ visit_isSome hclosed hacyclic hx List.nodup_nil
      (List.nil_subset _) ?_ nofun
    rw [List.length_nil]
    omega

end StateWake.Base.Search
