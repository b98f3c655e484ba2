import StateWake.Base.FirstCome
import Mathlib.Data.List.Sort
import Mathlib.Data.Prod.Lex

/-!
# Tallies

`counts[key] = counts.get(key, 0) + 1` over a list: a dictionary with one entry for every key, in
order of first appearance, that holds the number of times the key came. Sorted, it depends on
these numbers only.

Library support; no repository notion occurs here.
-/

namespace StateWake.Base.Tally

open FirstCome

section Tally

variable {α : Type} [DecidableEq α]

/-- `counts[a] = counts.get(a, 0) + 1`. -/
def bump : List (α × Nat) → α → List (α × Nat)
  | [], a => [(a, 1)]
  | (b, n) :: counts, a => if a = b then (b, n + 1) :: counts else (b, n) :: bump counts a

/-- How often each key came. -/
def tally (l : List α) : List (α × Nat) := l.foldl bump []

/-- The dictionary that holds `f` of given keys. -/
private def table (f : α → Nat) (keys : List α) : List (α × Nat) := keys.map fun a ↦ (a, f a)

omit [DecidableEq α] in
private theorem table_congr {f g : α → Nat} {keys : List α} (h : ∀ a ∈ keys, f a = g a) :
    table f keys = table g keys :=
  List.map_congr_left fun a ha ↦ by rw [h a ha]

/-- One more occurrence of a key that has an entry. -/
private theorem bump_table_of_mem {f g : α → Nat} {keys : List α} {a : α} (hkeys : keys.Nodup)
    (ha : a ∈ keys) (hg : g a = f a + 1) (hother : ∀ b, b ≠ a → g b = f b) :
    bump (table f keys) a = table g keys := by
  induction keys with
  | nil => cases ha
  | cons b keys ih =>
    obtain ⟨hb, hkeys⟩ := List.nodup_cons.mp hkeys
    rw [table, List.map_cons, bump]
    by_cases hab : a = b
    · subst hab
      have hrest : table f keys = table g keys := table_congr fun c hc ↦
        (hother c fun hca ↦ hb (hca ▸ hc)).symm
      rw [if_pos rfl, ← hg]
      exact congrArg _ hrest
    · rw [if_neg hab, ← hother b (Ne.symm hab)]
      exact congrArg _ (ih hkeys ((List.mem_cons.mp ha).resolve_left hab))

/-- The first occurrence of a key. -/
private theorem bump_table_of_not_mem {f g : α → Nat} {keys : List α} {a : α} (ha : a ∉ keys)
    (hg : g a = 1) (hother : ∀ b, b ≠ a → g b = f b) :
    bump (table f keys) a = table g (keys ++ [a]) := by
  induction keys with
  | nil =>
    rw [List.nil_append, table, table, List.map_nil, List.map_singleton, hg]
    rfl
  | cons b keys ih =>
    rw [List.mem_cons, not_or] at ha
    rw [table, List.map_cons, bump, if_neg ha.1, ← hother b (Ne.symm ha.1)]
    exact congrArg _ (ih ha.2)

/-- A tally holds the number of occurrences of each key, in order of first appearance. -/
theorem tally_eq (l : List α) : tally l = (firsts id l).map fun a ↦ (a, l.count a) := by
  induction l using List.reverseRecOn with
  | nil => rfl
  | append_singleton l a ih =>
    have hother (b : α) (hb : b ≠ a) : (l ++ [a]).count b = l.count b := by
      rw [List.count_append, List.count_singleton, beq_eq_false_iff_ne.mpr (Ne.symm hb)]
      rfl
    have hcount : (l ++ [a]).count a = l.count a + 1 := by
      rw [List.count_append, List.count_singleton_self]
    have hnodup : (firsts id l).Nodup := by
      have h := @nodup_firsts α α _ id l
      rwa [List.map_id] at h
    rw [tally, List.foldl_append, ← tally, ih, firsts_append_singleton, keep, List.map_id, id_eq]
    change bump (table _ _) a = _
    split
    · next hold => exact bump_table_of_mem hnodup hold hcount hother
    · next hnew =>
      have hfirst : a ∉ l := fun h ↦ hnew (mem_firsts_id.mpr h)
      rw [List.count_eq_zero_of_not_mem hfirst] at hcount
      exact bump_table_of_not_mem hnew hcount hother

/-- The entries of a tally. -/
theorem mem_tally {l : List α} {a : α} {n : Nat} : (a, n) ∈ tally l ↔ a ∈ l ∧ n = l.count a := by
  rw [tally_eq, List.mem_map]
  constructor
  · rintro ⟨b, hb, h⟩
    cases h
    exact ⟨mem_firsts_id.mp hb, rfl⟩
  · rintro ⟨ha, rfl⟩
    exact ⟨a, mem_firsts_id.mpr ha, rfl⟩

/-- Keys occur once in a tally. -/
theorem nodup_tally (l : List α) : ((tally l).map Prod.fst).Nodup := by
  have hkeys : (tally l).map Prod.fst = (firsts id l).map id := by
    rw [tally_eq, List.map_map]
    rfl
  rw [hkeys]
  exact nodup_firsts l

/-- Keys that tell their items apart are counted as often as the items occur. -/
theorem count_map {β : Type} [DecidableEq β] {f : β → α} {l : List β}
    (hinj : ∀ b ∈ l, ∀ c ∈ l, f b = f c → b = c) {b : β} (hb : b ∈ l) :
    (l.map f).count (f b) = l.count b := by
  rw [List.count, List.countP_map, List.count]
  apply List.countP_congr
  intro c hc
  simp only [Function.comp_apply, beq_iff_eq]
  exact ⟨hinj c hc b hb, congrArg f⟩

/-- The tally of a reordered list has the same entries. -/
theorem tally_perm {l l' : List α} (h : l.Perm l') : (tally l).Perm (tally l') := by
  rw [List.perm_ext_iff_of_nodup (nodup_tally l).of_map (nodup_tally l').of_map]
  intro ⟨a, n⟩
  rw [mem_tally, mem_tally, h.mem_iff, h.count_eq]

end Tally

/-! ### Sorted tallies -/

section Sorted

variable {α : Type} [LinearOrder α]

/-- `sorted(counts.items())`. -/
def sorted (counts : List (α × Nat)) : List (α × Nat) :=
  counts.insertionSort fun a b ↦ toLex a ≤ toLex b

private instance instTotal_sorted : Std.Total fun a b : α × Nat ↦ toLex a ≤ toLex b :=
  ⟨fun a b ↦ le_total (toLex a) (toLex b)⟩

private instance instTrans_sorted : IsTrans (α × Nat) fun a b ↦ toLex a ≤ toLex b :=
  ⟨fun _ _ _ h h' ↦ le_trans h h'⟩

theorem sorted_perm (counts : List (α × Nat)) : (sorted counts).Perm counts :=
  List.perm_insertionSort _ _

/-- The sorted items do not depend on the order of the items. -/
theorem sorted_eq_of_perm {counts counts' : List (α × Nat)} (h : counts.Perm counts') :
    sorted counts = sorted counts' := by
  apply List.Perm.eq_of_pairwise (fun a b _ _ hab hba ↦ ?_) (List.pairwise_insertionSort _ counts)
    (List.pairwise_insertionSort _ counts')
  · exact (sorted_perm counts).trans (h.trans (sorted_perm counts').symm)
  · exact toLex.injective (le_antisymm hab hba)

end Sorted

end StateWake.Base.Tally
