import Mathlib.Data.List.Basic
import Mathlib.Data.List.Range
import Mathlib.Data.List.Zip

/-!
# Aligning two lists

Deterministic matches of a longest common subsequence, and the alignment that splices what lies
between matches back around them. A spliced alignment has every element of either list once and in
order, whatever is put between the matches, as long as that has.
-/

namespace StateWake.Base.Alignment

/-! ### Matches -/

section Matches

variable {α : Type} [DecidableEq α]

/-- A row of the table of lengths over the row below it, from its last column. -/
def row (x : α) : List α → List Nat → List Nat
  | y :: ys, down :: below =>
    let rest := row x ys below
    (if x = y then 1 + below.headD 0 else max down (rest.headD 0)) :: rest
  | _, _ => [0]

/-- The table of lengths, from its last row. -/
def lengths : List α → List α → List (List Nat)
  | [], ys => [List.replicate (ys.length + 1) 0]
  | x :: xs, ys => row x ys ((lengths xs ys).headD []) :: lengths xs ys

/-- An entry of a table. -/
def entry (table : List (List Nat)) (i j : Nat) : Nat := ((table[i]?.getD [])[j]?).getD 0

/-- The walk along a table from two positions, with what lies behind them: where the heads differ,
it drops the head that leaves the longer subsequence, the left one first. -/
def walk (table : List (List Nat)) (i j : Nat) : List α → List α → List (Nat × Nat)
  | x :: xs, y :: ys =>
    if x = y then (i, j) :: walk table (i + 1) (j + 1) xs ys
    else if entry table i (j + 1) ≤ entry table (i + 1) j then walk table (i + 1) j xs (y :: ys)
    else walk table i (j + 1) (x :: xs) ys
  | _, _ => []
  termination_by xs ys => xs.length + ys.length

/-- The matches of two lists. -/
def lcsMatches (left right : List α) : List (Nat × Nat) :=
  walk (lengths left right) 0 0 left right

end Matches

/-- Matches from two positions on that increase on both sides and stay below two lengths. -/
def Increasing (n m : Nat) : Nat → Nat → List (Nat × Nat) → Prop
  | _, _, [] => True
  | l, r, p :: rest =>
    (l ≤ p.1 ∧ p.1 < n) ∧ (r ≤ p.2 ∧ p.2 < m) ∧ Increasing n m (p.1 + 1) (p.2 + 1) rest

theorem Increasing.mono {n m l r l' r' : Nat} {ms : List (Nat × Nat)}
    (h : Increasing n m l r ms) (hl : l' ≤ l) (hr : r' ≤ r) : Increasing n m l' r' ms := by
  cases ms with
  | nil => trivial
  | cons p rest => exact ⟨⟨hl.trans h.1.1, h.1.2⟩, ⟨hr.trans h.2.1.1, h.2.1.2⟩, h.2.2⟩

theorem Increasing.lt {n m l r : Nat} {ms : List (Nat × Nat)} (h : Increasing n m l r ms)
    {p : Nat × Nat} (hp : p ∈ ms) : p.1 < n ∧ p.2 < m := by
  induction ms generalizing l r with
  | nil => exact absurd hp List.not_mem_nil
  | cons q rest ih =>
    cases List.mem_cons.mp hp with
    | inl heq =>
      rw [heq]
      exact ⟨h.1.2, h.2.1.2⟩
    | inr hmem => exact ih h.2.2 hmem

/-- Increasing matches are pairwise so, and lie between the positions and the lengths. -/
theorem increasing_iff {n m l r : Nat} {ms : List (Nat × Nat)} : Increasing n m l r ms ↔
    ms.Pairwise (fun p q ↦ p.1 < q.1 ∧ p.2 < q.2) ∧
      ∀ p ∈ ms, (l ≤ p.1 ∧ p.1 < n) ∧ (r ≤ p.2 ∧ p.2 < m) := by
  induction ms generalizing l r with
  | nil => simp [Increasing]
  | cons p rest ih =>
    rw [Increasing, ih, List.pairwise_cons, List.forall_mem_cons]
    constructor
    · intro ⟨hl, hr, hpairwise, hrest⟩
      refine ⟨⟨fun q hq ↦ ⟨(hrest q hq).1.1, (hrest q hq).2.1⟩, hpairwise⟩, ⟨hl, hr⟩,
        fun q hq ↦ ?_⟩
      have hbounds := hrest q hq
      omega
    · intro ⟨⟨hfirst, hpairwise⟩, ⟨hl, hr⟩, hrest⟩
      refine ⟨hl, hr, hpairwise, fun q hq ↦ ?_⟩
      have hlt := hfirst q hq
      have hbounds := hrest q hq
      omega

theorem increasing_walk {α : Type} [DecidableEq α] (table : List (List Nat)) (i j : Nat)
    (xs ys : List α) :
    Increasing (i + xs.length) (j + ys.length) i j (walk table i j xs ys) := by
  fun_induction walk table i j xs ys with
  | case1 i j xs x ys ih =>
    have hleft : i + (x :: xs).length = i + 1 + xs.length := by
      rw [List.length_cons]
      omega
    have hright : j + (x :: ys).length = j + 1 + ys.length := by
      rw [List.length_cons]
      omega
    rw [hleft, hright]
    exact ⟨⟨le_rfl, by omega⟩, ⟨le_rfl, by omega⟩, ih⟩
  | case2 i j x xs y ys hne hle ih =>
    have hlength : i + (x :: xs).length = i + 1 + xs.length := by
      rw [List.length_cons]
      omega
    rw [hlength]
    exact ih.mono (Nat.le_succ i) le_rfl
  | case3 i j x xs y ys hne hle ih =>
    have hlength : j + (y :: ys).length = j + 1 + ys.length := by
      rw [List.length_cons]
      omega
    rw [hlength]
    exact ih.mono le_rfl (Nat.le_succ j)
  | case4 => trivial

/-- Matches lie in both lists and increase. -/
theorem increasing_lcsMatches {α : Type} [DecidableEq α] (left right : List α) :
    Increasing left.length right.length 0 0 (lcsMatches left right) := by
  have h := increasing_walk (lengths left right) 0 0 left right
  rw [Nat.zero_add, Nat.zero_add] at h
  exact h

/-! ### Longest matches -/

section Longest

variable {α : Type} [DecidableEq α]

/-- The length of a longest common subsequence, as the table of lengths has it. -/
def longest (xs ys : List α) : Nat := ((lengths xs ys).headD []).headD 0

@[simp]
theorem longest_nil_left (ys : List α) : longest [] ys = 0 := by
  rw [longest, lengths, List.headD_cons, List.replicate_succ, List.headD_cons]

@[simp]
theorem longest_nil_right (xs : List α) : longest xs [] = 0 := by
  cases xs with
  | nil => exact longest_nil_left []
  | cons x xs => rfl

theorem length_row (x : α) {ys : List α} {below : List Nat} (h : below.length = ys.length + 1) :
    (row x ys below).length = ys.length + 1 := by
  induction ys generalizing below with
  | nil => rfl
  | cons y ys ih =>
    cases below with
    | nil => cases h
    | cons down below =>
      rw [row, List.length_cons, ih (Nat.succ_injective h), List.length_cons]

/-- A row over a shorter list is what is left of the row. -/
theorem row_drop (x : α) {ys : List α} {below : List Nat} (h : below.length = ys.length + 1)
    {j : Nat} (hj : j ≤ ys.length) :
    (row x ys below).drop j = row x (ys.drop j) (below.drop j) := by
  induction j generalizing ys below with
  | zero => rfl
  | succ j ih =>
    cases ys with
    | nil => cases hj
    | cons y ys =>
      cases below with
      | nil => cases h
      | cons down below =>
        rw [row, List.drop_succ_cons, List.drop_succ_cons, List.drop_succ_cons]
        exact ih (Nat.succ_injective h) (Nat.le_of_succ_le_succ hj)

theorem length_headD_lengths (xs ys : List α) :
    ((lengths xs ys).headD []).length = ys.length + 1 := by
  induction xs with
  | nil => exact List.length_replicate
  | cons x xs ih => exact length_row x ih

theorem headD_lengths_drop (xs : List α) {ys : List α} {j : Nat} (hj : j ≤ ys.length) :
    ((lengths xs ys).headD []).drop j = (lengths xs (ys.drop j)).headD [] := by
  induction xs with
  | nil =>
    rw [lengths, lengths, List.headD_cons, List.headD_cons, List.drop_replicate, List.length_drop]
    congr 1
    omega
  | cons x xs ih =>
    rw [lengths, lengths, List.headD_cons, List.headD_cons,
      row_drop x (length_headD_lengths xs ys) hj, ih]

theorem getElem?_lengths (ys : List α) {xs : List α} {i : Nat} (hi : i ≤ xs.length) :
    (lengths xs ys)[i]? = some ((lengths (xs.drop i) ys).headD []) := by
  induction xs generalizing i with
  | nil =>
    cases Nat.le_zero.mp hi
    rfl
  | cons x xs ih =>
    cases i with
    | zero => rfl
    | succ i =>
      rw [lengths, List.getElem?_cons_succ, List.drop_succ_cons]
      exact ih (Nat.le_of_succ_le_succ hi)

/-- An entry of the table of two lists is the length for what is left of them. -/
theorem entry_lengths {xs ys : List α} {i j : Nat} (hi : i ≤ xs.length) (hj : j ≤ ys.length) :
    entry (lengths xs ys) i j = longest (xs.drop i) (ys.drop j) := by
  rw [entry, getElem?_lengths ys hi, Option.getD_some, longest, ← headD_lengths_drop _ hj]
  generalize (lengths (xs.drop i) ys).headD [] = entries
  rw [List.headD_eq_head?_getD, List.head?_drop]

theorem longest_cons_cons (x y : α) (xs ys : List α) :
    longest (x :: xs) (y :: ys) =
      if x = y then 1 + longest xs ys else max (longest xs (y :: ys)) (longest (x :: xs) ys) := by
  have hbelow : (lengths xs ys).headD [] = ((lengths xs (y :: ys)).headD []).tail := by
    rw [← List.drop_one, headD_lengths_drop xs (by simp)]
    rfl
  have hlength := length_headD_lengths xs (y :: ys)
  rw [longest, longest, longest, longest, lengths, List.headD_cons, lengths, List.headD_cons,
    hbelow]
  cases hentries : (lengths xs (y :: ys)).headD [] with
  | nil =>
    rw [hentries] at hlength
    cases hlength
  | cons down below => rfl

/-- Pairs of positions that increase are no more than the length of a longest common subsequence,
where both sides of a pair are equal. -/
theorem Increasing.length_le {left right : List α} {l r : Nat} {ms : List (Nat × Nat)}
    (h : Increasing left.length right.length l r ms)
    (heq : ∀ p ∈ ms, left[p.1]? = right[p.2]?) :
    ms.length ≤ longest (left.drop l) (right.drop r) := by
  induction hn : left.length - l + (right.length - r) using Nat.strong_induction_on
    generalizing l r ms with
  | h n ih =>
    cases ms with
    | nil => exact Nat.zero_le _
    | cons p rest =>
      have hmatch := heq p List.mem_cons_self
      obtain ⟨⟨hl, hleft⟩, ⟨hr, hright⟩, hrest⟩ := h
      have hl' : l < left.length := by omega
      have hr' : r < right.length := by omega
      rw [List.drop_eq_getElem_cons hl', List.drop_eq_getElem_cons hr', longest_cons_cons]
      by_cases hheads : left[l] = right[r]
      · -- the first pair is the match of the heads or lies beyond it
        have htail : rest.length ≤ longest (left.drop (l + 1)) (right.drop (r + 1)) := ih
          (left.length - (l + 1) + (right.length - (r + 1))) (by omega)
          (hrest.mono (Nat.succ_le_succ hl) (Nat.succ_le_succ hr))
          (fun q hq ↦ heq q (List.mem_cons_of_mem p hq)) rfl
        rw [if_pos hheads, List.length_cons]
        omega
      · rw [if_neg hheads, ← List.drop_eq_getElem_cons hl', ← List.drop_eq_getElem_cons hr']
        by_cases hfirst : p.1 = l
        · have hsecond : r + 1 ≤ p.2 := by
            by_contra hlt
            have hr'' : p.2 = r := by omega
            rw [hfirst, hr'', List.getElem?_eq_getElem hl', List.getElem?_eq_getElem hr'] at hmatch
            exact hheads (Option.some.inj hmatch)
          have hskip := ih (left.length - l + (right.length - (r + 1))) (by omega)
            (show Increasing _ _ l (r + 1) (p :: rest) from
              ⟨⟨hl, hleft⟩, ⟨hsecond, hright⟩, hrest⟩) heq rfl
          exact hskip.trans (Nat.le_max_right _ _)
        · have hskip := ih (left.length - (l + 1) + (right.length - r)) (by omega)
            (show Increasing _ _ (l + 1) r (p :: rest) from
              ⟨⟨by omega, hleft⟩, ⟨hr, hright⟩, hrest⟩) heq rfl
          exact hskip.trans (Nat.le_max_left _ _)

omit [DecidableEq α] in
private theorem of_drop_eq_cons {items rest : List α} {k : Nat} {a : α}
    (h : items.drop k = a :: rest) :
    items.drop (k + 1) = rest ∧ items[k]? = some a ∧ k < items.length := by
  have hlt : k < items.length := by
    by_contra hge
    rw [List.drop_eq_nil_of_le (not_lt.mp hge)] at h
    cases h
  rw [List.drop_eq_getElem_cons hlt, List.cons.injEq] at h
  exact ⟨h.2, by rw [List.getElem?_eq_getElem hlt, h.1], hlt⟩

/-- The walk from two positions keeps the length, and pairs equal elements. -/
theorem walk_lengths {left right : List α} {i j : Nat} {xs ys : List α}
    (hx : left.drop i = xs) (hy : right.drop j = ys) :
    (walk (lengths left right) i j xs ys).length = longest xs ys ∧
      ∀ p ∈ walk (lengths left right) i j xs ys, left[p.1]? = right[p.2]? := by
  fun_induction walk (lengths left right) i j xs ys with
  | case1 i j xs x ys ih =>
    obtain ⟨hxs, hleft, -⟩ := of_drop_eq_cons hx
    obtain ⟨hys, hright, -⟩ := of_drop_eq_cons hy
    obtain ⟨hlength, hequal⟩ := ih hxs hys
    rw [longest_cons_cons, if_pos rfl, List.length_cons, hlength, Nat.add_comm]
    refine ⟨rfl, fun p hp ↦ ?_⟩
    cases List.mem_cons.mp hp with
    | inl heq => rw [heq, hleft, hright]
    | inr hmem => exact hequal p hmem
  | case2 i j x xs y ys hne hle ih =>
    obtain ⟨hxs, -, hi⟩ := of_drop_eq_cons hx
    obtain ⟨hys, -, hj⟩ := of_drop_eq_cons hy
    obtain ⟨hlength, hequal⟩ := ih hxs hy
    rw [entry_lengths hi.le hj, entry_lengths hi hj.le, hx, hy, hxs, hys] at hle
    rw [longest_cons_cons, if_neg hne, max_eq_left hle]
    exact ⟨hlength, hequal⟩
  | case3 i j x xs y ys hne hle ih =>
    obtain ⟨hxs, -, hi⟩ := of_drop_eq_cons hx
    obtain ⟨hys, -, hj⟩ := of_drop_eq_cons hy
    obtain ⟨hlength, hequal⟩ := ih hx hys
    rw [entry_lengths hi.le hj, entry_lengths hi hj.le, hx, hy, hxs, hys] at hle
    rw [longest_cons_cons, if_neg hne, max_eq_right (not_le.mp hle).le]
    exact ⟨hlength, hequal⟩
  | case4 i j xs ys hnil =>
    refine ⟨?_, fun p hp ↦ absurd hp List.not_mem_nil⟩
    cases xs with
    | nil => rw [longest_nil_left, List.length_nil]
    | cons x xs =>
      cases ys with
      | nil => rw [longest_nil_right, List.length_nil]
      | cons y ys => exact (hnil x xs y ys rfl rfl).elim

/-- Matches are of equal elements. -/
theorem getElem?_eq_of_mem_lcsMatches {left right : List α} {p : Nat × Nat}
    (hp : p ∈ lcsMatches left right) : left[p.1]? = right[p.2]? :=
  (walk_lengths List.drop_zero List.drop_zero).2 p hp

/-- Matches are as many as a longest common subsequence has elements. -/
theorem length_lcsMatches (left right : List α) :
    (lcsMatches left right).length = longest left right :=
  (walk_lengths List.drop_zero List.drop_zero).1

end Longest

/-- Two equal lists match position by position. -/
theorem walk_self {α : Type} [DecidableEq α] (table : List (List Nat)) (i : Nat) (xs : List α) :
    walk table i i xs xs = (List.range' i xs.length).map fun k ↦ (k, k) := by
  induction xs generalizing i with
  | nil => simp [walk]
  | cons x xs ih =>
    rw [walk, if_pos rfl, ih, List.length_cons, List.range'_succ, List.map_cons]

/-! ### Splicing -/

section Splice

variable {ι κ : Type}

/-- The pairs an alignment is made of: an element of either list, or of one alone. -/
abbrev Pairs (ι κ : Type) : Type := List (Option ι × Option κ)

/-- `items[start:stop]`. -/
def slice (items : List ι) (start stop : Nat) : List ι := (items.take stop).drop start

/-- What lies before, between and after matches, from two positions on. -/
def gaps (left : List ι) (right : List κ) : Nat → Nat → List (Nat × Nat) → List (List ι × List κ)
  | l, r, [] => [(left.drop l, right.drop r)]
  | l, r, p :: rest =>
    (slice left l p.1, slice right r p.2) :: gaps left right (p.1 + 1) (p.2 + 1) rest

/-- The pair of a match, of positions inside both lists. -/
def matched (left : List ι) (right : List κ) (p : Nat × Nat) : Pairs ι κ :=
  match left[p.1]?, right[p.2]? with
  | some a, some b => [(some a, some b)]
  | _, _ => []

/-- Matches with what is put between them. -/
def splice (between : List ι → List κ → Pairs ι κ) (left : List ι) (right : List κ) :
    Nat → Nat → List (Nat × Nat) → Pairs ι κ
  | l, r, [] => between (left.drop l) (right.drop r)
  | l, r, p :: rest => between (slice left l p.1) (slice right r p.2) ++
      (matched left right p ++ splice between left right (p.1 + 1) (p.2 + 1) rest)

/-- Pairs that have every element of two lists once and in order, and nothing else. -/
structure Covers (left : List ι) (right : List κ) (pairs : Pairs ι κ) : Prop where
  left : pairs.filterMap Prod.fst = left
  right : pairs.filterMap Prod.snd = right
  full : (none, none) ∉ pairs

namespace Covers

variable {left left' : List ι} {right right' : List κ} {pairs pairs' : Pairs ι κ}

theorem nil : Covers ([] : List ι) ([] : List κ) [] := ⟨rfl, rfl, List.not_mem_nil⟩

theorem append (h : Covers left right pairs) (h' : Covers left' right' pairs') :
    Covers (left ++ left') (right ++ right') (pairs ++ pairs') := by
  constructor
  · rw [List.filterMap_append, h.left, h'.left]
  · rw [List.filterMap_append, h.right, h'.right]
  · rw [List.mem_append, not_or]
    exact ⟨h.full, h'.full⟩

/-- Where both lists are as long and no element stands alone, pairs are position by position. -/
theorem eq_zip (h : Covers left right pairs)
    (hboth : ∀ p ∈ pairs, ∃ a b, p = (some a, some b)) :
    pairs = (left.zip right).map fun p ↦ (some p.1, some p.2) := by
  obtain ⟨rfl, rfl, -⟩ := h
  induction pairs with
  | nil => rfl
  | cons p pairs ih =>
    rw [List.forall_mem_cons] at hboth
    obtain ⟨⟨a, b, rfl⟩, hrest⟩ := hboth
    have htail := ih hrest
    change _ = ((a :: pairs.filterMap Prod.fst).zip (b :: pairs.filterMap Prod.snd)).map _
    rw [List.zip_cons_cons, List.map_cons, ← htail]

end Covers

theorem slice_append_drop {items : List ι} {start stop : Nat} (h : start ≤ stop) :
    slice items start stop ++ items.drop stop = items.drop start := by
  rw [slice, List.drop_take, ← Nat.add_sub_of_le h, ← List.drop_drop, Nat.add_sub_cancel_left]
  exact List.take_append_drop _ _

theorem covers_matched {left : List ι} {right : List κ} {p : Nat × Nat} (hl : p.1 < left.length)
    (hr : p.2 < right.length) : Covers [left[p.1]] [right[p.2]] (matched left right p) := by
  rw [matched, List.getElem?_eq_getElem hl, List.getElem?_eq_getElem hr]
  exact ⟨rfl, rfl, by simp⟩

/-- What is spliced around increasing matches has every element from the two positions on. -/
theorem covers_splice {between : List ι → List κ → Pairs ι κ}
    (hbetween : ∀ a b, Covers a b (between a b)) {left : List ι} {right : List κ} {l r : Nat}
    {ms : List (Nat × Nat)} (h : Increasing left.length right.length l r ms) :
    Covers (left.drop l) (right.drop r) (splice between left right l r ms) := by
  induction ms generalizing l r with
  | nil => exact hbetween _ _
  | cons p rest ih =>
    obtain ⟨⟨hl, hleft⟩, ⟨hr, hright⟩, hrest⟩ := h
    have hspliced := (hbetween (slice left l p.1) (slice right r p.2)).append
      ((covers_matched hleft hright).append (ih hrest))
    rw [List.singleton_append, List.singleton_append, List.getElem_cons_drop,
      List.getElem_cons_drop, slice_append_drop hl, slice_append_drop hr] at hspliced
    exact hspliced

/-- Every match is a pair. -/
theorem matched_subset_splice {between : List ι → List κ → Pairs ι κ} {left : List ι}
    {right : List κ} {l r : Nat} {ms : List (Nat × Nat)} {p : Nat × Nat} (hp : p ∈ ms) :
    matched left right p ⊆ splice between left right l r ms := by
  induction ms generalizing l r with
  | nil => exact absurd hp List.not_mem_nil
  | cons q rest ih =>
    intro x hx
    rw [splice, List.mem_append, List.mem_append]
    cases List.mem_cons.mp hp with
    | inl heq => exact .inr (.inl (heq ▸ hx))
    | inr hmem => exact .inr (.inr (ih hmem hx))

/-- What is put in a gap is in the splice. -/
theorem between_subset_splice {between : List ι → List κ → Pairs ι κ} {left : List ι}
    {right : List κ} {l r : Nat} {ms : List (Nat × Nat)} {g : List ι × List κ}
    (hg : g ∈ gaps left right l r ms) :
    between g.1 g.2 ⊆ splice between left right l r ms := by
  induction ms generalizing l r with
  | nil =>
    rw [gaps, List.mem_singleton] at hg
    rw [hg]
    exact List.Subset.refl _
  | cons q rest ih =>
    intro x hx
    rw [splice, List.mem_append, List.mem_append]
    cases List.mem_cons.mp hg with
    | inl heq =>
      rw [heq] at hx
      exact .inl hx
    | inr hmem => exact .inr (.inr (ih hmem hx))

/-- Where nothing is put in empty gaps, matches of all positions are the pairs of the elements. -/
theorem splice_range' {between : List ι → List κ → Pairs ι κ} (hempty : between [] [] = [])
    {left : List ι} {right : List κ} (hlength : left.length = right.length) {l n : Nat}
    (h : l + n = left.length) :
    splice between left right l l ((List.range' l n).map fun k ↦ (k, k)) =
      ((left.drop l).zip (right.drop l)).map fun p ↦ (some p.1, some p.2) := by
  induction n generalizing l with
  | zero =>
    rw [Nat.add_zero] at h
    rw [List.range'_zero, List.map_nil, splice, List.drop_eq_nil_of_le h.ge,
      List.drop_eq_nil_of_le (hlength.symm.trans h.symm).le]
    exact hempty
  | succ n ih =>
    have hleft : l < left.length := by omega
    have hright : l < right.length := by omega
    have hslice : ∀ {τ : Type} (items : List τ), slice items l l = [] := fun items ↦
      List.drop_eq_nil_of_le (List.length_take_le l items)
    rw [List.range'_succ, List.map_cons, splice, hslice, hslice, hempty, List.nil_append, matched,
      List.getElem?_eq_getElem hleft, List.getElem?_eq_getElem hright, ih (by omega),
      List.drop_eq_getElem_cons hleft, List.drop_eq_getElem_cons hright, List.zip_cons_cons,
      List.map_cons]
    rfl

/-! ### Residuals -/

/-- What lies between matches, position by position as far as both sides go. -/
def residual (left : List ι) (right : List κ) : Pairs ι κ :=
  let common := min left.length right.length
  (left.zip right).map (fun p ↦ (some p.1, some p.2)) ++
    ((left.drop common).map (fun a ↦ (some a, none)) ++
      (right.drop common).map fun b ↦ (none, some b))

theorem covers_residual (left : List ι) (right : List κ) :
    Covers left right (residual left right) := by
  have hlength : (left.take (min left.length right.length)).length =
      (right.take (min left.length right.length)).length := by
    rw [List.length_take, List.length_take]
    omega
  have hzip : Covers (left.take (min left.length right.length))
      (right.take (min left.length right.length))
      ((left.zip right).map fun p ↦ (some p.1, some p.2)) := by
    constructor
    · rw [List.filterMap_map, List.zip_eq_zip_take_min]
      exact (congrFun (List.filterMap_eq_map (f := Prod.fst)) _).trans (List.map_fst_zip hlength.le)
    · rw [List.filterMap_map, List.zip_eq_zip_take_min]
      exact (congrFun (List.filterMap_eq_map (f := Prod.snd)) _).trans (List.map_snd_zip hlength.ge)
    · intro h
      obtain ⟨p, -, hp⟩ := List.mem_map.mp h
      cases hp
  have hleft : Covers (left.drop (min left.length right.length)) ([] : List κ)
      ((left.drop (min left.length right.length)).map fun a ↦ (some a, none)) := by
    constructor
    · rw [List.filterMap_map]
      exact List.filterMap_some
    · rw [List.filterMap_map]
      exact List.filterMap_eq_nil_iff.mpr fun _ _ ↦ rfl
    · intro h
      obtain ⟨a, -, ha⟩ := List.mem_map.mp h
      cases ha
  have hright : Covers ([] : List ι) (right.drop (min left.length right.length))
      ((right.drop (min left.length right.length)).map fun b ↦ (none, some b)) := by
    constructor
    · rw [List.filterMap_map]
      exact List.filterMap_eq_nil_iff.mpr fun _ _ ↦ rfl
    · rw [List.filterMap_map]
      exact List.filterMap_some
    · intro h
      obtain ⟨b, -, hb⟩ := List.mem_map.mp h
      cases hb
  have h := hzip.append (hleft.append hright)
  rw [List.append_nil, List.nil_append, List.take_append_drop, List.take_append_drop] at h
  exact h

end Splice

/-! ### Alignments -/

section Align

variable {α β : Type} [DecidableEq α] [DecidableEq β]

/-- Indices between exact matches, matched by identity and then by position. -/
def alignGap (leftId rightId : Nat → β) (left right : List Nat) : Pairs Nat Nat :=
  splice residual left right 0 0 (lcsMatches (left.map leftId) (right.map rightId))

/-- The alignment of two lists by key, then by identity between equal keys. -/
def align (leftKeys rightKeys : List α) (leftId rightId : Nat → β) : Pairs Nat Nat :=
  splice (alignGap leftId rightId) (List.range leftKeys.length) (List.range rightKeys.length) 0 0
    (lcsMatches leftKeys rightKeys)

theorem covers_alignGap (leftId rightId : Nat → β) (left right : List Nat) :
    Covers left right (alignGap leftId rightId left right) := by
  have h := increasing_lcsMatches (left.map leftId) (right.map rightId)
  rw [List.length_map, List.length_map] at h
  exact covers_splice covers_residual h

theorem covers_align (leftKeys rightKeys : List α) (leftId rightId : Nat → β) :
    Covers (List.range leftKeys.length) (List.range rightKeys.length)
      (align leftKeys rightKeys leftId rightId) := by
  have h := increasing_lcsMatches leftKeys rightKeys
  rw [← List.length_range (n := leftKeys.length), ← List.length_range (n := rightKeys.length)] at h
  exact covers_splice (covers_alignGap leftId rightId) h

omit [DecidableEq α] [DecidableEq β] in
theorem zip_self (items : List α) : items.zip items = items.map fun a ↦ (a, a) := by
  rw [List.map_prod_left_eq_zip (f := fun a ↦ a), List.map_id']

/-- A list is aligned with itself position by position. -/
theorem align_self (keys : List α) (leftId rightId : Nat → β) :
    align keys keys leftId rightId =
      (List.range keys.length).map fun i ↦ (some i, some i) := by
  have hempty : alignGap leftId rightId [] [] = [] := by
    simp [alignGap, lcsMatches, walk, splice, residual]
  rw [align, lcsMatches, walk_self,
    splice_range' hempty rfl (by rw [Nat.zero_add, List.length_range]), List.drop_zero, zip_self,
    List.map_map]
  rfl

/-- Every match of equal keys is aligned. -/
theorem pair_mem_align {leftKeys rightKeys : List α} (leftId rightId : Nat → β) {m : Nat × Nat}
    (hm : m ∈ lcsMatches leftKeys rightKeys) :
    (some m.1, some m.2) ∈ align leftKeys rightKeys leftId rightId := by
  obtain ⟨hleft, hright⟩ := (increasing_lcsMatches leftKeys rightKeys).lt hm
  apply matched_subset_splice hm
  rw [matched, List.getElem?_range hleft, List.getElem?_range hright]
  exact List.mem_singleton_self _

/-- Every match of identities between matches of equal keys is aligned. -/
theorem pair_mem_align_of_gap {leftKeys rightKeys : List α} {leftId rightId : Nat → β}
    {g : List Nat × List Nat}
    (hg : g ∈ gaps (List.range leftKeys.length) (List.range rightKeys.length) 0 0
      (lcsMatches leftKeys rightKeys)) {m : Nat × Nat}
    (hm : m ∈ lcsMatches (g.1.map leftId) (g.2.map rightId)) :
    ∃ i j, g.1[m.1]? = some i ∧ g.2[m.2]? = some j ∧
      (some i, some j) ∈ align leftKeys rightKeys leftId rightId := by
  obtain ⟨hleft, hright⟩ := (increasing_lcsMatches _ _).lt hm
  rw [List.length_map] at hleft hright
  refine ⟨g.1[m.1], g.2[m.2], List.getElem?_eq_getElem hleft, List.getElem?_eq_getElem hright, ?_⟩
  apply between_subset_splice hg
  apply matched_subset_splice hm
  rw [matched, List.getElem?_eq_getElem hleft, List.getElem?_eq_getElem hright]
  exact List.mem_singleton_self _

/-- Only equal lists are aligned in pairs of equal keys alone. -/
theorem forall_align_iff {leftKeys rightKeys : List α} {leftId rightId : Nat → β} :
    (∀ p ∈ align leftKeys rightKeys leftId rightId,
      ∃ i j, p = (some i, some j) ∧ leftKeys[i]? = rightKeys[j]?) ↔ leftKeys = rightKeys := by
  constructor
  · intro h
    have hzip := (covers_align leftKeys rightKeys leftId rightId).eq_zip fun p hp ↦ by
      obtain ⟨i, j, heq, -⟩ := h p hp
      exact ⟨i, j, heq⟩
    have hlength := congrArg List.length hzip
    rw [List.length_map, List.length_zip, List.length_range, List.length_range] at hlength
    have hleft := (covers_align leftKeys rightKeys leftId rightId).left ▸
      List.length_filterMap_le Prod.fst (align leftKeys rightKeys leftId rightId)
    have hright := (covers_align leftKeys rightKeys leftId rightId).right ▸
      List.length_filterMap_le Prod.snd (align leftKeys rightKeys leftId rightId)
    rw [List.length_range] at hleft hright
    have heq : leftKeys.length = rightKeys.length := by omega
    rw [← heq, zip_self, List.map_map] at hzip
    apply List.ext_getElem?
    intro i
    by_cases hi : i < leftKeys.length
    · have hmem : (some i, some i) ∈ align leftKeys rightKeys leftId rightId := by
        rw [hzip]
        exact List.mem_map.mpr ⟨i, List.mem_range.mpr hi, rfl⟩
      obtain ⟨j, k, hjk, hkeys⟩ := h _ hmem
      cases hjk
      exact hkeys
    · rw [List.getElem?_eq_none (not_lt.mp hi), List.getElem?_eq_none (heq ▸ not_lt.mp hi)]
  · intro heq p hp
    rw [heq, align_self] at hp
    obtain ⟨i, -, rfl⟩ := List.mem_map.mp hp
    exact ⟨i, i, rfl, by rw [heq]⟩

end Align

end StateWake.Base.Alignment
