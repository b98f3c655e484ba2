import Mathlib.Data.List.Basic
import Mathlib.Data.List.DropRight

/-!
# Bounded windows

A queue with a limit whose oldest entries are taken off and forgotten elsewhere. The queue is the
end of all that was appended; entries that are appended only where the window does not have them are
further apart than the window is long.

Library support; no repository notion occurs here.
-/

namespace StateWake.Base.Window

variable {α β : Type}

/-- The end of a list, up to a limit. -/
def latest (limit : Nat) (items : List α) : List α := items.drop (items.length - limit)

/-- What is left of a list before its end. -/
def expired (limit : Nat) (items : List α) : List α := items.take (items.length - limit)

/-- While a queue is longer than a limit, its first entry is taken off and forgotten. -/
def trim (limit : Nat) (forget : β → α → β) : List α → β → List α × β
  | [], kept => ([], kept)
  | item :: items, kept =>
    if limit < (item :: items).length then trim limit forget items (forget kept item)
    else (item :: items, kept)

theorem trim_eq (limit : Nat) (forget : β → α → β) (items : List α) (kept : β) :
    trim limit forget items kept =
      (latest limit items, (expired limit items).foldl forget kept) := by
  induction items generalizing kept with
  | nil => simp [trim, latest, expired]
  | cons item items ih =>
    rw [trim, latest, expired]
    by_cases hlong : limit < (item :: items).length
    · have hlength : (item :: items).length - limit = items.length - limit + 1 := by
        rw [List.length_cons] at hlong ⊢
        omega
      rw [if_pos hlong, ih, hlength, List.drop_succ_cons, List.take_succ_cons, List.foldl_cons]
      rfl
    · rw [if_neg hlong, Nat.sub_eq_zero_of_le (not_lt.mp hlong)]
      rfl

theorem expired_append_latest (limit : Nat) (items : List α) :
    expired limit items ++ latest limit items = items := List.take_append_drop _ _

theorem length_latest_le (limit : Nat) (items : List α) : (latest limit items).length ≤ limit := by
  rw [latest, List.length_drop]
  omega

theorem latest_subset (limit : Nat) (items : List α) : latest limit items ⊆ items :=
  List.drop_subset _ _

theorem map_latest {γ : Type} (f : α → γ) (limit : Nat) (items : List α) :
    (latest limit items).map f = latest limit (items.map f) := by
  rw [latest, latest, List.map_drop, List.length_map]

theorem map_expired {γ : Type} (f : α → γ) (limit : Nat) (items : List α) :
    (expired limit items).map f = expired limit (items.map f) := by
  rw [expired, expired, List.map_take, List.length_map]

theorem latest_of_le {limit : Nat} {items : List α} (h : items.length ≤ limit) :
    latest limit items = items := by
  rw [latest, Nat.sub_eq_zero_of_le h, List.drop_zero]

theorem expired_of_le {limit : Nat} {items : List α} (h : items.length ≤ limit) :
    expired limit items = [] := by
  rw [expired, Nat.sub_eq_zero_of_le h, List.take_zero]

theorem latest_latest (limit limit' : Nat) (items : List α) :
    latest limit (latest limit' items) = latest (min limit limit') items := by
  rw [latest, latest, latest, List.drop_drop, List.length_drop]
  congr 1
  omega

/-- The end of what was appended is the end of the window after the append. -/
theorem latest_append_singleton (limit : Nat) (items : List α) (item : α) :
    latest limit (latest limit items ++ [item]) = latest limit (items ++ [item]) := by
  by_cases hshort : items.length ≤ limit
  · rw [latest_of_le hshort]
  · have hlength : (latest limit items).length = limit := by
      rw [latest, List.length_drop]
      omega
    have happend : latest limit items ++ [item] =
        (items ++ [item]).drop (items.length - limit) := by
      rw [List.drop_append_of_le_length (Nat.sub_le _ _)]
      rfl
    rw [latest, List.length_append, hlength, List.length_singleton, Nat.add_sub_cancel_left,
      happend, List.drop_drop, latest, List.length_append, List.length_singleton]
    congr 1
    omega

/-! ### Distance -/

/-- Equal entries are further apart than a limit. -/
def Spaced (limit : Nat) (items : List α) : Prop :=
  ∀ i j a, i < j → items[i]? = some a → items[j]? = some a → i + limit < j

theorem spaced_nil (limit : Nat) : Spaced limit ([] : List α) := by
  intro i j a _ hi
  cases hi

/-- An entry that the window does not have is far from the entries equal to it. -/
theorem Spaced.append_singleton {limit : Nat} {items : List α} (h : Spaced limit items) {a : α}
    (ha : a ∉ latest limit items) : Spaced limit (items ++ [a]) := by
  intro i j b hij hi hj
  have hjlength : j < (items ++ [a]).length := (List.getElem?_eq_some_iff.mp hj).1
  rw [List.length_append, List.length_singleton] at hjlength
  rw [List.getElem?_append_left (by omega)] at hi
  by_cases hlast : j = items.length
  · rw [hlast, List.getElem?_concat_length, Option.some.injEq] at hj
    by_contra hclose
    apply ha
    rw [hj, latest]
    apply List.mem_of_getElem? (i := i - (items.length - limit))
    rw [List.getElem?_drop, ← hi]
    congr 1
    omega
  · rw [List.getElem?_append_left (by omega)] at hj
    exact h i j b hij hi hj

/-- Entries of the window are different from each other. -/
theorem Spaced.nodup_latest {limit : Nat} {items : List α} (h : Spaced limit items) :
    (latest limit items).Nodup := by
  rw [List.Nodup, List.pairwise_iff_getElem]
  intro i j hi hj hij heq
  have hleft := List.getElem?_eq_getElem hi
  have hright := List.getElem?_eq_getElem hj
  rw [← heq] at hright
  have hfar := h (items.length - limit + i) (items.length - limit + j) _ (by omega)
    (List.getElem?_drop.symm.trans hleft) (List.getElem?_drop.symm.trans hright)
  rw [latest, List.length_drop] at hj
  omega

/-- Increasing numbers from one on and below another are no more than there are between. -/
theorem length_le_of_pairwise {n : Nat} {numbers : List Nat} (h : numbers.Pairwise (· < ·))
    (hlt : ∀ k ∈ numbers, k < n) {first : Nat} (hfirst : ∀ k ∈ numbers, first ≤ k) :
    numbers.length ≤ n - first := by
  induction numbers generalizing first with
  | nil => exact Nat.zero_le _
  | cons k numbers ih =>
    rw [List.pairwise_cons] at h
    have hnext : ∀ m ∈ numbers, k + 1 ≤ m := h.1
    have hrest := ih h.2 (fun m hm ↦ hlt m (List.mem_cons_of_mem k hm)) hnext
    have hk := hlt k List.mem_cons_self
    have hle := hfirst k List.mem_cons_self
    rw [List.length_cons]
    omega

end StateWake.Base.Window
