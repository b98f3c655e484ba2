import StateWake.Base.RegisterHistory
import Mathlib.Data.List.Nodup
import Mathlib.Logic.Relation

/-!
# Forests

A history whose elements may name an earlier element by its key. When keys are distinct, the
names lead from every element to exactly one earlier element or to none, so the history is a
forest: from every element a chain of names ends at one that names nothing.

Library support; no repository notion occurs here.
-/

namespace StateWake.Base.Forest

open RegisterHistory

variable {ρ κ : Type} (key : ρ → κ) (parent : ρ → Option κ)

/-- The element at one place names the element at another. -/
def Names (h : List ρ) (i j : Nat) : Prop :=
  ∃ r p, h[i]? = some r ∧ h[j]? = some p ∧ parent r = some (key p)

/-- Names lead back, to one element each. -/
structure IsForest (h : List ρ) : Prop where
  unique : ∀ {i j j'}, Names key parent h i j → Names key parent h i j' → j = j'
  earlier : ∀ {i j}, Names key parent h i j → j < i
  named : ∀ {i r k}, h[i]? = some r → parent r = some k → ∃ j, Names key parent h i j

variable {key parent} {h : List ρ}

/-- A chain of names ends. -/
theorem IsForest.exists_root (hf : IsForest key parent h) {i : Nat} {r : ρ}
    (hr : h[i]? = some r) : ∃ j p, Relation.ReflTransGen (Names key parent h) i j ∧
      h[j]? = some p ∧ parent p = none := by
  induction i using Nat.strongRecOn generalizing r with
  | ind i ih =>
    cases hparent : parent r with
    | none => exact ⟨i, r, .refl, hr, hparent⟩
    | some k =>
      obtain ⟨j, hnames⟩ := hf.named hr hparent
      obtain ⟨-, s, -, hs, -⟩ := id hnames
      obtain ⟨root, p, hchain, hp, hnone⟩ := ih j (hf.earlier hnames) hs
      exact ⟨root, p, .head hnames hchain, hp, hnone⟩

/-- Keys that are new when they come are distinct. -/
theorem nodup_of_prefixwise {f : ρ → κ}
    (hfresh : Prefixwise (fun pre r ↦ ∀ p ∈ pre, f p ≠ f r) h) : (h.map f).Nodup := by
  induction h using List.reverseRecOn with
  | nil => exact List.nodup_nil
  | append_singleton h r ih =>
    obtain ⟨hh, hr⟩ := prefixwise_append_singleton.mp hfresh
    rw [List.map_append, List.map_singleton, ← List.concat_eq_append]
    apply (ih hh).concat
    intro hmem
    obtain ⟨p, hp, heq⟩ := List.mem_map.mp hmem
    exact hr p hp heq

/-- Places of equal keys are equal. -/
private theorem place_unique (hkeys : (h.map key).Nodup) {j j' : Nat} {p p' : ρ}
    (hp : h[j]? = some p) (hp' : h[j']? = some p') (heq : key p = key p') : j = j' := by
  have hlt : j < h.length := (List.getElem?_eq_some_iff.mp hp).1
  have hlength : j < (h.map key).length := by rwa [List.length_map]
  apply (List.getElem?_inj hlength hkeys).mp
  rw [List.getElem?_map, List.getElem?_map, hp, hp', Option.map_some, Option.map_some, heq]

/-- A history of distinct keys in which every name is the key of an earlier element. -/
theorem isForest (hparent : Prefixwise (fun pre r ↦ ∀ k ∈ parent r, ∃ p ∈ pre, key p = k) h)
    (hkeys : (h.map key).Nodup) : IsForest key parent h := by
  have hback : ∀ {i : Nat} {r : ρ} {k : κ}, h[i]? = some r → parent r = some k →
      ∃ (j : Nat) (p : ρ), j < i ∧ h[j]? = some p ∧ key p = k := by
    intro i r k hr hk
    obtain ⟨p, hp, heq⟩ := hparent.getElem? hr k hk
    obtain ⟨j, hj⟩ := List.mem_iff_getElem?.mp hp
    have hlt : j < i := by
      have hlength := (List.getElem?_eq_some_iff.mp hj).1
      rw [List.length_take] at hlength
      omega
    exact ⟨j, p, hlt, by rw [← hj, List.getElem?_take_of_lt hlt], heq⟩
  constructor
  · rintro i j j' ⟨r, p, hr, hp, hk⟩ ⟨r', p', hr', hp', hk'⟩
    rw [hr, Option.some.injEq] at hr'
    rw [← hr', hk, Option.some.injEq] at hk'
    exact place_unique hkeys hp hp' hk'
  · rintro i j ⟨r, p, hr, hp, hk⟩
    obtain ⟨j', p', hlt, hp', heq⟩ := hback hr hk
    rw [← place_unique hkeys hp' hp heq]
    exact hlt
  · intro i r k hr hk
    obtain ⟨j, p, -, hp, heq⟩ := hback hr hk
    exact ⟨j, r, p, hr, hp, by rw [hk, heq]⟩

end StateWake.Base.Forest
