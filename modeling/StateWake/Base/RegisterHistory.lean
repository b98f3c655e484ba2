import Mathlib.Data.List.Induction

/-!
# Histories of registers

A history is a list in which every element was admitted by the elements before it. When the
elements are registers, partial maps from keys to entries, and an admitted register carries
over the entries of the last one, lists new keys afresh and lists no key again that was
dropped, then a key is listed in one stretch of the history, along which its entry only moves
forward in the order of carrying over.

Library support; no repository notion occurs here.
-/

namespace StateWake.Base.RegisterHistory

variable {ρ κ ε : Type}

/-- Every element is admitted by the elements before it. -/
def Prefixwise (P : List ρ → ρ → Prop) (h : List ρ) : Prop :=
  ∀ pre r post, h = pre ++ r :: post → P pre r

section Prefixwise

variable {P Q : List ρ → ρ → Prop} {h g : List ρ} {r : ρ}

theorem prefixwise_nil (P : List ρ → ρ → Prop) : Prefixwise P [] := by
  intro pre r post he
  simp at he

theorem prefixwise_append_singleton :
    Prefixwise P (h ++ [r]) ↔ Prefixwise P h ∧ P h r := by
  constructor
  · intro hp
    exact ⟨fun pre s post he ↦ hp pre s (post ++ [r]) (by simp [he]), hp h r [] rfl⟩
  · rintro ⟨hp, hr⟩ pre s post he
    cases post using List.reverseRecOn with
    | nil =>
      obtain ⟨rfl, hs⟩ := List.append_inj' he rfl
      cases hs
      exact hr
    | append_singleton post t =>
      refine hp pre s post ?_
      rw [← List.cons_append, ← List.append_assoc] at he
      exact (List.append_inj' he rfl).1

theorem Prefixwise.of_append (hp : Prefixwise P (h ++ g)) : Prefixwise P h :=
  fun pre r post he ↦ hp pre r (post ++ g) (by simp [he])

theorem Prefixwise.mono (hp : Prefixwise P h) (hPQ : ∀ pre r, P pre r → Q pre r) :
    Prefixwise Q h :=
  fun pre r post he ↦ hPQ pre r (hp pre r post he)

/-- What every admitted element has, all elements have. -/
theorem Prefixwise.forall_mem {R : ρ → Prop} (hp : Prefixwise P h) (hPR : ∀ pre r, P pre r → R r) :
    ∀ r ∈ h, R r := by
  intro r hr
  obtain ⟨pre, post, rfl⟩ := List.append_of_mem hr
  exact hPR pre r (hp pre r post rfl)

/-- The element at a position is admitted by the elements at earlier positions. -/
theorem Prefixwise.getElem? (hp : Prefixwise P h) {n : Nat} (hn : h[n]? = some r) :
    P (h.take n) r := by
  refine hp _ _ (h.drop (n + 1)) ?_
  obtain ⟨hlt, rfl⟩ := List.getElem?_eq_some_iff.mp hn
  rw [← List.drop_eq_getElem_cons hlt, List.take_append_drop]

private theorem mem_getLast?_take {n : Nat} (hn : h[n]? = some r) :
    r ∈ (h.take (n + 1)).getLast? := by
  rw [List.take_add_one, hn, Option.toList_some, List.getLast?_append, List.getLast?_singleton]
  rfl

end Prefixwise

section Registers

variable (entry : ρ → κ → Option ε) (Carries : ε → ε → Prop) (Fresh : ε → Prop)

/-- A register that may follow a history. The first register is unrestricted. -/
structure Admits (h : List ρ) (next : ρ) : Prop where
  carried : ∀ last ∈ h.getLast?, ∀ k, ∀ old ∈ entry last k, ∀ new ∈ entry next k, Carries old new
  fresh : ∀ last ∈ h.getLast?, ∀ k, ∀ new ∈ entry next k, entry last k = none → Fresh new
  gone : ∀ last ∈ h.getLast?, ∀ k, ∀ new ∈ entry next k, entry last k = none →
    ∀ r ∈ h, entry r k = none

variable {entry Carries Fresh} {h : List ρ}

/-- Along an admitted history, entries of one key are carried over at any distance. -/
theorem carries_of_prefixwise
    (htrans : ∀ a b c, Carries a b → Carries b c → Carries a c)
    (hp : Prefixwise (Admits entry Carries Fresh) h) :
    h.Pairwise fun r s ↦ ∀ k, ∀ old ∈ entry r k, ∀ new ∈ entry s k, Carries old new := by
  induction h using List.reverseRecOn with
  | nil => exact List.Pairwise.nil
  | append_singleton h s ih =>
    obtain ⟨hh, hs⟩ := prefixwise_append_singleton.mp hp
    rw [List.pairwise_append]
    refine ⟨ih hh, List.pairwise_singleton _ _, fun r hr t ht k old hold new hnew ↦ ?_⟩
    cases List.mem_singleton.mp ht
    cases h using List.reverseRecOn with
    | nil => cases hr
    | append_singleton h last _ =>
      have hlast : last ∈ (h ++ [last]).getLast? := by simp
      cases hk : entry last k with
      | none =>
        have hnone := hs.gone last hlast k new hnew hk r hr
        rw [hold] at hnone
        cases hnone
      | some e =>
        have hstep := hs.carried last hlast k e hk new hnew
        rcases List.mem_append.mp hr with hr | hr
        · have hpair := (List.pairwise_append.mp (ih hh)).2.2 r hr last (by simp)
          exact htrans _ _ _ (hpair k old hold e hk) hstep
        · cases List.mem_singleton.mp hr
          rw [hold] at hk
          cases hk
          exact hstep

/-- A key that was listed and then is not is never listed again. -/
theorem never_returns (hp : Prefixwise (Admits entry Carries Fresh) h) {i m j : Nat}
    (him : i < m) (hmj : m ≤ j) {r s t : ρ} (hr : h[i]? = some r) (hs : h[m]? = some s)
    (ht : h[j]? = some t) {k : κ} (hlisted : entry r k ≠ none) (hdropped : entry s k = none) :
    entry t k = none := by
  obtain ⟨d, rfl⟩ := Nat.exists_eq_add_of_le hmj
  clear hmj
  induction d generalizing t with
  | zero =>
    rw [Nat.add_zero, hs] at ht
    cases ht
    exact hdropped
  | succ d ih =>
    obtain ⟨hlt, -⟩ := List.getElem?_eq_some_iff.mp ht
    have hd : h[m + d]? = some h[m + d] := List.getElem?_eq_getElem (by omega)
    by_contra hne
    obtain ⟨new, hnew⟩ := Option.ne_none_iff_exists'.mp hne
    refine hlisted ((hp.getElem? ht).gone _ (mem_getLast?_take hd) k new hnew (ih hd) r ?_)
    have htake : (h.take (m + (d + 1)))[i]? = some r := by
      rw [List.getElem?_take_of_lt (by omega), hr]
    exact List.mem_of_getElem? htake

/-- The first listing of a key past the first register is fresh. -/
theorem fresh_of_prefixwise (hp : Prefixwise (Admits entry Carries Fresh) h) {j : Nat} {t : ρ}
    (ht : h[j + 1]? = some t) {k : κ} {new : ε} (hnew : entry t k = some new)
    (hfirst : ∀ i, i ≤ j → ∀ r, h[i]? = some r → entry r k = none) : Fresh new := by
  obtain ⟨hlt, -⟩ := List.getElem?_eq_some_iff.mp ht
  have hj : h[j]? = some h[j] := List.getElem?_eq_getElem (by omega)
  exact (hp.getElem? ht).fresh _ (mem_getLast?_take hj) k new hnew (hfirst j (Nat.le_refl j) _ hj)

end Registers

end StateWake.Base.RegisterHistory
