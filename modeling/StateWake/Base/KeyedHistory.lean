import Mathlib.Data.List.Basic
import Mathlib.Data.List.Chain

/-!
# Histories of keyed records

An append-only list of records, each belonging to a key. A record is judged against the
tip of its key, the last record with that key before it. Appending one record that passes
keeps the judgement of all, and the records of each key then form a path.

Library support; no repository notion occurs here.
-/

namespace StateWake.Base.KeyedHistory

variable {ρ κ : Type} [DecidableEq κ] (key : ρ → κ)

/-- The records of a key. -/
def ofKey (k : κ) (h : List ρ) : List ρ := h.filter fun r ↦ decide (key r = k)

/-- The last record of a key. -/
def tip? (k : κ) (h : List ρ) : Option ρ := (ofKey key k h).getLast?

/-- Every record stands in a relation to the tip of its key before it. -/
def Stepwise (P : Option ρ → ρ → Prop) (h : List ρ) : Prop :=
  ∀ pre r post, h = pre ++ r :: post → P (tip? key (key r) pre) r

variable {key}

@[simp] theorem tip?_nil (k : κ) : tip? key k [] = none := rfl

/-- Appending a record changes the tip of its own key only. -/
theorem tip?_append_singleton (k : κ) (h : List ρ) (r : ρ) :
    tip? key k (h ++ [r]) = if key r = k then some r else tip? key k h := by
  unfold tip? ofKey
  rw [List.filter_append]
  split
  · next hk => simp [hk]
  · next hk => simp [hk]

@[simp] theorem ofKey_append (k : κ) (h g : List ρ) :
    ofKey key k (h ++ g) = ofKey key k h ++ ofKey key k g := List.filter_append ..

theorem mem_of_tip? {k : κ} {h : List ρ} {r : ρ} (ht : tip? key k h = some r) :
    r ∈ h ∧ key r = k := by
  have hm := List.mem_of_getLast? ht
  simpa [ofKey] using hm

theorem tip?_eq_none_iff {k : κ} {h : List ρ} : tip? key k h = none ↔ ∀ r ∈ h, key r ≠ k := by
  simp [tip?, ofKey]

theorem stepwise_nil (P : Option ρ → ρ → Prop) : Stepwise key P [] := by
  intro pre r post h
  simp at h

/-- A history extended by one record is judged as the history and the new record. -/
theorem stepwise_append_singleton {P : Option ρ → ρ → Prop} {h : List ρ} {r : ρ} :
    Stepwise key P (h ++ [r]) ↔ Stepwise key P h ∧ P (tip? key (key r) h) r := by
  constructor
  · intro hs
    refine ⟨fun pre s post he ↦ hs pre s (post ++ [r]) (by simp [he]), hs h r [] rfl⟩
  · rintro ⟨hs, hr⟩ pre s post he
    rcases List.eq_nil_or_concat post with rfl | ⟨init, last, rfl⟩
    · obtain ⟨rfl, hl⟩ := List.append_inj' he rfl
      cases hl
      exact hr
    · have he' : h ++ [r] = (pre ++ s :: init) ++ [last] := by simp [he]
      exact hs pre s init (List.append_inj' he' rfl).1

theorem Stepwise.mono {P Q : Option ρ → ρ → Prop} {h : List ρ} (hs : Stepwise key P h)
    (hPQ : ∀ o, ∀ r ∈ h, P o r → Q o r) : Stepwise key Q h := by
  intro pre r post he
  exact hPQ _ r (by simp [he]) (hs pre r post he)

/-- An initial part of a judged history is judged. -/
theorem Stepwise.of_append {P : Option ρ → ρ → Prop} {h g : List ρ}
    (hs : Stepwise key P (h ++ g)) : Stepwise key P h :=
  fun pre r post he ↦ hs pre r (post ++ g) (by simp [he])

@[simp] theorem tip?_ofKey (k : κ) (h : List ρ) : tip? key k (ofKey key k h) = tip? key k h := by
  simp [tip?, ofKey, List.filter_filter]

theorem ofKey_map {σ : Type} (f : σ → ρ) (k : κ) (h : List σ) :
    ofKey key k (h.map f) = (ofKey (key ∘ f) k h).map f := List.filter_map ..

/-- The tip of a key among views of records. -/
theorem tip?_map {σ : Type} (f : σ → ρ) (k : κ) (h : List σ) :
    tip? key k (h.map f) = (tip? (key ∘ f) k h).map f := by
  rw [tip?, ofKey_map, List.getLast?_map, tip?]

/-- The records of one key are judged among themselves as in the whole history. -/
theorem Stepwise.select {P : Option ρ → ρ → Prop} {h : List ρ} (hs : Stepwise key P h) (k : κ) :
    Stepwise key P (ofKey key k h) := by
  induction h using List.reverseRecOn with
  | nil => exact stepwise_nil P
  | append_singleton h r ih =>
    obtain ⟨hs', hr⟩ := stepwise_append_singleton.mp hs
    rw [ofKey_append]
    by_cases hk : key r = k
    · have hone : ofKey key k [r] = [r] := by simp [KeyedHistory.ofKey, hk]
      rw [hone, stepwise_append_singleton, hk, tip?_ofKey]
      exact ⟨ih hs', hk ▸ hr⟩
    · have hnone : ofKey key k [r] = [] := by simp [KeyedHistory.ofKey, hk]
      rw [hnone, List.append_nil]
      exact ih hs'

/-- The records of one key form a path: the first stands in the relation to nothing, each
other one to its predecessor. -/
theorem Stepwise.path {P : Option ρ → ρ → Prop} {h : List ρ} (hs : Stepwise key P h) (k : κ) :
    (∀ r, (ofKey key k h).head? = some r → P none r) ∧
      (ofKey key k h).IsChain fun p r ↦ P (some p) r := by
  induction h using List.reverseRecOn with
  | nil => exact ⟨fun r hr ↦ (by cases hr), List.isChain_nil⟩
  | append_singleton h r ih =>
    obtain ⟨hs', hr⟩ := stepwise_append_singleton.mp hs
    obtain ⟨hhead, hchain⟩ := ih hs'
    rw [ofKey_append]
    by_cases hk : key r = k
    · have hone : ofKey key k [r] = [r] := by simp [ofKey, hk]
      rw [hone]
      rw [hk] at hr
      cases hl : ofKey key k h with
      | nil =>
        have ht : tip? key k h = none := by rw [tip?, hl]; rfl
        rw [ht] at hr
        refine ⟨fun s hs ↦ ?_, List.isChain_singleton r⟩
        cases hs
        exact hr
      | cons a l =>
        rw [hl] at hhead hchain
        refine ⟨hhead, ?_⟩
        rw [List.isChain_append]
        refine ⟨hchain, List.isChain_singleton r, fun p hp s hs ↦ ?_⟩
        cases hs
        have ht : tip? key k h = some p := by rw [tip?, hl]; exact hp
        rw [ht] at hr
        exact hr
    · have hnone : ofKey key k [r] = [] := by simp [ofKey, hk]
      rw [hnone, List.append_nil]
      exact ⟨hhead, hchain⟩

end StateWake.Base.KeyedHistory
