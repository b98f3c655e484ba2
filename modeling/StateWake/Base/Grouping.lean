import StateWake.Base.Dict
import StateWake.Base.KeyedHistory

/-!
# Grouping records by a text key

`groups.setdefault(key, []).append(record)` over a list: a dictionary with one entry for every
key, in order of first appearance, that holds the records of the key in order.

Library support; no repository notion occurs here.
-/

namespace StateWake.Base.Grouping

open Text KeyedHistory

variable {ρ : Type} (key : ρ → Text)

/-- The groups with one more record. -/
def insert (groups : Dict (List ρ)) (r : ρ) : Dict (List ρ) :=
  groups.set (key r) ((groups.get? (key r)).getD [] ++ [r])

/-- The records grouped by their key. -/
def groupBy (records : List ρ) : Dict (List ρ) := records.foldl (insert key) []

variable {key} {records : List ρ} {k : Text} {group : List ρ}

theorem groupBy_append_singleton (r : ρ) :
    groupBy key (records ++ [r]) = insert key (groupBy key records) r := by
  rw [groupBy, List.foldl_append]
  rfl

theorem distinct_groupBy (records : List ρ) : (groupBy key records).Distinct := by
  induction records using List.reverseRecOn with
  | nil => exact List.nodup_nil
  | append_singleton records r ih =>
    rw [groupBy_append_singleton]
    exact ih.set _ _

/-- A key's group holds the key's records. -/
theorem get?_groupBy (records : List ρ) (k : Text) :
    (groupBy key records).get? k =
      if ofKey key k records = [] then none else some (ofKey key k records) := by
  induction records using List.reverseRecOn with
  | nil => rfl
  | append_singleton records r ih =>
    rw [groupBy_append_singleton, insert, Dict.get?_set, ofKey_append]
    by_cases hk : key r = k
    · have hone : ofKey key k [r] = [r] := by simp [ofKey, hk]
      have hget : ((groupBy key records).get? (key r)).getD [] = ofKey key k records := by
        rw [hk, ih]
        split
        · next hn => exact hn.symm
        · rfl
      rw [hone, hget, if_pos hk.symm, if_neg (by simp)]
    · have hnone : ofKey key k [r] = [] := by simp [ofKey, hk]
      rw [hnone, List.append_nil, if_neg (Ne.symm hk), ih]

/-- The groups are the records of the keys that have any. -/
theorem mem_groupBy :
    (k, group) ∈ groupBy key records ↔ group = ofKey key k records ∧ group ≠ [] := by
  rw [← Dict.get?_eq_some_iff (distinct_groupBy records), get?_groupBy]
  split
  · next hn =>
    rw [hn]
    exact iff_of_false nofun fun h ↦ h.2 h.1
  · next hn =>
    rw [Option.some.injEq]
    constructor
    · rintro rfl
      exact ⟨rfl, hn⟩
    · rintro ⟨rfl, -⟩
      rfl

/-- The keys of the groups are the keys of the records. -/
theorem mem_keys_groupBy : k ∈ (groupBy key records).keys ↔ ∃ r ∈ records, key r = k := by
  rw [Dict.mem_keys]
  constructor
  · rintro ⟨group, hgroup⟩
    obtain ⟨rfl, hne⟩ := mem_groupBy.mp hgroup
    obtain ⟨r, hr⟩ := List.exists_mem_of_ne_nil _ hne
    simp only [ofKey, List.mem_filter, decide_eq_true_eq] at hr
    exact ⟨r, hr⟩
  · rintro ⟨r, hr, rfl⟩
    refine ⟨ofKey key (key r) records, mem_groupBy.mpr ⟨rfl, ?_⟩⟩
    exact List.ne_nil_of_mem (a := r) (by simp [ofKey, hr])

end StateWake.Base.Grouping
