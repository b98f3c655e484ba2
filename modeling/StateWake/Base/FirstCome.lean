import StateWake.Base.Error
import Mathlib.Data.Finset.Card
import Mathlib.Data.List.Nodup

/-!
# First come, first kept

A register of entries with keys: the first entry of a key is kept, later ones find it. A bounded
register raises when an entry with a new key comes and it is full, and otherwise raises what the
key's own check raises. What a bounded register holds and why it raises can be told from the
unbounded one.

Library support; no repository notion occurs here.
-/

namespace StateWake.Base.FirstCome

variable {α κ : Type} [DecidableEq κ] (key : α → κ)

/-- The entries kept, with one more that came. -/
def keep (kept : List α) (a : α) : List α := if key a ∈ kept.map key then kept else kept ++ [a]

/-- The first entry of each key, in the order they came. -/
def firsts (entries : List α) : List α := entries.foldl (keep key) []

/-- One more entry for a register of limited size. -/
def enter (limit : Nat) (full : PyError) (check : κ → Except PyError Unit) (kept : List α) (a : α) :
    Except PyError (List α) :=
  if key a ∈ kept.map key then .ok kept
  else if limit ≤ kept.length then .error full
  else do
    check (key a)
    pure (kept ++ [a])

/-- Entries for a register of limited size. -/
def fill (limit : Nat) (full : PyError) (check : κ → Except PyError Unit) (kept : List α)
    (entries : List α) : Except PyError (List α) :=
  entries.foldlM (enter key limit full check) kept

section Firsts

variable {key} {entries : List α}

theorem firsts_append_singleton (entries : List α) (a : α) :
    firsts key (entries ++ [a]) = keep key (firsts key entries) a := by
  rw [firsts, List.foldl_append]
  rfl

theorem prefix_keep (kept : List α) (a : α) : kept <+: keep key kept a := by
  rw [keep]
  split
  · exact List.prefix_rfl
  · exact List.prefix_append kept [a]

/-- What came first stays first. -/
theorem firsts_stay (entries rest : List α) :
    firsts key entries <+: firsts key (entries ++ rest) := by
  induction rest using List.reverseRecOn with
  | nil => rw [List.append_nil]
  | append_singleton rest a ih =>
    rw [← List.append_assoc, firsts_append_singleton]
    exact ih.trans (prefix_keep _ a)

theorem nodup_firsts (entries : List α) : ((firsts key entries).map key).Nodup := by
  induction entries using List.reverseRecOn with
  | nil => exact List.nodup_nil
  | append_singleton entries a ih =>
    rw [firsts_append_singleton, keep]
    split
    · exact ih
    · next hnew =>
      rw [List.map_append, List.map_singleton]
      exact List.nodup_append'.mpr ⟨ih, List.nodup_singleton _,
        List.disjoint_singleton.mpr hnew⟩

/-- Every key that came is kept. -/
theorem mem_keys_firsts {k : κ} : k ∈ (firsts key entries).map key ↔ k ∈ entries.map key := by
  induction entries using List.reverseRecOn with
  | nil => rfl
  | append_singleton entries a ih =>
    rw [firsts_append_singleton, keep, List.map_append, List.mem_append, ← ih]
    split
    · next hold =>
      rw [List.map_singleton, List.mem_singleton, or_iff_left_of_imp]
      rintro rfl
      exact hold
    · rw [List.map_append, List.mem_append]

theorem mem_firsts_id {keys : List κ} {k : κ} : k ∈ firsts (id : κ → κ) keys ↔ k ∈ keys := by
  have h := @mem_keys_firsts κ κ _ id keys k
  rwa [List.map_id, List.map_id] at h

/-- Only what came is kept. -/
theorem mem_of_mem_firsts {a : α} (h : a ∈ firsts key entries) : a ∈ entries := by
  induction entries using List.reverseRecOn with
  | nil => cases h
  | append_singleton entries b ih =>
    rw [firsts_append_singleton, keep] at h
    split at h
    · exact List.mem_append_left _ (ih h)
    · obtain h | h := List.mem_append.mp h
      · exact List.mem_append_left _ (ih h)
      · exact List.mem_append_right _ h

/-- As many entries are kept as keys came. -/
theorem length_firsts (entries : List α) :
    (firsts key entries).length = (entries.map key).toFinset.card := by
  have hsame : (entries.map key).toFinset = ((firsts key entries).map key).toFinset := by
    ext k
    rw [List.mem_toFinset, List.mem_toFinset, mem_keys_firsts]
  rw [hsame, List.toFinset_card_of_nodup (nodup_firsts entries), List.length_map]

/-- The keys kept are the first of the keys that came. -/
theorem map_firsts (entries : List α) :
    (firsts key entries).map key = firsts (id : κ → κ) (entries.map key) := by
  induction entries using List.reverseRecOn with
  | nil => rfl
  | append_singleton entries a ih =>
    rw [List.map_append, List.map_singleton, firsts_append_singleton, firsts_append_singleton, keep,
      keep, ← ih, List.map_id, id_eq]
    split
    · rfl
    · rw [List.map_append, List.map_singleton]

/-- An entry whose key has not come before is kept after those that came before. -/
theorem firsts_append_new {a : α} (h : key a ∉ entries.map key) (rest : List α) :
    firsts key entries ++ [a] <+: firsts key (entries ++ a :: rest) := by
  have hnew : firsts key (entries ++ [a]) = firsts key entries ++ [a] := by
    rw [firsts_append_singleton, keep, if_neg fun hmem ↦ h (mem_keys_firsts.mp hmem)]
  have hprefix := @firsts_stay α κ _ key (entries ++ [a]) rest
  rw [hnew, List.append_assoc, List.singleton_append] at hprefix
  exact hprefix

end Firsts

section Fill

variable {key} {limit : Nat} {full : PyError} {check : κ → Except PyError Unit}

theorem fill_append (kept entries rest : List α) :
    fill key limit full check kept (entries ++ rest) =
      fill key limit full check kept entries >>= fun kept ↦ fill key limit full check kept rest :=
  List.foldlM_append

/-- A bounded register checks the keys it has room for, and raises when there are more. -/
theorem fill_eq (entries : List α) : fill key limit full check [] entries = (do
    forM ((firsts key entries).take limit) fun a ↦ check (key a)
    if limit < (firsts key entries).length then .error full else pure (firsts key entries)) := by
  induction entries using List.reverseRecOn with
  | nil =>
    rw [firsts, List.foldl_nil, List.take_nil, List.forM_nil]
    rfl
  | append_singleton entries a ih =>
    rw [fill_append, ih, firsts_append_singleton, keep, bind_assoc]
    by_cases hold : key a ∈ (firsts key entries).map key
    · -- an old key changes nothing
      rw [if_pos hold]
      congr 1
      ext1 u
      split
      · rfl
      · change enter key limit full check _ a >>= pure = _
        rw [enter, if_pos hold]
        rfl
    · rw [if_neg hold]
      obtain hroom | hfull := Nat.lt_or_ge (firsts key entries).length limit
      · have hall : (firsts key entries).take limit = firsts key entries :=
          List.take_of_length_le hroom.le
        have hall' : (firsts key entries ++ [a]).take limit = firsts key entries ++ [a] := by
          apply List.take_of_length_le
          rw [List.length_append, List.length_singleton]
          exact hroom
        have hfits : ¬limit < (firsts key entries ++ [a]).length := by
          rw [List.length_append, List.length_singleton]
          exact Nat.not_lt.mpr hroom
        rw [hall, hall', if_neg hfits, if_neg (Nat.not_lt.mpr hroom.le), List.forM_append,
          bind_assoc]
        congr 1
        ext1 u
        change enter key limit full check _ a >>= pure = _
        rw [enter, if_neg hold, if_neg (Nat.not_le.mpr hroom), bind_pure, List.forM_cons,
          List.forM_nil]
        cases check (key a) <;> rfl
      · have hmore : limit < (firsts key entries ++ [a]).length := by
          rw [List.length_append, List.length_singleton]
          exact Nat.lt_succ_of_le hfull
        rw [List.take_append_of_le_length hfull, if_pos hmore]
        congr 1
        ext1 u
        split
        · rfl
        · change enter key limit full check _ a >>= pure = _
          rw [enter, if_neg hold, if_pos hfull]
          rfl

/-- A bounded register holds the first entries exactly when they fit and their keys pass. -/
theorem fill_eq_ok {entries kept : List α} : fill key limit full check [] entries = .ok kept ↔
    kept = firsts key entries ∧ (firsts key entries).length ≤ limit ∧
      ∀ a ∈ (firsts key entries).take limit, check (key a) = .ok () := by
  rw [fill_eq, bind_eq_ok]
  constructor
  · rintro ⟨⟨⟩, hchecked, hkept⟩
    split at hkept
    · cases hkept
    · next hfits =>
      exact ⟨(Except.ok.inj hkept).symm, Nat.not_lt.mp hfits, forM_eq_ok.mp hchecked⟩
  · rintro ⟨rfl, hfits, hchecked⟩
    exact ⟨(), forM_eq_ok.mpr hchecked, if_neg (Nat.not_lt.mpr hfits)⟩

/-- What a list of checks raises, one of them raises. -/
theorem exists_of_forM_eq_error {β : Type} {f : β → Except PyError Unit} {l : List β} {e : PyError}
    (h : forM l f = .error e) : ∃ b ∈ l, f b = .error e := by
  induction l with
  | nil => cases h
  | cons b l ih =>
    rw [List.forM_cons] at h
    cases hb : f b with
    | error e' =>
      rw [hb, error_bind] at h
      exact ⟨b, List.mem_cons_self, hb.trans h⟩
    | ok u =>
      rw [hb, ok_bind] at h
      obtain ⟨c, hc, hraised⟩ := ih h
      exact ⟨c, List.mem_cons_of_mem _ hc, hraised⟩

/-- A bounded register raises for its size, or what a key's check raises. -/
theorem fill_eq_error {entries : List α} {e : PyError}
    (h : fill key limit full check [] entries = .error e) :
    e = full ∨ ∃ a ∈ (firsts key entries).take limit, check (key a) = .error e := by
  rw [fill_eq] at h
  cases hchecked : forM ((firsts key entries).take limit) (fun a ↦ check (key a)) with
  | error e' =>
    rw [hchecked, error_bind] at h
    cases h
    exact .inr (exists_of_forM_eq_error hchecked)
  | ok u =>
    rw [hchecked, ok_bind] at h
    split at h
    · exact .inl (Except.error.inj h).symm
    · cases h

/-- A bounded register raises for its size exactly when the keys it has room for pass and there are
more. -/
theorem fill_eq_full {entries : List α} (hcheck : ∀ k, check k ≠ .error full) :
    fill key limit full check [] entries = .error full ↔
      limit < (firsts key entries).length ∧
        ∀ a ∈ (firsts key entries).take limit, check (key a) = .ok () := by
  have hraised : forM ((firsts key entries).take limit) (fun a ↦ check (key a)) ≠ .error full := by
    intro h
    obtain ⟨a, -, ha⟩ := exists_of_forM_eq_error h
    exact hcheck _ ha
  rw [fill_eq, ← forM_eq_ok]
  cases hchecked : forM ((firsts key entries).take limit) (fun a ↦ check (key a)) with
  | error e =>
    rw [error_bind]
    rw [hchecked] at hraised
    constructor
    · intro h
      cases h
      exact absurd rfl hraised
    · exact fun h ↦ nomatch h.2
  | ok u =>
    rw [ok_bind]
    split
    · next hmore => exact iff_of_true rfl ⟨hmore, rfl⟩
    · next hfits => exact iff_of_false nofun fun h ↦ hfits h.1

end Fill

end StateWake.Base.FirstCome
