import StateWake.Base.Text
import Mathlib.Data.List.Sort
import Mathlib.Data.List.Lex

/-!
# String-keyed dictionaries

A `dict` in insertion order. Serializers sort it by key, digests are computed from the
sorted form, and readers look keys up. For distinct keys the sorted form depends only on
the members, and sorting changes no lookup.
-/

namespace StateWake.Base

/-- A `dict` with text keys, in insertion order. -/
abbrev Dict (α : Type) := List (Text × α)

namespace Dict

variable {α β : Type}

/-- `d.get(key)`. -/
def get? : Dict α → Text → Option α
  | [], _ => none
  | (k, v) :: d, key => if key = k then some v else get? d key

/-- `d[key] = value`: an existing key keeps its place. -/
def set : Dict α → Text → α → Dict α
  | [], key, value => [(key, value)]
  | (k, v) :: d, key, value => if key = k then (k, value) :: d else (k, v) :: set d key value

/-- `d.pop(key, None)`. -/
def erase (d : Dict α) (key : Text) : Dict α := d.filter fun m ↦ decide (m.1 ≠ key)

/-- The keys in insertion order. -/
def keys (d : Dict α) : List Text := d.map Prod.fst

/-- `dict(sorted(d.items()))`. -/
def sorted (d : Dict α) : Dict α := d.insertionSort fun a b ↦ a.1 ≤ b.1

/-- A function applied to every value. -/
def mapValues (f : α → β) (d : Dict α) : Dict β := d.map fun m ↦ (m.1, f m.2)

/-- The `dict` built from pairs in order; the last value of a key stays. -/
def ofPairs (d : List (Text × α)) : Dict α := d.foldl (fun d m ↦ set d m.1 m.2) []

/-- Keys occur once. -/
def Distinct (d : Dict α) : Prop := d.keys.Nodup

instance (d : Dict α) : Decidable d.Distinct := by unfold Distinct; infer_instance

@[simp] theorem get?_nil (key : Text) : get? ([] : Dict α) key = none := rfl

@[simp] theorem get?_cons (k key : Text) (v : α) (d : Dict α) :
    get? ((k, v) :: d) key = if key = k then some v else get? d key := rfl

@[simp] theorem keys_nil : keys ([] : Dict α) = [] := rfl

@[simp] theorem keys_cons (m : Text × α) (d : Dict α) : keys (m :: d) = m.1 :: keys d := rfl

@[simp] theorem keys_mapValues (f : α → β) (d : Dict α) : keys (mapValues f d) = keys d := by
  simp [keys, mapValues]

@[simp] theorem mapValues_nil (f : α → β) : mapValues f [] = [] := rfl

@[simp] theorem mapValues_cons (f : α → β) (m : Text × α) (d : Dict α) :
    mapValues f (m :: d) = (m.1, f m.2) :: mapValues f d := rfl

theorem get?_append (d e : Dict α) (key : Text) :
    get? (d ++ e) key = (get? d key).or (get? e key) := by
  induction d with
  | nil => rfl
  | cons m d ih =>
    rw [List.cons_append, get?, get?]
    split
    · rfl
    · exact ih

theorem mem_keys {d : Dict α} {key : Text} : key ∈ d.keys ↔ ∃ v, (key, v) ∈ d := by
  simp [keys]

theorem mem_of_get? {d : Dict α} {key : Text} {v : α} (h : get? d key = some v) :
    (key, v) ∈ d := by
  induction d with
  | nil => cases h
  | cons m d ih =>
    rw [show m = (m.1, m.2) from rfl, get?_cons] at h
    split at h
    · next hk =>
      cases h
      rw [hk]
      exact List.mem_cons_self
    · exact List.mem_cons_of_mem _ (ih h)

/-- With distinct keys a lookup finds exactly the member. -/
theorem get?_eq_some_iff {d : Dict α} (hd : d.Distinct) {key : Text} {v : α} :
    get? d key = some v ↔ (key, v) ∈ d := by
  constructor
  · exact mem_of_get?
  · intro h
    induction d with
    | nil => cases h
    | cons m d ih =>
      obtain ⟨k, w⟩ := m
      simp only [Distinct, keys_cons, List.nodup_cons] at hd
      rw [get?_cons]
      rcases List.mem_cons.mp h with he | ht
      · cases he
        rw [if_pos rfl]
      · have hne : key ≠ k := by
          rintro rfl
          exact hd.1 (mem_keys.mpr ⟨v, ht⟩)
        rw [if_neg hne]
        exact ih hd.2 ht

theorem Distinct.perm {d e : Dict α} (hd : d.Distinct) (h : d.Perm e) : e.Distinct :=
  (h.map Prod.fst).nodup_iff.mp hd

/-- Reordering members changes no lookup. -/
theorem get?_perm {d e : Dict α} (hd : d.Distinct) (h : d.Perm e) (key : Text) :
    get? e key = get? d key := by
  apply Option.ext
  intro v
  rw [get?_eq_some_iff hd, get?_eq_some_iff (hd.perm h), h.mem_iff]

@[simp] theorem get?_mapValues (f : α → β) (d : Dict α) (key : Text) :
    get? (mapValues f d) key = (get? d key).map f := by
  induction d with
  | nil => rfl
  | cons m d ih =>
    rw [mapValues_cons, get?_cons, ih, show m = (m.1, m.2) from rfl, get?_cons]
    split <;> rfl

/-- A function of key and value on every member. -/
def mapEntries (f : Text → α → β) (d : Dict α) : Dict β := d.map fun m ↦ (m.1, f m.1 m.2)

@[simp] theorem keys_mapEntries (f : Text → α → β) (d : Dict α) :
    keys (mapEntries f d) = keys d := by
  rw [keys, mapEntries, List.map_map]
  rfl

@[simp] theorem get?_mapEntries (f : Text → α → β) (d : Dict α) (key : Text) :
    get? (mapEntries f d) key = (get? d key).map (f key) := by
  induction d with
  | nil => rfl
  | cons m d ih =>
    obtain ⟨k, v⟩ := m
    rw [mapEntries, List.map_cons, get?_cons, get?_cons]
    by_cases hk : key = k
    · rw [if_pos hk, if_pos hk, hk, Option.map_some]
    · rw [if_neg hk, if_neg hk]
      exact ih

theorem mapEntries_mapEntries {γ : Type} (g : Text → β → γ) (f : Text → α → β) (d : Dict α) :
    mapEntries g (mapEntries f d) = mapEntries (fun key v ↦ g key (f key v)) d := by
  rw [mapEntries, mapEntries, List.map_map]
  rfl

/-! ### Sorting by key -/

theorem sorted_perm (d : Dict α) : d.sorted.Perm d := List.perm_insertionSort _ _

@[simp] theorem mem_keys_sorted {d : Dict α} {key : Text} : key ∈ d.sorted.keys ↔ key ∈ d.keys :=
  ((sorted_perm d).map Prod.fst).mem_iff

theorem Distinct.sorted {d : Dict α} (hd : d.Distinct) : d.sorted.Distinct :=
  hd.perm (sorted_perm d).symm

/-- Sorting changes no lookup. -/
theorem get?_sorted {d : Dict α} (hd : d.Distinct) (key : Text) :
    get? d.sorted key = get? d key := get?_perm hd (sorted_perm d).symm key

private instance : Std.Total fun a b : Text × α ↦ a.1 ≤ b.1 := ⟨fun a b ↦ le_total a.1 b.1⟩

private instance : IsTrans (Text × α) fun a b ↦ a.1 ≤ b.1 := ⟨fun _ _ _ h h' ↦ le_trans h h'⟩

theorem pairwise_sorted (d : Dict α) : d.sorted.Pairwise fun a b ↦ a.1 ≤ b.1 :=
  List.pairwise_insertionSort _ _

private theorem eq_of_key_eq {d : Dict α} (hd : d.Distinct) {a b : Text × α} (ha : a ∈ d)
    (hb : b ∈ d) (h : a.1 = b.1) : a = b := by
  obtain ⟨k, v⟩ := a
  obtain ⟨k', w⟩ := b
  cases h
  have hv := (get?_eq_some_iff hd).mpr ha
  rw [(get?_eq_some_iff hd).mpr hb] at hv
  cases hv
  rfl

/-- Two key-sorted orderings of the same distinct members agree. -/
theorem eq_of_perm_of_pairwise {d e : Dict α} (hd : d.Distinct) (h : d.Perm e)
    (sd : d.Pairwise fun a b ↦ a.1 ≤ b.1) (se : e.Pairwise fun a b ↦ a.1 ≤ b.1) : d = e :=
  h.eq_of_pairwise (fun _ _ ha hb hab hba ↦
    eq_of_key_eq hd ha (h.symm.mem_iff.mp hb) (le_antisymm hab hba)) sd se

/-- The sorted form depends only on the members. -/
theorem sorted_eq_of_perm {d e : Dict α} (hd : d.Distinct) (h : d.Perm e) :
    d.sorted = e.sorted :=
  eq_of_perm_of_pairwise hd.sorted (((sorted_perm d).trans h).trans (sorted_perm e).symm)
    (pairwise_sorted d) (pairwise_sorted e)

/-- Sorted dictionaries agree exactly when all lookups do. -/
theorem sorted_eq_sorted_iff {d e : Dict α} (hd : d.Distinct) (he : e.Distinct) :
    d.sorted = e.sorted ↔ ∀ key, d.get? key = e.get? key := by
  constructor
  · intro h key
    rw [← get?_sorted hd, h, get?_sorted he]
  · intro h
    apply sorted_eq_of_perm hd
    apply (List.perm_ext_iff_of_nodup (List.Nodup.of_map _ hd) (List.Nodup.of_map _ he)).mpr
    intro m
    rw [← get?_eq_some_iff hd, ← get?_eq_some_iff he, h]

@[simp] theorem sorted_sorted (d : Dict α) : d.sorted.sorted = d.sorted :=
  List.Pairwise.insertionSort_eq (pairwise_sorted d)

theorem sorted_mapEntries (f : Text → α → β) (d : Dict α) :
    (mapEntries f d).sorted = mapEntries f d.sorted := by
  rw [sorted, sorted, mapEntries, mapEntries]
  exact (List.map_insertionSort _ _ (fun m : Text × α ↦ (m.1, f m.1 m.2)) d
    fun _ _ _ _ ↦ Iff.rfl).symm

theorem sorted_mapValues (f : α → β) (d : Dict α) :
    (mapValues f d).sorted = mapValues f d.sorted := by
  rw [sorted, sorted, mapValues, mapValues]
  exact (List.map_insertionSort _ _ (fun m : Text × α ↦ (m.1, f m.2)) d
    fun _ _ _ _ ↦ Iff.rfl).symm

theorem Distinct.erase {d : Dict α} (hd : d.Distinct) (key : Text) : (d.erase key).Distinct :=
  hd.sublist (List.filter_sublist.map Prod.fst)

/-- Dropping a key and sorting commute. -/
theorem sorted_erase_sorted {d : Dict α} (hd : d.Distinct) (key : Text) :
    (d.sorted.erase key).sorted = (d.erase key).sorted :=
  sorted_eq_of_perm (hd.sorted.erase key) ((sorted_perm d).filter _)

theorem erase_mapValues (f : α → β) (d : Dict α) (key : Text) :
    (mapValues f d).erase key = mapValues f (d.erase key) := by
  simp only [erase, mapValues, List.filter_map]
  rfl

/-- Dropping a key appended last gives back the members before it. -/
theorem erase_append_singleton {d : Dict α} {key : Text} (h : key ∉ d.keys) (v : α) :
    (d ++ [(key, v)]).erase key = d := by
  rw [erase, List.filter_append, List.filter_eq_self.mpr]
  · simp
  · intro m hm
    have : m.1 ≠ key := by
      rintro rfl
      exact h (mem_keys.mpr ⟨m.2, hm⟩)
    simpa using this

/-! ### Building -/

@[simp] theorem get?_set (d : Dict α) (key k : Text) (v : α) :
    get? (set d key v) k = if k = key then some v else get? d k := by
  induction d with
  | nil => simp [set]
  | cons m d ih =>
    obtain ⟨l, w⟩ := m
    rw [set]
    split
    · next h =>
      subst h
      rw [get?_cons, get?_cons]
      split <;> rfl
    · next h =>
      rw [get?_cons, get?_cons, ih]
      split
      · next hk =>
        rw [if_neg]
        rintro rfl
        exact h hk
      · rfl

@[simp] theorem get?_erase (d : Dict α) (key k : Text) :
    get? (erase d key) k = if k = key then none else get? d k := by
  induction d with
  | nil => simp [erase]
  | cons m d ih =>
    obtain ⟨l, w⟩ := m
    rw [erase] at ih ⊢
    by_cases hl : l = key
    · rw [List.filter_cons_of_neg (by simpa using hl), ih, get?_cons]
      split
      · rfl
      · next hk => rw [if_neg (by rw [hl]; exact hk)]
    · rw [List.filter_cons_of_pos (by simpa using hl), get?_cons, get?_cons, ih]
      by_cases hk : k = l
      · rw [if_pos hk, if_pos hk, if_neg (by rw [hk]; exact hl)]
      · rw [if_neg hk, if_neg hk]

/-- A key without a value is no key. -/
theorem get?_eq_none_iff {d : Dict α} {key : Text} : get? d key = none ↔ key ∉ d.keys := by
  induction d with
  | nil => simp
  | cons m d ih =>
    obtain ⟨k, v⟩ := m
    rw [get?_cons, keys_cons, List.mem_cons, not_or]
    by_cases hk : key = k
    · simp [hk]
    · rw [if_neg hk, ih]
      exact ⟨fun h ↦ ⟨hk, h⟩, And.right⟩

/-- A new key is added at the end. -/
theorem set_of_not_mem {d : Dict α} {key : Text} (h : key ∉ d.keys) (v : α) :
    set d key v = d ++ [(key, v)] := by
  induction d with
  | nil => rfl
  | cons m d ih =>
    obtain ⟨k, w⟩ := m
    simp only [keys_cons, List.mem_cons, not_or] at h
    rw [set, if_neg h.1, ih h.2]
    rfl

/-- An existing key keeps its place. -/
theorem keys_set_of_mem {d : Dict α} {key : Text} (h : key ∈ d.keys) (v : α) :
    (set d key v).keys = d.keys := by
  induction d with
  | nil => cases h
  | cons m d ih =>
    obtain ⟨k, w⟩ := m
    rw [set]
    by_cases hk : key = k
    · rw [if_pos hk]
      rfl
    · rw [keys_cons, List.mem_cons] at h
      rw [if_neg hk, keys_cons, keys_cons, ih (h.resolve_left hk)]

/-- Setting a key keeps the keys distinct. -/
theorem Distinct.set {d : Dict α} (hd : d.Distinct) (key : Text) (v : α) :
    (Dict.set d key v).Distinct := by
  by_cases h : key ∈ d.keys
  · rw [Distinct, keys_set_of_mem h]
    exact hd
  · rw [set_of_not_mem h, Distinct, keys, List.map_append]
    apply List.Nodup.append hd (List.nodup_singleton _)
    intro k hk hk'
    rw [List.mem_singleton.mp hk'] at hk
    exact h hk

/-- Setting what is there changes nothing. -/
theorem set_of_get? {d : Dict α} {key : Text} {v : α} (h : get? d key = some v) :
    set d key v = d := by
  induction d with
  | nil => cases h
  | cons m d ih =>
    obtain ⟨k, w⟩ := m
    rw [get?_cons] at h
    rw [set]
    by_cases hk : key = k
    · rw [if_pos hk] at h
      rw [if_pos hk, Option.some.inj h]
    · rw [if_neg hk] at h
      rw [if_neg hk, ih h]

private theorem foldl_set (d e : Dict α) (h : Distinct (d ++ e)) :
    e.foldl (fun d m ↦ set d m.1 m.2) d = d ++ e := by
  induction e generalizing d with
  | nil => simp
  | cons m e ih =>
    have hm : m.1 ∉ d.keys := by
      intro hk
      obtain ⟨w, hw⟩ := mem_keys.mp hk
      simp only [Distinct, keys, List.map_append, List.nodup_append] at h
      exact h.2.2 m.1 (List.mem_map.mpr ⟨_, hw, rfl⟩) m.1 (by simp) rfl
    rw [List.foldl_cons, set_of_not_mem hm, ih _ (by simpa using h), List.append_assoc]
    rfl

/-- Pairs with distinct keys build themselves. -/
theorem ofPairs_of_distinct {d : Dict α} (hd : d.Distinct) : ofPairs d = d := by
  simpa [ofPairs] using foldl_set [] d hd

end Dict
end StateWake.Base
