import StateWake.Base.Error
import Mathlib.Data.List.Forall2
import Mathlib.Data.List.Basic

/-!
# Paging

A list that is read a page at a time, each page naming the offset of the next. Where a page holds
what a limit leaves of the list from its offset on, and names the next offset exactly while
something is left, the pages from an offset are the rest of the list.
-/

namespace StateWake.Base.Paging

variable {ε π α β : Type}

/-- The pages that are fetched from an offset on, each at the offset that the one before names. -/
inductive Walk (fetch : Nat → Except ε π) (next : π → Option Nat) : Nat → List π → Prop where
  | last {offset : Nat} {page : π} (fetched : fetch offset = .ok page) (done : next page = none) :
      Walk fetch next offset [page]
  | more {offset offset' : Nat} {page : π} {pages : List π} (fetched : fetch offset = .ok page)
      (named : next page = some offset') (rest : Walk fetch next offset' pages) :
      Walk fetch next offset (page :: pages)

variable {fetch : Nat → Except ε π} {next : π → Option Nat} {records : π → List α}

/-- A walk begins with the page at its offset. -/
theorem Walk.fetched {offset : Nat} {pages : List π} (h : Walk fetch next offset pages) :
    ∃ page, fetch offset = .ok page := by
  cases h with
  | last fetched _ => exact ⟨_, fetched⟩
  | more fetched _ _ => exact ⟨_, fetched⟩

/-- Every page of a walk is one that is fetched. -/
theorem Walk.exists_fetched {offset : Nat} {pages : List π} (h : Walk fetch next offset pages) :
    ∀ page ∈ pages, ∃ offset', fetch offset' = .ok page := by
  induction h with
  | last fetched _ =>
    intro page hpage
    rw [List.mem_singleton] at hpage
    exact ⟨_, hpage ▸ fetched⟩
  | more fetched _ _ ih =>
    rw [List.forall_mem_cons]
    exact ⟨⟨_, fetched⟩, ih⟩

/-- There is one walk from an offset. -/
theorem Walk.unique {offset : Nat} {pages pages' : List π} (h : Walk fetch next offset pages)
    (h' : Walk fetch next offset pages') : pages = pages' := by
  induction h generalizing pages' with
  | last fetched done =>
    cases h' with
    | last fetched' _ =>
      rw [fetched] at fetched'
      cases fetched'
      rfl
    | more fetched' named' _ =>
      rw [fetched] at fetched'
      cases fetched'
      rw [done] at named'
      cases named'
  | more fetched named _ ih =>
    cases h' with
    | last fetched' done' =>
      rw [fetched] at fetched'
      cases fetched'
      rw [named] at done'
      cases done'
    | more fetched' named' rest' =>
      rw [fetched] at fetched'
      cases fetched'
      rw [named] at named'
      cases named'
      rw [ih rest']

/-- The pages of a list: each holds what the limit leaves of the list from its offset on, and names
the next offset while something is left. -/
structure Serves (fetch : Nat → Except ε π) (next : π → Option Nat) (records : π → List α)
    (limit : Nat) (l : List α) : Prop where
  positive : 0 < limit
  page : ∀ offset, ∃ page, fetch offset = .ok page ∧
    records page = (l.drop offset).take limit ∧
    next page = if offset + (records page).length < l.length then some (offset + limit) else none

/-- The pages from an offset on are the rest of the list. -/
theorem Serves.exists_walk {limit : Nat} {l : List α} (h : Serves fetch next records limit l)
    (offset : Nat) :
    ∃ pages, Walk fetch next offset pages ∧ pages.flatMap records = l.drop offset := by
  -- by the number of records that are left
  induction hleft : l.length - offset using Nat.strong_induction_on generalizing offset with
  | _ left ih =>
    obtain ⟨page, hfetch, hrecords, hnext⟩ := h.page offset
    have hlength : (records page).length = min limit (l.length - offset) := by
      rw [hrecords, List.length_take, List.length_drop]
    have hpositive := h.positive
    by_cases hmore : offset + (records page).length < l.length
    · rw [if_pos hmore] at hnext
      obtain ⟨pages, hwalk, hpages⟩ := ih _ (by omega) (offset + limit) rfl
      refine ⟨page :: pages, .more hfetch hnext hwalk, ?_⟩
      rw [List.flatMap_cons, hrecords, hpages, ← List.drop_drop, List.take_append_drop]
    · rw [if_neg hmore] at hnext
      refine ⟨[page], .last hfetch hnext, ?_⟩
      rw [List.flatMap_cons, List.flatMap_nil, List.append_nil, hrecords]
      apply List.take_of_length_le
      rw [List.length_drop]
      omega

/-! ### Reading the rows of a page -/

/-- Reading a list succeeds exactly with what is read of its elements in turn. -/
theorem mapM_eq_ok_iff {f : α → Except PyError β} {l : List α} {m : List β} :
    l.mapM f = .ok m ↔ List.Forall₂ (fun a b ↦ f a = .ok b) l m := by
  induction l generalizing m with
  | nil =>
    rw [List.forall₂_nil_left_iff]
    exact ⟨fun h ↦ (Except.ok.inj h).symm, fun h ↦ h ▸ rfl⟩
  | cons a l ih =>
    rw [List.mapM_cons, List.forall₂_cons_left_iff, bind_eq_ok]
    constructor
    · rintro ⟨b, hb, h⟩
      rw [bind_eq_ok] at h
      obtain ⟨rest, hrest, h⟩ := h
      exact ⟨b, rest, hb, ih.mp hrest, (Except.ok.inj h).symm⟩
    · rintro ⟨b, rest, hb, hrest, rfl⟩
      refine ⟨b, hb, ?_⟩
      rw [ih.mpr hrest]
      rfl

/-- Reading a list twice is reading each element twice. -/
theorem mapM_bind {γ : Type} {f : α → Except PyError β} {g : β → Except PyError γ} {l : List α}
    {m : List β} {n : List γ} (hf : l.mapM f = .ok m) (hg : m.mapM g = .ok n) :
    (l.mapM fun a ↦ f a >>= g) = .ok n := by
  rw [mapM_eq_ok_iff] at hf hg ⊢
  induction hf generalizing n with
  | nil =>
    rw [List.forall₂_nil_left_iff] at hg
    rw [hg]
    exact List.Forall₂.nil
  | cons hb _ ih =>
    rw [List.forall₂_cons_left_iff] at hg
    obtain ⟨c, rest, hc, hrest, rfl⟩ := hg
    refine List.Forall₂.cons ?_ (ih hrest)
    rw [hb]
    exact hc

/-- What reading a list twice yields is what is read of the first reading. -/
theorem exists_mapM_of_bind {γ : Type} {f : α → Except PyError β} {g : β → Except PyError γ}
    {l : List α} {n : List γ} (h : (l.mapM fun a ↦ f a >>= g) = .ok n) :
    ∃ m, l.mapM f = .ok m ∧ m.mapM g = .ok n := by
  rw [mapM_eq_ok_iff] at h
  induction h with
  | nil => exact ⟨[], rfl, rfl⟩
  | cons hc _ ih =>
    obtain ⟨b, hb, hc⟩ := bind_eq_ok.mp hc
    obtain ⟨m, hm, hn⟩ := ih
    rw [mapM_eq_ok_iff] at hm hn
    exact ⟨b :: m, mapM_eq_ok_iff.mpr (hm.cons hb), mapM_eq_ok_iff.mpr (hn.cons hc)⟩

/-- A page of a list that can be read can be read, as the page of what is read. -/
theorem mapM_page {f : α → Except PyError β} {l : List α} {m : List β} (h : l.mapM f = .ok m)
    (offset limit : Nat) :
    ((l.drop offset).take limit).mapM f = .ok ((m.drop offset).take limit) := by
  rw [mapM_eq_ok_iff] at h ⊢
  exact List.forall₂_take limit (List.forall₂_drop offset h)

/-- What is read of a list in an order is in the order that the readings keep. -/
theorem pairwise_of_mapM_eq_ok {f : α → Except PyError β} {l : List α} {m : List β}
    {R : α → α → Prop} {S : β → β → Prop} (h : l.mapM f = .ok m) (hl : l.Pairwise R)
    (hkeeps : ∀ a b a' b', a ∈ l → a' ∈ l → f a = .ok b → f a' = .ok b' → R a a' → S b b') :
    m.Pairwise S := by
  induction l generalizing m with
  | nil =>
    cases h
    exact List.Pairwise.nil
  | cons a l ih =>
    have hforall := mapM_eq_ok_iff.mp h
    rw [List.forall₂_cons_left_iff] at hforall
    obtain ⟨b, rest, hb, hrest, rfl⟩ := hforall
    rw [List.pairwise_cons] at hl ⊢
    have hrest := mapM_eq_ok_iff.mpr hrest
    constructor
    · intro b' hb'
      obtain ⟨a', ha', hread⟩ := (mem_of_mapM_eq_ok hrest).mp hb'
      exact hkeeps a b a' b' List.mem_cons_self (List.mem_cons_of_mem _ ha') hb hread
        (hl.1 a' ha')
    · apply ih hrest hl.2
      intro a₁ b₁ a₂ b₂ h₁ h₂
      exact hkeeps a₁ b₁ a₂ b₂ (List.mem_cons_of_mem _ h₁) (List.mem_cons_of_mem _ h₂)

end StateWake.Base.Paging
