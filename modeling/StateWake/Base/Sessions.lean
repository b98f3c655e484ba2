import Mathlib.Data.List.Basic

/-!
# Sessions

A table of sessions, each opened under a key. An item goes to every open session of its key, and a
final item closes it. A session holds the items that came under its key after it was opened,
through the first final one.

Library support; no repository notion occurs here.
-/

namespace StateWake.Base.Sessions

variable {κ α : Type}

/-- A session is opened under a key, or an item comes under one. -/
inductive Input (κ α : Type) where
  | opens (key : κ)
  | adds (key : κ) (item : α)

/-- A session, the items it holds and whether it is closed. -/
@[ext] structure Session (κ α : Type) where
  key : κ
  items : List α
  closed : Bool

/-- The number of sessions that inputs open. -/
def opened : List (Input κ α) → Nat
  | [] => 0
  | .opens _ :: inputs => opened inputs + 1
  | .adds _ _ :: inputs => opened inputs

theorem opened_append (inputs more : List (Input κ α)) :
    opened (inputs ++ more) = opened inputs + opened more := by
  induction inputs with
  | nil => simp [opened]
  | cons input inputs ih =>
    cases input with
    | opens key =>
      rw [List.cons_append, opened, opened, ih]
      omega
    | adds key item => rw [List.cons_append, opened, opened, ih]

variable [DecidableEq κ] (final : α → Bool)

/-- What an item does to a session. -/
def Session.receive (s : Session κ α) (key : κ) (item : α) : Session κ α :=
  if s.key = key ∧ s.closed = false then ⟨s.key, s.items ++ [item], final item⟩ else s

@[simp] theorem Session.receive_key (s : Session κ α) (key : κ) (item : α) :
    (s.receive final key item).key = s.key := by
  rw [receive]
  split <;> rfl

/-- One input on a table. -/
def step (table : List (Session κ α)) : Input κ α → List (Session κ α)
  | .opens key => table ++ [⟨key, [], false⟩]
  | .adds key item => table.map fun s ↦ s.receive final key item

/-- The table that inputs leave. -/
def run (inputs : List (Input κ α)) : List (Session κ α) := inputs.foldl (step final) []

/-- The items under a key, through the first final one. -/
def itemsOf (key : κ) : List (Input κ α) → List α
  | [] => []
  | .opens _ :: inputs => itemsOf key inputs
  | .adds k item :: inputs =>
    if key = k then if final item then [item] else item :: itemsOf key inputs
    else itemsOf key inputs

/-- Whether a final item comes under a key. -/
def closes (key : κ) : List (Input κ α) → Bool
  | [] => false
  | .opens _ :: inputs => closes key inputs
  | .adds k item :: inputs => (decide (key = k) && final item) || closes key inputs

/-- A session after further inputs. -/
def Session.after (s : Session κ α) (inputs : List (Input κ α)) : Session κ α :=
  if s.closed then s
  else ⟨s.key, s.items ++ itemsOf final s.key inputs, closes final s.key inputs⟩

variable {final}

theorem Session.after_nil (s : Session κ α) : s.after final [] = s := by
  obtain ⟨key, items, closed⟩ := s
  cases closed <;> simp [after, itemsOf, closes]

theorem Session.after_opens (s : Session κ α) (key : κ) (inputs : List (Input κ α)) :
    s.after final (.opens key :: inputs) = s.after final inputs := rfl

/-- Inputs can be taken one at a time. -/
theorem Session.after_adds (s : Session κ α) (key : κ) (item : α) (inputs : List (Input κ α)) :
    s.after final (.adds key item :: inputs) = (s.receive final key item).after final inputs := by
  obtain ⟨own, items, closed⟩ := s
  by_cases hkey : own = key
  · cases closed with
    | true => simp [after, receive]
    | false =>
      cases hfinal : final item
      · simp [after, receive, itemsOf, closes, hkey, hfinal]
      · simp [after, receive, itemsOf, closes, hkey, hfinal]
  · simp [after, receive, itemsOf, closes, hkey]

/-- A session of a table is left as the inputs leave it. -/
theorem getElem?_foldl_step {table : List (Session κ α)} {i : Nat} (h : i < table.length)
    (inputs : List (Input κ α)) :
    (inputs.foldl (step final) table)[i]? = table[i]?.map fun s ↦ s.after final inputs := by
  induction inputs generalizing table with
  | nil => simp [Session.after_nil]
  | cons input inputs ih =>
    rw [List.foldl_cons]
    cases input with
    | opens key =>
      have hi : i < (step final table (.opens key)).length := by
        rw [step, List.length_append]
        exact Nat.lt_add_right _ h
      rw [ih hi, step, List.getElem?_append_left h]
      rfl
    | adds key item =>
      have hi : i < (step final table (.adds key item)).length := by
        rw [step, List.length_map]
        exact h
      rw [ih hi, step, List.getElem?_map, Option.map_map]
      congr 1
      funext s
      exact (s.after_adds key item inputs).symm

theorem length_foldl_step (table : List (Session κ α)) (inputs : List (Input κ α)) :
    (inputs.foldl (step final) table).length = table.length + opened inputs := by
  induction inputs generalizing table with
  | nil => rfl
  | cons input inputs ih =>
    rw [List.foldl_cons, ih]
    cases input with
    | opens key =>
      rw [step, List.length_append, List.length_singleton, opened]
      omega
    | adds key item => rw [step, List.length_map, opened]

@[simp] theorem length_run (inputs : List (Input κ α)) :
    (run final inputs).length = opened inputs := by
  rw [run, length_foldl_step, List.length_nil, Nat.zero_add]

/-- A session holds what came under its key after it was opened. -/
theorem run_opens (before : List (Input κ α)) (key : κ) (after : List (Input κ α)) :
    (run final (before ++ .opens key :: after))[opened before]? =
      some ⟨key, itemsOf final key after, closes final key after⟩ := by
  have hlength : (run final before).length = opened before := length_run before
  rw [run, List.foldl_append, List.foldl_cons, getElem?_foldl_step]
  · change ((run final before ++ [⟨key, [], false⟩])[opened before]?).map _ = _
    rw [← hlength, List.getElem?_concat_length]
    rfl
  · change opened before < (run final before ++ [_]).length
    rw [List.length_append, hlength]
    exact Nat.lt_succ_self _

end StateWake.Base.Sessions
