import StateWake.Base.Json

/-!
# Paths into JSON values

Keys and indices lead from a value to the values nested in it. A value is known by what stands at
the end of each path: a scalar, a list of some length or a mapping of some keys.
-/

namespace StateWake.Base.Json

open Text

/-- One step into a value. -/
inductive Step where
  | key (key : Text)
  | index (i : Nat)

/-- The steps from a value to one nested in it. -/
abbrev Path : Type := List Step

/-- The value one step leads to. -/
def child : Json → Step → Option Json
  | .obj members, .key key => Dict.get? members key
  | .arr items, .index i => items[i]?
  | _, _ => none

/-- The value a path leads to. -/
def lookup (v : Json) : Path → Option Json
  | [] => some v
  | s :: path => (v.child s).bind fun w ↦ lookup w path

/-- A value without members or elements. -/
def IsScalar : Json → Prop
  | .obj _ | .arr _ => False
  | _ => True

/-- Induction with one case for all scalars. -/
theorem inductHead {P : Json → Prop} (scalar : ∀ v, IsScalar v → P v)
    (arr : ∀ items, (∀ v ∈ items, P v) → P (.arr items))
    (obj : ∀ members : Dict Json, (∀ m ∈ members, P m.2) → P (.obj members)) (v : Json) : P v := by
  induction v with
  | arr items ih => exact arr items ih
  | obj members ih => exact obj members ih
  | null => exact scalar .null trivial
  | bool b => exact scalar (.bool b) trivial
  | int n => exact scalar (.int n) trivial
  | float l => exact scalar (.float l) trivial
  | str s => exact scalar (.str s) trivial

/-- What can be seen of a value without a step into it. -/
inductive Head where
  | scalar (v : Json)
  | list (length : Nat)
  | mapping (keys : Text → Prop)

/-- The head of a value. -/
def head : Json → Head
  | .obj members => .mapping (· ∈ Dict.keys members)
  | .arr items => .list items.length
  | v => .scalar v

variable {v w : Json}

@[simp] theorem lookup_nil (v : Json) : lookup v [] = some v := rfl

theorem lookup_cons (v : Json) (s : Step) (path : Path) :
    lookup v (s :: path) = (v.child s).bind fun w ↦ lookup w path := rfl

theorem lookup_append (v : Json) (path path' : Path) :
    lookup v (path ++ path') = (lookup v path).bind fun w ↦ lookup w path' := by
  induction path generalizing v with
  | nil => rfl
  | cons s path ih =>
    rw [List.cons_append, lookup_cons, lookup_cons]
    cases v.child s with
    | none => rfl
    | some w => exact ih w

/-- The keys of every mapping in a value are distinct. -/
def Keyed (v : Json) : Prop :=
  ∀ path members, lookup v path = some (.obj members) → Dict.Distinct members

theorem Keyed.distinct {members : Dict Json} (h : Keyed (.obj members)) : members.Distinct :=
  h [] members rfl

theorem Keyed.child {s : Step} (h : Keyed v) (hs : v.child s = some w) : Keyed w := by
  intro path members hpath
  apply h (s :: path) members
  rw [lookup_cons, hs]
  exact hpath

/-! ### Values that agree -/

/-- Two values look the same at every path of the given steps. -/
def Agree (visible : Step → Prop) (v w : Json) : Prop :=
  ∀ path : Path, (∀ s ∈ path, visible s) → (lookup v path).map head = (lookup w path).map head

variable {visible : Step → Prop}

theorem Agree.head (h : Agree visible v w) : v.head = w.head :=
  Option.some.inj (h [] nofun)

/-- Where two values agree, so do those a visible step leads to. -/
theorem Agree.child {s : Step} {v' w' : Json} (h : Agree visible v w) (hs : visible s)
    (hv : v.child s = some v') (hw : w.child s = some w') : Agree visible v' w' := by
  intro path hpath
  have hcons := h (s :: path) (List.forall_mem_cons.mpr ⟨hs, hpath⟩)
  rw [lookup_cons, lookup_cons, hv, hw] at hcons
  exact hcons

/-- What agrees with a mapping is a mapping of its keys. -/
theorem Agree.obj {members : Dict Json} (h : Agree visible (.obj members) w) :
    ∃ members' : Dict Json, w = .obj members' ∧
      ∀ key, key ∈ members.keys ↔ key ∈ members'.keys := by
  have hhead := h.head
  cases w with
  | obj members' =>
    refine ⟨members', rfl, fun key ↦ ?_⟩
    rw [Json.head, Json.head, Head.mapping.injEq] at hhead
    exact iff_of_eq (congrFun hhead key)
  | _ => cases hhead

/-- What agrees with a list is a list as long. -/
theorem Agree.arr {items : List Json} (h : Agree visible (.arr items) w) :
    ∃ items', w = .arr items' ∧ items.length = items'.length := by
  have hhead := h.head
  cases w with
  | arr items' =>
    rw [Json.head, Json.head, Head.list.injEq] at hhead
    exact ⟨items', rfl, hhead⟩
  | _ => cases hhead

theorem head_of_isScalar (h : IsScalar v) : v.head = .scalar v := by
  cases v with
  | obj _ => exact h.elim
  | arr _ => exact h.elim
  | _ => rfl

/-- What agrees with a scalar is that scalar. -/
theorem Agree.eq_of_isScalar (h : Agree visible v w) (hv : IsScalar v) : w = v := by
  have hhead := h.head
  rw [head_of_isScalar hv] at hhead
  cases w with
  | obj _ => cases hhead
  | arr _ => cases hhead
  | _ => exact (Head.scalar.inj hhead).symm

end StateWake.Base.Json
