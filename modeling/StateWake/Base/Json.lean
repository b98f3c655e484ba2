import StateWake.Base.Dict
import StateWake.Base.Error
import StateWake.Base.Decimal

/-!
# JSON values

What `json.loads` returns and `json.dumps` accepts. Serializers order members by key at
every level (`sort_keys=True`); escaping to ASCII and reading back joins surrogate pairs.
Both are operations on values here, so that the round trip is stated without text.
-/

namespace StateWake.Base

open Text

/-- A JSON value as Python holds it. A float is kept as the literal that denotes it. -/
inductive Json where
  | null
  | bool (b : Bool)
  | int (n : Int)
  | float (literal : Text)
  | str (s : Text)
  | arr (items : List Json)
  | obj (members : List (Text × Json))

namespace Json

/-- Induction with a hypothesis for every element and every member value. -/
@[induction_eliminator] theorem induct {P : Json → Prop} (null : P .null)
    (bool : ∀ b, P (.bool b)) (int : ∀ n, P (.int n)) (float : ∀ l, P (.float l))
    (str : ∀ s, P (.str s)) (arr : ∀ items, (∀ v ∈ items, P v) → P (.arr items))
    (obj : ∀ members : Dict Json, (∀ m ∈ members, P m.2) → P (.obj members)) (v : Json) : P v :=
  @Json.rec P (fun items ↦ ∀ v ∈ items, P v) (fun members ↦ ∀ m ∈ members, P m.2)
    (fun m ↦ P m.2) null bool int float str arr obj (fun _ h ↦ nomatch h)
    (fun _ _ hv ht ↦ List.forall_mem_cons.mpr ⟨hv, ht⟩) (fun _ h ↦ nomatch h)
    (fun _ _ hm ht ↦ List.forall_mem_cons.mpr ⟨hm, ht⟩) (fun _ _ h ↦ h) v

/-! ### Equality -/

mutual
def decEq (a b : Json) : Decidable (a = b) :=
  if h : a.ctorIdx = b.ctorIdx then
    match a, b, h with
    | .null, .null, _ => .isTrue rfl
    | .bool x, .bool y, _ => decidable_of_iff (x = y) (by simp)
    | .int x, .int y, _ => decidable_of_iff (x = y) (by simp)
    | .float x, .float y, _ => decidable_of_iff (x = y) (by simp)
    | .str x, .str y, _ => decidable_of_iff (x = y) (by simp)
    | .arr x, .arr y, _ =>
      have := decEqItems x y
      decidable_of_iff (x = y) (by simp)
    | .obj x, .obj y, _ =>
      have := decEqMembers x y
      decidable_of_iff (x = y) (by simp)
  else .isFalse fun he ↦ h (he ▸ rfl)

def decEqItems : (a b : List Json) → Decidable (a = b)
  | [], [] => .isTrue rfl
  | [], _ :: _ => .isFalse nofun
  | _ :: _, [] => .isFalse nofun
  | v :: a, w :: b =>
    have := decEq v w
    have := decEqItems a b
    decidable_of_iff (v = w ∧ a = b) (by simp)

def decEqMembers : (a b : List (Text × Json)) → Decidable (a = b)
  | [], [] => .isTrue rfl
  | [], _ :: _ => .isFalse nofun
  | _ :: _, [] => .isFalse nofun
  | (k, v) :: a, (l, w) :: b =>
    have := decEq v w
    have := decEqMembers a b
    decidable_of_iff ((k = l ∧ v = w) ∧ a = b) (by simp)
end
instance : DecidableEq Json := decEq

/-! ### Access -/

/-- The members of an object: `isinstance(value, dict)`. -/
def asObject : Json → Option (Dict Json)
  | .obj members => some members
  | _ => none

/-- The text of a string: `isinstance(value, str)`. -/
def asText : Json → Option Text
  | .str s => some s
  | _ => none

/-- The elements of an array: `isinstance(value, list)`. -/
def asList : Json → Option (List Json)
  | .arr items => some items
  | _ => none

/-- `isinstance(value, int) and not isinstance(value, bool)`. -/
def asInt : Json → Option Int
  | .int n => some n
  | _ => none

/-- `str(n)` of an integer. -/
def intText (n : Int) : Text :=
  if n < 0 then lit "-" ++ Decimal.decimal n.natAbs else Decimal.decimal n.natAbs

/-- `str(value)` for a text, number, boolean or `None`. Containers have no text the
program relies on. -/
def pyStr : Json → Text
  | .str s => s
  | .null => lit "None"
  | .bool true => lit "True"
  | .bool false => lit "False"
  | .int n => intText n
  | .float literal => literal
  | .arr _ => lit "[...]"
  | .obj _ => lit "{...}"

@[simp] theorem asObject_obj (members : Dict Json) : asObject (.obj members) = some members := rfl
@[simp] theorem asText_str (s : Text) : asText (.str s) = some s := rfl
@[simp] theorem asList_arr (items : List Json) : asList (.arr items) = some items := rfl
@[simp] theorem asInt_int (n : Int) : asInt (.int n) = some n := rfl
@[simp] theorem pyStr_str (s : Text) : pyStr (.str s) = s := rfl

/-- `payload[key]`; a missing key raises `KeyError`, whose text is the quoted key. -/
def index (members : Dict Json) (key : Text) : Except PyError Json :=
  orRaise ⟨.keyError, lit "'" ++ key ++ lit "'"⟩ (members.get? key)

/-! ### Canonical order -/

mutual
/-- Members ordered by key at every level. -/
def sortKeys : Json → Json
  | .arr items => .arr (sortKeysItems items)
  | .obj members => .obj (Dict.sorted (sortKeysMembers members))
  | v => v

def sortKeysItems : List Json → List Json
  | [] => []
  | v :: items => sortKeys v :: sortKeysItems items

def sortKeysMembers : List (Text × Json) → List (Text × Json)
  | [] => []
  | (k, v) :: members => (k, sortKeys v) :: sortKeysMembers members
end

private theorem sortKeysItems_eq (items : List Json) : sortKeysItems items = items.map sortKeys := by
  induction items with
  | nil => rfl
  | cons v items ih => rw [sortKeysItems, ih, List.map_cons]

private theorem sortKeysMembers_eq (members : List (Text × Json)) :
    sortKeysMembers members = Dict.mapValues sortKeys members := by
  induction members with
  | nil => rfl
  | cons m members ih =>
    rw [show m = (m.1, m.2) from rfl, sortKeysMembers, ih, Dict.mapValues_cons]

@[simp] theorem sortKeys_arr (items : List Json) :
    sortKeys (.arr items) = .arr (items.map sortKeys) := by
  rw [sortKeys, sortKeysItems_eq]

@[simp] theorem sortKeys_obj (members : Dict Json) :
    sortKeys (.obj members) = .obj (Dict.mapValues sortKeys members).sorted := by
  rw [sortKeys, sortKeysMembers_eq]

@[simp] theorem sortKeys_null : sortKeys .null = .null := rfl
@[simp] theorem sortKeys_bool (b : Bool) : sortKeys (.bool b) = .bool b := rfl
@[simp] theorem sortKeys_int (n : Int) : sortKeys (.int n) = .int n := rfl
@[simp] theorem sortKeys_float (l : Text) : sortKeys (.float l) = .float l := rfl
@[simp] theorem sortKeys_str (s : Text) : sortKeys (.str s) = .str s := rfl

/-- Ordering twice is ordering once. -/
@[simp] theorem sortKeys_sortKeys (v : Json) : sortKeys (sortKeys v) = sortKeys v := by
  induction v with
  | null | bool | int | float | str => simp
  | arr items ih =>
    simp only [sortKeys_arr, List.map_map]
    exact congrArg _ (List.map_congr_left fun v hv ↦ ih v hv)
  | obj members ih =>
    have hm : Dict.mapValues sortKeys (Dict.mapValues sortKeys members) =
        Dict.mapValues sortKeys members := by
      simp only [Dict.mapValues, List.map_map]
      exact List.map_congr_left fun m hm ↦ by simp [ih m hm]
    rw [sortKeys_obj, sortKeys_obj, ← Dict.sorted_mapValues, hm, Dict.sorted_sorted]

/-! ### What survives ASCII escapes -/

mutual
/-- Surrogate pairs joined in every text, keys included. -/
def joined : Json → Json
  | .str s => .str (joinSurrogates s)
  | .arr items => .arr (joinedItems items)
  | .obj members => .obj (joinedMembers members)
  | v => v

def joinedItems : List Json → List Json
  | [] => []
  | v :: items => joined v :: joinedItems items

def joinedMembers : List (Text × Json) → List (Text × Json)
  | [] => []
  | (k, v) :: members => (joinSurrogates k, joined v) :: joinedMembers members
end

/-- The text of a finite float, as `repr` writes it: a numeral with a fraction, an exponent or
both. -/
structure FloatLiteral (l : Text) : Prop where
  parts : ∃ sign n fraction exponent, l = sign ++ (Decimal.decimal n ++ (fraction ++ exponent)) ∧
    (sign = [] ∨ sign = lit "-") ∧
    (fraction = [] ∨ ∃ d ds, fraction = 0x2E :: d :: ds ∧ (d :: ds).all Decimal.isDigit = true) ∧
    (exponent = [] ∨ ∃ mark d ds, exponent = 0x65 :: (mark ++ d :: ds) ∧
      (mark = [] ∨ mark = lit "+" ∨ mark = lit "-") ∧ (d :: ds).all Decimal.isDigit = true) ∧
    (fraction ≠ [] ∨ exponent ≠ [])

mutual
/-- Finite floats, and in every object distinct keys without surrogate pairs: the values whose
text reads back. Text values are unrestricted. -/
def Writable : Json → Prop
  | .float l => FloatLiteral l
  | .arr items => WritableItems items
  | .obj members => Dict.Distinct members ∧ WritableMembers members
  | _ => True

def WritableItems : List Json → Prop
  | [] => True
  | v :: items => Writable v ∧ WritableItems items

def WritableMembers : List (Text × Json) → Prop
  | [] => True
  | (k, v) :: members => (PairFree k ∧ Writable v) ∧ WritableMembers members
end

mutual
/-- No float is infinite or not a number: what `json.dumps(allow_nan=False)` accepts. -/
def finite : Json → Bool
  | .float l => decide (l ∉ [lit "NaN", lit "Infinity", lit "-Infinity"])
  | .arr items => finiteItems items
  | .obj members => finiteMembers members
  | _ => true

def finiteItems : List Json → Bool
  | [] => true
  | v :: items => finite v && finiteItems items

def finiteMembers : List (Text × Json) → Bool
  | [] => true
  | (_, v) :: members => finite v && finiteMembers members
end

private theorem joinedItems_eq (items : List Json) : joinedItems items = items.map joined := by
  induction items with
  | nil => rfl
  | cons v items ih => rw [joinedItems, ih, List.map_cons]

private theorem writableItems_iff (items : List Json) :
    WritableItems items ↔ ∀ v ∈ items, Writable v := by
  induction items with
  | nil => simp [WritableItems]
  | cons v items ih => rw [WritableItems, ih, List.forall_mem_cons]

private theorem writableMembers_iff (members : List (Text × Json)) :
    WritableMembers members ↔ ∀ m ∈ members, PairFree m.1 ∧ Writable m.2 := by
  induction members with
  | nil => simp [WritableMembers]
  | cons m members ih =>
    rw [show m = (m.1, m.2) from rfl, WritableMembers, ih, List.forall_mem_cons]

@[simp] theorem joined_str (s : Text) : joined (.str s) = .str (joinSurrogates s) := rfl
@[simp] theorem joined_null : joined .null = .null := rfl
@[simp] theorem joined_bool (b : Bool) : joined (.bool b) = .bool b := rfl
@[simp] theorem joined_int (n : Int) : joined (.int n) = .int n := rfl
@[simp] theorem joined_float (l : Text) : joined (.float l) = .float l := rfl
@[simp] theorem joined_arr (items : List Json) : joined (.arr items) = .arr (items.map joined) := by
  rw [joined, joinedItems_eq]

@[simp] theorem writable_null : Writable .null := trivial
@[simp] theorem writable_bool (b : Bool) : Writable (.bool b) := trivial
@[simp] theorem writable_int (n : Int) : Writable (.int n) := trivial
@[simp] theorem writable_str (s : Text) : Writable (.str s) := trivial
@[simp] theorem writable_float (l : Text) : Writable (.float l) ↔ FloatLiteral l := Iff.rfl

@[simp] theorem writable_arr (items : List Json) :
    Writable (.arr items) ↔ ∀ v ∈ items, Writable v := by
  rw [Writable, writableItems_iff]

@[simp] theorem writable_obj (members : Dict Json) :
    Writable (.obj members) ↔
      members.Distinct ∧ ∀ m ∈ members, PairFree m.1 ∧ Writable m.2 := by
  rw [Writable, writableMembers_iff]

/-- Keys without surrogate pairs are kept. -/
theorem joined_obj {members : Dict Json} (h : ∀ m ∈ members, PairFree m.1) :
    joined (.obj members) = .obj (Dict.mapValues joined members) := by
  rw [joined]
  congr 1
  induction members with
  | nil => rfl
  | cons m members ih =>
    obtain ⟨hm, ht⟩ := List.forall_mem_cons.mp h
    rw [show m = (m.1, m.2) from rfl, joinedMembers, ih ht, Dict.mapValues_cons,
      (joinSurrogates_eq_self_iff m.1).mpr hm]

private theorem finiteItems_iff (items : List Json) :
    finiteItems items = true ↔ ∀ v ∈ items, finite v = true := by
  induction items with
  | nil => simp [finiteItems]
  | cons v items ih => rw [finiteItems, Bool.and_eq_true, ih, List.forall_mem_cons]

private theorem finiteMembers_iff (members : List (Text × Json)) :
    finiteMembers members = true ↔ ∀ m ∈ members, finite m.2 = true := by
  induction members with
  | nil => simp [finiteMembers]
  | cons m members ih =>
    rw [show m = (m.1, m.2) from rfl, finiteMembers, Bool.and_eq_true, ih, List.forall_mem_cons]

/-- The text of a float starts with a digit, or with a sign and a digit. -/
private theorem FloatLiteral.head {l : Text} (h : FloatLiteral l) :
    ∃ sign c rest, l = sign ++ c :: rest ∧ (sign = [] ∨ sign = lit "-") ∧
      Decimal.isDigit c = true := by
  obtain ⟨sign, n, fraction, exponent, rfl, hsign, -⟩ := h.parts
  have hall := Decimal.all_decimal n
  obtain ⟨c, digits, hn⟩ : ∃ c digits, Decimal.decimal n = c :: digits := by
    rcases Nat.eq_zero_or_pos n with rfl | hpos
    · exact ⟨_, _, Decimal.decimal_zero⟩
    · obtain ⟨c, digits, hn, -⟩ := Decimal.decimal_head hpos
      exact ⟨c, digits, hn⟩
  rw [hn] at hall ⊢
  exact ⟨sign, c, digits ++ (fraction ++ exponent), rfl, hsign,
    List.all_eq_true.mp hall c List.mem_cons_self⟩

/-- The values whose text reads back are finite. -/
theorem Writable.finite {v : Json} (h : Writable v) : finite v = true := by
  induction v with
  | null | bool | int | str => rfl
  | float l =>
    obtain ⟨sign, c, rest, rfl, hsign, hc⟩ := FloatLiteral.head h
    have hne : ∀ d : CodePoint, Decimal.isDigit d = false → c ≠ d := by
      rintro d hd rfl
      rw [hc] at hd
      cases hd
    have hN := hne 78 (by decide)
    have hI := hne 73 (by decide)
    have hminus := hne 45 (by decide)
    rw [Json.finite, decide_eq_true_eq, show lit "NaN" = [78, 97, 78] from rfl,
      show lit "Infinity" = [73, 110, 102, 105, 110, 105, 116, 121] from rfl,
      show lit "-Infinity" = [45, 73, 110, 102, 105, 110, 105, 116, 121] from rfl]
    rcases hsign with rfl | rfl
    · simp [hN, hI, hminus]
    · simp [show lit "-" = [45] from rfl, hI]
  | arr items ih =>
    rw [Json.finite, finiteItems_iff]
    exact fun v hv ↦ ih v hv ((writable_arr items).mp h v hv)
  | obj members ih =>
    rw [Json.finite, finiteMembers_iff]
    exact fun m hm ↦ ih m hm (((writable_obj members).mp h).2 m hm).2

theorem Writable.sortKeys {v : Json} (h : Writable v) : Writable (sortKeys v) := by
  induction v with
  | null | bool | int | str => simp
  | float l => exact h
  | arr items ih =>
    simp only [sortKeys_arr, writable_arr, List.forall_mem_map] at h ⊢
    exact fun v hv ↦ ih v hv (h v hv)
  | obj members ih =>
    simp only [sortKeys_obj, writable_obj] at h ⊢
    refine ⟨Dict.Distinct.sorted ?_, fun m hm ↦ ?_⟩
    · rw [Dict.Distinct, Dict.keys_mapValues]
      exact h.1
    · have hm' := (Dict.sorted_perm _).mem_iff.mp hm
      simp only [Dict.mapValues, List.mem_map] at hm'
      obtain ⟨m', hm', rfl⟩ := hm'
      exact ⟨(h.2 m' hm').1, ih m' hm' (h.2 m' hm').2⟩

/-- Joining pairs and ordering members commute. -/
theorem sortKeys_joined {v : Json} (h : Writable v) : sortKeys (joined v) = joined (sortKeys v) := by
  induction v with
  | null | bool | int | float | str => simp
  | arr items ih =>
    simp only [writable_arr] at h
    simp only [joined_arr, sortKeys_arr, List.map_map]
    exact congrArg _ (List.map_congr_left fun v hv ↦ ih v hv (h v hv))
  | obj members ih =>
    simp only [writable_obj] at h
    rw [joined_obj fun m hm ↦ (h.2 m hm).1, sortKeys_obj, sortKeys_obj, joined_obj fun m hm ↦ ?_]
    · congr 1
      rw [← Dict.sorted_mapValues]
      congr 1
      simp only [Dict.mapValues, List.map_map]
      exact List.map_congr_left fun m hm ↦ by simp [ih m hm (h.2 m hm).2]
    · have hm' := (Dict.sorted_perm _).mem_iff.mp hm
      simp only [Dict.mapValues, List.mem_map] at hm'
      obtain ⟨m', hm', rfl⟩ := hm'
      exact (h.2 m' hm').1

end Json
end StateWake.Base
