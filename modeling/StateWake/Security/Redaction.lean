import StateWake.Base.JsonPath
import StateWake.Lifecycle.Ingestion

/-!
# Redaction

`Redactor` of `domain/privacy.py`: values under the keys of a policy are replaced at any depth, and
texts are rewritten by its rules. Case folding and `re.subn` are parameters.
-/

namespace StateWake.Security

open StateWake.Base Text Lifecycle

/-- `RedactionRule`, `domain/privacy.py:24–38`. -/
structure RedactionRule where
  ruleId : Text
  pattern : Text
  replacement : Text
  named : blank ruleId = false
  matched : pattern ≠ []

/-- `PrivacyPolicy`, `domain/privacy.py:46–63`. -/
structure PrivacyPolicy where
  policyId : Text
  redactKeys : List Text
  rules : List RedactionRule
  replacement : Text
  named : blank policyId = false
  replaces : replacement ≠ []
  keyed : ∀ key ∈ redactKeys, blank key = false

/-- `RedactionResult`, `domain/privacy.py:66–76`. -/
structure RedactionResult (α : Type) where
  value : α
  findings : List Text
  deriving DecidableEq

namespace Redactor

variable (casefold : Text → Text) (subn : Text → Text → Text → Text × Nat)
  (policy : PrivacyPolicy)

/-- Whether values under a key are replaced, `domain/privacy.py:85, 121`. -/
def isSensitive (key : Text) : Bool := decide (casefold key ∈ policy.redactKeys.map casefold)

/-- `".".join(path)`. -/
def dotted (path : List Text) : Text := (lit ".").intercalate path

/-- The rules on a text, `domain/privacy.py:144–151`. -/
def redactText (value : Text) (path : List Text) : RedactionResult Text :=
  policy.rules.foldl (fun result rule ↦
    let (redacted, count) := subn rule.pattern rule.replacement result.value
    ⟨redacted, if 0 < count then
        result.findings ++ [lit "rule:" ++ rule.ruleId ++ lit ":" ++ dotted path]
      else result.findings⟩) ⟨value, []⟩

mutual
/-- `_redact_value`, `domain/privacy.py:130–152`; the members of a mapping are taken in the order of
their keys, `domain/privacy.py:111–128`. -/
def redactValue : Json → List Text → RedactionResult Json
  | .obj members, path =>
    let entries := Dict.sorted (redactMembers members path)
    ⟨.obj (Dict.mapValues RedactionResult.value entries), entries.flatMap fun m ↦ m.2.findings⟩
  | .arr items, path =>
    let results := redactItems items path 0
    ⟨.arr (results.map RedactionResult.value), results.flatMap RedactionResult.findings⟩
  | .str s, path =>
    let result := redactText subn policy s path
    ⟨.str result.value, result.findings⟩
  | v, _ => ⟨v, []⟩

def redactMembers : List (Text × Json) → List Text → List (Text × RedactionResult Json)
  | [], _ => []
  | (key, item) :: members, path =>
    (key, if isSensitive casefold policy key then
        ⟨.str policy.replacement, [lit "key:" ++ dotted (path ++ [key])]⟩
      else redactValue item (path ++ [key])) :: redactMembers members path

def redactItems : List Json → List Text → Nat → List (RedactionResult Json)
  | [], _, _ => []
  | item :: items, path, i =>
    redactValue item (path ++ [Decimal.decimal i]) :: redactItems items path (i + 1)
end

/-- `redact_mapping`, `domain/privacy.py:87–90`. -/
def redactMapping (members : Dict Json) : RedactionResult Json :=
  redactValue casefold subn policy (.obj members) []

/-! ### Members and elements -/

/-- What a member becomes. -/
def redactMember (path : List Text) (key : Text) (item : Json) : RedactionResult Json :=
  if isSensitive casefold policy key then
    ⟨.str policy.replacement, [lit "key:" ++ dotted (path ++ [key])]⟩
  else redactValue casefold subn policy item (path ++ [key])

theorem redactMembers_eq (members : Dict Json) (path : List Text) :
    redactMembers casefold subn policy members path =
      Dict.mapEntries (redactMember casefold subn policy path) members := by
  induction members with
  | nil => rw [redactMembers]; rfl
  | cons m members ih =>
    obtain ⟨key, item⟩ := m
    rw [redactMembers, ih]
    rfl

theorem length_redactItems (items : List Json) (path : List Text) (i : Nat) :
    (redactItems casefold subn policy items path i).length = items.length := by
  induction items generalizing i with
  | nil => rw [redactItems]; rfl
  | cons item items ih => rw [redactItems, List.length_cons, List.length_cons, ih]

theorem getElem?_redactItems (items : List Json) (path : List Text) (i j : Nat) :
    (redactItems casefold subn policy items path i)[j]? = items[j]?.map fun item ↦
      redactValue casefold subn policy item (path ++ [Decimal.decimal (i + j)]) := by
  induction items generalizing i j with
  | nil => rw [redactItems]; simp
  | cons item items ih =>
    rw [redactItems]
    cases j with
    | zero => rfl
    | succ j =>
      rw [List.getElem?_cons_succ, List.getElem?_cons_succ, ih, Nat.add_right_comm, Nat.add_assoc]

theorem redactValue_obj (members : Dict Json) (path : List Text) :
    redactValue casefold subn policy (.obj members) path =
      ⟨.obj (Dict.mapEntries
        (fun key item ↦ (redactMember casefold subn policy path key item).value)
          members.sorted),
        members.sorted.flatMap fun m ↦
          (redactMember casefold subn policy path m.1 m.2).findings⟩ := by
  rw [redactValue, redactMembers_eq, Dict.sorted_mapEntries]
  simp only [Dict.mapValues, Dict.mapEntries, List.map_map, List.flatMap_map, Function.comp_def]

theorem redactValue_arr (items : List Json) (path : List Text) :
    redactValue casefold subn policy (.arr items) path =
      ⟨.arr ((redactItems casefold subn policy items path 0).map RedactionResult.value),
        (redactItems casefold subn policy items path 0).flatMap RedactionResult.findings⟩ := by
  rw [redactValue]

theorem redactMember_of_sensitive {path : List Text} {key : Text} (item : Json)
    (h : isSensitive casefold policy key = true) :
    redactMember casefold subn policy path key item =
      ⟨.str policy.replacement, [lit "key:" ++ dotted (path ++ [key])]⟩ := if_pos h

theorem redactMember_of_clear {path : List Text} {key : Text} (item : Json)
    (h : isSensitive casefold policy key = false) :
    redactMember casefold subn policy path key item =
      redactValue casefold subn policy item (path ++ [key]) := by
  rw [redactMember, h]
  rfl

/-- What a value becomes. -/
def clean (v : Json) : Json := (redactValue casefold subn policy v []).value

/-- What becomes of the value under a key. -/
def cleanUnder (key : Text) (v : Json) : Json :=
  if isSensitive casefold policy key then .str policy.replacement else clean casefold subn policy v

/-! ### Policies without rules -/

section

variable {policy} (plain : policy.rules = [])

include plain

/-- Scalars are left as they are. -/
theorem redactValue_of_isScalar {v : Json} (hv : v.IsScalar) (path : List Text) :
    redactValue casefold subn policy v path = ⟨v, []⟩ := by
  cases v with
  | obj _ => exact hv.elim
  | arr _ => exact hv.elim
  | str s => simp [redactValue, redactText, plain]
  | _ => simp [redactValue]

/-- What a value becomes does not depend on where it stands. -/
theorem value_redactValue (v : Json) (path path' : List Text) :
    (redactValue casefold subn policy v path).value =
      (redactValue casefold subn policy v path').value := by
  induction v using Json.inductHead generalizing path path' with
  | scalar v hv =>
    rw [redactValue_of_isScalar _ _ plain hv, redactValue_of_isScalar _ _ plain hv]
  | arr items ih =>
    rw [redactValue_arr, redactValue_arr]
    apply congrArg Json.arr
    apply List.ext_getElem?
    intro j
    rw [List.getElem?_map, List.getElem?_map, getElem?_redactItems, getElem?_redactItems,
      Option.map_map, Option.map_map]
    cases hj : items[j]? with
    | none => rfl
    | some item => exact congrArg some (ih item (List.mem_of_getElem? hj) _ _)
  | obj members ih =>
    rw [redactValue_obj, redactValue_obj]
    apply congrArg Json.obj
    rw [Dict.mapEntries, Dict.mapEntries]
    apply List.map_congr_left
    intro m hm
    have hm' : m ∈ members := (Dict.sorted_perm members).mem_iff.mp hm
    rw [redactMember, redactMember]
    split
    · rfl
    · rw [ih m hm' (path ++ [m.1]) (path' ++ [m.1])]

theorem value_eq_clean (v : Json) (path : List Text) :
    (redactValue casefold subn policy v path).value = clean casefold subn policy v :=
  value_redactValue casefold subn plain v path []

theorem clean_of_isScalar {v : Json} (hv : v.IsScalar) : clean casefold subn policy v = v := by
  rw [clean, redactValue_of_isScalar casefold subn plain hv]

theorem clean_arr (items : List Json) : clean casefold subn policy (.arr items) =
    .arr (items.map (clean casefold subn policy)) := by
  rw [clean, redactValue_arr]
  apply congrArg Json.arr
  apply List.ext_getElem?
  intro j
  rw [List.getElem?_map, getElem?_redactItems, List.getElem?_map, Option.map_map]
  cases items[j]? with
  | none => rfl
  | some item => exact congrArg some (value_eq_clean casefold subn plain item _)

theorem value_redactMember (path : List Text) (key : Text) (v : Json) :
    (redactMember casefold subn policy path key v).value =
      cleanUnder casefold subn policy key v := by
  rw [redactMember, cleanUnder]
  split
  · rfl
  · exact value_eq_clean casefold subn plain v _

theorem clean_obj (members : Dict Json) : clean casefold subn policy (.obj members) =
    .obj (Dict.mapEntries (cleanUnder casefold subn policy) members.sorted) := by
  rw [clean, redactValue_obj]
  simp only [value_redactMember casefold subn plain]

end

/-! ### Redaction along paths -/

/-- A step that no key of the policy stands on. -/
def Clear : Json.Step → Prop
  | .key key => isSensitive casefold policy key = false
  | .index _ => True

section

variable {policy} (plain : policy.rules = [])

include plain

/-- What a value looks like from outside stays. -/
theorem head_clean (v : Json) : (clean casefold subn policy v).head = v.head := by
  induction v using Json.inductHead with
  | scalar v hv => rw [clean_of_isScalar casefold subn plain hv]
  | arr items _ =>
    rw [clean_arr casefold subn plain, Json.head, Json.head, List.length_map]
  | obj members _ =>
    rw [clean_obj casefold subn plain, Json.head, Json.head, Dict.keys_mapEntries]
    congr 1
    ext key
    exact Dict.mem_keys_sorted

/-- The value under a key. -/
theorem child_clean_key {v : Json} (hv : v.Keyed) (key : Text) :
    (clean casefold subn policy v).child (.key key) =
      (v.child (.key key)).map (cleanUnder casefold subn policy key) := by
  induction v using Json.inductHead with
  | scalar v hs =>
    rw [clean_of_isScalar casefold subn plain hs]
    cases v with
    | obj _ => exact hs.elim
    | _ => rfl
  | arr items _ =>
    rw [clean_arr casefold subn plain]
    rfl
  | obj members _ =>
    rw [clean_obj casefold subn plain, Json.child, Json.child, Dict.get?_mapEntries,
      Dict.get?_sorted hv.distinct]

/-- The value at an index. -/
theorem child_clean_index (v : Json) (i : Nat) :
    (clean casefold subn policy v).child (.index i) =
      (v.child (.index i)).map (clean casefold subn policy) := by
  induction v using Json.inductHead with
  | scalar v hs =>
    rw [clean_of_isScalar casefold subn plain hs]
    cases v with
    | arr _ => exact hs.elim
    | _ => rfl
  | arr items _ =>
    rw [clean_arr casefold subn plain, Json.child, Json.child, List.getElem?_map]
  | obj members _ =>
    rw [clean_obj casefold subn plain]
    rfl

/-- Redaction goes along with every clear path. -/
theorem lookup_clean {v : Json} (hv : v.Keyed) {path : Json.Path}
    (hpath : ∀ s ∈ path, Clear casefold policy s) :
    (clean casefold subn policy v).lookup path =
      (v.lookup path).map (clean casefold subn policy) := by
  induction path generalizing v with
  | nil => rfl
  | cons s path ih =>
    rw [List.forall_mem_cons] at hpath
    have hchild : (clean casefold subn policy v).child s =
        (v.child s).map (clean casefold subn policy) := by
      cases s with
      | index i => exact child_clean_index casefold subn plain v i
      | key key =>
        rw [child_clean_key casefold subn plain hv]
        congr 1
        ext w
        rw [cleanUnder, hpath.1]
        rfl
    rw [Json.lookup_cons, Json.lookup_cons, hchild]
    cases hs : v.child s with
    | none => rfl
    | some w => exact ih (hv.child hs) hpath.2

/-- The value under a key of the policy is the replacement. -/
theorem lookup_clean_sensitive {v : Json} (hv : v.Keyed) {path : Json.Path}
    (hpath : ∀ s ∈ path, Clear casefold policy s) {key : Text}
    (hkey : isSensitive casefold policy key = true) :
    (clean casefold subn policy v).lookup (path ++ [.key key]) =
      (v.lookup (path ++ [.key key])).map fun _ ↦ .str policy.replacement := by
  rw [Json.lookup_append, Json.lookup_append, lookup_clean casefold subn plain hv hpath]
  cases hw : v.lookup path with
  | none => rfl
  | some w =>
    have hkeyed : w.Keyed := by
      intro path' members hpath'
      apply hv (path ++ path') members
      rw [Json.lookup_append, hw]
      exact hpath'
    rw [Option.map_some, Option.bind_some, Option.bind_some, Json.lookup_cons, Json.lookup_cons,
      child_clean_key casefold subn plain hkeyed]
    cases w.child (.key key) with
    | none => rfl
    | some u =>
      rw [Option.map_some, cleanUnder, hkey]
      rfl

/-! ### Redacting twice, and redacting values that agree -/

/-- What is redacted stays, with the same findings. -/
theorem redactValue_clean (v : Json) (path : List Text) :
    redactValue casefold subn policy (clean casefold subn policy v) path =
      redactValue casefold subn policy v path := by
  induction v using Json.inductHead generalizing path with
  | scalar v hv => rw [clean_of_isScalar casefold subn plain hv]
  | arr items ih =>
    have hitems : redactItems casefold subn policy (items.map (clean casefold subn policy)) path 0 =
        redactItems casefold subn policy items path 0 := by
      apply List.ext_getElem?
      intro j
      rw [getElem?_redactItems, getElem?_redactItems, List.getElem?_map, Option.map_map]
      cases hj : items[j]? with
      | none => rfl
      | some item => exact congrArg some (ih item (List.mem_of_getElem? hj) _)
    rw [clean_arr casefold subn plain, redactValue_arr, redactValue_arr, hitems]
  | obj members ih =>
    have hmember : ∀ m ∈ members,
        redactMember casefold subn policy path m.1 (cleanUnder casefold subn policy m.1 m.2) =
          redactMember casefold subn policy path m.1 m.2 := by
      intro m hm
      cases hkey : isSensitive casefold policy m.1 with
      | true =>
        rw [redactMember_of_sensitive casefold subn policy _ hkey,
          redactMember_of_sensitive casefold subn policy _ hkey]
      | false =>
        rw [redactMember_of_clear casefold subn policy _ hkey,
          redactMember_of_clear casefold subn policy _ hkey, cleanUnder, hkey]
        exact ih m hm _
    have hentries : Dict.mapEntries (redactMember casefold subn policy path)
        (Dict.mapEntries (cleanUnder casefold subn policy) members.sorted) =
          Dict.mapEntries (redactMember casefold subn policy path) members.sorted := by
      rw [Dict.mapEntries_mapEntries, Dict.mapEntries, Dict.mapEntries]
      apply List.map_congr_left
      intro m hm
      rw [hmember m ((Dict.sorted_perm members).mem_iff.mp hm)]
    rw [clean_obj casefold subn plain, redactValue, redactValue, redactMembers_eq,
      redactMembers_eq, Dict.sorted_mapEntries, Dict.sorted_mapEntries, Dict.sorted_mapEntries,
      Dict.sorted_sorted, hentries]

omit plain in
/-- Values that agree off the keys of the policy are redacted to the same value, with the same
findings. -/
theorem redactValue_congr {v w : Json} (hv : v.Keyed) (hw : w.Keyed)
    (h : Json.Agree (Clear casefold policy) v w) (path : List Text) :
    redactValue casefold subn policy v path = redactValue casefold subn policy w path := by
  induction v using Json.inductHead generalizing w path with
  | scalar v hs => rw [h.eq_of_isScalar hs]
  | arr items ih =>
    obtain ⟨items', rfl, hlength⟩ := h.arr
    have hitems : redactItems casefold subn policy items path 0 =
        redactItems casefold subn policy items' path 0 := by
      apply List.ext_getElem?
      intro j
      rw [getElem?_redactItems, getElem?_redactItems]
      by_cases hj : j < items.length
      · have hj' : j < items'.length := hlength ▸ hj
        have hchild : (Json.arr items).child (.index j) = some items[j] :=
          List.getElem?_eq_getElem hj
        have hchild' : (Json.arr items').child (.index j) = some items'[j] :=
          List.getElem?_eq_getElem hj'
        rw [List.getElem?_eq_getElem hj, List.getElem?_eq_getElem hj', Option.map_some,
          Option.map_some, ih items[j] (List.getElem_mem hj) (hv.child hchild) (hw.child hchild')
            (h.child (s := .index j) trivial hchild hchild')]
      · rw [List.getElem?_eq_none (by omega), List.getElem?_eq_none (by omega)]
    rw [redactValue_arr, redactValue_arr, hitems]
  | obj members ih =>
    obtain ⟨members', rfl, hkeys⟩ := h.obj
    have hentries : (Dict.mapEntries (redactMember casefold subn policy path) members).sorted =
        (Dict.mapEntries (redactMember casefold subn policy path) members').sorted := by
      rw [Dict.sorted_eq_sorted_iff]
      · intro key
        rw [Dict.get?_mapEntries, Dict.get?_mapEntries]
        cases hget : Dict.get? members key with
        | none =>
          have hnone : Dict.get? members' key = none := by
            rw [Dict.get?_eq_none_iff, ← hkeys key]
            exact Dict.get?_eq_none_iff.mp hget
          rw [hnone]
        | some item =>
          obtain ⟨item', hget'⟩ : ∃ item', Dict.get? members' key = some item' := by
            rw [← Option.ne_none_iff_exists', Ne, Dict.get?_eq_none_iff, not_not, ← hkeys key]
            exact Dict.mem_keys.mpr ⟨item, Dict.mem_of_get? hget⟩
          rw [hget', Option.map_some, Option.map_some]
          cases hkey : isSensitive casefold policy key with
          | true =>
            rw [redactMember_of_sensitive casefold subn policy _ hkey,
              redactMember_of_sensitive casefold subn policy _ hkey]
          | false =>
            have hchild : (Json.obj members).child (.key key) = some item := hget
            have hchild' : (Json.obj members').child (.key key) = some item' := hget'
            rw [redactMember_of_clear casefold subn policy _ hkey,
              redactMember_of_clear casefold subn policy _ hkey,
              ih (key, item) (Dict.mem_of_get? hget) (hv.child hchild) (hw.child hchild')
                (h.child (s := .key key) hkey hchild hchild')]
      · rw [Dict.Distinct, Dict.keys_mapEntries]
        exact hv.distinct
      · rw [Dict.Distinct, Dict.keys_mapEntries]
        exact hw.distinct
    rw [redactValue, redactValue, redactMembers_eq, redactMembers_eq, hentries]

end

/-! ### Complete redaction -/

/-- A policy without rules. -/
abbrev PlainPolicy : Type := {policy : PrivacyPolicy // policy.rules = []}

/-- A mapping, with distinct keys at every depth. -/
abbrev Mapping : Type := {members : Dict Json // Json.Keyed (.obj members)}

/-- A path off the keys of the policy. -/
def ClearPath (path : Json.Path) : Prop := ∀ s ∈ path, Clear casefold policy s

/-- A result keeps the shape and the scalars at every clear path, has the replacement under every
key of the policy that a clear path leads to, and is its own redaction. -/
structure Redacts (mapping : Mapping) (result : RedactionResult Json) : Prop where
  unchanged : ∀ path, ClearPath casefold policy path →
    (result.value.lookup path).map Json.head = ((Json.obj mapping).lookup path).map Json.head
  replaced : ∀ path key, ClearPath casefold policy path →
    isSensitive casefold policy key = true →
      result.value.lookup (path ++ [.key key]) =
        ((Json.obj mapping).lookup (path ++ [.key key])).map fun _ ↦ .str policy.replacement
  idempotent : ∃ members, result.value = .obj members ∧
    redactMapping casefold subn policy members = result

/-- Redaction without rules is complete, and does not depend on what it hides. -/
theorem redactMapping_complete (policy : PlainPolicy) (mapping : Mapping) :
    Redacts casefold subn policy mapping (redactMapping casefold subn policy mapping) ∧
      ∀ other : Mapping, Json.Agree (Clear casefold policy) (.obj mapping) (.obj other) →
        redactMapping casefold subn policy mapping = redactMapping casefold subn policy other := by
  obtain ⟨policy, plain⟩ := policy
  obtain ⟨members, hkeyed⟩ := mapping
  constructor
  · constructor
    · intro path hpath
      rw [redactMapping, value_eq_clean casefold subn plain, lookup_clean casefold subn plain hkeyed
        hpath, Option.map_map]
      congr 1
      ext v
      exact head_clean casefold subn plain v
    · intro path key hpath hkey
      rw [redactMapping, value_eq_clean casefold subn plain]
      exact lookup_clean_sensitive casefold subn plain hkeyed hpath hkey
    · have hvalue : (redactMapping casefold subn policy members).value =
          clean casefold subn policy (.obj members) := rfl
      rw [clean_obj casefold subn plain] at hvalue
      refine ⟨_, hvalue, ?_⟩
      rw [redactMapping, ← clean_obj casefold subn plain]
      exact redactValue_clean casefold subn plain (.obj members) []
  · intro other hagree
    exact redactValue_congr casefold subn hkeyed other.property hagree []

/-! ### Redaction on ingestion -/

/-- The metadata a receipt is made of, `adapters/evidence_ingestion.py:171–176`. -/
def redactMetadata (metadata : Dict Text) : Dict Text :=
  match (redactMapping casefold subn policy (metadata.mapValues .str)).value with
  | .obj members => Dict.mapValues Json.pyStr members
  | _ => []

/-- Redacted metadata has the keys it had. -/
theorem keys_redactMetadata (metadata : Dict Text) :
    (redactMetadata casefold subn policy metadata).keys = metadata.sorted.keys := by
  rw [redactMetadata, redactMapping, redactValue_obj]
  dsimp only
  rw [Dict.keys_mapValues, Dict.keys_mapEntries, Dict.sorted_mapValues, Dict.keys_mapValues]

/-- The redaction that ingestion relies on. -/
theorem redactsDicts_redactMetadata (g : PrivacyGovernance)
    (hg : g.redactMetadata = redactMetadata casefold subn policy) :
    Workspace.RedactsDicts (some g) := by
  rintro g' hg' metadata hmetadata
  obtain rfl := Option.some.inj hg'
  rw [hg, Dict.Distinct, keys_redactMetadata]
  exact hmetadata.sorted

end Redactor

end StateWake.Security
