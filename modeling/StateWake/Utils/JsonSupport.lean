import StateWake.Base.JsonRoundTrip
import StateWake.Base.Sha256

/-!
# JSON boundary helpers

`utils/json_support.py`, and the two ways records read a text member.
-/

namespace StateWake.Utils

open StateWake.Base Text

/-- `require_object`, `utils/json_support.py:15–25`, of a decoded value: the members are
JSON values with text keys already. -/
def requireObject (value : Json) (field : Text) : Except PyError (Dict Json) :=
  orRaise ⟨.valueError, field ++ lit " must be a JSON object."⟩ value.asObject

/-- `load_object`, `utils/json_support.py:38–51`, of a file's bytes: UTF-8 in text mode, a JSON
document, an object. -/
def loadObject (raw : Bytes) (field : Text) : Except PyError (Dict Json) := do
  let text ← Utf8.ofBytes raw
  match Json.loads (Lines.translateNewlines text) with
  | .error e =>
    if e.kind = .jsonDecodeError then valueError (field ++ lit " must contain valid JSON.")
    else .error e
  | .ok value => requireObject value field

/-- `require_string`, `utils/json_support.py:72–76`. -/
def requireString (value : Json) (field : Text) : Except PyError Text :=
  orRaise ⟨.valueError, field ++ lit " must be a JSON string."⟩ value.asText

/-- `require_int`, `utils/json_support.py:65–69`. -/
def requireInt (value : Json) (field : Text) : Except PyError Int :=
  orRaise ⟨.valueError, field ++ lit " must be a JSON integer."⟩ value.asInt

/-- `string_sequence`, `utils/json_support.py:89–93`. -/
def stringSequence (value : Json) (field : Text) : Except PyError (List Text) := do
  let items ← orRaise ⟨.valueError, field ++ lit " must be a JSON array."⟩ value.asList
  pure (items.map Json.pyStr)

/-- `for item in value` of a decoded value: an array gives its items, a text its characters and an
object its keys. -/
def iterItems : Json → Except PyError (List Json)
  | .arr items => .ok items
  | .str s => .ok (s.map fun c ↦ .str [c])
  | .obj members => .ok ((Dict.keys members).map .str)
  | .null | .bool _ | .int _ | .float _ => .error ⟨.typeError, []⟩

/-- `tuple(str(item) for item in value)`. -/
def iterTexts (value : Json) : Except PyError (List Text) := do
  let items ← iterItems value
  pure (items.map Json.pyStr)

/-- `str(payload[key])`. -/
def requiredText (members : Dict Json) (key : Text) : Except PyError Text := do
  let v ← Json.index members key
  pure v.pyStr

/-- `str(payload.get(key, ""))`. -/
def optionalText (members : Dict Json) (key : Text) : Text :=
  ((members.get? key).map Json.pyStr).getD []

/-- An optional text as JSON. -/
def optionJson (s : Option Text) : Json := s.elim .null .str

/-- `None if payload.get(key) is None else str(payload[key])`. -/
def nullableText (members : Dict Json) (key : Text) : Option Text :=
  match members.get? key with
  | none | some .null => none
  | some v => some v.pyStr

/-- `json.dumps(payload, sort_keys=True, separators=(",", ":"), ensure_ascii=False)` in UTF-8:
the canonical form records are hashed and signed in. -/
def canonicalBytes (members : Dict Json) : Except PyError Bytes :=
  Utf8.toBytes (Json.dumps Json.canonical (.obj members))

/-- An object has a canonical form exactly when UTF-8 can encode every text in it. -/
theorem canonicalBytes_isOk_iff {members : Dict Json} (hw : Json.Writable (.obj members)) :
    (∃ content, canonicalBytes members = .ok content) ↔
      ∀ s ∈ Json.texts (.obj members), SurrogateFree s := by
  rw [← Json.surrogateFree_canonical_iff hw, ← Utf8.encode_isSome_iff,
    Option.isSome_iff_exists]
  simp only [canonicalBytes, Utf8.toBytes, orRaise_eq_ok]

/-- UTF-8 can encode every text of an object that has a canonical form. -/
theorem surrogateFree_of_canonicalBytes {members : Dict Json} {content : Bytes}
    (h : canonicalBytes members = .ok content) :
    ∀ s ∈ Json.texts (.obj members), SurrogateFree s := by
  rw [canonicalBytes, Utf8.toBytes, orRaise_eq_ok] at h
  exact Json.surrogateFree_of_canonical
    ((Utf8.encode_isSome_iff _).mp (Option.isSome_iff_exists.mpr ⟨content, h⟩))

/-- The canonical form determines the ordered form. -/
theorem sortKeys_eq_of_canonicalBytes {m m' : Dict Json} {content : Bytes}
    (hw : Json.Writable (.obj m)) (hw' : Json.Writable (.obj m'))
    (h : canonicalBytes m = .ok content) (h' : canonicalBytes m' = .ok content) :
    Json.sortKeys (.obj m) = Json.sortKeys (.obj m') := by
  rw [canonicalBytes, Utf8.toBytes, orRaise_eq_ok] at h h'
  have hloads := Json.loads_dumps Json.canonical hw
  rw [Utf8.encode_inj h h', Json.loads_dumps Json.canonical hw', Except.ok.injEq] at hloads
  exact hloads.symm

/-- The texts of a record are those of its payload and its digest. -/
theorem surrogateFree_digested {payload : Dict Json} {content : Bytes} {digest : Text}
    (hcontent : canonicalBytes payload = .ok content) (hdigest : isSha256 digest = true) :
    ∀ s ∈ Json.texts (.obj (payload ++ [(lit "digest", .str digest)])), SurrogateFree s := by
  have htexts := surrogateFree_of_canonicalBytes hcontent
  rw [Json.forall_texts_obj] at htexts ⊢
  intro m hm
  obtain hm | hm := List.mem_append.mp hm
  · exact htexts m hm
  · rw [List.mem_singleton.mp hm]
    simp only [surrogateFree_lit, Json.mem_texts_str, forall_eq, true_and]
    exact surrogateFree_of_isSha256 hdigest

/-- `_canonical` with `allow_nan=False`, as in `adapters/reliability_attestation.py:26–34`. -/
def strictBytes (members : Dict Json) : Except PyError Bytes := do
  require ⟨.valueError, lit "Out of range float values are not JSON compliant"⟩
    (Json.finite (.obj members))
  canonicalBytes members

/-- Where no float is infinite the two canonical forms agree. -/
theorem strictBytes_eq {members : Dict Json} (hw : Json.Writable (.obj members)) :
    strictBytes members = canonicalBytes members := by
  rw [strictBytes, hw.finite]
  rfl

/-- Members in the order serializers write them. Equality of dictionaries, their serialized
forms and lookups in them do not depend on the order. -/
def ordered (members : Dict Json) : Dict Json := (Dict.mapValues Json.sortKeys members).sorted

theorem sortKeys_eq_ordered (members : Dict Json) :
    Json.sortKeys (.obj members) = .obj (ordered members) := Json.sortKeys_obj members

@[simp] theorem ordered_ordered (members : Dict Json) :
    ordered (ordered members) = ordered members := by
  have h := Json.sortKeys_sortKeys (.obj members)
  rw [sortKeys_eq_ordered, sortKeys_eq_ordered] at h
  exact Json.obj.inj h

theorem get?_ordered {members : Dict Json} (hd : members.Distinct) (key : Text) :
    (ordered members).get? key = (members.get? key).map Json.sortKeys := by
  have hd' : (Dict.mapValues Json.sortKeys members).Distinct := by
    rw [Dict.Distinct, Dict.keys_mapValues]
    exact hd
  rw [ordered, Dict.get?_sorted hd', Dict.get?_mapValues]

/-- Lookups in a record do not depend on the order of its members. -/
theorem get?_of_ordered_eq {a b : Dict Json} (ha : a.Distinct) (hb : b.Distinct)
    (h : ordered a = ordered b) (key : Text) :
    (a.get? key).map Json.sortKeys = (b.get? key).map Json.sortKeys := by
  rw [← get?_ordered ha, ← get?_ordered hb, h]

theorem canonicalBytes_ordered (members : Dict Json) :
    canonicalBytes (ordered members) = canonicalBytes members := by
  rw [canonicalBytes, canonicalBytes, Json.dumps_eq, Json.dumps_eq, ← sortKeys_eq_ordered,
    Json.sortKeys_sortKeys]

theorem writable_ordered {members : Dict Json} (h : Json.Writable (.obj members)) :
    Json.Writable (.obj (ordered members)) := by
  rw [← sortKeys_eq_ordered]
  exact h.sortKeys

theorem mem_texts_ordered {s : Text} {members : Dict Json} :
    s ∈ Json.texts (.obj (ordered members)) ↔ s ∈ Json.texts (.obj members) := by
  rw [← sortKeys_eq_ordered, Json.mem_texts_sortKeys]

@[simp] theorem requireObject_obj (members : Dict Json) (field : Text) :
    requireObject (.obj members) field = .ok members := rfl

@[simp] theorem requireString_str (s field : Text) : requireString (.str s) field = .ok s := rfl

@[simp] theorem requireInt_int (n : Int) (field : Text) : requireInt (.int n) field = .ok n := rfl

/-- A text member is read as its text. -/
theorem requiredText_of_get? {members : Dict Json} {key s : Text}
    (h : members.get? key = some (.str s)) : requiredText members key = .ok s := by
  rw [requiredText, Json.index, h, orRaise_some, ok_bind]
  rfl

/-- An optional text is read as it is. -/
theorem nullableText_of_get? {members : Dict Json} {key : Text} {s : Option Text}
    (h : members.get? key = some (optionJson s)) : nullableText members key = s := by
  rw [nullableText, h]
  cases s <;> rfl

theorem optionJson_injective : Function.Injective optionJson := fun s t h ↦ by
  cases s <;> cases t <;> cases h <;> rfl

@[simp] theorem sortKeys_optionJson (s : Option Text) :
    Json.sortKeys (optionJson s) = optionJson s := by cases s <;> rfl

@[simp] theorem writable_optionJson (s : Option Text) : Json.Writable (optionJson s) := by
  cases s <;> simp [optionJson]

@[simp] theorem mem_texts_optionJson {s : Text} {o : Option Text} :
    s ∈ Json.texts (optionJson o) ↔ o = some s := by
  cases o <;> simp [optionJson, eq_comm]

theorem optionalText_of_get? {members : Dict Json} {key s : Text}
    (h : members.get? key = some (.str s)) : optionalText members key = s := by
  rw [optionalText, h]
  rfl

/-- An array of texts is read as those texts. -/
@[simp] theorem stringSequence_texts (items : List Text) (field : Text) :
    stringSequence (.arr (items.map .str)) field = .ok items := by
  rw [stringSequence, Json.asList_arr, orRaise_some, ok_bind, List.map_map]
  exact congrArg Except.ok (List.map_id'' (fun _ ↦ rfl) items)

@[simp] theorem iterTexts_texts (items : List Text) :
    iterTexts (.arr (items.map .str)) = .ok items := by
  rw [iterTexts, iterItems, ok_bind, List.map_map]
  exact congrArg Except.ok (List.map_id'' (fun _ ↦ rfl) items)

/-- A file that holds a written object loads as the object read back. -/
theorem loadObject_dumps {members : Dict Json} (hw : Json.Writable (.obj members)) (field : Text) :
    loadObject (Utf8.ascii (Json.dumps Json.compact (.obj members))) field =
      .ok (Json.readMembers Json.compact members) := by
  have hunbroken := Json.unbroken_compact hw
  rw [loadObject, Utf8.ofBytes_ascii (Json.isAscii_dumps rfl hw), ok_bind,
    Lines.translateNewlines_eq_self fun c hc ↦ hunbroken.ne_cr hc, Json.loads_dumps_obj _ hw]
  rfl

/-! ### Members read back -/

/-- Every member of `record` is found under its key, its own members ordered: what reading a
written object leaves of it. -/
def ReadsAs (members record : Dict Json) : Prop :=
  ∀ key v, record.get? key = some v → members.get? key = some (Json.sortKeys v)

/-- A written object without surrogate pairs reads as it was. -/
theorem readsAs_readMembers (style : Json.Style) {record : Dict Json}
    (hw : Json.Writable (.obj record)) (h : ∀ s ∈ Json.texts (.obj record), PairFree s) :
    ReadsAs (Json.readMembers style record) record :=
  fun _ _ hv ↦ Json.get?_readMembers_of_pairFree style hw h hv

/-- An object nested in a written one reads as it was. -/
theorem readsAs_sorted {record : Dict Json} (hd : record.Distinct) :
    ReadsAs (ordered record) record := by
  intro key v hv
  rw [get?_ordered hd, hv, Option.map_some]

/-- What reads as an object reads as any part of it. -/
theorem ReadsAs.append_left {members record rest : Dict Json}
    (h : ReadsAs members (record ++ rest)) : ReadsAs members record := by
  intro key v hv
  apply h
  rw [Dict.get?_append, hv, Option.some_or]

/-- An object whose members are in order reads as it is. -/
theorem readsAs_self {record : Dict Json} (h : ∀ m ∈ record, Json.sortKeys m.2 = m.2) :
    ReadsAs record record := by
  intro key v hv
  rw [hv, h (key, v) (Dict.mem_of_get? hv)]

section ReadsAs

variable {members record : Dict Json}

theorem ReadsAs.index (h : ReadsAs members record) (key : Text) (v : Json)
    (hv : record.get? key = some v) : Json.index members key = .ok (Json.sortKeys v) := by
  rw [Json.index, h key v hv, orRaise_some]

theorem ReadsAs.requiredText (h : ReadsAs members record) (key s : Text)
    (hv : record.get? key = some (.str s)) : Utils.requiredText members key = .ok s :=
  requiredText_of_get? (h key _ hv)

theorem ReadsAs.nullableText (h : ReadsAs members record) (key : Text) (s : Option Text)
    (hv : record.get? key = some (optionJson s)) : Utils.nullableText members key = s :=
  nullableText_of_get? (by rw [h key _ hv, sortKeys_optionJson])

end ReadsAs

/-- A decoder that gives every record back from its ordered payload tells records apart by the
canonical forms of their payloads. -/
theorem eq_of_canonicalBytes {α : Type} {payload : α → Dict Json}
    {decode : Dict Json → Except PyError α} (hw : ∀ a, Json.Writable (.obj (payload a)))
    (hdecode : ∀ a, decode (ordered (payload a)) = .ok a) {a b : α} {content : Bytes}
    (ha : canonicalBytes (payload a) = .ok content) (hb : canonicalBytes (payload b) = .ok content) :
    a = b := by
  have hkeys := sortKeys_eq_of_canonicalBytes (hw a) (hw b) ha hb
  rw [sortKeys_eq_ordered, sortKeys_eq_ordered] at hkeys
  have hread := hdecode a
  rw [Json.obj.inj hkeys, hdecode b] at hread
  exact (Except.ok.inj hread).symm

end StateWake.Utils
