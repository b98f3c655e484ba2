import StateWake.Claims.AIContracts
import StateWake.Lifecycle.ReceiptRoundTrip
import StateWake.Reliability.ActionChanges
import StateWake.Reliability.ChainCodec

/-!
# Persisted events and evidence manifests

`from_dict` of `domain/events.py`, and the serialized forms of `domain/evidence.py`. Both decoders
read a mapping of texts as `metadata`, which a record holds in any order and writes in the order of
the keys.
-/

namespace StateWake.Reliability

open StateWake.Base Text Utils
open Lifecycle (stringMapping stringMapping_ordered sortKeys_texts)
open Claims (EvidenceItem)

/-- The keys of `required` a mapping does not have. -/
def missingKeys (required : List Text) (members : Dict Json) : List Text :=
  required.filter fun key ↦ (members.get? key).isNone

/-- `string_mapping(payload.get("metadata", {}))`. -/
def metadataOf (members : Dict Json) : Except PyError (Dict Text) :=
  stringMapping ((members.get? (lit "metadata")).getD (.obj [])) (lit "metadata")

/-- A mapping of texts as JSON, in the order of its keys. -/
def metadataJson (metadata : Dict Text) : Json := .obj (Dict.mapValues .str (Dict.sorted metadata))

section

variable {members record : Dict Json}

theorem missingKeys_eq_nil {required : List Text} (h : ReadsAs members record)
    (hrequired : ∀ key ∈ required, ∃ v, record.get? key = some v) :
    missingKeys required members = [] := by
  rw [missingKeys, List.filter_eq_nil_iff]
  intro key hkey
  obtain ⟨v, hv⟩ := hrequired key hkey
  rw [h key v hv]
  exact Bool.false_ne_true

theorem sortKeys_metadataJson (metadata : Dict Text) :
    Json.sortKeys (metadataJson metadata) = .obj (ordered (Dict.mapValues .str metadata)) := by
  rw [metadataJson, sortKeys_texts, Dict.sorted_sorted, ← sortKeys_texts, sortKeys_eq_ordered]

/-- Metadata is read in the order of its keys. -/
theorem metadataOf_of_readsAs (h : ReadsAs members record) (metadata : Dict Text)
    (hget : record.get? (lit "metadata") = some (metadataJson metadata)) :
    metadataOf members = .ok metadata.sorted := by
  rw [metadataOf, h _ _ hget, Option.getD_some, sortKeys_metadataJson, stringMapping_ordered]

theorem metadataJson_sorted (metadata : Dict Text) :
    metadataJson metadata.sorted = metadataJson metadata := by
  rw [metadataJson, Dict.sorted_sorted, metadataJson]

theorem writable_metadataJson {metadata : Dict Text} (hd : metadata.Distinct)
    (h : ∀ key ∈ metadata.keys, SurrogateFree key) : Json.Writable (metadataJson metadata) := by
  rw [metadataJson, Json.writable_obj]
  constructor
  · rw [Dict.Distinct, Dict.keys_mapValues]
    exact hd.sorted
  · intro m hm
    obtain ⟨n, hn, rfl⟩ := List.mem_map.mp hm
    have hkey : n.1 ∈ metadata.keys := Dict.mem_keys_sorted.mp (List.mem_map_of_mem hn)
    exact ⟨(h n.1 hkey).pairFree, Json.writable_str _⟩

end

/-! ### Events -/

namespace EventFields

/-- `from_dict`, `domain/events.py:58–86`. -/
def fromDict (members : Dict Json) : Except PyError EventEnvelope := do
  let missing := missingKeys [lit "run_id", lit "sequence", lit "occurred_at", lit "event_type",
    lit "actor"] members
  require ⟨.valueError, lit "Missing required event fields: " ++
    List.intercalate (lit ", ") missing⟩ missing.isEmpty
  let value ← Json.index members (lit "sequence")
  let sequence ← requireInt value (lit "sequence")
  let occurredText ← requiredText members (lit "occurred_at")
  let occurredAt ← parseDatetime occurredText (lit "occurred_at")
  let metadata ← metadataOf members
  let runId ← requiredText members (lit "run_id")
  let eventType ← requiredText members (lit "event_type")
  let actor ← requiredText members (lit "actor")
  construct postInit ⟨runId, sequence, .ofUtc occurredAt, eventType, actor,
    nullableText members (lit "name"), nullableText members (lit "state_id"),
    nullableText members (lit "payload_ref"), metadata⟩

/-- The representation of an event, of the text of its time. -/
def body (f : EventFields) (occurredAt : Text) : Dict Json :=
  [(lit "run_id", .str f.runId),
    (lit "sequence", .int f.sequence),
    (lit "occurred_at", .str occurredAt),
    (lit "event_type", .str f.eventType),
    (lit "actor", .str f.actor),
    (lit "name", optionJson f.name),
    (lit "state_id", optionJson f.stateId),
    (lit "payload_ref", optionJson f.payloadRef),
    (lit "metadata", metadataJson f.metadata)]

variable {f : EventFields}

theorem toDict_of_toUtc {t : Datetime} (h : f.occurredAt.toUtc = .ok t) :
    f.toDict = .ok (f.body (isoformat t)) := by
  rw [toDict, AwareDatetime.utcText, h]
  rfl

/-- An event has a representation exactly when its time exists in UTC. -/
theorem toDict_isOk_iff : (∃ members, f.toDict = .ok members) ↔ ∃ t, f.occurredAt.toUtc = .ok t := by
  constructor
  · rintro ⟨members, h⟩
    obtain ⟨text, htext, -⟩ := bind_eq_ok.mp h
    obtain ⟨t, ht, -⟩ := bind_eq_ok.mp htext
    exact ⟨t, ht⟩
  · rintro ⟨t, ht⟩
    exact ⟨_, toDict_of_toUtc ht⟩

/-- The event read back: its time in UTC, its metadata in order. -/
def stored (f : EventFields) (t : Datetime) : EventFields :=
  { f with occurredAt := .ofUtc t, metadata := f.metadata.sorted }

@[simp] theorem toDict_stored (f : EventFields) (t : Datetime) :
    (f.stored t).toDict = .ok (f.body (isoformat t)) := by
  have ht : (f.stored t).occurredAt.toUtc = .ok t := AwareDatetime.toUtc_ofUtc t
  have hmetadata : metadataJson (f.stored t).metadata = metadataJson f.metadata :=
    metadataJson_sorted f.metadata
  rw [toDict_of_toUtc ht, body, hmetadata]
  rfl

/-- An event is decoded from what is read back of its representation. -/
theorem fromDict_of_readsAs {members : Dict Json} {t : Datetime} (hf : f.postInit = .ok ())
    (h : ReadsAs members (f.body (isoformat t))) :
    fromDict members = .ok ⟨f.stored t, hf⟩ := by
  have hmissing : missingKeys [lit "run_id", lit "sequence", lit "occurred_at", lit "event_type",
      lit "actor"] members = [] := by
    apply missingKeys_eq_nil h
    simp only [List.forall_mem_cons, List.not_mem_nil, false_implies, implies_true, and_true]
    exact ⟨⟨_, rfl⟩, ⟨_, rfl⟩, ⟨_, rfl⟩, ⟨_, rfl⟩, ⟨_, rfl⟩⟩
  have hmetadata := metadataOf_of_readsAs h f.metadata rfl
  rw [fromDict, hmissing, List.isEmpty_nil, require_true, ok_bind,
    h.index (lit "sequence") (.int f.sequence) rfl, ok_bind, Json.sortKeys_int, requireInt_int,
    ok_bind, h.requiredText (lit "occurred_at") (isoformat t) rfl, ok_bind, parseDatetime_isoformat,
    ok_bind, hmetadata, ok_bind, h.requiredText (lit "run_id") f.runId rfl, ok_bind,
    h.requiredText (lit "event_type") f.eventType rfl, ok_bind,
    h.requiredText (lit "actor") f.actor rfl, ok_bind,
    h.nullableText (lit "name") f.name rfl, h.nullableText (lit "state_id") f.stateId rfl,
    h.nullableText (lit "payload_ref") f.payloadRef rfl]
  exact construct_eq_ok.mpr rfl

end EventFields

/-! ### Evidence items -/

/-- `to_dict`, `domain/evidence.py:43–52`. -/
def itemToDict (item : EvidenceItem) : Dict Json :=
  [(lit "evidence_id", .str item.evidenceId),
    (lit "source", .str item.source),
    (lit "digest", optionJson item.digest),
    (lit "content_ref", optionJson item.contentRef),
    (lit "metadata", metadataJson item.metadata),
    (lit "sensitivity", .str item.sensitivity)]

theorem distinct_itemToDict (item : EvidenceItem) : (itemToDict item).Distinct := by
  simp [itemToDict, Dict.Distinct]

/-- `from_dict`, `domain/evidence.py:54–73`. -/
def itemFromDict (members : Dict Json) : Except PyError EvidenceItem := do
  let missing := missingKeys [lit "evidence_id", lit "source"] members
  require ⟨.valueError, lit "Missing required evidence fields: " ++
    List.intercalate (lit ", ") missing⟩ missing.isEmpty
  let metadata ← metadataOf members
  let evidenceId ← requiredText members (lit "evidence_id")
  let source ← requiredText members (lit "source")
  EvidenceItem.create evidenceId source (nullableText members (lit "digest"))
    (nullableText members (lit "content_ref")) metadata
    (defaultedText members (lit "sensitivity") (lit "internal"))

/-- The item read back: its metadata in order. -/
def storedItem (item : EvidenceItem) : EvidenceItem := { item with metadata := item.metadata.sorted }

@[simp] theorem itemToDict_storedItem (item : EvidenceItem) :
    itemToDict (storedItem item) = itemToDict item := by
  simp only [itemToDict, storedItem, metadataJson_sorted]

/-- An item is decoded from what is read back of it. -/
theorem itemFromDict_of_readsAs {members : Dict Json} {item : EvidenceItem}
    (h : ReadsAs members (itemToDict item)) : itemFromDict members = .ok (storedItem item) := by
  have hmissing : missingKeys [lit "evidence_id", lit "source"] members = [] := by
    apply missingKeys_eq_nil h
    simp only [List.forall_mem_cons, List.not_mem_nil, false_implies, implies_true, and_true]
    exact ⟨⟨_, rfl⟩, ⟨_, rfl⟩⟩
  rw [itemFromDict, hmissing, List.isEmpty_nil, require_true, ok_bind,
    metadataOf_of_readsAs h item.metadata rfl, ok_bind,
    h.requiredText (lit "evidence_id") item.evidenceId rfl, ok_bind,
    h.requiredText (lit "source") item.source rfl, ok_bind,
    h.nullableText (lit "digest") item.digest rfl,
    h.nullableText (lit "content_ref") item.contentRef rfl,
    defaultedText_of_readsAs h (lit "sensitivity") (lit "internal") item.sensitivity rfl,
    EvidenceItem.create, dif_pos item.named, dif_pos item.sourced, dif_pos item.held,
    dif_pos item.rated]
  rfl

/-! ### Manifests -/

/-- `EvidenceManifest`, `domain/evidence.py:75–91`, with what its constructor checked. -/
structure EvidenceManifest where
  manifestId : Text
  runId : Text
  items : List EvidenceItem
  named : blank manifestId = false
  ran : blank runId = false
  unique : (items.map EvidenceItem.evidenceId).Nodup

namespace EvidenceManifest

/-- The constructor, `__post_init__` at `domain/evidence.py:83–91`. -/
def create (manifestId runId : Text) (items : List EvidenceItem) :
    Except PyError EvidenceManifest :=
  if hn : blank manifestId = false then
    if hr : blank runId = false then
      if hu : (items.map EvidenceItem.evidenceId).Nodup then .ok ⟨manifestId, runId, items, hn, hr, hu⟩
      else valueError (lit "Evidence IDs must be unique within a manifest.")
    else valueError (lit "run_id must not be empty.")
  else valueError (lit "manifest_id must not be empty.")

/-- `to_dict`, `domain/evidence.py:93–99`. -/
def toDict (m : EvidenceManifest) : Dict Json :=
  [(lit "manifest_id", .str m.manifestId),
    (lit "run_id", .str m.runId),
    (lit "items", .arr (m.items.map fun item ↦ .obj (itemToDict item)))]

/-- `from_dict`, `domain/evidence.py:101–111`. -/
def fromDict (members : Dict Json) : Except PyError EvidenceManifest := do
  let values ← orRaise ⟨.valueError, lit "items must be a JSON array."⟩
    ((members.get? (lit "items")).getD (.arr [])).asList
  let items ← values.mapM fun value ↦ do
    let item ← requireObject value (lit "payload")
    itemFromDict item
  create (optionalText members (lit "manifest_id")) (optionalText members (lit "run_id")) items

/-- The manifest read back. -/
def stored (m : EvidenceManifest) : EvidenceManifest :=
  { m with
    items := m.items.map storedItem
    unique := by
      rw [List.map_map]
      exact m.unique }

@[simp] theorem toDict_stored (m : EvidenceManifest) : m.stored.toDict = m.toDict := by
  simp only [toDict, stored, List.map_map, Function.comp_def, itemToDict_storedItem]

/-- A manifest is decoded from what is read back of it. -/
theorem fromDict_of_readsAs {members : Dict Json} {m : EvidenceManifest}
    (h : ReadsAs members m.toDict) : fromDict members = .ok m.stored := by
  have hitems : members.get? (lit "items") =
      some (.arr (m.items.map fun item ↦ .obj (ordered (itemToDict item)))) := by
    rw [h (lit "items") (.arr (m.items.map fun item ↦ .obj (itemToDict item))) rfl,
      Json.sortKeys_arr, List.map_map]
    exact congrArg (fun l ↦ some (Json.arr l)) (List.map_congr_left fun _ _ ↦ sortKeys_eq_ordered _)
  have hread : (m.items.map fun item ↦ Json.obj (ordered (itemToDict item))).mapM
      (fun value ↦ do
        let item ← requireObject value (lit "payload")
        itemFromDict item) = .ok (m.items.map storedItem) := by
    rw [List.mapM_map]
    apply mapM_eq_ok_map
    intro item _
    rw [Function.comp_apply, requireObject_obj, ok_bind,
      itemFromDict_of_readsAs (readsAs_sorted (distinct_itemToDict item))]
  have hunique : ((m.items.map storedItem).map EvidenceItem.evidenceId).Nodup := m.stored.unique
  rw [fromDict, hitems, Option.getD_some, Json.asList_arr, orRaise_some, ok_bind, hread, ok_bind,
    optionalText_of_get? (h (lit "manifest_id") (.str m.manifestId) rfl),
    optionalText_of_get? (h (lit "run_id") (.str m.runId) rfl), create, dif_pos m.named,
    dif_pos m.ran, dif_pos hunique]
  rfl

end EvidenceManifest
end StateWake.Reliability
