import StateWake.Reliability.EventCodec

/-!
# Core records

The four persisted record types of the domain: transitions, evidence chains, events and evidence
manifests. Each is written as JSON text and read back by the `from_dict` of its type. Transitions
and chains carry a digest of their payload, which `from_dict` recomputes from what it decoded.
-/

namespace StateWake.Reliability

open StateWake.Base Text Utils

/-! ### Integers JSON text can hold -/

/-- The bound on integers that have a text: `int.__repr__` and `int()` stop at 4300 digits. -/
def integerBound : Nat := 10 ^ 4300

theorem integerBound_pos : 0 < integerBound := by
  rw [integerBound]
  apply Nat.pow_pos
  exact Nat.succ_pos 9

mutual
/-- Every integer in the value has a text. -/
def printable : Json → Bool
  | .int n => decide (n.natAbs < integerBound)
  | .arr items => printableItems items
  | .obj members => printableMembers members
  | _ => true

def printableItems : List Json → Bool
  | [] => true
  | v :: items => printable v && printableItems items

def printableMembers : List (Text × Json) → Bool
  | [] => true
  | m :: members => printable m.2 && printableMembers members
end

/-- `json.dumps(payload)` of an object, which raises on an integer without a text. -/
def dumpText (style : Json.Style) (members : Dict Json) : Except PyError Text := do
  require ⟨.valueError, lit "Exceeds the limit (4300 digits) for integer string conversion"⟩
    (printable (.obj members))
  pure (Json.dumps style (.obj members))

theorem printable_obj {members : Dict Json} :
    printable (.obj members) = true ↔ ∀ m ∈ members, printable m.2 = true := by
  rw [printable]
  induction members with
  | nil => simp [printableMembers]
  | cons m members ih => rw [printableMembers, Bool.and_eq_true, ih, List.forall_mem_cons]

theorem printable_arr {items : List Json} :
    printable (.arr items) = true ↔ ∀ v ∈ items, printable v = true := by
  rw [printable]
  induction items with
  | nil => simp [printableItems]
  | cons v items ih => rw [printableItems, Bool.and_eq_true, ih, List.forall_mem_cons]

@[simp] theorem printable_str (s : Text) : printable (.str s) = true := rfl

theorem printable_int (n : Int) : printable (.int n) = decide (n.natAbs < integerBound) := rfl

@[simp] theorem printable_null : printable .null = true := rfl

@[simp] theorem printable_optionJson (s : Option Text) : printable (optionJson s) = true := by
  cases s with
  | none => exact printable_null
  | some s => exact printable_str s

@[simp] theorem printable_texts (texts : List Text) :
    printable (.arr (texts.map .str)) = true := by
  rw [printable_arr, List.forall_mem_map]
  exact fun s _ ↦ printable_str s

@[simp] theorem printable_metadataJson (metadata : Dict Text) :
    printable (metadataJson metadata) = true := by
  rw [metadataJson, printable_obj]
  intro m hm
  obtain ⟨n, -, rfl⟩ := List.mem_map.mp hm
  exact printable_str n.2

@[simp] theorem EvidenceReference.printable_toDict (r : EvidenceReference) :
    printable (.obj r.toDict) = true := by
  have hreceipt : printable (r.receiptRef.elim .null fun receipt ↦ .obj receipt.toDict) = true := by
    cases r.receiptRef with
    | none => exact printable_null
    | some receipt => simp [ReceiptReference.toDict, printable_obj]
  simp [toDict, printable_obj, hreceipt]

/-! ### Records -/

/-- A record of one of the four types, as its constructor accepted it. -/
inductive CoreRecord where
  | transition (t : ReliabilityStateTransition)
  | chain (c : ReliabilityEvidenceChain)
  | event (e : EventEnvelope)
  | manifest (m : EvidenceManifest)

namespace CoreRecord

/-- `to_dict()`. -/
def toDict : CoreRecord → Except PyError (Dict Json)
  | transition t => t.toDict
  | chain c => c.toDict
  | event e => e.val.toDict
  | manifest m => .ok m.toDict

/-- `from_dict` of the type of a record. -/
def fromDict (r : CoreRecord) (members : Dict Json) : Except PyError CoreRecord :=
  match r with
  | transition _ => do
    let t ← ReliabilityStateTransition.fromDict members
    pure (transition t)
  | chain _ => do
    let c ← ReliabilityEvidenceChain.fromDict members
    pure (chain c)
  | event _ => do
    let e ← EventFields.fromDict members
    pure (event e)
  | manifest _ => do
    let m ← EvidenceManifest.fromDict members
    pure (manifest m)

/-- What the digest of a digested record covers. -/
def payload? : CoreRecord → Option (Dict Json)
  | transition t => some t.payload
  | chain c => some c.payload
  | event _ | manifest _ => none

/-- The digest of a digested record. -/
def digest? : CoreRecord → Option (Except PyError Text)
  | transition t => some t.computedDigest
  | chain c => some c.digest
  | event _ | manifest _ => none

/-- Every text of the record is valid Unicode, and every mapping holds a key once. -/
def Valid : CoreRecord → Prop
  | transition t => ∀ s ∈ Json.texts (.obj t.payload), SurrogateFree s
  | chain c => ∀ s ∈ Json.texts (.obj c.payload), SurrogateFree s
  | event e => e.val.metadata.Distinct ∧ ∀ s ∈ Json.texts (.obj (e.val.body [])), SurrogateFree s
  | manifest m => (∀ item ∈ m.items, item.metadata.Distinct) ∧
      ∀ s ∈ Json.texts (.obj m.toDict), SurrogateFree s

/-- The record is read back from its JSON text, in every style, as one with its dictionary and its
digest. -/
def RoundTrips (r : CoreRecord) : Prop := ∃ members, r.toDict = .ok members ∧
  ∀ style, ∃ text decoded r', dumpText style members = .ok text ∧
    Json.loads text = .ok (.obj decoded) ∧ r.fromDict decoded = .ok r' ∧
      r'.toDict = .ok members ∧ r'.digest? = r.digest?

/-- SHA-256 does not collide on the canonical forms of two records. -/
def CollisionFree (r r' : CoreRecord) : Prop :=
  ∀ p ∈ r.payload?, ∀ p' ∈ r'.payload?, ∀ content content', canonicalBytes p = .ok content →
    canonicalBytes p' = .ok content' → sha256 content = sha256 content' → content = content'

/-- Whatever object carries the digest of the record decodes to the record, or not at all. -/
def TamperEvident (r : CoreRecord) : Prop := ∀ digest, r.digest? = some (.ok digest) →
  ∀ members r', optionalText members (lit "digest") = digest → r.fromDict members = .ok r' →
    CollisionFree r r' → r' = r

/-- The time of an event exists in UTC, and its sequence number has a text. -/
def Representable : CoreRecord → Prop
  | event e => (∃ t, e.val.occurredAt.toUtc = .ok t) ∧ e.val.sequence < integerBound
  | transition _ | chain _ | manifest _ => True

end CoreRecord

/-! ### Tampering -/

namespace ReliabilityStateTransition

/-- The digest of a transition is that of its canonical form. -/
theorem computedDigest_eq_ok {t : ReliabilityStateTransition} {d : Text} :
    t.computedDigest = .ok d ↔ ∃ content, canonicalBytes t.payload = .ok content ∧
      sha256 content = d := by
  rw [computedDigest, payloadDigest, bind_eq_ok]
  apply exists_congr
  intro content
  apply and_congr_right
  intro _
  constructor
  · exact Except.ok.inj
  · exact congrArg Except.ok

/-- Transitions of one canonical form are equal. -/
theorem eq_of_content {a b : ReliabilityStateTransition} {content : Bytes}
    (ha : canonicalBytes a.payload = .ok content) (hb : canonicalBytes b.payload = .ok content) :
    a = b := by
  have hread (t : ReliabilityStateTransition) : fromDict (ordered t.payload) = .ok t := by
    have hdistinct := ((Json.writable_obj _).mp t.writable_payload).1
    apply fromDict_of_readsAs (readsAs_sorted hdistinct)
    intro hsupplied
    apply absurd _ hsupplied
    rw [optionalText, get?_ordered hdistinct]
    rfl
  exact eq_of_canonicalBytes writable_payload hread ha hb

/-- A decoded transition that was supplied a digest has it. -/
theorem computedDigest_of_fromDict {t : ReliabilityStateTransition} {members : Dict Json}
    (h : fromDict members = .ok t) (hsupplied : optionalText members (lit "digest") ≠ []) :
    t.computedDigest = .ok (optionalText members (lit "digest")) := by
  simp only [fromDict, if_pos hsupplied] at h
  -- the two steps of the digest of what was read, and the eleven of the fields
  iterate 13 obtain ⟨_, -, h⟩ := bind_eq_ok.mp h
  obtain ⟨item, -, h⟩ := bind_eq_ok.mp h
  obtain ⟨d, hd, h⟩ := bind_eq_ok.mp h
  obtain ⟨_, heq, hitem⟩ := bind_eq_ok.mp h
  rw [require_eq_ok, decide_eq_true_eq] at heq
  rw [← Except.ok.inj hitem, hd, heq]

end ReliabilityStateTransition

namespace CoreRecord

/-- The digest of a record is that of the canonical form of its payload. -/
theorem digest?_eq_ok {r : CoreRecord} {digest : Text} (h : r.digest? = some (.ok digest)) :
    ∃ p content, r.payload? = some p ∧ canonicalBytes p = .ok content ∧ sha256 content = digest := by
  cases r with
  | transition t =>
    obtain ⟨content, hcontent, hdigest⟩ :=
      ReliabilityStateTransition.computedDigest_eq_ok.mp (Option.some.inj h)
    exact ⟨t.payload, content, rfl, hcontent, hdigest⟩
  | chain c =>
    obtain ⟨content, hcontent, hdigest⟩ :=
      ReliabilityEvidenceChain.digest_eq_ok.mp (Option.some.inj h)
    exact ⟨c.payload, content, rfl, hcontent, hdigest⟩
  | event e => cases h
  | manifest m => cases h

/-- A digest supplied to the decoder of a digested record is that of the record decoded. -/
theorem digest?_of_fromDict {r r' : CoreRecord} {members : Dict Json} {digest : Text}
    (hdigest : r.digest? = some (.ok digest)) (h : r.fromDict members = .ok r')
    (hsupplied : optionalText members (lit "digest") = digest) (hne : digest ≠ []) :
    r'.digest? = some (.ok digest) := by
  subst hsupplied
  cases r with
  | transition t =>
    obtain ⟨t', ht', hr'⟩ := bind_eq_ok.mp h
    rw [← Except.ok.inj hr']
    exact congrArg some (ReliabilityStateTransition.computedDigest_of_fromDict ht' hne)
  | chain c =>
    obtain ⟨c', hc', hr'⟩ := bind_eq_ok.mp h
    rw [← Except.ok.inj hr']
    exact congrArg some (ReliabilityEvidenceChain.digest_of_fromDict hc' hne)
  | event e => cases hdigest
  | manifest m => cases hdigest

/-- A record decoded as one of another's type, with a payload of its canonical form, is it. -/
theorem eq_of_content {r r' : CoreRecord} {members p p' : Dict Json} {content : Bytes}
    (h : r.fromDict members = .ok r') (hp : r.payload? = some p) (hp' : r'.payload? = some p')
    (hcontent : canonicalBytes p = .ok content) (hcontent' : canonicalBytes p' = .ok content) :
    r' = r := by
  cases r with
  | transition t =>
    obtain ⟨t', -, hr'⟩ := bind_eq_ok.mp h
    cases Except.ok.inj hr'
    cases hp
    cases hp'
    rw [ReliabilityStateTransition.eq_of_content hcontent' hcontent]
  | chain c =>
    obtain ⟨c', -, hr'⟩ := bind_eq_ok.mp h
    cases Except.ok.inj hr'
    cases hp
    cases hp'
    rw [ReliabilityEvidenceChain.eq_of_content hcontent' hcontent]
  | event e => cases hp
  | manifest m => cases hp

/-- Whatever is decoded under the digest of a record is the record, or collides with it. -/
theorem tamperEvident (r : CoreRecord) : r.TamperEvident := by
  intro digest hdigest members r' hsupplied hread hfree
  obtain ⟨p, content, hp, hcontent, hsha⟩ := digest?_eq_ok hdigest
  have hne : digest ≠ [] := by
    rw [← hsha]
    exact sha256_ne_nil content
  obtain ⟨p', content', hp', hcontent', hsha'⟩ :=
    digest?_eq_ok (digest?_of_fromDict hdigest hread hsupplied hne)
  obtain rfl := hfree p hp p' hp' content content' hcontent hcontent' (hsha.trans hsha'.symm)
  exact eq_of_content hread hp hp' hcontent hcontent'

/-! ### Round trips -/

/-- A record whose dictionary is written without loss is read back. -/
theorem RoundTrips.of_read {r : CoreRecord} {members : Dict Json} (h : r.toDict = .ok members)
    (hw : Json.Writable (.obj members)) (hp : printable (.obj members) = true)
    (hread : ∀ style, ∃ r', r.fromDict (Json.readMembers style members) = .ok r' ∧
      r'.toDict = .ok members ∧ r'.digest? = r.digest?) : r.RoundTrips := by
  refine ⟨members, h, fun style ↦ ?_⟩
  obtain ⟨r', hr', hdict, hdigest⟩ := hread style
  refine ⟨Json.dumps style (.obj members), Json.readMembers style members, r', ?_,
    Json.loads_dumps_obj style hw, hr', hdict, hdigest⟩
  rw [dumpText, hp, require_true, ok_bind]
  rfl

theorem roundTrips_transition {t : ReliabilityStateTransition} (h : (transition t).Valid) :
    (transition t).RoundTrips := by
  obtain ⟨digest, hdigest⟩ := t.computedDigest_isOk_iff.mpr h
  have hdict : t.toDict = .ok (t.payload ++ [(lit "digest", .str digest)]) := by
    rw [ReliabilityStateTransition.toDict, hdigest, ok_bind]
    rfl
  apply RoundTrips.of_read (r := transition t) hdict (t.writable_toDict digest)
  · simp [ReliabilityStateTransition.payload, printable_obj]
  · intro style
    refine ⟨transition t, ?_, hdict, rfl⟩
    rw [fromDict, ReliabilityStateTransition.fromDict_readMembers hdict style, ok_bind]
    rfl

theorem roundTrips_chain {c : ReliabilityEvidenceChain} (h : (chain c).Valid) :
    (chain c).RoundTrips := by
  obtain ⟨content, hcontent⟩ := (canonicalBytes_isOk_iff c.writable_payload).mpr h
  have hdigest := ReliabilityEvidenceChain.digest_eq_ok.mpr ⟨content, hcontent, rfl⟩
  have hdict : c.toDict = .ok ((lit "format_version", .str (lit "1")) ::
      (c.payload ++ [(lit "digest", .str (sha256 content))])) := by
    rw [ReliabilityEvidenceChain.toDict, hdigest, ok_bind]
    rfl
  have hoptional (r : Option EvidenceReference) :
      printable (r.elim Json.null fun r ↦ .obj r.toDict) = true := by
    cases r with
    | none => exact printable_null
    | some r => exact r.printable_toDict
  have hevidence : printable (.arr (c.evidence.map fun r ↦ .obj r.toDict)) = true := by
    rw [printable_arr, List.forall_mem_map]
    exact fun r _ ↦ r.printable_toDict
  apply RoundTrips.of_read (r := chain c) hdict (ReliabilityEvidenceChain.writable_toDict hdict).1
  · rw [printable_obj]
    simp only [ReliabilityEvidenceChain.payload, List.forall_mem_cons, List.forall_mem_append,
      List.not_mem_nil, false_implies, implies_true, and_true, printable_str, printable_texts,
      EvidenceReference.printable_toDict, hoptional, hevidence]
  · intro style
    refine ⟨chain c, ?_, hdict, rfl⟩
    rw [fromDict, ReliabilityEvidenceChain.fromDict_readMembers hdict style, ok_bind]
    rfl

theorem mem_texts_metadataJson {metadata : Dict Text} {key : Text} (h : key ∈ metadata.keys) :
    key ∈ Json.texts (metadataJson metadata) := by
  obtain ⟨v, hv⟩ := Dict.mem_keys.mp h
  rw [metadataJson, Json.mem_texts_obj]
  refine ⟨(key, .str v), List.mem_map.mpr ⟨(key, v), ?_, rfl⟩, Or.inl rfl⟩
  exact (Dict.sorted_perm metadata).mem_iff.mpr hv

/-- The representation of an event of valid texts is written without loss. -/
theorem writable_body {e : EventEnvelope} (h : (event e).Valid) (t : Datetime) :
    Json.Writable (.obj (e.val.body (isoformat t))) ∧
      ∀ s ∈ Json.texts (.obj (e.val.body (isoformat t))), SurrogateFree s := by
  obtain ⟨hdistinct, htexts⟩ := h
  have htime : SurrogateFree (isoformat t) :=
    AwareDatetime.surrogateFree_utcText (AwareDatetime.utcText_ofUtc t)
  rw [Json.forall_texts_obj] at htexts ⊢
  simp only [EventFields.body, List.forall_mem_cons] at htexts ⊢
  obtain ⟨hrun, hsequence, -, hrest⟩ := htexts
  have hmetadata : Json.Writable (metadataJson e.val.metadata) :=
    writable_metadataJson hdistinct fun key hkey ↦
      hrest.2.2.2.2.2.1.2 key (mem_texts_metadataJson hkey)
  constructor
  · rw [Json.writable_obj]
    constructor
    · simp [Dict.Distinct]
    · simp only [List.forall_mem_cons, List.not_mem_nil, false_implies, implies_true, and_true,
        pairFree_lit, Json.writable_str, Json.writable_int, writable_optionJson, hmetadata]
  · refine ⟨hrun, hsequence, ⟨surrogateFree_lit _, ?_⟩, hrest⟩
    intro s hs
    rwa [Json.mem_texts_str.mp hs]

theorem roundTrips_event_iff {e : EventEnvelope} (h : (event e).Valid) :
    (event e).RoundTrips ↔ (event e).Representable := by
  have hnonneg : 0 ≤ e.val.sequence := by
    have hpost := e.property
    simp only [EventFields.postInit, bind_eq_ok, require_eq_ok, exists_const,
      decide_eq_true_eq] at hpost
    exact hpost.2.1
  have hprintable (text : Text) : printable (.obj (e.val.body text)) = true ↔
      e.val.sequence < integerBound := by
    simp only [printable_obj, EventFields.body, List.forall_mem_cons, printable_str,
      printable_optionJson, printable_metadataJson, printable_int, List.not_mem_nil, false_implies,
      implies_true, and_true, true_and, decide_eq_true_eq]
    omega
  constructor
  · rintro ⟨members, hmembers, hread⟩
    obtain ⟨t, ht⟩ := EventFields.toDict_isOk_iff.mp ⟨members, hmembers⟩
    refine ⟨⟨t, ht⟩, ?_⟩
    have hbody : members = e.val.body (isoformat t) :=
      Except.ok.inj (hmembers.symm.trans (EventFields.toDict_of_toUtc ht))
    obtain ⟨text, -, -, htext, -⟩ := hread Json.compact
    obtain ⟨⟨⟩, hrequired, -⟩ := bind_eq_ok.mp htext
    rw [require_eq_ok, hbody] at hrequired
    exact (hprintable _).mp hrequired
  · rintro ⟨⟨t, ht⟩, hsequence⟩
    obtain ⟨hw, htexts⟩ := writable_body h t
    apply RoundTrips.of_read (r := event e) (EventFields.toDict_of_toUtc ht) hw
      ((hprintable _).mpr hsequence)
    intro style
    have hreads := readsAs_readMembers style hw fun s hs ↦ (htexts s hs).pairFree
    refine ⟨event ⟨e.val.stored t, e.property⟩, ?_, e.val.toDict_stored t, rfl⟩
    rw [fromDict, EventFields.fromDict_of_readsAs e.property hreads, ok_bind]
    rfl

/-- A manifest of valid texts is written without loss. -/
theorem writable_manifest {m : EvidenceManifest} (h : (manifest m).Valid) :
    Json.Writable (.obj m.toDict) := by
  obtain ⟨hdistinct, htexts⟩ := h
  have hitem (item : Claims.EvidenceItem) (hitem : item ∈ m.items) :
      Json.Writable (.obj (itemToDict item)) := by
    have hmetadata : Json.Writable (metadataJson item.metadata) := by
      apply writable_metadataJson (hdistinct item hitem)
      intro key hkey
      apply htexts
      rw [Json.mem_texts_obj]
      refine ⟨_, List.mem_of_getElem? (i := 2) rfl, Or.inr ?_⟩
      rw [Json.mem_texts_arr]
      refine ⟨_, List.mem_map_of_mem hitem, ?_⟩
      rw [Json.mem_texts_obj]
      exact ⟨_, List.mem_of_getElem? (i := 4) rfl, Or.inr (mem_texts_metadataJson hkey)⟩
    rw [Json.writable_obj]
    refine ⟨distinct_itemToDict item, ?_⟩
    simp only [itemToDict, List.forall_mem_cons, List.not_mem_nil, false_implies, implies_true,
      and_true, pairFree_lit, Json.writable_str, writable_optionJson, hmetadata]
  rw [Json.writable_obj]
  constructor
  · simp [EvidenceManifest.toDict, Dict.Distinct]
  · simp only [EvidenceManifest.toDict, List.forall_mem_cons, List.not_mem_nil, false_implies,
      implies_true, and_true, pairFree_lit, Json.writable_str, Json.writable_arr,
      List.forall_mem_map, true_and]
    exact hitem

theorem roundTrips_manifest {m : EvidenceManifest} (h : (manifest m).Valid) :
    (manifest m).RoundTrips := by
  have hw := writable_manifest h
  apply RoundTrips.of_read rfl hw
  · have hitems : printable (.arr (m.items.map fun item ↦ .obj (itemToDict item))) = true := by
      rw [printable_arr, List.forall_mem_map]
      intro item _
      simp [itemToDict, printable_obj]
    simp [EvidenceManifest.toDict, printable_obj, hitems]
  · intro style
    have hreads := readsAs_readMembers style hw fun s hs ↦ (h.2 s hs).pairFree
    refine ⟨manifest m.stored, ?_, congrArg Except.ok m.toDict_stored, rfl⟩
    rw [fromDict, EvidenceManifest.fromDict_of_readsAs hreads, ok_bind]
    rfl

/-- An event at a local time. -/
def sampleFields (occurredAt : AwareDatetime) : EventFields where
  runId := lit "run-1"
  sequence := 0
  occurredAt := occurredAt
  eventType := lit "run.started"
  actor := lit "agent"
  name := some (lit "agent-a")
  stateId := none
  payloadRef := none
  metadata := [(lit "seed", lit "7")]

theorem postInit_sampleFields (occurredAt : AwareDatetime) :
    (sampleFields occurredAt).postInit = .ok () := rfl

/-- The event as a record. -/
def sampleEvent (occurredAt : AwareDatetime) : CoreRecord :=
  event ⟨sampleFields occurredAt, postInit_sampleFields occurredAt⟩

theorem valid_sampleEvent (occurredAt : AwareDatetime) : (sampleEvent occurredAt).Valid := by
  constructor
  · simp [sampleFields, Dict.Distinct]
  · rw [Json.forall_texts_obj]
    simp [EventFields.body, sampleFields, metadataJson, Dict.sorted]
    exact fun c hc ↦ absurd hc List.not_mem_nil

/-- The last hour of the calendar, twelve hours behind UTC. -/
def lastHour : AwareDatetime := .of (.of (.of 9999 12 31) 82800000000) (-43200000000)

end CoreRecord
end StateWake.Reliability
