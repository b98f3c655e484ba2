import StateWake.Attestation.Store

/-!
# Attestation histories

What an attestation store holds is a history of entries: attestations linked by digest, with
distinct identifiers, and bindings, each once and after the attestation it binds. A file that
holds such a history reads as it, and an append adds at most one attestation and one binding.
-/

namespace StateWake.Attestation

open StateWake.Base Text Utils RegisterHistory

namespace Store

/-- A line of the store. -/
inductive Entry where
  | attested (attestation : ReliabilityOutcomeAttestation)
  | bound (binding : SignedReliabilityOutcomeBinding)
  deriving DecidableEq

namespace Entry

/-- The attestation a line records. -/
def attestation? : Entry → Option ReliabilityOutcomeAttestation
  | attested a => some a
  | bound _ => none

/-- The binding a line records. -/
def binding? : Entry → Option SignedReliabilityOutcomeBinding
  | attested _ => none
  | bound b => some b

/-- The object a line holds. -/
def record : Entry → Dict Json
  | attested a => a.toDict
  | bound b => b.toRecordDict.toOption.getD []

/-- The line without its line feed. -/
def line (e : Entry) : Text := Json.dumps Json.compact (.obj e.record)

end Entry

/-- What a history holds. -/
def after (h : List Entry) : Snapshot :=
  ⟨h.filterMap Entry.attestation?, h.filterMap Entry.binding?⟩

/-- What a store admits after a history. -/
inductive Stored (h : List Entry) : Entry → Prop where
  | attested {a : ReliabilityOutcomeAttestation}
    (linked : a.previousDigest = (after h).tipDigest)
    (fresh : (after h).recorded? a.attestationId = none) : Stored h (.attested a)
  | bound {b : SignedReliabilityOutcomeBinding}
    (writable : Json.Writable (.obj b.envelope.attestation))
    (written : ∃ record, b.toRecordDict = .ok record)
    (recorded : (after h).recorded? b.attestation.attestationId = some b.attestation)
    (fresh : (after h).binding? b.attestation.attestationId = none) : Stored h (.bound b)

/-- A file that holds a history. -/
structure Represents (file : Option Bytes) (h : List Entry) : Prop where
  content : file.getD [] = LineLog.encode Entry.line h
  stored : Prefixwise Stored h

variable {h g : List Entry} {e : Entry} {a : ReliabilityOutcomeAttestation}
  {b : SignedReliabilityOutcomeBinding} {file : Option Bytes}

@[simp] theorem after_nil : after [] = ⟨[], []⟩ := rfl

@[simp] theorem after_attested :
    after (h ++ [.attested a]) = ⟨(after h).records ++ [a], (after h).bindings⟩ := by
  simp [after, Entry.attestation?, Entry.binding?]

@[simp] theorem after_bound :
    after (h ++ [.bound b]) = ⟨(after h).records, (after h).bindings ++ [b]⟩ := by
  simp [after, Entry.attestation?, Entry.binding?]

/-! ### Lines -/

/-- The texts of a binding record can be encoded. -/
private theorem surrogateFree_record {record : Dict Json} (hr : b.toRecordDict = .ok record)
    (hw : Json.Writable (.obj b.envelope.attestation)) :
    ∀ t ∈ Json.texts (.obj record), SurrogateFree t := by
  obtain ⟨context, hcontext, hrecord⟩ := bind_eq_ok.mp hr
  cases hrecord
  obtain ⟨content, hcontent, -⟩ := b.sealed
  rw [strictBytes_eq (SignedReliabilityOutcomeEnvelope.writable_toDict hw)] at hcontent
  have henvelope := (canonicalBytes_isOk_iff
    (SignedReliabilityOutcomeEnvelope.writable_toDict hw)).mp ⟨content, hcontent⟩
  have htrust := ReliabilityAttestationTrustContext.surrogateFree_texts hcontext
  intro t ht
  rw [Json.mem_texts_obj] at ht
  obtain ⟨m, hm, ht⟩ := ht
  simp only [List.mem_cons, List.not_mem_nil, or_false] at hm
  rcases hm with rfl | rfl | rfl
  · rcases ht with rfl | ht
    · exact surrogateFree_lit _
    · rw [Json.mem_texts_str.mp ht]
      exact surrogateFree_lit _
  · rcases ht with rfl | ht
    · exact surrogateFree_lit _
    · exact henvelope t ht
  · rcases ht with rfl | ht
    · exact surrogateFree_lit _
    · exact htrust t ht

private theorem writable_record {record : Dict Json} (hr : b.toRecordDict = .ok record)
    (hw : Json.Writable (.obj b.envelope.attestation)) : Json.Writable (.obj record) := by
  obtain ⟨context, hcontext, hrecord⟩ := bind_eq_ok.mp hr
  cases hrecord
  have henvelope := SignedReliabilityOutcomeEnvelope.writable_toDict hw
  have htrust := ReliabilityAttestationTrustContext.writable_toDict hcontext
  rw [Json.writable_obj]
  refine ⟨by simp [Dict.Distinct], ?_⟩
  simp only [List.forall_mem_cons, List.not_mem_nil, IsEmpty.forall_iff, implies_true, and_true,
    pairFree_lit, true_and]
  exact ⟨Json.writable_str _, henvelope, htrust⟩

/-- The object of a stored line can be written and read back as it is. -/
theorem Stored.readable (hs : Stored h e) : Json.Writable (.obj e.record) ∧
    ∀ t ∈ Json.texts (.obj e.record), SurrogateFree t := by
  cases hs with
  | attested => exact ⟨ReliabilityOutcomeAttestation.writable_toDict _,
      ReliabilityOutcomeAttestation.surrogateFree_texts _⟩
  | bound writable written =>
    obtain ⟨record, hr⟩ := written
    rw [Entry.record, hr]
    exact ⟨writable_record hr writable, surrogateFree_record hr writable⟩

theorem Stored.plain (hs : Stored h e) : LineLog.Plain e.line where
  ascii := Json.isAscii_dumps rfl hs.readable.1
  unbroken := Json.unbroken_compact hs.readable.1
  visible := Json.not_blank_dumps_obj ..

/-- The line of a stored attestation is accepted as it. -/
private theorem acceptLine_attested (linked : a.previousDigest = (after h).tipDigest)
    (fresh : (after h).recorded? a.attestationId = none) (rest : Text)
    (hrest : ∀ c ∈ rest, Json.isBlank c = true) :
    acceptLine none (after h) ((Entry.attested a).line ++ rest) =
      .ok (after (h ++ [.attested a])) := by
  have hw := a.writable_toDict
  have hd := ((Json.writable_obj _).mp hw).1
  have htype : (Json.readMembers Json.compact a.toDict).get? (lit "record_type") = none := by
    rw [Json.get?_readMembers _ hd]
    simp [ReliabilityOutcomeAttestation.toDict, Outcome.payload]
  have hread := ReliabilityOutcomeAttestation.fromDict_of_readsAs
    (readsAs_readMembers Json.compact hw fun t ht ↦ (a.surrogateFree_texts t ht).pairFree)
  rw [acceptLine, Entry.line, Entry.record, Json.loads_dumps_obj_append _ hw hrest]
  simp only [ok_bind, Json.asObject_obj, orRaise_some, htype, reduceCtorEq, ↓reduceIte,
    Option.isNone_none, require_true, Option.mem_def, IsEmpty.forall_iff, implies_true,
    decide_true, acceptAttestation, hread, linked, fresh, after_attested]
  rfl

/-- The line of a stored binding is accepted as it. -/
private theorem acceptLine_bound (writable : Json.Writable (.obj b.envelope.attestation))
    {record : Dict Json} (hr : b.toRecordDict = .ok record)
    (recorded : (after h).recorded? b.attestation.attestationId = some b.attestation)
    (fresh : (after h).binding? b.attestation.attestationId = none) (rest : Text)
    (hrest : ∀ c ∈ rest, Json.isBlank c = true) :
    acceptLine none (after h) ((Entry.bound b).line ++ rest) = .ok (after (h ++ [.bound b])) := by
  have hw := writable_record hr writable
  have hreads := readsAs_readMembers Json.compact hw fun t ht ↦
    (surrogateFree_record hr writable t ht).pairFree
  have hloads := Json.loads_dumps_obj_append Json.compact hw hrest
  have hline : (Entry.bound b).line = Json.dumps Json.compact (.obj record) := by
    rw [Entry.line, Entry.record, hr]
    rfl
  obtain ⟨context, hcontext, hrecord⟩ := bind_eq_ok.mp hr
  cases hrecord
  rw [acceptLine, hline, hloads]
  have htype := hreads (lit "record_type") (.str signedBindingRecordType) (by
    simp [signedBindingRecordType])
  have henvelope := hreads (lit "envelope") (.obj b.envelope.toDict) (by simp)
  have htrust := hreads (lit "trust_context") (.obj context) (by simp)
  rw [sortKeys_eq_ordered] at henvelope htrust
  have hkeys : (Json.readMembers Json.compact
      [(lit "record_type", .str (lit "signed-reliability-outcome-binding.v1")),
        (lit "envelope", .obj b.envelope.toDict), (lit "trust_context", .obj context)]).keys ⊆
        bindingKeys ∧ bindingKeys ⊆ (Json.readMembers Json.compact
      [(lit "record_type", .str (lit "signed-reliability-outcome-binding.v1")),
        (lit "envelope", .obj b.envelope.toDict), (lit "trust_context", .obj context)]).keys := by
    constructor
    · intro key hkey
      simpa [bindingKeys] using hkey
    · intro key hkey
      simpa [bindingKeys] using hkey
  have henvelope' := SignedReliabilityOutcomeEnvelope.fromDict_of_readsAs (e := b.envelope)
    (readsAs_sorted ((Json.writable_obj _).mp
      (SignedReliabilityOutcomeEnvelope.writable_toDict writable)).1)
  have htrust' := ReliabilityAttestationTrustContext.fromDict_of_readsAs hcontext
    (readsAs_sorted ((Json.writable_obj _).mp
      (ReliabilityAttestationTrustContext.writable_toDict hcontext)).1)
  simp only [ok_bind, Json.asObject_obj, orRaise_some, htype, Json.sortKeys_str, ↓reduceIte,
    acceptBinding, hkeys, and_self, decide_true, require_true, henvelope, htrust,
    Option.bind_some, henvelope', htrust', b.create_self, recorded, fresh, Option.isNone_none,
    after_bound]
  rfl

/-- The line of a stored entry is accepted as it, with or without its line feed. -/
theorem Stored.parseRecord (hs : Stored h e) (number : Nat) {rest : Text}
    (hrest : ∀ c ∈ rest, Json.isBlank c = true) :
    Store.parseRecord none (after h) number (e.line ++ rest) = .ok (after (h ++ [e])) := by
  have haccept : acceptLine none (after h) (e.line ++ rest) = .ok (after (h ++ [e])) := by
    cases hs with
    | attested linked fresh => exact acceptLine_attested linked fresh rest hrest
    | bound writable written recorded fresh =>
      obtain ⟨record, hr⟩ := written
      exact acceptLine_bound writable hr recorded fresh rest hrest
  rw [Store.parseRecord, haccept]

/-! ### Reading -/

private theorem plain_of_stored (hs : Prefixwise Stored h) : ∀ e ∈ h, LineLog.Plain e.line :=
  hs.forall_mem fun _ _ he ↦ he.plain

private theorem reads_of_stored (hs : Prefixwise Stored h) :
    LineLog.Reads (fun e ↦ e.line ++ [Lines.newline]) (Store.parseRecord none) after h :=
  hs.mono fun _ _ hr ↦ ⟨not_blank_append hr.plain.visible _,
    fun number ↦ hr.parseRecord number Json.isBlank_newline⟩

/-- A file that holds a history and some text after it: the reader goes over the history and
then over the text, if there is any. -/
theorem readSnapshotUnlocked_append (hs : Prefixwise Stored h) {p : Text} (ha : Utf8.IsAscii p)
    (hu : Lines.Unbroken p) :
    readSnapshotUnlocked (some (LineLog.encode Entry.line h ++ Utf8.ascii p)) =
      LineLog.readLines (Store.parseRecord none) (after h) (h.length + 1)
        (if p = [] then [] else [p]) := by
  have hplain := plain_of_stored hs
  have hbound : ¬∃ bound ∈ (none : Option Int), bound ≤ 0 := by simp
  rw [readSnapshotUnlocked, Utf8.ofBytes, LineLog.decode_encode_append hplain ha, orRaise_some,
    ok_bind, LineLog.fileLines_terminated_append hplain hu, parseSnapshotLines, if_neg hbound,
    LineLog.readLines_append, ← after_nil, LineLog.readLines_of_reads (reads_of_stored hs),
    ok_bind, List.length_map, Nat.add_comm]

/-- A file that holds a history reads as it. -/
theorem readSnapshotUnlocked_represents (hr : Represents file h) :
    readSnapshotUnlocked file = .ok (after h) := by
  cases file with
  | none =>
    have hn : h = [] := LineLog.encode_eq_nil_iff.mp hr.content.symm
    rw [hn]
    rfl
  | some raw =>
    have hread := readSnapshotUnlocked_append (p := []) hr.stored nofun nofun
    rw [show Utf8.ascii [] = [] from rfl, List.append_nil] at hread
    rw [show raw = LineLog.encode Entry.line h from hr.content, hread]
    rfl

theorem represents_none : Represents none [] := ⟨rfl, prefixwise_nil _⟩

/-! ### What a snapshot says -/

theorem recorded?_eq_some {s : Snapshot} {id : Text} (hr : s.recorded? id = some a) :
    a ∈ s.records ∧ a.attestationId = id :=
  ⟨List.mem_of_find?_eq_some hr, by simpa using List.find?_some hr⟩

theorem binding?_eq_some {s : Snapshot} {id : Text} (hb : s.binding? id = some b) :
    b ∈ s.bindings ∧ b.attestation.attestationId = id :=
  ⟨List.mem_of_find?_eq_some hb, by simpa using List.find?_some hb⟩

/-- A recorded attestation stays recorded. -/
theorem recorded?_append {id : Text} (hr : (after h).recorded? id = some a) (g : List Entry) :
    (after (h ++ g)).recorded? id = some a := by
  simp only [Snapshot.recorded?, after, List.filterMap_append, List.find?_append] at hr ⊢
  rw [hr]
  rfl

/-- A recorded binding stays recorded. -/
theorem binding?_append {id : Text} (hb : (after h).binding? id = some b) (g : List Entry) :
    (after (h ++ g)).binding? id = some b := by
  simp only [Snapshot.binding?, after, List.filterMap_append, List.find?_append] at hb ⊢
  rw [hb]
  rfl

/-- The identifiers of attestations, and those of bindings, occur once. -/
theorem identified_once (hs : Prefixwise Stored h) :
    ((after h).records.map fun a ↦ a.attestationId).Nodup ∧
      ((after h).bindings.map fun b ↦ b.attestation.attestationId).Nodup := by
  induction h using List.reverseRecOn with
  | nil => exact ⟨List.nodup_nil, List.nodup_nil⟩
  | append_singleton h e ih =>
    obtain ⟨hh, he⟩ := prefixwise_append_singleton.mp hs
    obtain ⟨hrecords, hbindings⟩ := ih hh
    cases he with
    | attested linked fresh =>
      rw [after_attested]
      refine ⟨?_, hbindings⟩
      rw [List.map_append, List.nodup_append]
      refine ⟨hrecords, List.nodup_singleton _, ?_⟩
      intro id hid id' hid'
      obtain ⟨a, ha, rfl⟩ := List.mem_map.mp hid
      rw [List.mem_singleton.mp hid']
      simpa using List.find?_eq_none.mp fresh a ha
    | bound writable written recorded fresh =>
      rw [after_bound]
      refine ⟨hrecords, ?_⟩
      rw [List.map_append, List.nodup_append]
      refine ⟨hbindings, List.nodup_singleton _, ?_⟩
      intro id hid id' hid'
      obtain ⟨b, hb, rfl⟩ := List.mem_map.mp hid
      rw [List.mem_singleton.mp hid']
      simpa using List.find?_eq_none.mp fresh b hb

/-- An attestation of a history is found under its identifier. -/
theorem recorded?_of_mem (hs : Prefixwise Stored h) (ha : a ∈ (after h).records) :
    (after h).recorded? a.attestationId = some a := by
  cases hf : (after h).recorded? a.attestationId with
  | none =>
    have hne := List.find?_eq_none.mp hf a ha
    simp at hne
  | some c =>
    obtain ⟨hc, hid⟩ := recorded?_eq_some hf
    rw [List.inj_on_of_nodup_map (identified_once hs).1 hc ha hid]

/-- A binding of a history is found under its identifier. -/
theorem binding?_of_mem (hs : Prefixwise Stored h) (hb : b ∈ (after h).bindings) :
    (after h).binding? b.attestation.attestationId = some b := by
  cases hf : (after h).binding? b.attestation.attestationId with
  | none =>
    have hne := List.find?_eq_none.mp hf b hb
    simp at hne
  | some c =>
    obtain ⟨hc, hid⟩ := binding?_eq_some hf
    rw [List.inj_on_of_nodup_map (identified_once hs).2 hc hb hid]

/-! ### Writing -/

private theorem toBytes_line (hs : Stored h e) :
    Utf8.toBytes (e.line ++ [Lines.newline]) = .ok (LineLog.encode Entry.line [e]) :=
  hs.plain.toBytes_line

private theorem attestationLine_eq (hs : Stored h (.attested a)) :
    attestationLine a = .ok (LineLog.encode Entry.line [.attested a]) := toBytes_line hs

private theorem bindingLine_eq (hs : Stored h (.bound b)) :
    bindingLine b = .ok (LineLog.encode Entry.line [.bound b]) := by
  have hbytes := toBytes_line hs
  cases hs with
  | bound writable written recorded fresh =>
    obtain ⟨record, hr⟩ := written
    rw [Entry.line, Entry.record, hr] at hbytes
    rw [bindingLine, hr, ok_bind]
    exact hbytes

/-- Entries written after a history leave a file that holds all of them. -/
theorem Represents.extend (hr : Represents file h) (hg : Prefixwise Stored (h ++ g)) :
    Represents (appendBytes file (some (LineLog.encode Entry.line g))) (h ++ g) :=
  ⟨by rw [appendBytes, Option.getD_some, hr.content, LineLog.encode_append], hg⟩

/-- An attestation the store would add. -/
structure Fresh (h : List Entry) (a : ReliabilityOutcomeAttestation) : Prop where
  unrecorded : (after h).recorded? a.attestationId = none
  linked : a.previousDigest = (after h).tipDigest

theorem Fresh.stored (hf : Fresh h a) : Stored h (.attested a) :=
  .attested hf.linked hf.unrecorded

/-- A fresh attestation is written. -/
theorem append_of_fresh (hr : Represents file h) (hf : Fresh h a) :
    append file a =
      (.ok a, appendBytes file (some (LineLog.encode Entry.line [.attested a]))) := by
  simp only [append, readSnapshotUnlocked_represents hr, ok_bind, planAppend, hf.unrecorded,
    hf.linked, decide_true, require_true, attestationLine_eq hf.stored]
  rfl

/-- A recorded identity answers with what is recorded, or raises when the contents differ. -/
theorem append_of_recorded (hr : Represents file h) {c : ReliabilityOutcomeAttestation}
    (hc : (after h).recorded? a.attestationId = some c) :
    append file a = (if unchained c = unchained a then .ok c else .error identityCollision,
      file) := by
  simp only [append, readSnapshotUnlocked_represents hr, ok_bind, planAppend, hc]
  by_cases heq : unchained c = unchained a
  · rw [if_pos heq, decide_eq_true heq]
    rfl
  · rw [if_neg heq, decide_eq_false heq]
    rfl

/-- An attestation that does not follow the tip is refused. -/
theorem append_of_unlinked (hr : Represents file h)
    (hnone : (after h).recorded? a.attestationId = none)
    (hlink : a.previousDigest ≠ (after h).tipDigest) :
    append file a = (.error tipMismatch, file) := by
  simp only [append, readSnapshotUnlocked_represents hr, ok_bind, planAppend, hnone,
    decide_eq_false hlink]
  rfl

/-- What one append does to a history. -/
theorem append_cases (hr : Represents file h) (a : ReliabilityOutcomeAttestation) :
    (Fresh h a ∧ append file a =
      (.ok a, appendBytes file (some (LineLog.encode Entry.line [.attested a])))) ∨
    (∃ c, (after h).recorded? a.attestationId = some c ∧ append file a = (.ok c, file)) ∨
    ∃ e, append file a = (.error e, file) := by
  cases hc : (after h).recorded? a.attestationId with
  | some c =>
    right
    rw [append_of_recorded hr hc]
    by_cases heq : unchained c = unchained a
    · left
      exact ⟨c, rfl, by rw [if_pos heq]⟩
    · right
      exact ⟨identityCollision, by rw [if_neg heq]⟩
  | none =>
    by_cases hlink : a.previousDigest = (after h).tipDigest
    · left
      exact ⟨⟨hc, hlink⟩, append_of_fresh hr ⟨hc, hlink⟩⟩
    · right
      right
      exact ⟨tipMismatch, append_of_unlinked hr hc hlink⟩

/-- The entries a binding adds: itself, and its attestation where that is not recorded yet. -/
def added (h : List Entry) (b : SignedReliabilityOutcomeBinding) : List Entry :=
  if ((after h).recorded? b.attestation.attestationId).isSome then [.bound b]
  else [.attested b.attestation, .bound b]

/-- A binding the store would add. -/
structure Unbound (h : List Entry) (b : SignedReliabilityOutcomeBinding) : Prop where
  writable : Json.Writable (.obj b.envelope.attestation)
  written : ∃ record, b.toRecordDict = .ok record
  recorded : (after h).recorded? b.attestation.attestationId = some b.attestation ∨
    Fresh h b.attestation
  unbound : (after h).binding? b.attestation.attestationId = none

private theorem Fresh.recorded (hf : Fresh h a) :
    (after (h ++ [.attested a])).recorded? a.attestationId = some a := by
  have hnone := hf.unrecorded
  simp only [Snapshot.recorded?, after_attested, List.find?_append] at hnone ⊢
  rw [hnone]
  simp

/-- The entries a binding adds are admitted. -/
theorem Unbound.stored (hu : Unbound h b) (hs : Prefixwise Stored h) :
    Prefixwise Stored (h ++ added h b) := by
  rcases hu.recorded with hrec | hfresh
  · rw [added, hrec, Option.isSome_some, if_pos rfl]
    exact prefixwise_append_singleton.mpr ⟨hs, .bound hu.writable hu.written hrec hu.unbound⟩
  · rw [added, hfresh.unrecorded, Option.isSome_none, if_neg Bool.false_ne_true,
      show [Entry.attested b.attestation, .bound b] = [.attested b.attestation] ++ [.bound b] from
        rfl, ← List.append_assoc]
    refine prefixwise_append_singleton.mpr
      ⟨prefixwise_append_singleton.mpr ⟨hs, hfresh.stored⟩,
        .bound hu.writable hu.written hfresh.recorded ?_⟩
    simp only [Snapshot.binding?, after_attested]
    exact hu.unbound

/-- The plan for a binding to add: its entries. -/
theorem planAppendSigned_of_unbound (hs : Prefixwise Stored h) (hu : Unbound h b) :
    planAppendSigned (after h) b = .ok (b, some (LineLog.encode Entry.line (added h b))) := by
  have hstored := hu.stored hs
  rcases hu.recorded with hrec | hfresh
  · rw [added, hrec, Option.isSome_some, if_pos rfl] at hstored ⊢
    have hline := bindingLine_eq (prefixwise_append_singleton.mp hstored).2
    simp only [planAppendSigned, hrec, Option.mem_def, Option.some.injEq, forall_eq', decide_true,
      require_true, ok_bind, hu.unbound, Option.isSome_some, ↓reduceIte, hline]
    rfl
  · rw [added, hfresh.unrecorded, Option.isSome_none, if_neg Bool.false_ne_true,
      show [Entry.attested b.attestation, .bound b] = [.attested b.attestation] ++ [.bound b] from
        rfl] at hstored ⊢
    rw [← List.append_assoc] at hstored
    have hline := bindingLine_eq (prefixwise_append_singleton.mp hstored).2
    simp only [planAppendSigned, hfresh.unrecorded, Option.mem_def, reduceCtorEq,
      IsEmpty.forall_iff, implies_true, decide_true, require_true, ok_bind, hu.unbound,
      Option.isSome_none, Bool.false_eq_true, ↓reduceIte, hfresh.linked,
      attestationLine_eq hfresh.stored, hline, LineLog.encode_append]
    rfl

/-- A binding to add is written. -/
theorem appendSigned_of_unbound (hr : Represents file h) (hu : Unbound h b) :
    appendSigned file b =
      (.ok b, appendBytes file (some (LineLog.encode Entry.line (added h b)))) := by
  rw [appendSigned, readSnapshotUnlocked_represents hr, ok_bind,
    planAppendSigned_of_unbound hr.stored hu]
  rfl

/-- A recorded identity with another attestation is refused. -/
theorem appendSigned_of_collision (hr : Represents file h) {c : ReliabilityOutcomeAttestation}
    (hc : (after h).recorded? b.attestation.attestationId = some c) (hne : c ≠ b.attestation) :
    appendSigned file b = (.error identityCollision, file) := by
  simp only [appendSigned, readSnapshotUnlocked_represents hr, ok_bind, planAppendSigned, hc,
    Option.mem_def, Option.some.injEq, forall_eq', decide_eq_false hne]
  rfl

/-- A bound attestation answers with the recorded binding, or raises when another one is
given. -/
theorem appendSigned_of_bound (hr : Represents file h)
    (hrec : (after h).recorded? b.attestation.attestationId = some b.attestation)
    {c : SignedReliabilityOutcomeBinding}
    (hc : (after h).binding? b.attestation.attestationId = some c) :
    appendSigned file b = (if c = b then .ok c else
      .error ⟨.valueError, lit "signed reliability attestation binding collision."⟩, file) := by
  simp only [appendSigned, readSnapshotUnlocked_represents hr, ok_bind, planAppendSigned, hrec,
    Option.mem_def, Option.some.injEq, forall_eq', decide_true, require_true, hc]
  by_cases heq : c = b
  · rw [if_pos heq, decide_eq_true heq]
    rfl
  · rw [if_neg heq, decide_eq_false heq]
    rfl

/-- A bound attestation is recorded. -/
theorem recorded?_of_bound (hs : Prefixwise Stored h) (hb : b ∈ (after h).bindings) :
    (after h).recorded? b.attestation.attestationId = some b.attestation := by
  induction h using List.reverseRecOn with
  | nil => cases hb
  | append_singleton h e ih =>
    obtain ⟨hh, he⟩ := prefixwise_append_singleton.mp hs
    cases he with
    | attested linked fresh =>
      rw [after_attested] at hb
      exact recorded?_append (ih hh hb) _
    | bound writable written recorded fresh =>
      rw [after_bound] at hb
      rcases List.mem_append.mp hb with hb | hb
      · exact recorded?_append (ih hh hb) _
      · rw [List.mem_singleton.mp hb]
        exact recorded?_append recorded _

private theorem binding?_of_unrecorded (hs : Prefixwise Stored h) {id : Text}
    (hnone : (after h).recorded? id = none) : (after h).binding? id = none := by
  cases hb : (after h).binding? id with
  | none => rfl
  | some c =>
    obtain ⟨hc, rfl⟩ := binding?_eq_some hb
    rw [recorded?_of_bound hs hc] at hnone
    cases hnone

/-- What one signed append does to a history. -/
theorem appendSigned_cases (hr : Represents file h) (b : SignedReliabilityOutcomeBinding)
    (hw : Json.Writable (.obj b.envelope.attestation)) :
    (Unbound h b ∧ appendSigned file b =
      (.ok b, appendBytes file (some (LineLog.encode Entry.line (added h b))))) ∨
    ((after h).binding? b.attestation.attestationId = some b ∧
      appendSigned file b = (.ok b, file)) ∨
    ∃ e, appendSigned file b = (.error e, file) := by
  have hread := readSnapshotUnlocked_represents hr
  cases hc : (after h).recorded? b.attestation.attestationId with
  | some c =>
    by_cases heq : c = b.attestation
    · subst heq
      cases hd : (after h).binding? b.attestation.attestationId with
      | some d =>
        right
        rw [appendSigned_of_bound hr hc hd]
        by_cases hdb : d = b
        · left
          exact ⟨congrArg some hdb, by rw [if_pos hdb, hdb]⟩
        · right
          exact ⟨_, by rw [if_neg hdb]⟩
      | none =>
        cases hwritten : b.toRecordDict with
        | ok record =>
          left
          have hu : Unbound h b := ⟨hw, ⟨record, hwritten⟩, .inl hc, hd⟩
          exact ⟨hu, appendSigned_of_unbound hr hu⟩
        | error e =>
          right
          right
          refine ⟨e, ?_⟩
          simp only [appendSigned, hread, ok_bind, planAppendSigned, hc, Option.mem_def,
            Option.some.injEq, forall_eq', decide_true, require_true, hd, Option.isSome_some,
            ↓reduceIte, bindingLine, hwritten, error_bind]
          rfl
    · right
      right
      exact ⟨_, appendSigned_of_collision hr hc heq⟩
  | none =>
    have hd := binding?_of_unrecorded hr.stored hc
    by_cases hlink : b.attestation.previousDigest = (after h).tipDigest
    · cases hwritten : b.toRecordDict with
      | ok record =>
        left
        have hu : Unbound h b := ⟨hw, ⟨record, hwritten⟩, .inr ⟨hc, hlink⟩, hd⟩
        exact ⟨hu, appendSigned_of_unbound hr hu⟩
      | error e =>
        right
        right
        refine ⟨e, ?_⟩
        simp only [appendSigned, hread, ok_bind, planAppendSigned, hc, Option.mem_def,
          reduceCtorEq, IsEmpty.forall_iff, implies_true, decide_true, require_true, hd,
          Option.isSome_none, Bool.false_eq_true, ↓reduceIte, hlink,
          attestationLine_eq (Fresh.stored ⟨hc, hlink⟩), bindingLine, hwritten, error_bind]
        rfl
    · right
      right
      refine ⟨tipMismatch, ?_⟩
      simp only [appendSigned, hread, ok_bind, planAppendSigned, hc, Option.mem_def, reduceCtorEq,
        IsEmpty.forall_iff, implies_true, decide_true, require_true, hd, Option.isSome_none,
        Bool.false_eq_true, ↓reduceIte, decide_eq_false hlink]
      rfl

end Store
end StateWake.Attestation
