import StateWake.Base.Forest
import StateWake.Review.StatementStore
import Mathlib.Data.Set.Function

/-!
# Retries and corrections of review statements

`adapters/review_statement.py:45–150`, `domain/review_statement.py:282–343`. A request is
fingerprinted by the digest of its ASCII form, in which a surrogate pair and the character it
stands for are the same. Without pairs the fingerprint tells requests apart: a retry gets its own
record back, a conflicting call is refused, and every correction names one earlier statement of
the same target, report and author.
-/

namespace StateWake.Review

open StateWake.Base Text Utils

/-! ### The fingerprint -/

namespace ReviewRequest

/-- No text of a request holds a surrogate pair. -/
def Unpaired (r : ReviewRequest) : Prop := ∀ s ∈ Json.texts (.obj r.payload), PairFree s

variable {a b : ReviewRequest}

theorem writable_payload (r : ReviewRequest) : Json.Writable (.obj r.payload) := by
  simp [payload, Dict.Distinct]

/-- The canonical form tells requests apart. -/
theorem eq_of_canonical (ha : a.Unpaired) (hb : b.Unpaired) {content : Bytes}
    (hca : canonical a.payload = .ok content) (hcb : canonical b.payload = .ok content) :
    a = b := by
  rw [canonical, Utf8.toBytes, orRaise_eq_ok] at hca hcb
  have hread := Json.loads_dumps_obj Json.compact a.writable_payload
  rw [Utf8.encode_inj hca hcb, Json.loads_dumps_obj Json.compact b.writable_payload,
    Except.ok.injEq, Json.obj.injEq] at hread
  have hmember : ∀ (k : Text) (v w : Json), (k, v) ∈ a.payload → (k, w) ∈ b.payload →
      Json.sortKeys v = Json.sortKeys w := by
    intro k v w hv hw
    have hv' := Json.get?_readMembers_of_pairFree Json.compact a.writable_payload ha
      ((Dict.get?_eq_some_iff a.writable_payload.1).mpr hv)
    rw [← hread, Json.get?_readMembers_of_pairFree Json.compact b.writable_payload hb
      ((Dict.get?_eq_some_iff b.writable_payload.1).mpr hw), Option.some.injEq] at hv'
    exact hv'.symm
  have htext : ∀ (k s t : Text), (k, .str s) ∈ a.payload → (k, .str t) ∈ b.payload → s = t :=
    fun k s t hs ht ↦ Json.str.inj (hmember k _ _ hs ht)
  have hoption : ∀ (k : Text) (o o' : Option Text), (k, optionJson o) ∈ a.payload →
      (k, optionJson o') ∈ b.payload → o = o' := by
    intro k o o' ho ho'
    have heq := hmember k _ _ ho ho'
    cases o <;> cases o' <;> simp_all [optionJson]
  have hrefs : a.findingRefs = b.findingRefs := by
    have heq := hmember (lit "finding_refs") (.arr (a.findingRefs.map .str))
      (.arr (b.findingRefs.map .str)) (by simp [payload]) (by simp [payload])
    rw [Json.sortKeys_arr, Json.sortKeys_arr, List.map_map, List.map_map, Json.arr.injEq] at heq
    exact List.map_injective_iff.mpr (fun s t ↦ Json.str.inj) heq
  have htarget := htext (lit "target_record_id") a.targetRecordId b.targetRecordId
    (by simp [payload]) (by simp [payload])
  have hcandidate := htext (lit "candidate_identity") a.candidateIdentity b.candidateIdentity
    (by simp [payload]) (by simp [payload])
  have hcandidateDigest := htext (lit "candidate_digest") a.candidateDigest b.candidateDigest
    (by simp [payload]) (by simp [payload])
  have hreport := htext (lit "report_digest") a.reportDigest b.reportDigest
    (by simp [payload]) (by simp [payload])
  have hprofile := htext (lit "profile_id") a.profileId b.profileId
    (by simp [payload]) (by simp [payload])
  have hversion := htext (lit "profile_version") a.profileVersion b.profileVersion
    (by simp [payload]) (by simp [payload])
  have hactor := htext (lit "actor_identity_ref") a.actorIdentityRef b.actorIdentityRef
    (by simp [payload]) (by simp [payload])
  have hrole := htext (lit "actor_role") a.actorRole b.actorRole
    (by simp [payload]) (by simp [payload])
  have hcategory := htext (lit "category") a.category b.category
    (by simp [payload]) (by simp [payload])
  have hstatement := htext (lit "statement") a.statement b.statement
    (by simp [payload]) (by simp [payload])
  have hlimitation := hoption (lit "limitation") a.limitation b.limitation
    (by simp [payload]) (by simp [payload])
  have hscope := htext (lit "scope") a.scope b.scope
    (by simp [payload]) (by simp [payload])
  have hsupersedes := hoption (lit "supersedes_digest") a.supersedesDigest b.supersedesDigest
    (by simp [payload]) (by simp [payload])
  obtain ⟨⟩ := a
  obtain ⟨⟩ := b
  simp only [mk.injEq]
  exact ⟨htarget, hcandidate, hcandidateDigest, hreport, hprofile, hversion, hactor, hrole,
    hcategory, hstatement, hrefs, hlimitation, hscope, hsupersedes⟩

end ReviewRequest

namespace StatementStore

open RegisterHistory Forest
open ReviewStatementRecord (create)

/-! ### Attempts -/

/-- What becomes of the line of a new record, `adapters/review_statement.py:135–149`: it is
written whole, or the system raises at opening the file, before the first byte, part of the way,
or after the last byte. -/
inductive Write where
  | whole
  | unopened (error : PyError)
  | refused (error : PyError)
  | torn (error : PyError) (more : Nat)
  | unsynced (error : PyError)

/-- A call and the system's answer to what it writes. -/
structure Attempt extends Call where
  write : Write

/-- The file after a write; a torn line has its first byte and not its last. -/
def Write.apply (file : Option Bytes) (raw : Bytes) : Write → Option Bytes
  | whole | unsynced _ => some (file.getD [] ++ raw)
  | unopened _ => file
  | refused _ => some (file.getD [])
  | torn _ more => some (file.getD [] ++ raw.take (min (more + 1) (raw.length - 1)))

/-- What the system raises. -/
def Write.outcome : Write → Except PyError Unit
  | whole => .ok ()
  | unopened e | refused e | torn e _ | unsynced e => .error e

/-- `append` on a system that may fail, `adapters/review_statement.py:45–150`. -/
def attempt (file : Option Bytes) (a : Attempt) :
    Except PyError (ReviewStatementRecord × Bool) × Option Bytes :=
  match plan file a.toCall with
  | .error e => (.error e, file)
  | .ok (existing, none) => (.ok (existing, false), file)
  | .ok (record, some raw) => (a.write.outcome.map fun _ ↦ (record, true), a.write.apply file raw)

/-- On a system that does not fail, an attempt is an append. -/
theorem attempt_whole {file : Option Bytes} {a : Attempt} (h : a.write = .whole) :
    attempt file a = append file a.toCall := by
  rw [attempt, append, h]
  rfl

/-- A statement of the same target, report and author. -/
def Corrects (r : ReviewRequest) (p : ReviewStatementRecord) : Prop :=
  p.targetRecordId = r.targetRecordId ∧ p.reportDigest = r.reportDigest ∧
    p.actorIdentityRef = r.actorIdentityRef

/-- The records a store is read as are kept, and one call to it is answered exactly. -/
structure Exact (file : Option Bytes) (records : List ReviewStatementRecord) (a : Attempt) :
    Prop where
  read : readUnlocked file = .ok records
  grows : file.getD [] <+: (attempt file a).2.getD []
  keeps : ∃ more, readUnlocked (attempt file a).2 = .ok (records ++ more)
  keys : (records.map fun r ↦ r.idempotencyKey).Nodup
  retried : ∀ record, (attempt file a).1 = .ok (record, false) →
    (attempt file a).2 = file ∧ record ∈ records ∧ record.idempotencyKey = a.idempotencyKey ∧
      record.toReviewRequest = a.toReviewRequest
  conflicts : ∀ r ∈ records, r.idempotencyKey = a.idempotencyKey →
    r.toReviewRequest ≠ a.toReviewRequest →
      (∃ message, (attempt file a).1 = .error ⟨.idempotencyConflictError, message⟩) ∧
        (attempt file a).2 = file
  corrects : ∀ (i j : Nat) (r p : ReviewStatementRecord), records[i]? = some r →
    records[j]? = some p → r.supersedesDigest = some p.digest → j < i ∧ Corrects r.toReviewRequest p
  forest : IsForest (fun r ↦ r.digest) (fun r ↦ r.supersedesDigest) records

/-- Every text an attempt is given is trimmed. -/
def Attempt.Trimmed (a : Attempt) : Prop := ∀ s ∈ a.texts, strip s = s

/-- No text an attempt is given holds a surrogate pair. -/
def Attempt.Unpaired (a : Attempt) : Prop :=
  a.toReviewRequest.Unpaired ∧ PairFree a.idempotencyKey

/-- No line is torn. -/
def Attempt.Untorn (a : Attempt) : Prop := ∀ e more, a.write ≠ .torn e more

/-- The contents whose digests are the fingerprints of requests. -/
def requestContents (attempts : List Attempt) : Set Bytes :=
  {content | ∃ a ∈ attempts, canonical a.payload = .ok content}

/-- The contents whose digests are those of records. -/
def recordContents (records : List ReviewStatementRecord) : Set Bytes :=
  {content | ∃ r ∈ records, ∃ payload, r.unsignedPayload = .ok payload ∧
    canonical payload = .ok content}

/-! ### What a call writes -/

/-- A record after the ones before it. -/
structure Kept (h : List ReviewStatementRecord) (r : ReviewStatementRecord) : Prop where
  fingerprint : reviewRequestFingerprint r.toReviewRequest = .ok r.requestFingerprint
  fresh : ∀ p ∈ h, p.idempotencyKey ≠ r.idempotencyKey
  supersedes : ∀ digest ∈ r.supersedesDigest, ∃ p ∈ h, p.digest = digest ∧
    Corrects r.toReviewRequest p

variable {file after : Option Bytes} {h : List ReviewStatementRecord}
  {record : ReviewStatementRecord} {call : Call}

theorem of_checkSupersedes {r : ReviewRequest} (hc : checkSupersedes h r = .ok ()) :
    ∀ digest ∈ r.supersedesDigest, ∃ p ∈ h, p.digest = digest ∧ Corrects r p := by
  intro digest hdigest
  rw [checkSupersedes, Option.mem_def.mp hdigest] at hc
  simp only [bind_eq_ok, orRaise_eq_ok] at hc
  obtain ⟨p, hp, hsame⟩ := hc
  have heq : p.digest = digest := by simpa using List.find?_some hp
  rw [require_eq_ok, decide_eq_true_eq] at hsame
  exact ⟨p, List.mem_of_find?_eq_some hp, heq, hsame⟩

/-- A new record holds every argument of its call, and its fingerprint. -/
private theorem fields_of_newRecord {fingerprint : Text} {raw : Bytes}
    (hnew : newRecord h fingerprint call = .ok (record, raw)) :
    record.toReviewRequest = call.toReviewRequest ∧ record.idempotencyKey = call.idempotencyKey ∧
      record.requestFingerprint = fingerprint := by
  simp only [newRecord, ReviewStatementRecord.withReviewDigest, bind_eq_ok,
    ReviewStatementRecord.create_eq_ok] at hnew
  obtain ⟨_, -, unsigned, hunsigned, made, ⟨digest, -, hmade⟩, _, -, _, -, heq⟩ := hnew
  rw [hunsigned] at hmade
  have hrecord : record = made := (Prod.ext_iff.mp (Except.ok.inj heq)).1.symm
  rw [hrecord, hmade]
  exact ⟨rfl, rfl, rfl⟩

/-- A new record is kept after the ones before it and holds every argument of its call. -/
theorem kept_of_append (hr : Represents file h)
    (happend : append file call = (.ok (record, true), after)) :
    Kept h record ∧ record.toReviewRequest = call.toReviewRequest ∧
      record.idempotencyKey = call.idempotencyKey := by
  have haccepts := (append_new_iff hr).mp ⟨record, after, happend⟩
  obtain ⟨fingerprint, raw, hfingerprint, hnew⟩ : ∃ fingerprint raw,
      reviewRequestFingerprint call.toReviewRequest = .ok fingerprint ∧
        newRecord h fingerprint call = .ok (record, raw) := by
    rw [append] at happend
    split at happend
    · cases happend
    · cases happend
    · next new raw hplan =>
      simp only [Prod.mk.injEq, Except.ok.injEq, and_true] at happend
      rw [plan, readUnlocked_represents hr] at hplan
      simp only [bind_eq_ok, Except.ok.injEq, exists_eq_left'] at hplan
      obtain ⟨fingerprint, hfingerprint, hplan⟩ := hplan
      split at hplan
      · simp only [bind_eq_ok] at hplan
        obtain ⟨-, -, hplan⟩ := hplan
        cases hplan
      · simp only [bind_eq_ok] at hplan
        obtain ⟨made, hnew, heq⟩ := hplan
        refine ⟨fingerprint, made.2, hfingerprint, ?_⟩
        have hmade : made.1 = new := (Prod.ext_iff.mp (Except.ok.inj heq)).1
        rw [hnew, ← happend.1, ← hmade]
  obtain ⟨hrequest, hkey, hprint⟩ := fields_of_newRecord hnew
  refine ⟨⟨?_, ?_, ?_⟩, hrequest, hkey⟩
  · rw [hrequest, hfingerprint, hprint]
  · rw [hkey]
    exact haccepts.fresh
  · rw [hrequest]
    exact of_checkSupersedes haccepts.supersedes

/-! ### Runs -/

variable {a : Attempt} {attempts : List Attempt}

theorem Attempt.stable (ht : a.Trimmed) (hu : a.Unpaired) : a.toCall.Stable := by
  intro s hs
  refine ⟨ht s hs, ?_⟩
  simp only [Call.texts, List.mem_append, List.mem_cons, List.not_mem_nil, or_false,
    Option.mem_toList] at hs
  by_cases hkey : s = a.idempotencyKey
  · rw [hkey]
    exact hu.2
  · apply hu.1 s
    rw [Json.mem_texts_obj]
    rcases hs with (hs | hs) | hs
    · simp only [ReviewRequest.payload, List.mem_cons, exists_eq_or_imp, Json.mem_texts_str]
      tauto
    · refine ⟨(lit "finding_refs", .arr (a.findingRefs.map .str)), by simp [ReviewRequest.payload],
        .inr (Json.mem_texts_arr.mpr ⟨.str s, List.mem_map_of_mem hs, ?_⟩)⟩
      exact Json.mem_texts_str.mpr rfl
    · refine ⟨(lit "limitation", optionJson a.limitation), by simp [ReviewRequest.payload], .inr ?_⟩
      rw [hs]
      exact Json.mem_texts_str.mpr rfl

theorem Represents.congr {file' : Option Bytes} (hr : Represents file h)
    (hsame : file'.getD [] = file.getD []) : Represents file' h :=
  ⟨hsame.trans hr.content, hr.stored⟩

/-- An untorn attempt leaves what the append leaves or what it found. -/
private theorem file_of_attempt (ha : a.Untorn) : (attempt file a).2 = (append file a.toCall).2 ∨
    (attempt file a).2.getD [] = file.getD [] := by
  rw [attempt, append]
  cases plan file a.toCall with
  | error e => exact .inl rfl
  | ok planned =>
    obtain ⟨record, _ | raw⟩ := planned
    · exact .inl rfl
    · cases hw : a.write with
      | whole | unsynced => exact .inl rfl
      | unopened | refused => exact .inr rfl
      | torn e more => exact absurd hw (ha e more)

/-- An attempt writes after what is there. -/
theorem grows_attempt (file : Option Bytes) (a : Attempt) :
    file.getD [] <+: (attempt file a).2.getD [] := by
  rw [attempt]
  split
  · exact List.prefix_rfl
  · exact List.prefix_rfl
  · cases a.write with
    | whole | unsynced | torn => exact List.prefix_append _ _
    | unopened | refused => exact List.prefix_rfl

/-- An attempt keeps the records and may add one, of its request. -/
theorem represents_attempt (hr : Represents file h) (hk : Prefixwise Kept h)
    (hs : a.toCall.Stable) (ha : a.Untorn) : ∃ more, Represents (attempt file a).2 (h ++ more) ∧
      Prefixwise Kept (h ++ more) ∧ ∀ r ∈ more, r.toReviewRequest = a.toReviewRequest := by
  have hsame : ∀ {file' : Option Bytes}, file'.getD [] = file.getD [] →
      ∃ more, Represents file' (h ++ more) ∧ Prefixwise Kept (h ++ more) ∧
        ∀ r ∈ more, r.toReviewRequest = a.toReviewRequest := by
    intro file' hfile
    refine ⟨[], ?_, ?_, fun r hmem ↦ absurd hmem List.not_mem_nil⟩
    · rw [List.append_nil]
      exact hr.congr hfile
    · rwa [List.append_nil]
  rcases file_of_attempt ha with hfile | hfile
  · by_cases hnew : ∃ record after, append file a.toCall = (.ok (record, true), after)
    · obtain ⟨record, after, happend⟩ := hnew
      obtain ⟨now, hrepresents⟩ := represents_append_new hr happend hs
      obtain ⟨hkept, hrequest, -⟩ := kept_of_append hr happend
      refine ⟨[inUtc record now], by rwa [hfile, happend], ?_, ?_⟩
      · exact prefixwise_append_singleton.mpr ⟨hk, hkept.fingerprint, hkept.fresh, hkept.supersedes⟩
      · intro r hmem
        rw [List.mem_singleton.mp hmem]
        exact hrequest
    · exact hsame (by rw [hfile, append_old hnew])
  · exact hsame hfile

/-- What a run of attempts leaves. -/
theorem represents_run (hall : ∀ a ∈ attempts, a.toCall.Stable ∧ a.Untorn) :
    ∃ h, Represents (Calls.run attempt none attempts) h ∧ Prefixwise Kept h ∧
      ∀ r ∈ h, ∃ a ∈ attempts, r.toReviewRequest = a.toReviewRequest := by
  induction attempts using List.reverseRecOn with
  | nil => exact ⟨[], represents_none, prefixwise_nil _, fun r hmem ↦ absurd hmem List.not_mem_nil⟩
  | append_singleton attempts a ih =>
    obtain ⟨h, hr, hk, hfrom⟩ := ih fun b hb ↦ hall b (List.mem_append_left _ hb)
    obtain ⟨hs, ha⟩ := hall a (List.mem_append_right _ (List.mem_singleton_self a))
    obtain ⟨more, hr', hk', hmore⟩ := represents_attempt hr hk hs ha
    refine ⟨h ++ more, ?_, hk', ?_⟩
    · rw [Calls.run_append]
      exact hr'
    · intro r hmem
      rcases List.mem_append.mp hmem with hmem | hmem
      · obtain ⟨b, hb, heq⟩ := hfrom r hmem
        exact ⟨b, List.mem_append_left _ hb, heq⟩
      · exact ⟨a, List.mem_append_right _ (List.mem_singleton_self a), hmore r hmem⟩

/-! ### What a run of attempts keeps -/

section Contents

variable {hashed : Set Bytes} (hinj : Set.InjOn sha256 hashed)
include hinj

/-- Requests of one fingerprint are equal. -/
private theorem request_unique {q r : ReviewRequest} (hq : q.Unpaired) (hr : r.Unpaired)
    (hhashed : ∀ content, canonical q.payload = .ok content ∨ canonical r.payload = .ok content →
      content ∈ hashed) {fingerprint : Text} (hfq : reviewRequestFingerprint q = .ok fingerprint)
    (hfr : reviewRequestFingerprint r = .ok fingerprint) : q = r := by
  simp only [reviewRequestFingerprint, bind_eq_ok] at hfq hfr
  obtain ⟨content, hcontent, heq⟩ := hfq
  obtain ⟨content', hcontent', heq'⟩ := hfr
  have hsame := hinj (hhashed content (.inl hcontent)) (hhashed content' (.inr hcontent'))
    ((Except.ok.inj heq).trans (Except.ok.inj heq').symm)
  exact ReviewRequest.eq_of_canonical hq hr hcontent (hsame ▸ hcontent')

/-- Records of one digest have one number. -/
private theorem sequence_unique {p r : ReviewStatementRecord}
    (hp : p.contentDigest = .ok p.digest) (hr : r.contentDigest = .ok r.digest)
    (hhashed : ∀ payload content,
      p.unsignedPayload = .ok payload ∨ r.unsignedPayload = .ok payload →
        canonical payload = .ok content → content ∈ hashed) (heq : p.digest = r.digest) :
    p.sequence = r.sequence := by
  simp only [ReviewStatementFields.contentDigest, bind_eq_ok] at hp hr
  obtain ⟨payload, hpayload, content, hcontent, hdigest⟩ := hp
  obtain ⟨payload', hpayload', content', hcontent', hdigest'⟩ := hr
  have hsame := hinj (hhashed payload content (.inl hpayload) hcontent)
    (hhashed payload' content' (.inr hpayload') hcontent')
    (by rw [Except.ok.inj hdigest, Except.ok.inj hdigest', heq])
  simp only [ReviewStatementFields.unsignedPayload, bind_eq_ok] at hpayload hpayload'
  obtain ⟨now, -, hpayload⟩ := hpayload
  obtain ⟨now', -, hpayload'⟩ := hpayload'
  cases hpayload
  cases hpayload'
  rw [← hsame, canonical, Utf8.toBytes, orRaise_eq_ok] at hcontent'
  rw [canonical, Utf8.toBytes, orRaise_eq_ok] at hcontent
  have hwritable : ∀ (f : ReviewStatementFields) (t : Datetime),
      Json.Writable (.obj (f.payloadAt t)) := by
    simp [ReviewStatementFields.payloadAt, Dict.Distinct]
  have hread := Json.loads_dumps_obj Json.compact (hwritable p.toReviewStatementFields now)
  rw [Utf8.encode_inj hcontent hcontent', Json.loads_dumps_obj Json.compact (hwritable _ _),
    Except.ok.injEq, Json.obj.injEq] at hread
  have hsequence : ∀ (f : ReviewStatementFields) (t : Datetime),
      (Json.readMembers Json.compact (f.payloadAt t)).get? (lit "sequence") =
        some (.int f.sequence) := by
    intro f t
    rw [Json.get?_readMembers Json.compact (hwritable f t).1,
      (Dict.get?_eq_some_iff (hwritable f t).1).mpr
        (show (lit "sequence", Json.int f.sequence) ∈ _ by simp [ReviewStatementFields.payloadAt])]
    simp
  have hnumber := hsequence p.toReviewStatementFields now
  rw [← hread, hsequence] at hnumber
  exact (Json.int.inj (Option.some.inj hnumber)).symm

/-- Records are told apart by their digests. -/
private theorem nodup_digests (hs : Prefixwise Stored h)
    (hhashed : ∀ r ∈ h, ∀ payload content, r.unsignedPayload = .ok payload →
      canonical payload = .ok content → content ∈ hashed) :
    (h.map fun r ↦ r.digest).Nodup := by
  apply nodup_of_prefixwise
  intro pre r post heq p hp hdigest
  obtain ⟨before, between, hpre⟩ := List.append_of_mem hp
  have hr := hs pre r post heq
  have hp' := hs before p (between ++ r :: post) (by rw [heq, hpre, List.append_assoc]; rfl)
  have hmem : r ∈ h := by
    rw [heq]
    exact List.mem_append_right _ List.mem_cons_self
  have hmem' : p ∈ h := by
    rw [heq]
    exact List.mem_append_left _ hp
  have hsequence := sequence_unique hinj hp'.digested hr.digested (fun payload content h ↦
    h.elim (hhashed p hmem' payload content) (hhashed r hmem payload content)) hdigest
  rw [hp'.sequence, hr.sequence, hpre, List.length_append, List.length_cons] at hsequence
  omega

end Contents

/-- What a call is answered that reuses a key. -/
private theorem attempt_of_reused (hr : Represents file h) {existing : ReviewStatementRecord}
    (hfind : h.find? (fun r ↦ decide (r.idempotencyKey = a.idempotencyKey)) = some existing)
    {fingerprint : Text}
    (hfingerprint : reviewRequestFingerprint a.toReviewRequest = .ok fingerprint) :
    attempt file a = if existing.requestFingerprint = fingerprint then (.ok (existing, false), file)
      else (.error ⟨.idempotencyConflictError,
        lit "idempotency key was already used for a different review request"⟩, file) := by
  have hplan : plan file a.toCall = if existing.requestFingerprint = fingerprint then
      .ok (existing, none) else .error ⟨.idempotencyConflictError,
        lit "idempotency key was already used for a different review request"⟩ := by
    rw [plan, hfingerprint, ok_bind, readUnlocked_represents hr, ok_bind, hfind]
    dsimp only
    split
    · next heq =>
      rw [decide_eq_true heq, require_true]
      rfl
    · next hne =>
      rw [decide_eq_false hne]
      rfl
  rw [attempt, hplan]
  split
  · next heq => split at heq <;> simp_all
  · next heq => split at heq <;> simp_all
  · next heq => split at heq <;> simp_all

/-- A call with a new key is never answered by an old record. -/
private theorem attempt_of_fresh (hr : Represents file h)
    (hfind : h.find? (fun r ↦ decide (r.idempotencyKey = a.idempotencyKey)) = none) :
    (attempt file a).1 ≠ .ok (record, false) := by
  intro hattempt
  obtain ⟨fingerprint, hfingerprint, -⟩ := fingerprint_isOk a.toReviewRequest
  rw [attempt, plan, hfingerprint, ok_bind, readUnlocked_represents hr, ok_bind, hfind] at hattempt
  dsimp only at hattempt
  cases hnew : newRecord h fingerprint a.toCall with
  | error e =>
    rw [hnew] at hattempt
    cases hattempt
  | ok made =>
    rw [hnew] at hattempt
    cases hw : a.write <;> rw [hw] at hattempt <;> cases hattempt

private def zeros : Text := List.replicate 64 (hexDigit 0)

private def noon : Datetime := .of (.of 2026 1 1) 43200000000

/-- A statement that is written whole. -/
private def stating (statement : Text) : Attempt where
  targetRecordId := zeros
  candidateIdentity := lit "c"
  candidateDigest := zeros
  reportDigest := zeros
  profileId := lit "p"
  profileVersion := lit "1"
  actorIdentityRef := lit "a"
  actorRole := lit "r"
  category := lit "finding"
  statement := statement
  findingRefs := []
  limitation := none
  scope := lit "s"
  supersedesDigest := none
  idempotencyKey := lit "k"
  now := .ofUtc noon
  write := .whole

/-- A character beyond the sixteen bits of a code unit. -/
private def astral : Text := [0x1F600]

/-- The surrogate pair of the character. -/
private def pair : Text := [0xD83D, 0xDE00]

private theorem canonical_pair :
    canonical (stating pair).payload = canonical (stating astral).payload := by
  have hdumps : Json.dumps Json.compact (.obj (stating pair).payload) =
      Json.dumps Json.compact (.obj (stating astral).payload) := by decide +kernel
  rw [canonical, hdumps, canonical]

private theorem accepts_astral : Accepts [] (stating astral).toCall := by
  obtain ⟨fingerprint, hfingerprint, hsha⟩ := fingerprint_isOk (stating astral).toReviewRequest
  refine ⟨fun _ hr ↦ absurd hr List.not_mem_nil, rfl, ⟨fingerprint, hfingerprint, ?_⟩, noon,
    AwareDatetime.toUtc_ofUtc noon⟩
  have hzero : isSha256 zeros = true := by decide +kernel
  have htexts : ∀ t ∈ (draft [] [] (stating astral).toCall).texts, Fits t.2 t.1 := by
    decide +kernel
  have hcategory : lit "finding" ∈ allowedCategories := by decide
  refine ⟨le_rfl, htexts, ?_, hcategory, Nat.zero_le _⟩
  have hdigests : (draft [] fingerprint (stating astral).toCall).digests =
      [zeros, zeros, zeros, fingerprint, zeros] := rfl
  rw [hdigests]
  simp [hzero, hsha]

private theorem trimmed_stating {statement : Text} (h : strip statement = statement)
    (hne : statement ≠ []) : (stating statement).Trimmed ∧ (stating statement).Untorn ∧
      ∀ s ∈ (stating statement).texts, s ≠ [] := by
  have htexts : (stating statement).texts = [lit "c", lit "p", lit "1", lit "a", lit "r",
    statement, lit "s", lit "k"] := rfl
  rw [Attempt.Trimmed, htexts]
  simp only [List.forall_mem_cons, List.not_mem_nil, IsEmpty.forall_iff, implies_true, and_true]
  have hclear : ∀ s ∈ [lit "c", lit "p", lit "1", lit "a", lit "r", lit "s", lit "k"],
      strip s = s ∧ s ≠ [] := by decide
  simp only [List.forall_mem_cons, List.not_mem_nil, IsEmpty.forall_iff, implies_true,
    and_true] at hclear
  obtain ⟨hc, hp, h1, ha, hr, hs, hk⟩ := hclear
  exact ⟨⟨hc.1, hp.1, h1.1, ha.1, hr.1, h, hs.1, hk.1⟩, (fun _ _ hwrite ↦ by cases hwrite),
    ⟨hc.2, hp.2, h1.2, ha.2, hr.2, hne, hs.2, hk.2⟩⟩

/-- A store reads as the statement of a character after it was written. -/
private theorem exists_stated : ∃ r, Represents (attempt none (stating astral)).2 [r] ∧
    r.toReviewRequest = (stating astral).toReviewRequest ∧ r.idempotencyKey = lit "k" ∧
      reviewRequestFingerprint (stating astral).toReviewRequest = .ok r.requestFingerprint := by
  obtain ⟨record, after, happend⟩ := (append_new_iff represents_none).mpr accepts_astral
  have hstable : (stating astral).toCall.Stable := fun s hs ↦
    ⟨(trimmed_stating (by decide) (by decide)).1 s hs, by
      have hfree : ∀ s ∈ (stating astral).toCall.texts, PairFree s := by decide +kernel
      exact hfree s hs⟩
  obtain ⟨now, hrepresents⟩ := represents_append_new represents_none happend hstable
  obtain ⟨hkept, hrequest, hkey⟩ := kept_of_append represents_none happend
  refine ⟨inUtc record now, ?_, hrequest, hkey, hrequest ▸ hkept.fingerprint⟩
  rw [attempt_whole rfl, happend]
  exact hrepresents

end StatementStore
end StateWake.Review
