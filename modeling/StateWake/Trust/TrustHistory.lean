import StateWake.Base.Calls
import StateWake.Base.LineLog
import StateWake.Trust.AttestationTransition
import Mathlib.Data.List.Pairwise

/-!
# The attestation trust history

`adapters/attestation_trust_history.py`. The reader accepts a history whose every state
follows the one before it and lists no key that was dropped; along such a history a signing
key is never resurrected. The writer compares a new state with the last one only, so it can
write a state the reader rejects.
-/

namespace StateWake.Trust

open StateWake.Base Text Utils RegisterHistory SignedAttestationTrustState

/-- The key identifiers a state lists. -/
def SignedAttestationTrustState.keyIds (s : SignedAttestationTrustState) : List Text :=
  s.anchors.map AttestationTrustAnchor.keyId

theorem anchor?_ne_none_iff {s : SignedAttestationTrustState} {k : Text} :
    s.anchor? k ≠ none ↔ k ∈ s.keyIds := by
  simp [anchor?_eq_none_iff, keyIds]

namespace TrustHistory

variable (fromisoformat : Text → Option (Datetime × Option Int))

/-! ### The reader -/

/-- The variables of the reader's loop, `adapters/attestation_trust_history.py:36–39`. -/
structure Progress where
  records : List SignedAttestationTrustState
  previouslySeen : List Text
  previousIds : List Text

/-- The last state read. -/
def Progress.previous (p : Progress) : Option SignedAttestationTrustState := p.records.getLast?

/-- One line against what was read before it,
`adapters/attestation_trust_history.py:47–63`. -/
def acceptLine (p : Progress) (line : Text) : Except PyError SignedAttestationTrustState := do
  let value ← Json.loads line
  let payload ← orRaise
    ⟨.valueError, lit "attestation trust history record must be a JSON object"⟩ value.asObject
  let state ← fromDict payload
  validateTransition fromisoformat p.previous state
  let reappeared := state.keyIds.filter fun k ↦
    decide (k ∈ p.previouslySeen) && decide (k ∉ p.previousIds)
  require ⟨.valueError, lit "attestation trust key cannot reappear after removal: " ++
      (lit ", ").intercalate (reappeared.insertionSort (· ≤ ·))⟩
    (p.previous.isSome → reappeared = [])
  pure state

/-- One step of the loop, `adapters/attestation_trust_history.py:43–70`. -/
def parseRecord (maxRecords : Option Int) (p : Progress) (number : Nat) (line : Text) :
    Except PyError Progress :=
  if ∃ bound ∈ maxRecords, bound ≤ p.records.length then
    .error ⟨.overflowError, lit "attestation trust history record count exceeds read limit"⟩
  else
    match acceptLine fromisoformat p line with
    | .ok state => .ok ⟨p.records ++ [state], p.previouslySeen ++ state.keyIds, state.keyIds⟩
    | .error e =>
      if e.kind.isRecordError then
        valueError (lit "Invalid attestation trust history at line " ++ Decimal.decimal number ++
          lit ": " ++ e.message)
      else .error e

/-- `_parse_history_records`, `adapters/attestation_trust_history.py:30–71`. -/
def parseHistoryRecords (lines : List Text) (maxRecords : Option Int) :
    Except PyError (List SignedAttestationTrustState) :=
  if ∃ bound ∈ maxRecords, bound ≤ 0 then
    valueError (lit "max_records must be positive when provided")
  else do
    let p ← LineLog.readLines (parseRecord fromisoformat maxRecords) ⟨[], [], []⟩ 1 lines
    pure p.records

/-- `AttestationTrustHistorySnapshot`, `adapters/attestation_trust_history.py:21–27`. -/
structure AttestationTrustHistorySnapshot where
  records : List SignedAttestationTrustState
  byteSize : Nat
  «exists» : Bool

/-- `read_attestation_trust_history_snapshot`, `adapters/attestation_trust_history.py:74–111`,
of a regular file or an absent one. -/
def readSnapshot (file : Option Bytes) (maxBytes maxRecords : Int) :
    Except PyError AttestationTrustHistorySnapshot :=
  if maxBytes ≤ 0 ∨ maxRecords ≤ 0 then
    valueError (lit "attestation trust history read bounds must be positive")
  else
    match file with
    | none => .ok ⟨[], 0, false⟩
    | some raw =>
      if maxBytes < raw.length then
        .error ⟨.overflowError, lit "attestation trust history exceeds read limit"⟩
      else
        match Utf8.decode raw with
        | none => valueError (lit "attestation trust history is not valid UTF-8")
        | some text => do
          let records ← parseHistoryRecords fromisoformat (Lines.splitlines text)
            (some maxRecords)
          pure ⟨records, raw.length, true⟩

/-! ### Accepted histories -/

/-- What the reader checks of a state against the states before it. -/
structure Admissible (h : List SignedAttestationTrustState) (s : SignedAttestationTrustState) :
    Prop where
  valid : validateTransition fromisoformat h.getLast? s = .ok ()
  gone : ∀ last ∈ h.getLast?, ∀ k ∈ s.keyIds, k ∉ last.keyIds → ∀ r ∈ h, k ∉ r.keyIds

/-- The loop variables after a history. -/
def after (h : List SignedAttestationTrustState) : Progress :=
  ⟨h, h.flatMap keyIds, (h.getLast?.map keyIds).getD []⟩

variable {fromisoformat} {h : List SignedAttestationTrustState} {s : SignedAttestationTrustState}

theorem after_append_singleton :
    after (h ++ [s]) = ⟨h ++ [s], (after h).previouslySeen ++ s.keyIds, s.keyIds⟩ := by
  simp [after]

/-- The reader's last check holds exactly when no dropped key is listed again. -/
private theorem reappeared_iff :
    ((after h).previous.isSome = true → (s.keyIds.filter fun k ↦
      decide (k ∈ (after h).previouslySeen) && decide (k ∉ (after h).previousIds)) = []) ↔
      ∀ last ∈ h.getLast?, ∀ k ∈ s.keyIds, k ∉ last.keyIds → ∀ r ∈ h, k ∉ r.keyIds := by
  rw [show (after h).previous = h.getLast? from rfl]
  cases hl : h.getLast? with
  | none => simp
  | some last =>
    simp only [after, hl, Option.isSome_some, forall_const, List.filter_eq_nil_iff,
      List.mem_flatMap, Option.map_some, Option.getD_some, Bool.and_eq_true, decide_eq_true_eq,
      Option.mem_def, Option.some.injEq, forall_eq', not_and, not_not]
    constructor
    · intro h' k hk hnot r hr hkr
      exact hnot (h' k hk ⟨r, hr, hkr⟩)
    · rintro h' k hk ⟨r, hr, hkr⟩
      by_contra hnot
      exact h' k hk hnot r hr hkr

/-- A line is accepted after a history exactly when it holds an admissible state. -/
theorem acceptLine_eq_ok {line : Text} :
    acceptLine fromisoformat (after h) line = .ok s ↔
      ∃ members, Json.loads line = .ok (.obj members) ∧ fromDict members = .ok s ∧
        Admissible fromisoformat h s := by
  simp only [acceptLine, bind_eq_ok (x := Json.loads line), bind_eq_ok (x := orRaise _ _),
    bind_eq_ok (x := fromDict _), bind_eq_ok (x := validateTransition _ _ _),
    require_bind_eq_ok, decide_eq_true_eq, orRaise_eq_ok]
  constructor
  · rintro ⟨value, hloads, members, hobject, t, hread, _, hvalid, hgone, ht⟩
    cases ht
    cases value with
    | obj m =>
      cases hobject
      exact ⟨_, hloads, hread, hvalid, reappeared_iff.mp hgone⟩
    | _ => cases hobject
  · rintro ⟨members, hloads, hread, hadm⟩
    exact ⟨_, hloads, members, rfl, s, hread, (), hadm.valid, reappeared_iff.mpr hadm.gone, rfl⟩

/-- A step of the loop accepts an admissible state within the bound, and no other. -/
theorem parseRecord_eq_ok {maxRecords : Option Int} {number : Nat} {line : Text} {p : Progress} :
    parseRecord fromisoformat maxRecords (after h) number line = .ok p ↔
      (∀ bound ∈ maxRecords, (h.length : Int) < bound) ∧
        ∃ s, acceptLine fromisoformat (after h) line = .ok s ∧ p = after (h ++ [s]) := by
  have hlength : (after h).records.length = h.length := rfl
  rw [parseRecord]
  split
  · next hbound =>
    obtain ⟨bound, hb, hle⟩ := hbound
    refine iff_of_false nofun fun hp ↦ ?_
    have hlt := hp.1 bound hb
    rw [hlength] at hle
    omega
  · next hbound =>
    have hlt : ∀ bound ∈ maxRecords, (h.length : Int) < bound := by
      intro bound hb
      by_contra hle
      exact hbound ⟨bound, hb, by rw [hlength]; omega⟩
    cases acceptLine fromisoformat (after h) line with
    | ok s =>
      simp only [Except.ok.injEq, after_append_singleton]
      constructor
      · rintro rfl
        exact ⟨hlt, s, rfl, rfl⟩
      · rintro ⟨-, t, rfl, rfl⟩
        rfl
    | error e =>
      refine iff_of_false (fun he ↦ ?_) fun hp ↦ ?_
      · dsimp only at he
        split at he <;> cases he
      · obtain ⟨-, t, ht, -⟩ := hp
        cases ht

/-- The reader returns histories of admissible states only. -/
theorem admissible_of_parseHistoryRecords {lines : List Text} {maxRecords : Option Int}
    (hacc : parseHistoryRecords fromisoformat lines maxRecords = .ok h) :
    Prefixwise (Admissible fromisoformat) h := by
  rw [parseHistoryRecords] at hacc
  split at hacc
  · cases hacc
  · obtain ⟨p, hp, hh⟩ := bind_eq_ok.mp hacc
    cases hh
    have hinv := LineLog.readLines_keeps
      (I := fun p ↦ p = after p.records ∧ Prefixwise (Admissible fromisoformat) p.records)
      (fun p number line p' hp hstep ↦ by
        rw [hp.1, parseRecord_eq_ok] at hstep
        obtain ⟨-, s, hs, rfl⟩ := hstep
        obtain ⟨members, -, -, hadm⟩ := acceptLine_eq_ok.mp hs
        exact ⟨rfl, prefixwise_append_singleton.mpr ⟨hp.2, hadm⟩⟩)
      ⟨rfl, prefixwise_nil _⟩ hp
    exact hinv.2

/-! ### Keys are never resurrected -/

theorem Admissible.follows (hs : Admissible fromisoformat h s)
    {last : SignedAttestationTrustState} (hlast : last ∈ h.getLast?) :
    Follows fromisoformat last s := by
  have hv := hs.valid
  rw [hlast, validateTransition_some] at hv
  exact hv

/-- An admissible state is an admitted register of anchors. -/
theorem Admissible.admits (hs : Admissible fromisoformat h s) :
    Admits anchor? Carries (fun a ↦ a.status = .active) h s where
  carried _ hlast := (hs.follows hlast).carried
  fresh _ hlast := (hs.follows hlast).fresh
  gone last hlast k new hnew hnone r hr := by
    by_contra hne
    have hk : k ∈ s.keyIds := anchor?_ne_none_iff.mp (by rw [hnew]; exact nofun)
    have hnot : k ∉ last.keyIds := fun hk ↦ anchor?_ne_none_iff.mpr hk hnone
    exact hs.gone last hlast k hk hnot r hr (anchor?_ne_none_iff.mp hne)

/-- What holds of the signing keys of a trust history. Positions count from 0. -/
structure KeysLawful (fromisoformat : Text → Option (Datetime × Option Int))
    (h : List SignedAttestationTrustState) : Prop where
  publicKey : ∀ s ∈ h, ∀ t ∈ h, ∀ k, ∀ a ∈ s.anchor? k, ∀ b ∈ t.anchor? k,
    a.publicKey = b.publicKey
  retired : h.Pairwise fun s t ↦ ∀ k, ∀ a ∈ s.anchor? k, a.status ≠ .active →
    ∀ b ∈ t.anchor? k, b.status ≠ .active
  dropped : ∀ (i m j : Nat) (s t u : SignedAttestationTrustState) (k : Text), i < m → m < j →
    h[i]? = some s → h[m]? = some t → h[j]? = some u → s.anchor? k ≠ none →
      t.anchor? k = none → u.anchor? k = none
  successor : h.Pairwise fun s t ↦ ∀ k, ∀ a ∈ s.anchor? k, a.status = .superseded →
    ∀ b ∈ t.anchor? k, b.status = .superseded ∧ b.supersededBy = a.supersededBy
  fresh : ∀ (j : Nat) (t : SignedAttestationTrustState) k a, h[j + 1]? = some t → t.anchor? k = some a →
    (∀ i, i ≤ j → ∀ s, h[i]? = some s → s.anchor? k = none) → a.status = .active
  stepwise : ∀ (i : Nat) (s t : SignedAttestationTrustState), h[i]? = some s → h[i + 1]? = some t →
    t.version = s.version + 1 ∧
    (∃ before after, issuedInstant fromisoformat s.issuedAt = .ok before ∧
      issuedInstant fromisoformat t.issuedAt = .ok after ∧ before < after) ∧
    ∃ digest, s.digest = .ok digest ∧ t.previousDigest = some digest

private theorem follows_of_prefixwise (hp : Prefixwise (Admissible fromisoformat) h) {i : Nat}
    {s t : SignedAttestationTrustState} (hs : h[i]? = some s) (ht : h[i + 1]? = some t) :
    Follows fromisoformat s t := by
  refine (hp.getElem? ht).follows ?_
  rw [List.take_add_one, hs, Option.toList_some, List.getLast?_append, List.getLast?_singleton]
  rfl

/-- Any two states of a pairwise property of a history, in either order. -/
private theorem forall_mem_of_pairwise {R : SignedAttestationTrustState →
    SignedAttestationTrustState → Prop} (hp : h.Pairwise R) (hrefl : ∀ s, R s s)
    (hsymm : ∀ s t, R s t → R t s) : ∀ s ∈ h, ∀ t ∈ h, R s t := by
  have : Std.Symm R := ⟨hsymm⟩
  exact fun s hs t ht ↦ hp.forall_of_forall (fun s _ ↦ hrefl s) hs ht

theorem keysLawful_of_prefixwise (hp : Prefixwise (Admissible fromisoformat) h) :
    KeysLawful fromisoformat h := by
  have hadmits := hp.mono fun pre r (hr : Admissible fromisoformat pre r) ↦ hr.admits
  have htrans : ∀ a b c, Carries a b → Carries b c → Carries a c := fun _ _ _ ↦ Carries.trans
  have hcarries := carries_of_prefixwise htrans hadmits
  constructor
  · apply forall_mem_of_pairwise
    · exact hcarries.imp fun hst k a ha b hb ↦ (hst k a ha b hb).publicKey.symm
    · intro s k a ha b hb
      rw [Option.mem_def] at ha hb
      rw [ha] at hb
      cases hb
      rfl
    · exact fun s t hst k a ha b hb ↦ (hst k b hb a ha).symm
  · exact hcarries.imp fun hst k a ha hstatus b hb ↦ (hst k a ha b hb).not_active hstatus
  · intro i m j s t u k him hmj hs ht hu
    exact never_returns hadmits him hmj.le hs ht hu
  · exact hcarries.imp fun hst k a ha hstatus b hb ↦ (hst k a ha b hb).superseded hstatus
  · intro j t k a ht ha hfirst
    exact fresh_of_prefixwise hadmits ht ha hfirst
  · intro i s t hs ht
    have hfollows := follows_of_prefixwise hp hs ht
    exact ⟨hfollows.version, hfollows.later, hfollows.linked⟩

/-- In every history the reader accepts, signing keys are never resurrected. -/
theorem keysLawful_of_parseHistoryRecords {lines : List Text} {maxRecords : Option Int}
    (hacc : parseHistoryRecords fromisoformat lines maxRecords = .ok h) :
    KeysLawful fromisoformat h :=
  keysLawful_of_prefixwise (admissible_of_parseHistoryRecords hacc)

/-! ### The store -/

variable (fromisoformat) (ed25519 : Bytes → Bytes → Bytes → Bool) (authorityKeys : Dict Bytes)

/-- `_read_unlocked`, `adapters/attestation_trust_history.py:177–188`. -/
def readUnlocked (file : Option Bytes) : Except PyError (List SignedAttestationTrustState) :=
  match file with
  | none => .ok []
  | some raw => do
    let snapshot ← readSnapshot fromisoformat (some raw) (max (raw.length + 1) 1) 1000000
    forM snapshot.records fun s ↦ do
      let _ ← verify ed25519 authorityKeys s
    pure snapshot.records

/-- The line of a state, without its line feed. -/
def lineOf (s : SignedAttestationTrustState) : Text := Json.dumps Json.compact (.obj s.toDict)

/-- The checks of `append`, `adapters/attestation_trust_history.py:138–149`: the stored state
to return instead of writing, if any. -/
def checkAppend (records : List SignedAttestationTrustState) (s : SignedAttestationTrustState) :
    Except PyError (Option SignedAttestationTrustState) :=
  match records.find? fun e ↦ decide (e.version = s.version) with
  | some existing => do
    require ⟨.valueError, lit
      "attestation trust history version already exists with different contents"⟩
      (existing.toDict = s.toDict)
    pure (some existing)
  | none => do
    validateTransition fromisoformat records.getLast? s
    pure none

/-- `append`, `adapters/attestation_trust_history.py:128–175`. -/
def append (file : Option Bytes) (s : SignedAttestationTrustState) :
    Except PyError SignedAttestationTrustState × Option Bytes :=
  let checked : Except PyError (SignedAttestationTrustState × Option SignedAttestationTrustState) :=
    do
      let verified ← verify ed25519 authorityKeys s
      let records ← readUnlocked fromisoformat ed25519 authorityKeys file
      let existing ← checkAppend fromisoformat records verified
      pure (verified, existing)
  match checked with
  | .error e => (.error e, file)
  | .ok (_, some existing) => (.ok existing, file)
  | .ok (verified, none) =>
    match Utf8.toBytes (lineOf verified ++ [Lines.newline]) with
    | .error e => (.error e, file)
    | .ok payload => (.ok verified, some (file.getD [] ++ payload))

/-- What the store can write and read back. -/
structure Stored (h : List SignedAttestationTrustState) (s : SignedAttestationTrustState) :
    Prop where
  bounded : h.length < 1000000
  admissible : Admissible fromisoformat h s
  authentic : verify ed25519 authorityKeys s = .ok s

/-- A file that holds a history of stored states. -/
structure Represents (file : Option Bytes) (h : List SignedAttestationTrustState) : Prop where
  content : file.getD [] = LineLog.encode lineOf h
  stored : Prefixwise (Stored fromisoformat ed25519 authorityKeys) h

variable {fromisoformat ed25519 authorityKeys} {file : Option Bytes}

theorem plain_lineOf (s : SignedAttestationTrustState) : LineLog.Plain (lineOf s) where
  ascii := Json.isAscii_dumps rfl s.writable_toDict
  unbroken := Json.unbroken_compact s.writable_toDict
  visible := Json.not_blank_dumps_obj ..

/-- The line of an authentic state is accepted as that state, exactly when it is
admissible. -/
theorem acceptLine_lineOf (hauth : verify ed25519 authorityKeys s = .ok s)
    {t : SignedAttestationTrustState} :
    acceptLine fromisoformat (after h) (lineOf s) = .ok t ↔
      t = s ∧ Admissible fromisoformat h s := by
  have hpairs : ∀ u ∈ Json.texts (.obj s.toDict), PairFree u :=
    fun u hu ↦ ((verify_eq_ok hauth).2.2 u hu).pairFree
  have hloads := Json.loads_dumps_obj Json.compact s.writable_toDict
  have hread := fromDict_of_readsAs (readsAs_readMembers Json.compact s.writable_toDict hpairs)
  rw [acceptLine_eq_ok]
  constructor
  · rintro ⟨members, hmembers, ht, hadm⟩
    rw [lineOf, hloads] at hmembers
    cases hmembers
    rw [hread] at ht
    cases ht
    exact ⟨rfl, hadm⟩
  · rintro ⟨rfl, hadm⟩
    exact ⟨_, hloads, hread, hadm⟩

/-- Reading the file of any states: the loop over their lines, then their authentication. -/
private theorem readUnlocked_encode (g : List SignedAttestationTrustState) :
    readUnlocked fromisoformat ed25519 authorityKeys (some (LineLog.encode lineOf g)) =
      LineLog.readLines (parseRecord fromisoformat (some 1000000)) (after []) 1 (g.map lineOf) >>=
        fun p ↦ (forM p.records fun s ↦ do
          let _ ← verify ed25519 authorityKeys s) >>= fun _ ↦ .ok p.records := by
  have hplain : ∀ s ∈ g, LineLog.Plain (lineOf s) := fun s _ ↦ plain_lineOf s
  have hbytes : ¬(max ((LineLog.encode lineOf g).length + 1 : Int) 1 ≤ 0 ∨ (1000000 : Int) ≤ 0) := by
    omega
  have hsize : ¬max ((LineLog.encode lineOf g).length + 1 : Int) 1 <
      (LineLog.encode lineOf g).length := by
    omega
  simp only [readUnlocked, readSnapshot, if_neg hbytes, if_neg hsize,
    LineLog.decode_encode hplain, LineLog.splitlines_terminated hplain, parseHistoryRecords,
    Option.mem_def, Option.some.injEq, exists_eq_left']
  rw [if_neg (by decide), show (⟨[], [], []⟩ : Progress) = after [] from rfl]
  cases LineLog.readLines (parseRecord fromisoformat (some 1000000)) (after []) 1
    (g.map lineOf) with
  | error e => rfl
  | ok p => rfl

private theorem reads_of_stored
    (hs : Prefixwise (Stored fromisoformat ed25519 authorityKeys) h) :
    LineLog.Reads lineOf (parseRecord fromisoformat (some 1000000)) after h :=
  hs.mono fun pre r hr ↦ ⟨(plain_lineOf r).visible, fun number ↦ parseRecord_eq_ok.mpr
    ⟨fun bound hb ↦ by cases hb; exact_mod_cast hr.bounded, r,
      (acceptLine_lineOf hr.authentic).mpr ⟨rfl, hr.admissible⟩, rfl⟩⟩

/-- The lines of stored states are accepted as them. -/
theorem parseHistoryRecords_of_stored
    (hs : Prefixwise (Stored fromisoformat ed25519 authorityKeys) h) :
    parseHistoryRecords fromisoformat (h.map lineOf) (some 1000000) = .ok h := by
  have hbound : ¬∃ bound ∈ some (1000000 : Int), bound ≤ 0 := by simp
  rw [parseHistoryRecords, if_neg hbound, show (⟨[], [], []⟩ : Progress) = after [] from rfl,
    LineLog.readLines_of_reads (reads_of_stored hs), ok_bind]
  rfl

private theorem authentic_of_stored
    (hs : Prefixwise (Stored fromisoformat ed25519 authorityKeys) h) :
    (forM h fun s ↦ do
      let _ ← verify ed25519 authorityKeys s) = (.ok () : Except PyError Unit) := by
  rw [forM_eq_ok]
  refine hs.forall_mem fun _ s hstored ↦ ?_
  rw [hstored.authentic, ok_bind]
  rfl

/-- A file that holds a history reads as it. -/
theorem readUnlocked_represents (hr : Represents fromisoformat ed25519 authorityKeys file h) :
    readUnlocked fromisoformat ed25519 authorityKeys file = .ok h := by
  cases file with
  | none =>
    have hn : h = [] := LineLog.encode_eq_nil_iff.mp hr.content.symm
    rw [hn]
    rfl
  | some raw =>
    rw [show raw = LineLog.encode lineOf h from hr.content, readUnlocked_encode,
      LineLog.readLines_of_reads (reads_of_stored hr.stored), ok_bind,
      show (after h).records = h from rfl, authentic_of_stored hr.stored, ok_bind]

/-- A history with one more authentic state reads exactly when the state is stored after it. -/
theorem readUnlocked_append (hs : Prefixwise (Stored fromisoformat ed25519 authorityKeys) h)
    (hauth : verify ed25519 authorityKeys s = .ok s) {l : List SignedAttestationTrustState} :
    readUnlocked fromisoformat ed25519 authorityKeys (some (LineLog.encode lineOf (h ++ [s]))) =
      .ok l ↔ l = h ++ [s] ∧ Stored fromisoformat ed25519 authorityKeys h s := by
  constructor
  · intro hread
    rw [readUnlocked_encode, LineLog.readLines_append_line (reads_of_stored hs) 1
      (plain_lineOf s).visible] at hread
    obtain ⟨p, hp, hrest⟩ := bind_eq_ok.mp hread
    obtain ⟨hbound, t, ht, rfl⟩ := parseRecord_eq_ok.mp hp
    obtain ⟨rfl, hadm⟩ := (acceptLine_lineOf hauth).mp ht
    obtain ⟨_, -, hl⟩ := bind_eq_ok.mp hrest
    cases hl
    exact ⟨rfl, by exact_mod_cast hbound 1000000 rfl, hadm, hauth⟩
  · rintro ⟨rfl, hstored⟩
    exact readUnlocked_represents ⟨rfl, prefixwise_append_singleton.mpr ⟨hs, hstored⟩⟩

variable (fromisoformat ed25519 authorityKeys)

/-- A state the writer would append: it is authentic, its version is new and it follows the
last state. -/
structure New (h : List SignedAttestationTrustState) (s : SignedAttestationTrustState) :
    Prop where
  authentic : verify ed25519 authorityKeys s = .ok s
  version : ∀ e ∈ h, e.version ≠ s.version
  valid : validateTransition fromisoformat h.getLast? s = .ok ()

variable {fromisoformat ed25519 authorityKeys}

/-- A new state is written after the history. -/
theorem append_of_new (hr : Represents fromisoformat ed25519 authorityKeys file h)
    (hn : New fromisoformat ed25519 authorityKeys h s) :
    append fromisoformat ed25519 authorityKeys file s =
      (.ok s, some (LineLog.encode lineOf (h ++ [s]))) := by
  have hfind : (h.find? fun e ↦ decide (e.version = s.version)) = none :=
    List.find?_eq_none.mpr fun e he ↦ by simpa using hn.version e he
  simp only [append, hn.authentic, readUnlocked_represents hr, checkAppend, hfind, hn.valid,
    ok_bind, pure, Except.pure, (plain_lineOf s).toBytes_line, hr.content, LineLog.encode_append]

/-- Any other state is a replay or is rejected, and the file stays. -/
theorem append_of_not_new (hr : Represents fromisoformat ed25519 authorityKeys file h)
    (hn : ¬New fromisoformat ed25519 authorityKeys h s) :
    (s ∈ h ∧ append fromisoformat ed25519 authorityKeys file s = (.ok s, file)) ∨
      ∃ e, append fromisoformat ed25519 authorityKeys file s = (.error e, file) := by
  cases hauth : verify ed25519 authorityKeys s with
  | error e =>
    right
    exact ⟨e, by simp only [append, hauth, error_bind]⟩
  | ok t =>
    obtain ⟨rfl, -, -⟩ := verify_eq_ok hauth
    cases hfind : h.find? fun e ↦ decide (e.version = t.version) with
    | some existing =>
      by_cases heq : existing.toDict = t.toDict
      · left
        have hmem := List.mem_of_find?_eq_some hfind
        obtain rfl := toDict_injective heq
        refine ⟨hmem, ?_⟩
        simp only [append, hauth, readUnlocked_represents hr, checkAppend, hfind, ok_bind,
          decide_true, require_true]
        rfl
      · right
        simp only [append, hauth, readUnlocked_represents hr, checkAppend, hfind, ok_bind,
          decide_eq_false heq, require]
        exact ⟨_, rfl⟩
    | none =>
      right
      have hversion : ∀ e ∈ h, e.version ≠ t.version := fun e he ↦ by
        simpa using List.find?_eq_none.mp hfind e he
      cases hvalid : validateTransition fromisoformat h.getLast? t with
      | ok _ => exact absurd ⟨hauth, hversion, hvalid⟩ hn
      | error e =>
        simp only [append, hauth, readUnlocked_represents hr, checkAppend, hfind, hvalid, ok_bind,
          error_bind]
        exact ⟨e, rfl⟩

variable (fromisoformat ed25519 authorityKeys)

/-- What a caller relies on: an append that returns leaves a readable file that holds the
earlier states and the appended one, once; an append that raises leaves the file alone. -/
def KeepsReadable (file : Option Bytes) (s : SignedAttestationTrustState) : Prop :=
  match append fromisoformat ed25519 authorityKeys file s with
  | (.ok t, file') => t = s ∧ ∃ h, readUnlocked fromisoformat ed25519 authorityKeys file = .ok h ∧
      readUnlocked fromisoformat ed25519 authorityKeys file' =
        .ok (if s ∈ h then h else h ++ [s])
  | (.error _, file') => file' = file

/-- The state before an append leaves room for one more state, and the appended one lists no
key that was listed and then dropped. A call that writes nothing is free of the condition. -/
def Extendable (file : Option Bytes) (s : SignedAttestationTrustState) : Prop :=
  ∀ h, readUnlocked fromisoformat ed25519 authorityKeys file = .ok h →
    New fromisoformat ed25519 authorityKeys h s →
      h.length < 1000000 ∧
        ∀ last ∈ h.getLast?, ∀ k ∈ s.keyIds, k ∉ last.keyIds → ∀ r ∈ h, k ∉ r.keyIds

variable {fromisoformat ed25519 authorityKeys}

/-- One append keeps the history readable exactly when the history can be extended. -/
theorem keepsReadable_iff (hr : Represents fromisoformat ed25519 authorityKeys file h) :
    KeepsReadable fromisoformat ed25519 authorityKeys file s ↔
      Extendable fromisoformat ed25519 authorityKeys file s := by
  have hread := readUnlocked_represents hr
  by_cases hn : New fromisoformat ed25519 authorityKeys h s
  · have hmem : s ∉ h := fun hs ↦ hn.version s hs rfl
    simp only [KeepsReadable, append_of_new hr hn, Extendable, hread, Except.ok.injEq,
      exists_eq_left', forall_eq', if_neg hmem, true_and, hn, forall_const,
      readUnlocked_append hr.stored hn.authentic]
    constructor
    · exact fun hs ↦ ⟨hs.bounded, hs.admissible.gone⟩
    · exact fun ⟨hbound, hgone⟩ ↦ ⟨hbound, ⟨hn.valid, hgone⟩, hn.authentic⟩
  · have hext : Extendable fromisoformat ed25519 authorityKeys file s := by
      intro g hg hnew
      rw [hread] at hg
      cases hg
      exact absurd hnew hn
    refine iff_of_true ?_ hext
    rcases append_of_not_new hr hn with ⟨hmem, happend⟩ | ⟨e, happend⟩
    · simp only [KeepsReadable, happend, hread, Except.ok.injEq, exists_eq_left', if_pos hmem,
        and_self]
    · simp only [KeepsReadable, happend]

/-- An append to an extendable history leaves a file that holds one. -/
theorem represents_append (hr : Represents fromisoformat ed25519 authorityKeys file h)
    (hext : Extendable fromisoformat ed25519 authorityKeys file s) :
    ∃ g, Represents fromisoformat ed25519 authorityKeys
      (append fromisoformat ed25519 authorityKeys file s).2 g := by
  by_cases hn : New fromisoformat ed25519 authorityKeys h s
  · obtain ⟨hbound, hgone⟩ := hext h (readUnlocked_represents hr) hn
    refine ⟨h ++ [s], ?_⟩
    rw [append_of_new hr hn]
    exact ⟨rfl, prefixwise_append_singleton.mpr
      ⟨hr.stored, hbound, ⟨hn.valid, hgone⟩, hn.authentic⟩⟩
  · refine ⟨h, ?_⟩
    rcases append_of_not_new hr hn with ⟨-, happend⟩ | ⟨e, happend⟩
    · rw [happend]
      exact hr
    · rw [happend]
      exact hr

theorem represents_none : Represents fromisoformat ed25519 authorityKeys none [] :=
  ⟨rfl, prefixwise_nil _⟩

/-- A signing key. -/
def rootKey : AttestationTrustAnchor :=
  ⟨lit "key-1", List.replicate 32 65, .active, none, by decide, rfl, nofun, fun _ ↦ rfl⟩

/-- Another one. -/
def spareKey : AttestationTrustAnchor :=
  ⟨lit "key-2", List.replicate 32 66, .active, none, by decide, rfl, nofun, fun _ ↦ rfl⟩

/-- A first state that lists one key. -/
def founding : SignedAttestationTrustState where
  authorityKeyId := lit "authority-1"
  version := 1
  issuedAt := lit "2026-10-01T00:00:01+00:00"
  anchors := [rootKey]
  signature := lit "c2ln"
  previousDigest := none
  authorityNamed := by decide
  versionPositive := by decide
  issued := by decide
  uniqueKeys := by decide
  signed := by decide
  digestForm := isSha256_of_mem_none
  successorsListed := by simp [rootKey]

/-- The key dropped. -/
def emptied : SignedAttestationTrustState :=
  founding.next (lit "2026-10-01T00:00:02+00:00") [] (by decide) (by decide) (by simp)

/-- The key listed again. -/
def relisted : SignedAttestationTrustState :=
  emptied.next (lit "2026-10-01T00:00:03+00:00") [rootKey] (by decide) (by decide)
    (by simp [rootKey])

/-- The key rotated to another one. -/
def rotated : SignedAttestationTrustState :=
  founding.next (lit "2026-10-01T00:00:02+00:00") [supersede spareKey rootKey, spareKey]
    (by decide) (by decide) (by simp [supersede, spareKey])

/-- The other key revoked after the rotation. -/
def compromised : SignedAttestationTrustState :=
  rotated.next (lit "2026-10-01T00:00:03+00:00") [supersede spareKey rootKey, revoke spareKey]
    (by decide) (by decide) (by simp [supersede, spareKey, revoke])

/-- Every signature is valid. -/
def acceptAll : Bytes → Bytes → Bytes → Bool := fun _ _ _ ↦ true

/-- The keys of one authority. -/
def oneAuthority : Dict Bytes := [(lit "authority-1", List.replicate 32 67)]

private theorem issued_founding :
    issuedInstant Base.fromisoformat (lit "2026-10-01T00:00:01+00:00") = .ok 63926496001000000 := by
  decide

private theorem issued_second :
    issuedInstant Base.fromisoformat (lit "2026-10-01T00:00:02+00:00") = .ok 63926496002000000 := by
  decide

private theorem issued_third :
    issuedInstant Base.fromisoformat (lit "2026-10-01T00:00:03+00:00") = .ok 63926496003000000 := by
  decide

theorem digest_founding : founding.digest = .ok founding.digestText :=
  digest_eq_digestText (digest_isOk_of_texts (surrogateFree_lit _) (surrogateFree_lit _)
    (by simp [founding, rootKey]))

private theorem digest_emptied : emptied.digest = .ok emptied.digestText :=
  digest_eq_digestText (digest_isOk_of_texts (surrogateFree_lit _) (surrogateFree_lit _)
    (by simp [emptied, SignedAttestationTrustState.next]))

private theorem digest_relisted : relisted.digest = .ok relisted.digestText :=
  digest_eq_digestText (digest_isOk_of_texts (surrogateFree_lit _) (surrogateFree_lit _)
    (by simp [relisted, SignedAttestationTrustState.next, rootKey]))

private theorem digest_rotated : rotated.digest = .ok rotated.digestText :=
  digest_eq_digestText (digest_isOk_of_texts (surrogateFree_lit _) (surrogateFree_lit _)
    (by simp [rotated, SignedAttestationTrustState.next, rootKey, spareKey, supersede]))

/-- A state of the one authority is authentic once its payload can be encoded. -/
theorem verify_acceptAll {s : SignedAttestationTrustState} {d : Text}
    (hd : s.digest = .ok d) (hauthority : s.authorityKeyId = lit "authority-1")
    (hsignature : s.signature = lit "c2ln") : verify acceptAll oneAuthority s = .ok s := by
  obtain ⟨content, hcontent, -⟩ := bind_eq_ok.mp hd
  have hdecode : b64decode (lit "c2ln") = .ok [115, 105, 103] := by decide
  rw [verify, hauthority, hsignature, hcontent, hdecode]
  rfl

private theorem follows_founding_emptied : Follows Base.fromisoformat founding emptied where
  version := rfl
  linked := ⟨_, digest_founding, rfl⟩
  later := ⟨_, _, issued_founding, issued_second, by decide⟩
  carried _ _ _ _ hnew := nomatch hnew
  fresh _ _ hnew := nomatch hnew
  successors _ _ hnew := nomatch hnew

private theorem follows_emptied_relisted : Follows Base.fromisoformat emptied relisted where
  version := rfl
  linked := ⟨_, digest_emptied, rfl⟩
  later := ⟨_, _, issued_second, issued_third, by decide⟩
  carried _ _ hold := nomatch hold
  fresh k new hnew _ := by
    obtain ⟨hmem, -⟩ := anchor?_eq_some_iff.mp hnew
    rw [List.mem_singleton.mp hmem]
    rfl
  successors k new hnew hstatus := by
    obtain ⟨hmem, -⟩ := anchor?_eq_some_iff.mp hnew
    rw [List.mem_singleton.mp hmem] at hstatus
    cases hstatus

private theorem rotates_founding :
    Rotates Base.fromisoformat founding (lit "key-1") spareKey rotated where
  authority := rfl
  version := rfl
  linked := ⟨_, digest_founding, rfl⟩
  later := ⟨_, _, issued_founding, issued_second, by decide⟩
  active := rfl
  unlisted := by decide
  anchors key := by
    by_cases hroot : key = lit "key-1"
    · subst hroot
      rfl
    · by_cases hspare : key = spareKey.keyId
      · subst hspare
        rfl
      · rw [if_neg hroot, if_neg hspare]
        have hnone : ∀ s : SignedAttestationTrustState, (∀ a ∈ s.anchors, a.keyId ≠ key) →
            s.anchor? key = none := fun s ↦ anchor?_eq_none_iff.mpr
        rw [hnone rotated, hnone founding]
        · simpa [founding, rootKey] using Ne.symm hroot
        · simpa [rotated, SignedAttestationTrustState.next, supersede, rootKey] using
            ⟨Ne.symm hroot, Ne.symm hspare⟩

private theorem revokes_rotated :
    Revokes Base.fromisoformat rotated (lit "key-2") compromised where
  authority := rfl
  version := rfl
  linked := ⟨_, digest_rotated, rfl⟩
  later := ⟨_, _, issued_second, issued_third, by decide⟩
  anchors key := by
    by_cases hspare : key = lit "key-2"
    · subst hspare
      rfl
    · rw [if_neg hspare]
      by_cases hroot : key = lit "key-1"
      · subst hroot
        rfl
      · have hnone : ∀ s : SignedAttestationTrustState, (∀ a ∈ s.anchors, a.keyId ≠ key) →
            s.anchor? key = none := fun s ↦ anchor?_eq_none_iff.mpr
        rw [hnone compromised, hnone rotated]
        · simpa [rotated, SignedAttestationTrustState.next, supersede, rootKey, spareKey] using
            ⟨Ne.symm hroot, Ne.symm hspare⟩
        · simpa [compromised, SignedAttestationTrustState.next, supersede, rootKey, revoke,
            spareKey] using ⟨Ne.symm hroot, Ne.symm hspare⟩

private theorem follows_founding_rotated : Follows Base.fromisoformat founding rotated := by
  have hactive : founding.anchor? (lit "key-1") = some rootKey := by decide
  rw [Retires.follows_iff rotates_founding.toAdvances (rotates_founding.retires hactive rfl)]
  have honly : ∀ k, ∀ a ∈ founding.anchor? k, a.status ≠ .superseded := by
    intro k a ha
    rw [List.mem_singleton.mp (anchor?_eq_some_iff.mp ha).1]
    exact nofun
  exact ⟨fun k a ha hs ↦ absurd hs (honly k a ha), fun k a ha hs ↦ absurd hs (honly k a ha)⟩

private theorem stored_founding :
    Stored Base.fromisoformat acceptAll oneAuthority [] founding where
  bounded := by decide
  admissible := ⟨by decide, nofun⟩
  authentic := verify_acceptAll digest_founding rfl rfl

private theorem stored_rotated :
    Stored Base.fromisoformat acceptAll oneAuthority [founding] rotated where
  bounded := by decide
  admissible := by
    refine ⟨validateTransition_some.mpr follows_founding_rotated, ?_⟩
    intro last hlast k _ hnot r hr
    rw [List.mem_singleton.mp hr]
    cases hlast
    exact hnot
  authentic := verify_acceptAll digest_rotated rfl rfl

private theorem stored_emptied :
    Stored Base.fromisoformat acceptAll oneAuthority [founding] emptied where
  bounded := by decide
  admissible := ⟨validateTransition_some.mpr follows_founding_emptied, fun _ _ _ hk ↦ nomatch hk⟩
  authentic := verify_acceptAll digest_emptied rfl rfl

private theorem stored_rotation :
    Prefixwise (Stored Base.fromisoformat acceptAll oneAuthority) [founding, rotated] :=
  prefixwise_append_singleton.mpr
    ⟨prefixwise_append_singleton.mpr ⟨prefixwise_nil _, stored_founding⟩, stored_rotated⟩

private theorem represents_dropped : Represents Base.fromisoformat acceptAll oneAuthority
    (some (LineLog.encode lineOf [founding, emptied])) [founding, emptied] where
  content := rfl
  stored := prefixwise_append_singleton.mpr
    ⟨prefixwise_append_singleton.mpr ⟨prefixwise_nil _, stored_founding⟩, stored_emptied⟩

/-- The keys of a rotation are lawful. -/
theorem keysLawful_rotation : KeysLawful Base.fromisoformat [founding, rotated] :=
  keysLawful_of_parseHistoryRecords (parseHistoryRecords_of_stored stored_rotation)

/-! ### Retiring the key of a tip -/

/-- Past the first state, the active keys of superseded anchors are a matter of course. -/
theorem successorsActive_of_parseHistoryRecords {lines : List Text} {maxRecords : Option Int}
    (hacc : parseHistoryRecords fromisoformat lines maxRecords = .ok h)
    (hlength : 2 ≤ h.length) (htip : h.getLast? = some s) : s.SuccessorsActive := by
  have hp := admissible_of_parseHistoryRecords hacc
  have hlast : h[h.length - 1]? = some s := by rw [← List.getLast?_eq_getElem?, htip]
  have hprevious : h[h.length - 2]? = some h[h.length - 2] := List.getElem?_eq_getElem (by omega)
  rw [show h.length - 1 = h.length - 2 + 1 by omega] at hlast
  exact (follows_of_prefixwise hp hprevious hlast).successors

end TrustHistory

end StateWake.Trust
