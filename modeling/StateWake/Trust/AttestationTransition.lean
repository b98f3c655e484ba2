import StateWake.Trust.AttestationTrust

/-!
# Transitions between attestation trust states

`validate_attestation_trust_transition`, `domain/attestation_trust.py:235–310`, and what it
accepts: `Follows` states the accepted steps anchor by anchor. Revoking or rotating an active
key is such a step exactly when no superseded anchor depends on the key.
-/

namespace StateWake.Trust

open StateWake.Base Text Utils

namespace SignedAttestationTrustState

variable (fromisoformat : Text → Option (Datetime × Option Int))

/-- `issued`, `domain/attestation_trust.py:249–261`: the instant of a timestamp. -/
def issuedInstant (value : Text) : Except PyError Int := do
  let (t, tz) ← orRaise ⟨.valueError, lit "attestation trust-state issued_at must be ISO-8601."⟩
    (fromisoformat (replaceAll value (lit "Z") (lit "+00:00")))
  let offset ← orRaise
    ⟨.valueError, lit "attestation trust-state issued_at must include a timezone."⟩ tz
  pure (t.instant - offset)

/-- The checks on an anchor of the previous state,
`domain/attestation_trust.py:284–298`. -/
def checkCarried (current : SignedAttestationTrustState) (old : AttestationTrustAnchor) :
    Except PyError Unit :=
  match current.anchor? old.keyId with
  | none => .ok ()
  | some new => do
    require ⟨.valueError, lit "attestation trust key material changed for " ++ old.keyId ++ lit "."⟩
      (new.publicKey = old.publicKey)
    require ⟨.valueError,
      lit "revoked attestation trust key cannot be reactivated: " ++ old.keyId ++ lit "."⟩
      (old.status = .revoked → new.status = .revoked)
    require ⟨.valueError,
      lit "superseded attestation trust key cannot be reactivated or retargeted: " ++ old.keyId ++
        lit "."⟩
      (old.status = .superseded →
        new.status = .superseded ∧ new.supersededBy = old.supersededBy)

/-- The checks on an anchor of the current state, `domain/attestation_trust.py:300–310`. -/
def checkListed (previous current : SignedAttestationTrustState) (new : AttestationTrustAnchor) :
    Except PyError Unit := do
  require ⟨.valueError,
    lit "new attestation trust key must first appear active: " ++ new.keyId ++ lit "."⟩
    (previous.anchor? new.keyId = none → new.status = .active)
  require ⟨.valueError,
    lit "superseded attestation trust key requires an active successor: " ++ new.keyId ++ lit "."⟩
    (new.status = .superseded →
      ∃ successor ∈ current.anchor? (new.supersededBy.getD []), successor.status = .active)

/-- `validate_attestation_trust_transition`, `domain/attestation_trust.py:235–310`. -/
def validateTransition (previous : Option SignedAttestationTrustState)
    (current : SignedAttestationTrustState) : Except PyError Unit :=
  match previous with
  | none =>
    require ⟨.valueError, lit "initial attestation trust state must not name a predecessor."⟩
      (current.previousDigest = none)
  | some previous => do
    require ⟨.valueError, lit "attestation trust-state versions must advance by exactly one."⟩
      (current.version = previous.version + 1)
    let digest ← previous.digest
    require ⟨.valueError,
      lit "attestation trust-state previous_digest does not match history tip."⟩
      (current.previousDigest = some digest)
    let after ← issuedInstant fromisoformat current.issuedAt
    let before ← issuedInstant fromisoformat previous.issuedAt
    require ⟨.valueError, lit "attestation trust-state issued_at must increase monotonically."⟩
      (before < after)
    forM previous.anchors (checkCarried current)
    forM current.anchors (checkListed previous current)

/-- What an anchor may become: its key stays, and a revoked or superseded anchor stays as it
is. -/
structure Carries (old new : AttestationTrustAnchor) : Prop where
  publicKey : new.publicKey = old.publicKey
  revoked : old.status = .revoked → new.status = .revoked
  superseded : old.status = .superseded →
    new.status = .superseded ∧ new.supersededBy = old.supersededBy

theorem Carries.refl (a : AttestationTrustAnchor) : Carries a a :=
  ⟨rfl, id, fun h ↦ ⟨h, rfl⟩⟩

theorem Carries.trans {a b c : AttestationTrustAnchor} (hab : Carries a b) (hbc : Carries b c) :
    Carries a c where
  publicKey := hbc.publicKey.trans hab.publicKey
  revoked h := hbc.revoked (hab.revoked h)
  superseded h := by
    obtain ⟨hs, hb⟩ := hab.superseded h
    obtain ⟨hs', hb'⟩ := hbc.superseded hs
    exact ⟨hs', hb'.trans hb⟩

/-- An anchor that is not active never carries over to an active one. -/
theorem Carries.not_active {old new : AttestationTrustAnchor} (h : Carries old new)
    (hold : old.status ≠ .active) : new.status ≠ .active := by
  cases hs : old.status with
  | active => exact absurd hs hold
  | revoked =>
    rw [h.revoked hs]
    exact nofun
  | superseded =>
    rw [(h.superseded hs).1]
    exact nofun

/-- Every superseded anchor names an active one. -/
def SuccessorsActive (s : SignedAttestationTrustState) : Prop :=
  ∀ k, ∀ a ∈ s.anchor? k, a.status = .superseded →
    ∃ successor ∈ s.anchor? (a.supersededBy.getD []), successor.status = .active

/-- The steps from one state to the next. -/
structure Follows (previous current : SignedAttestationTrustState) : Prop where
  version : current.version = previous.version + 1
  linked : ∃ digest, previous.digest = .ok digest ∧ current.previousDigest = some digest
  later : ∃ before after, issuedInstant fromisoformat previous.issuedAt = .ok before ∧
    issuedInstant fromisoformat current.issuedAt = .ok after ∧ before < after
  carried : ∀ k, ∀ old ∈ previous.anchor? k, ∀ new ∈ current.anchor? k, Carries old new
  fresh : ∀ k, ∀ new ∈ current.anchor? k, previous.anchor? k = none → new.status = .active
  successors : current.SuccessorsActive

variable {fromisoformat}

private theorem checkCarried_eq_ok {current : SignedAttestationTrustState}
    {old : AttestationTrustAnchor} :
    checkCarried current old = .ok () ↔ ∀ new ∈ current.anchor? old.keyId, Carries old new := by
  rw [checkCarried]
  cases current.anchor? old.keyId with
  | none => simp
  | some new =>
    simp only [require_bind_eq_ok, require_eq_ok, decide_eq_true_eq, Option.mem_def,
      Option.some.injEq, forall_eq']
    constructor
    · rintro ⟨hkey, hrevoked, hsuperseded⟩
      exact ⟨hkey, hrevoked, hsuperseded⟩
    · intro h
      exact ⟨h.publicKey, h.revoked, h.superseded⟩

private theorem checkListed_eq_ok {previous current : SignedAttestationTrustState}
    {new : AttestationTrustAnchor} :
    checkListed previous current new = .ok () ↔
      (previous.anchor? new.keyId = none → new.status = .active) ∧ (new.status = .superseded →
        ∃ successor ∈ current.anchor? (new.supersededBy.getD []), successor.status = .active) := by
  rw [checkListed, require_bind_eq_ok, require_eq_ok, decide_eq_true_eq, decide_eq_true_eq]

/-- A property of every listed anchor, by the key it is listed under. -/
theorem forall_anchors_iff {s : SignedAttestationTrustState}
    {P : Text → AttestationTrustAnchor → Prop} :
    (∀ a ∈ s.anchors, P a.keyId a) ↔ ∀ k, ∀ a ∈ s.anchor? k, P k a := by
  constructor
  · intro h k a ha
    obtain ⟨hmem, rfl⟩ := anchor?_eq_some_iff.mp ha
    exact h a hmem
  · intro h a ha
    exact h a.keyId a (anchor?_eq_some_iff.mpr ⟨ha, rfl⟩)

/-- A state may start a history exactly when it names no predecessor. -/
@[simp] theorem validateTransition_none {current : SignedAttestationTrustState} :
    validateTransition fromisoformat none current = .ok () ↔ current.previousDigest = none := by
  rw [validateTransition, require_eq_ok, decide_eq_true_eq]

/-- The validation accepts exactly the steps of `Follows`. -/
@[simp] theorem validateTransition_some {previous current : SignedAttestationTrustState} :
    validateTransition fromisoformat (some previous) current = .ok () ↔
      Follows fromisoformat previous current := by
  have hcarried : (∀ old ∈ previous.anchors, checkCarried current old = .ok ()) ↔
      ∀ k, ∀ old ∈ previous.anchor? k, ∀ new ∈ current.anchor? k, Carries old new := by
    simp only [checkCarried_eq_ok]
    exact forall_anchors_iff (P := fun k old ↦ ∀ new ∈ current.anchor? k, Carries old new)
  have hlisted : (∀ new ∈ current.anchors, checkListed previous current new = .ok ()) ↔
      (∀ k, ∀ new ∈ current.anchor? k, previous.anchor? k = none → new.status = .active) ∧
        current.SuccessorsActive := by
    simp only [checkListed_eq_ok, SuccessorsActive, ← forall_and]
    exact forall_anchors_iff (P := fun k new ↦
      (previous.anchor? k = none → new.status = .active) ∧ (new.status = .superseded →
        ∃ successor ∈ current.anchor? (new.supersededBy.getD []), successor.status = .active))
  simp only [validateTransition, require_bind_eq_ok, bind_eq_ok (x := digest _),
    bind_eq_ok (x := issuedInstant _ _), decide_eq_true_eq]
  constructor
  · rintro ⟨hversion, digest, hdigest, hprevious, after, hafter, before, hbefore, hlater, hforM⟩
    obtain ⟨_, hc, hl⟩ := bind_eq_ok.mp hforM
    obtain ⟨hfresh, hsuccessors⟩ := hlisted.mp (forM_eq_ok.mp hl)
    exact ⟨hversion, ⟨digest, hdigest, hprevious⟩, ⟨before, after, hbefore, hafter, hlater⟩,
      hcarried.mp (forM_eq_ok.mp hc), hfresh, hsuccessors⟩
  · intro h
    obtain ⟨digest, hdigest, hprevious⟩ := h.linked
    obtain ⟨before, after, hbefore, hafter, hlater⟩ := h.later
    refine ⟨h.version, digest, hdigest, hprevious, after, hafter, before, hbefore, hlater, ?_⟩
    exact bind_eq_ok.mpr ⟨(), forM_eq_ok.mpr (hcarried.mpr h.carried),
      forM_eq_ok.mpr (hlisted.mpr ⟨h.fresh, h.successors⟩)⟩

/-! ### Retiring a key -/

/-- An anchor marked revoked. -/
def revoke (a : AttestationTrustAnchor) : AttestationTrustAnchor :=
  ⟨a.keyId, a.publicKey, .revoked, none, a.named, a.keyLength, nofun, fun _ ↦ rfl⟩

/-- An anchor marked superseded by another. -/
def supersede (successor a : AttestationTrustAnchor) : AttestationTrustAnchor :=
  ⟨a.keyId, a.publicKey, .superseded, some successor.keyId, a.named, a.keyLength,
    fun _ ↦ successor.named, fun h ↦ absurd rfl h⟩

variable (fromisoformat)

/-- The next state but for its anchors: the following version, linked and later. -/
structure Advances (tip next : SignedAttestationTrustState) : Prop where
  authority : next.authorityKeyId = tip.authorityKeyId
  version : next.version = tip.version + 1
  linked : ∃ digest, tip.digest = .ok digest ∧ next.previousDigest = some digest
  later : ∃ before after, issuedInstant fromisoformat tip.issuedAt = .ok before ∧
    issuedInstant fromisoformat next.issuedAt = .ok after ∧ before < after

/-- The next state that differs by marking a key revoked. -/
structure Revokes (tip : SignedAttestationTrustState) (k : Text)
    (next : SignedAttestationTrustState) : Prop extends Advances fromisoformat tip next where
  anchors : ∀ key, next.anchor? key =
    if key = k then (tip.anchor? k).map revoke else tip.anchor? key

/-- The next state that differs by adding a fresh active key and marking a key superseded by
it. -/
structure Rotates (tip : SignedAttestationTrustState) (k : Text) (fresh : AttestationTrustAnchor)
    (next : SignedAttestationTrustState) : Prop extends Advances fromisoformat tip next where
  active : fresh.status = .active
  unlisted : tip.anchor? fresh.keyId = none
  anchors : ∀ key, next.anchor? key =
    if key = k then (tip.anchor? k).map (supersede fresh)
    else if key = fresh.keyId then some fresh else tip.anchor? key

variable {fromisoformat}

/-- No superseded anchor depends on the key, and each names an active one. -/
def Unencumbered (tip : SignedAttestationTrustState) (k : Text) : Prop :=
  tip.SuccessorsActive ∧
    ∀ key, ∀ a ∈ tip.anchor? key, a.status = .superseded → a.supersededBy ≠ some k

/-- What revoking and superseding have in common: one active key gets an inactive anchor whose
successor, if it has one, is active; other anchors stay and only active ones are added. -/
structure Retires (tip : SignedAttestationTrustState) (k : Text)
    (next : SignedAttestationTrustState) : Prop where
  retired : ∃ a ∈ tip.anchor? k, a.status = .active ∧ ∃ r ∈ next.anchor? k,
    r.publicKey = a.publicKey ∧ r.status ≠ .active ∧ (r.status = .superseded →
      ∃ successor ∈ next.anchor? (r.supersededBy.getD []), successor.status = .active)
  kept : ∀ key, key ≠ k → ∀ a ∈ tip.anchor? key, next.anchor? key = some a
  added : ∀ key, ∀ a ∈ next.anchor? key, tip.anchor? key = none → a.status = .active

/-- A superseded anchor names its successor, and the state lists it. -/
theorem supersededBy_listed {s : SignedAttestationTrustState} {k : Text}
    {a : AttestationTrustAnchor} (ha : a ∈ s.anchor? k) (hs : a.status = .superseded) :
    a.supersededBy = some (a.supersededBy.getD []) ∧
      s.anchor? (a.supersededBy.getD []) ≠ none := by
  obtain ⟨b, hb, hk⟩ := s.successorsListed a (anchor?_eq_some_iff.mp ha).1 hs
  rw [← hk, Option.getD_some]
  refine ⟨rfl, fun hnone ↦ ?_⟩
  exact anchor?_eq_none_iff.mp hnone b hb rfl

/-- A key can be retired exactly when no superseded anchor depends on it. -/
theorem Retires.follows_iff {tip next : SignedAttestationTrustState} {k : Text}
    (hadvances : Advances fromisoformat tip next) (hretires : Retires tip k next) :
    Follows fromisoformat tip next ↔ tip.Unencumbered k := by
  obtain ⟨old, hold, hactive, new, hnew, hkey, hinactive, hown⟩ := hretires.retired
  rw [Option.mem_def] at hold hnew
  have hne : ∀ {key a}, a ∈ tip.anchor? key → a.status = .superseded → key ≠ k := by
    rintro key a ha hs rfl
    rw [Option.mem_def, hold] at ha
    cases ha
    rw [hactive] at hs
    cases hs
  constructor
  · intro hf
    have hsuccessor : ∀ key, ∀ a ∈ tip.anchor? key, a.status = .superseded →
        ∃ successor ∈ next.anchor? (a.supersededBy.getD []), successor.status = .active :=
      fun key a ha hs ↦ hf.successors key a (hretires.kept key (hne ha hs) a ha) hs
    have hother : ∀ key, ∀ a ∈ tip.anchor? key, a.status = .superseded →
        a.supersededBy.getD [] ≠ k := by
      rintro key a ha hs rfl
      obtain ⟨successor, hmem, hact⟩ := hsuccessor key a ha hs
      rw [Option.mem_def, hnew] at hmem
      cases hmem
      exact hinactive hact
    constructor
    · intro key a ha hs
      obtain ⟨-, hlisted⟩ := supersededBy_listed ha hs
      obtain ⟨b, hb⟩ := Option.ne_none_iff_exists'.mp hlisted
      obtain ⟨successor, hmem, hact⟩ := hsuccessor key a ha hs
      have hkept := hretires.kept _ (hother key a ha hs) b hb
      rw [Option.mem_def, hkept] at hmem
      cases hmem
      exact ⟨b, hb, hact⟩
    · intro key a ha hs hby
      exact hother key a ha hs (by rw [hby, Option.getD_some])
  · rintro ⟨hsuccessors, hfree⟩
    refine ⟨hadvances.version, hadvances.linked, hadvances.later, ?_, ?_, ?_⟩
    · intro key a ha b hb
      by_cases hk : key = k
      · subst hk
        rw [Option.mem_def, hold] at ha
        rw [Option.mem_def, hnew] at hb
        cases ha
        cases hb
        refine ⟨hkey, fun h ↦ ?_, fun h ↦ ?_⟩ <;> · rw [hactive] at h; cases h
      · rw [Option.mem_def, hretires.kept key hk a ha] at hb
        cases hb
        exact Carries.refl a
    · exact fun key a ha hnone ↦ hretires.added key a ha hnone
    · intro key a ha hs
      by_cases hk : key = k
      · subst hk
        rw [Option.mem_def, hnew] at ha
        cases ha
        exact hown hs
      · cases htip : tip.anchor? key with
        | none =>
          rw [hretires.added key a ha htip] at hs
          cases hs
        | some b =>
          rw [Option.mem_def, hretires.kept key hk b htip] at ha
          cases ha
          obtain ⟨successor, hmem, hact⟩ := hsuccessors key a htip hs
          have hby := (supersededBy_listed htip hs).1
          have hother : a.supersededBy.getD [] ≠ k := fun heq ↦
            hfree key a htip hs (by rw [hby, heq])
          exact ⟨successor, hretires.kept _ hother successor hmem, hact⟩

theorem Revokes.retires {tip next : SignedAttestationTrustState} {k : Text}
    {a : AttestationTrustAnchor} (ha : tip.anchor? k = some a) (hactive : a.status = .active)
    (hr : Revokes fromisoformat tip k next) : Retires tip k next where
  retired := ⟨a, ha, hactive, revoke a, by rw [hr.anchors, if_pos rfl, ha]; rfl, rfl, nofun, nofun⟩
  kept key hk b hb := by rw [hr.anchors, if_neg hk, hb]
  added key b hb hnone := by
    rw [hr.anchors] at hb
    split at hb
    · next hk =>
      rw [hk, ha] at hnone
      cases hnone
    · rw [hnone] at hb
      cases hb

theorem Rotates.retires {tip next : SignedAttestationTrustState} {k : Text}
    {a fresh : AttestationTrustAnchor} (ha : tip.anchor? k = some a)
    (hactive : a.status = .active) (hr : Rotates fromisoformat tip k fresh next) :
    Retires tip k next := by
  have hk : fresh.keyId ≠ k := by
    intro hk
    have hnone := hr.unlisted
    rw [hk, ha] at hnone
    cases hnone
  refine ⟨⟨a, ha, hactive, supersede fresh a, ?_, rfl, nofun, fun _ ↦ ⟨fresh, ?_, hr.active⟩⟩, ?_, ?_⟩
  · rw [hr.anchors, if_pos rfl, ha]
    rfl
  · rw [supersede, Option.getD_some, Option.mem_def, hr.anchors, if_neg hk, if_pos rfl]
  · intro key hne b hb
    rw [hr.anchors, if_neg hne]
    split
    · next hfresh =>
      rw [hfresh, hr.unlisted] at hb
      cases hb
    · exact hb
  · intro key b hb hnone
    rw [hr.anchors] at hb
    split at hb
    · next hkey =>
      rw [hkey, ha] at hnone
      cases hnone
    · split at hb
      · cases hb
        exact hr.active
      · rw [hnone] at hb
        cases hb

end SignedAttestationTrustState

end StateWake.Trust
