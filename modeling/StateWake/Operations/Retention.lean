import StateWake.Lifecycle.ContentStore
import StateWake.Lifecycle.Deadlines
import StateWake.Operations.Bundle

/-!
# Retention of bundles

`assess_retention`, `domain/operations.py:211–266`. A bundle is assessed as an object of the data
lifecycle is: both count the days of a policy from a creation time, and both raise where the
calendar has no such deadline or a time is too close to its ends to be one in UTC.
-/

namespace StateWake.Operations

open StateWake.Base Text Utils Lifecycle

/-- The states of a decision, `domain/operations.py:222–266`. -/
inductive RetentionState where
  | retain
  | quarantine
  | expired
  deriving DecidableEq, Repr

/-- The name of a state. -/
def RetentionState.text : RetentionState → Text
  | .retain => lit "retain"
  | .quarantine => lit "quarantine"
  | .expired => lit "expired"

/-- `RetentionDecision`, `domain/operations.py:185–194`. -/
structure RetentionDecision where
  bundleId : Text
  policyId : Text
  state : RetentionState
  eligibleAt : Option Text
  reason : Text
  deriving DecidableEq

/-- The artifacts above the ceiling of a policy, `domain/operations.py:228–233`. -/
def aboveCeiling (b : OperationalBundle) (policy : RetentionPolicy) : List Text :=
  (b.artifacts.filter fun a ↦ policy.maxSensitivity.rank < a.sensitivity.rank).map
    OperationalArtifact.artifactId

/-- `assess_retention`, `domain/operations.py:211–266`. -/
def assessRetention (b : OperationalBundle) (policy : RetentionPolicy) (asOf : AwareDatetime) :
    Except PyError RetentionDecision :=
  if b.artifacts.isEmpty then
    .ok ⟨b.bundleId, policy.policyId, .retain, none, lit "bundle contains no artifacts"⟩
  else if !(aboveCeiling b policy).isEmpty then
    .ok ⟨b.bundleId, policy.policyId, .quarantine, none,
      lit "artifacts exceed retention sensitivity ceiling: " ++
        List.intercalate (lit ", ") ((aboveCeiling b policy).insertionSort (· ≤ ·))⟩
  else
    match policy.maxAgeDays with
    | none => .ok ⟨b.bundleId, policy.policyId, .retain, none, lit "no maximum age configured"⟩
    | some days => do
      let created ← b.createdAt.toUtc
      let eligible ← addDays created days
      let current ← asOf.toUtc
      if eligible.instant ≤ current.instant then
        pure ⟨b.bundleId, policy.policyId, .expired, some (isoformat eligible),
          lit "bundle is " ++ Decimal.decimal days ++ lit " days or older"⟩
      else
        pure ⟨b.bundleId, policy.policyId, .retain, some (isoformat eligible),
          lit "bundle remains within the " ++ Decimal.decimal days ++
            lit "-day retention window"⟩

/-! ### Bundles that have a deadline -/

/-- The days that an assessment counts: those of the policy, for a bundle with artifacts none of
which is above the ceiling. -/
def countedDays (b : OperationalBundle) (policy : RetentionPolicy) : Option Nat :=
  if b.artifacts.isEmpty then none
  else if !(aboveCeiling b policy).isEmpty then none
  else policy.maxAgeDays

/-- What is decided about a bundle: the deadline counts the days from the creation, and the bundle is
expired from then on. -/
structure RetentionDecides (b : OperationalBundle) (policy : RetentionPolicy)
    (asOf : AwareDatetime) (d : RetentionDecision) : Prop where
  unlimited : countedDays b policy = none → d.eligibleAt = none ∧ d.state ≠ .expired
  limited : ∀ days ∈ countedDays b policy, ∃ text until', d.eligibleAt = some text ∧
    Deadline b.createdAt days text until' ∧
    (d.state = .expired ↔ until'.instant ≤ asOf.instant)

variable {b : OperationalBundle} {policy : RetentionPolicy} {asOf later : AwareDatetime}

/-- An assessment of a bundle decides exactly where the times it needs can be computed. -/
theorem exists_retention_iff : (∃ d, assessRetention b policy asOf = .ok d) ↔
    ∀ days ∈ countedDays b policy, Dated b.createdAt asOf days := by
  rw [assessRetention, countedDays]
  split
  · exact iff_of_true ⟨_, rfl⟩ nofun
  · split
    · exact iff_of_true ⟨_, rfl⟩ nofun
    · cases policy.maxAgeDays with
      | none => exact iff_of_true ⟨_, rfl⟩ nofun
      | some days =>
        simp only [bind_eq_ok, Option.mem_some_iff, forall_eq']
        constructor
        · rintro ⟨d, created, hcreated, eligible, heligible, current, hcurrent, -⟩
          exact ⟨⟨current, hcurrent⟩, created, hcreated,
            exists_addDays_iff.mp ⟨eligible, heligible⟩⟩
        · rintro ⟨⟨current, hcurrent⟩, created, hcreated, hadd⟩
          obtain ⟨eligible, heligible⟩ := exists_addDays_iff.mpr hadd
          by_cases hdue : eligible.instant ≤ current.instant
          · exact ⟨_, created, hcreated, eligible, heligible, current, hcurrent, if_pos hdue⟩
          · exact ⟨_, created, hcreated, eligible, heligible, current, hcurrent, if_neg hdue⟩

/-- What an assessment decides. -/
theorem decides_of_assessRetention {d : RetentionDecision}
    (h : assessRetention b policy asOf = .ok d) : RetentionDecides b policy asOf d := by
  rw [assessRetention] at h
  by_cases hempty : b.artifacts.isEmpty = true
  · rw [if_pos hempty] at h
    cases h
    have hdays : countedDays b policy = none := by rw [countedDays, if_pos hempty]
    exact ⟨fun _ ↦ ⟨rfl, nofun⟩, by simp [hdays]⟩
  · rw [if_neg hempty] at h
    by_cases habove : (!(aboveCeiling b policy).isEmpty) = true
    · rw [if_pos habove] at h
      cases h
      have hdays : countedDays b policy = none := by
        rw [countedDays, if_neg hempty, if_pos habove]
      exact ⟨fun _ ↦ ⟨rfl, nofun⟩, by simp [hdays]⟩
    · rw [if_neg habove] at h
      have hdays : countedDays b policy = policy.maxAgeDays := by
        rw [countedDays, if_neg hempty, if_neg habove]
      cases hage : policy.maxAgeDays with
      | none =>
        rw [hage] at h hdays
        cases h
        exact ⟨fun _ ↦ ⟨rfl, nofun⟩, by simp [hdays]⟩
      | some days =>
        rw [hage] at h hdays
        simp only [bind_eq_ok] at h
        obtain ⟨created, hcreated, eligible, heligible, current, hcurrent, h⟩ := h
        have hdeadline : Deadline b.createdAt days (isoformat eligible) eligible :=
          ⟨rfl, by rw [instant_addDays heligible, AwareDatetime.instant_toUtc hcreated]⟩
        have hnow := AwareDatetime.instant_toUtc hcurrent
        refine ⟨by simp [hdays], ?_⟩
        rw [hdays]
        intro days' hmem
        rw [Option.mem_some_iff] at hmem
        subst hmem
        by_cases hdue : eligible.instant ≤ current.instant
        · rw [if_pos hdue] at h
          cases h
          exact ⟨_, eligible, rfl, hdeadline, iff_of_true rfl (hnow ▸ hdue)⟩
        · rw [if_neg hdue] at h
          cases h
          exact ⟨_, eligible, rfl, hdeadline, iff_of_false nofun (hnow ▸ hdue)⟩

/-- An expired bundle stays expired. -/
theorem RetentionDecides.mono {d d' : RetentionDecision} (h : RetentionDecides b policy asOf d)
    (h' : RetentionDecides b policy later d') (hlater : asOf.instant ≤ later.instant) :
    d.state = .expired → d'.state = .expired := by
  intro hexpired
  cases hdays : countedDays b policy with
  | none => exact absurd hexpired (h.unlimited hdays).2
  | some days =>
    obtain ⟨text, until', -, ⟨-, huntil⟩, hdue⟩ := h.limited days hdays
    obtain ⟨text', until'', -, ⟨-, huntil'⟩, hdue'⟩ := h'.limited days hdays
    rw [hdue', huntil', ← huntil]
    exact (hdue.mp hexpired).trans hlater

/-! ### Total and monotone -/

/-- Both assessments of an object at two times return what is decided, and what is expired or can be
deleted at the first time is so at the second. -/
def TotalLifecycle (objectId : Text) (level : Sensitivity) (createdAt : AwareDatetime)
    (policy : DataLifecyclePolicy) (legalHold : Bool) (now later : AwareDatetime) : Prop :=
  ∃ d d', assessDataLifecycle objectId level.text createdAt policy now legalHold = .ok d ∧
    assessDataLifecycle objectId level.text createdAt policy later legalHold = .ok d' ∧
    Decides createdAt policy.maxRetentionDays now legalHold d ∧
    Decides createdAt policy.maxRetentionDays later legalHold d' ∧
    (d.expired = true → d'.expired = true) ∧
    (d.deletionAllowed = true → d'.deletionAllowed = true) ∧
    (legalHold = true → d.deletionAllowed = false ∧ d'.deletionAllowed = false)

/-- So do both assessments of a bundle. -/
def TotalRetention (b : OperationalBundle) (policy : RetentionPolicy) (asOf later : AwareDatetime) :
    Prop :=
  ∃ d d', assessRetention b policy asOf = .ok d ∧ assessRetention b policy later = .ok d' ∧
    RetentionDecides b policy asOf d ∧ RetentionDecides b policy later d' ∧
    (d.state = .expired → d'.state = .expired)

/-- The arithmetic of retention is total and monotone exactly where the times that the day counts
need can be computed: the creation and both clocks have UTC times, and the calendar has the
deadline. -/
theorem retention_total_iff (objectId : Text) (level : Sensitivity) (createdAt : AwareDatetime)
    (lifecycle : DataLifecyclePolicy) (legalHold : Bool) (b : OperationalBundle)
    (policy : RetentionPolicy) (now later : AwareDatetime) (hid : blank objectId = false)
    (hlater : now.instant ≤ later.instant) :
    (TotalLifecycle objectId level createdAt lifecycle legalHold now later ↔
      ∀ days ∈ lifecycle.maxRetentionDays, Dated createdAt now days ∧
        Dated createdAt later days) ∧
    (TotalRetention b policy now later ↔
      ∀ days ∈ countedDays b policy, Dated b.createdAt now days ∧
        Dated b.createdAt later days) := by
  constructor
  · constructor
    · rintro ⟨d, d', hd, hd', -⟩ days hdays
      exact ⟨(exists_decision_iff hid).mp ⟨d, hd⟩ days hdays,
        (exists_decision_iff hid).mp ⟨d', hd'⟩ days hdays⟩
    · intro h
      obtain ⟨d, hd⟩ := (exists_decision_iff hid).mpr fun days hdays ↦ (h days hdays).1
      obtain ⟨d', hd'⟩ := (exists_decision_iff hid).mpr fun days hdays ↦ (h days hdays).2
      have hdecides := decides_of_assess hd
      have hdecides' := decides_of_assess hd'
      obtain ⟨hexpired, hdeletion⟩ := hdecides.mono hdecides' hlater
      refine ⟨d, d', hd, hd', hdecides, hdecides', hexpired, hdeletion, ?_⟩
      rintro rfl
      have hheld : ∀ {clock : AwareDatetime} {e : DataLifecycleDecision},
          Decides createdAt lifecycle.maxRetentionDays clock true e →
            e.deletionAllowed = false := by
        intro clock e he
        rw [← Bool.not_eq_true, he.deletion]
        simp
      exact ⟨hheld hdecides, hheld hdecides'⟩
  · constructor
    · rintro ⟨d, d', hd, hd', -⟩ days hdays
      exact ⟨exists_retention_iff.mp ⟨d, hd⟩ days hdays,
        exists_retention_iff.mp ⟨d', hd'⟩ days hdays⟩
    · intro h
      obtain ⟨d, hd⟩ := exists_retention_iff.mpr fun days hdays ↦ (h days hdays).1
      obtain ⟨d', hd'⟩ := exists_retention_iff.mpr fun days hdays ↦ (h days hdays).2
      have hdecides := decides_of_assessRetention hd
      have hdecides' := decides_of_assessRetention hd'
      exact ⟨d, d', hd, hd', hdecides, hdecides', hdecides.mono hdecides' hlater⟩

/-- A policy of a week. -/
def oneWeek : DataLifecyclePolicy :=
  ⟨lit "week", some 7, .restricted, .internal, .internal, by decide⟩

/-- A bundle of nothing. -/
def emptyBundle : OperationalBundle :=
  ⟨lit "bundle", lit "manifest", lit "agent", lit "1", .ofUtc RetentionAdapter.epoch, [], none⟩

/-- A week from the first day of 1970 on is a deadline. -/
theorem retention_total_week :
    TotalLifecycle (lit "record") .internal (.ofUtc RetentionAdapter.epoch) oneWeek true
      (.ofUtc RetentionAdapter.epoch) (.ofUtc RetentionAdapter.epoch) := by
  refine (retention_total_iff (lit "record") .internal (.ofUtc RetentionAdapter.epoch) oneWeek true
    emptyBundle ⟨lit "week", some 7, .restricted, by decide⟩ (.ofUtc RetentionAdapter.epoch)
    (.ofUtc RetentionAdapter.epoch) (by decide) (le_refl _)).1.mpr ?_
  intro days hdays
  rw [oneWeek, Option.mem_some_iff] at hdays
  subst hdays
  have hdated : Dated (.ofUtc RetentionAdapter.epoch) (.ofUtc RetentionAdapter.epoch) 7 :=
    ⟨⟨_, AwareDatetime.toUtc_ofUtc _⟩, _, AwareDatetime.toUtc_ofUtc _, by decide⟩
  exact ⟨hdated, hdated⟩

/-- A policy of ten thousand years. -/
def tenThousandYears : DataLifecyclePolicy :=
  ⟨lit "archive", some 3652059, .restricted, .internal, .internal, by decide⟩

/-- The calendar has no deadline for it: an assessment raises. -/
theorem not_retention_total : ¬∀ objectId level createdAt lifecycle legalHold now later,
    blank objectId = false → now.instant ≤ later.instant →
      TotalLifecycle objectId level createdAt lifecycle legalHold now later := by
  intro h
  obtain ⟨d, d', hd, -⟩ := h (lit "record") .internal (.ofUtc RetentionAdapter.epoch)
    tenThousandYears false (.ofUtc RetentionAdapter.epoch) (.ofUtc RetentionAdapter.epoch)
    (by decide) (le_refl _)
  obtain ⟨-, created, hcreated, hadd⟩ := (exists_decision_iff (by decide)).mp ⟨d, hd⟩ 3652059 rfl
  rw [AwareDatetime.toUtc_ofUtc] at hcreated
  cases hcreated
  exact absurd hadd (by decide)

end StateWake.Operations
