import StateWake.Base.DatetimeOrder
import StateWake.Lifecycle.DataLifecycle
import Mathlib.Tactic.Ring

/-!
# Deadlines

The arithmetic of `assess_data_lifecycle`, `domain/data_lifecycle.py:104–157`: a creation time in UTC
plus whole days. The calendar ends with the year 9999, and a time near either end of it may have no
UTC time, so a decision that needs a deadline may raise.
-/

namespace StateWake.Base.Date

/-- The last day of the calendar. -/
def last : Date := .of 9999 12 31

/-- No day is later. -/
theorem toOrdinal_le_last (t : Date) : t.toOrdinal ≤ last.toOrdinal := by
  by_contra h
  have hlex := lt_of_toOrdinal_lt (not_le.mp h)
  have hyear := t.year_le
  have hmonth := t.month_le
  have hday := t.day_le.trans (daysInMonth_le _ _)
  simp only [last, of] at hlex
  omega

/-- Only the last day has none after it. -/
theorem next?_eq_none_iff {t : Date} : t.next? = none ↔ t = last := by
  constructor
  · intro h
    have hyear := t.year_le
    have hmonth := t.month_le
    have hpos := t.year_pos
    have hmpos := t.month_pos
    have hdpos := t.day_pos
    have hday := t.day_le
    rw [next?] at h
    split at h
    · next hlt =>
      rw [make?, dif_pos ⟨hpos, hyear, hmpos, hmonth, by omega, by omega⟩] at h
      cases h
    · next hfull =>
      split at h
      · next hlt =>
        rw [make?, dif_pos ⟨hpos, hyear, by omega, by omega, le_refl 1, daysInMonth_pos _ _⟩] at h
        cases h
      · next hlate =>
        by_cases hend : t.year + 1 ≤ 9999
        · rw [make?, dif_pos ⟨by omega, hend, le_refl 1, by omega, le_refl 1,
            daysInMonth_pos _ _⟩] at h
          cases h
        · have hy : t.year = 9999 := by omega
          have hm : t.month = 12 := by omega
          have hd : t.day = 31 := by
            rw [hy, hm] at hday hfull
            have h31 : daysInMonth 9999 12 = 31 := rfl
            omega
          cases t
          simp only at hy hm hd
          subst hy hm hd
          rfl
  · rintro rfl
    decide

end StateWake.Base.Date

namespace StateWake.Lifecycle

open StateWake.Base Text

/-- Days are added as their length. -/
theorem instant_addDays {t u : Datetime} {days : Nat} (h : addDays t days = .ok u) :
    u.instant = t.instant + days * microsPerDay := by
  induction days generalizing t with
  | zero =>
    cases h
    simp
  | succ days ih =>
    rw [addDays, bind_eq_ok] at h
    obtain ⟨date, hdate, h⟩ := h
    rw [orRaise_eq_ok] at hdate
    rw [ih h, Datetime.instant, Datetime.instant, Date.toOrdinal_next? hdate]
    push_cast
    ring

/-- Days can be added as long as the calendar has them. -/
theorem exists_addDays_iff {t : Datetime} {days : Nat} :
    (∃ u, addDays t days = .ok u) ↔ t.date.toOrdinal + days ≤ Date.last.toOrdinal := by
  induction days generalizing t with
  | zero => exact iff_of_true ⟨t, rfl⟩ t.date.toOrdinal_le_last
  | succ days ih =>
    cases hnext : t.date.next? with
    | none =>
      rw [addDays, hnext, orRaise_none, error_bind, Date.next?_eq_none_iff.mp hnext]
      apply iff_of_false
      · rintro ⟨u, hu⟩
        cases hu
      · omega
    | some date =>
      rw [addDays, hnext, orRaise_some, ok_bind, ih, Date.toOrdinal_next? hnext]
      omega

/-- What raises in an addition is an overflow. -/
theorem addDays_error {t : Datetime} {days : Nat} {e : PyError} (h : addDays t days = .error e) :
    e.kind = .overflowError := by
  induction days generalizing t with
  | zero => cases h
  | succ days ih =>
    cases hnext : t.date.next? with
    | none =>
      rw [addDays, hnext, orRaise_none, error_bind] at h
      cases h
      rfl
    | some date =>
      rw [addDays, hnext, orRaise_some, ok_bind] at h
      exact ih h

/-! ### Lifecycle decisions -/

/-- The times that a limit in days needs can be computed: the creation and the clock have UTC times,
and the calendar has the deadline. -/
structure Dated (createdAt now : AwareDatetime) (days : Nat) : Prop where
  clock : ∃ current, now.toUtc = .ok current
  deadline : ∃ created, createdAt.toUtc = .ok created ∧
    created.date.toOrdinal + days ≤ Date.last.toOrdinal

/-- A deadline of a policy: the creation time plus its days. -/
def Deadline (createdAt : AwareDatetime) (days : Nat) (text : Text) (until' : Datetime) : Prop :=
  text = isoformat until' ∧ until'.instant = createdAt.instant + days * microsPerDay

/-- What a policy decides for an object at a time: the deadline counts the policy's days from the
creation, the object is expired from then on, and it can be deleted unless there is a hold. -/
structure Decides (createdAt : AwareDatetime) (maxRetentionDays : Option Nat)
    (now : AwareDatetime) (legalHold : Bool) (d : DataLifecycleDecision) : Prop where
  unlimited : maxRetentionDays = none → d.retainUntil = none ∧ d.expired = false
  limited : ∀ days ∈ maxRetentionDays, ∃ text until', d.retainUntil = some text ∧
    Deadline createdAt days text until' ∧ (d.expired = true ↔ until'.instant ≤ now.instant)
  deletion : d.deletionAllowed = true ↔ d.expired = true ∧ legalHold = false

variable {objectId : Text} {level : Sensitivity} {createdAt now later : AwareDatetime}
  {policy : DataLifecyclePolicy} {legalHold : Bool}

/-- An assessment of an object with a sensitivity decides exactly where the times that the policy
needs can be computed. -/
theorem exists_decision_iff (hid : blank objectId = false) :
    (∃ d, assessDataLifecycle objectId level.text createdAt policy now legalHold = .ok d) ↔
      ∀ days ∈ policy.maxRetentionDays, Dated createdAt now days := by
  simp only [assessDataLifecycle, hid, Bool.not_false, require_true, ok_bind,
    Sensitivity.validate_text]
  cases hdays : policy.maxRetentionDays with
  | none => exact iff_of_true ⟨_, rfl⟩ nofun
  | some days =>
    simp only [bind_eq_ok, Option.mem_some_iff, forall_eq']
    constructor
    · rintro ⟨d, created, hcreated, eligible, heligible, current, hcurrent, -⟩
      exact ⟨⟨current, hcurrent⟩, created, hcreated, exists_addDays_iff.mp ⟨eligible, heligible⟩⟩
    · rintro ⟨⟨current, hcurrent⟩, created, hcreated, hadd⟩
      obtain ⟨eligible, heligible⟩ := exists_addDays_iff.mpr hadd
      exact ⟨_, created, hcreated, eligible, heligible, current, hcurrent, rfl⟩

/-- What an assessment decides. -/
theorem decides_of_assess {d : DataLifecycleDecision}
    (h : assessDataLifecycle objectId level.text createdAt policy now legalHold = .ok d) :
    Decides createdAt policy.maxRetentionDays now legalHold d := by
  simp only [assessDataLifecycle, bind_eq_ok, require_eq_ok, exists_const,
    Sensitivity.validate_text, ok_bind] at h
  obtain ⟨-, h⟩ := h
  cases hdays : policy.maxRetentionDays with
  | none =>
    rw [hdays] at h
    cases h
    exact ⟨fun _ ↦ ⟨rfl, rfl⟩, by rintro _ ⟨⟩, by simp⟩
  | some days =>
    rw [hdays] at h
    simp only [bind_eq_ok] at h
    obtain ⟨created, hcreated, eligible, heligible, current, hcurrent, h⟩ := h
    rw [← Except.ok.inj h]
    refine ⟨by rintro ⟨⟩, ?_, by simp⟩
    intro days' hmem
    rw [Option.mem_some_iff] at hmem
    subst hmem
    refine ⟨isoformat eligible, eligible, rfl, ⟨rfl, ?_⟩, ?_⟩
    · rw [instant_addDays heligible, AwareDatetime.instant_toUtc hcreated]
    · simp only [decide_eq_true_eq]
      rw [AwareDatetime.instant_toUtc hcurrent]

/-- An object that is expired stays so, and one that can be deleted can still be deleted later. -/
theorem Decides.mono {days : Option Nat} {d d' : DataLifecycleDecision}
    (h : Decides createdAt days now legalHold d) (h' : Decides createdAt days later legalHold d')
    (hlater : now.instant ≤ later.instant) :
    (d.expired = true → d'.expired = true) ∧
      (d.deletionAllowed = true → d'.deletionAllowed = true) := by
  have hexpired : d.expired = true → d'.expired = true := by
    intro hexpired
    cases days with
    | none =>
      rw [(h.unlimited rfl).2] at hexpired
      cases hexpired
    | some days =>
      obtain ⟨text, until', -, ⟨-, huntil⟩, hdue⟩ := h.limited days rfl
      obtain ⟨text', until'', -, ⟨-, huntil'⟩, hdue'⟩ := h'.limited days rfl
      rw [hdue', huntil', ← huntil]
      exact (hdue.mp hexpired).trans hlater
  constructor
  · exact hexpired
  · rw [h.deletion, h'.deletion]
    exact fun ⟨he, hhold⟩ ↦ ⟨hexpired he, hhold⟩

end StateWake.Lifecycle
