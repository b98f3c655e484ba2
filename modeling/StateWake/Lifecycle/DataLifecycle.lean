import StateWake.Base.Datetime
import StateWake.Base.Dict
import StateWake.Base.Sha256

/-!
# Data lifecycle

`domain/data_lifecycle.py`: sensitivities, the lifecycle decision for one object and the record
that a deletion leaves.
-/

namespace StateWake.Lifecycle

open StateWake.Base Text

/-! ### Sensitivities -/

/-- `SENSITIVITIES`, `domain/governance.py:11–12`. -/
inductive Sensitivity where
  | «public»
  | internal
  | confidential
  | restricted
  deriving DecidableEq, Repr

namespace Sensitivity

/-- `SENSITIVITY_ORDER`, `domain/governance.py:11`. -/
def rank : Sensitivity → Nat
  | «public» => 0
  | internal => 1
  | confidential => 2
  | restricted => 3

/-- The name of a sensitivity. -/
def text : Sensitivity → Text
  | «public» => lit "public"
  | internal => lit "internal"
  | confidential => lit "confidential"
  | restricted => lit "restricted"

/-- `_validate_sensitivity`, `domain/data_lifecycle.py:12–15`: the sensitivity a name denotes. -/
def validate (value fieldName : Text) : Except PyError Sensitivity :=
  orRaise ⟨.valueError, fieldName ++
      lit " must be one of public, internal, confidential, restricted."⟩
    ([«public», internal, confidential, restricted].find? fun s ↦ decide (s.text = value))

@[simp] theorem validate_text (s : Sensitivity) (fieldName : Text) :
    validate s.text fieldName = .ok s := by
  cases s <;> rfl

theorem rank_injective : Function.Injective rank := by
  intro s t h
  cases s <;> cases t <;> first | rfl | cases h

end Sensitivity

/-! ### Inherited sensitivities -/

/-- The most sensitive of two; the first of equals. -/
def moreSensitive (s t : Sensitivity) : Sensitivity := if s.rank < t.rank then t else s

/-- `inherit_sensitivity`, `domain/data_lifecycle.py:18–40`. -/
def inheritSensitivity (sources : List Sensitivity) (requested : Option Sensitivity)
    (downgradeApproved : Bool) : Except PyError Sensitivity :=
  match sources with
  | [] => valueError (lit "source_sensitivities must not be empty.")
  | first :: rest =>
    let inherited := rest.foldl moreSensitive first
    match requested with
    | none => .ok inherited
    | some level =>
      if level.rank < inherited.rank && !downgradeApproved then
        valueError (lit "derived sensitivity cannot be downgraded without explicit approval.")
      else .ok level

private theorem rank_foldl_le {first : Sensitivity} {rest : List Sensitivity} {n : Nat} :
    (rest.foldl moreSensitive first).rank ≤ n ↔ ∀ s ∈ first :: rest, s.rank ≤ n := by
  induction rest generalizing first with
  | nil => simp
  | cons second rest ih =>
    rw [List.foldl_cons, ih, List.forall_mem_cons, List.forall_mem_cons, List.forall_mem_cons,
      ← and_assoc]
    refine and_congr_left fun _ ↦ ?_
    unfold moreSensitive
    split <;> omega

/-- What is inherited is as sensitive as every source and no more. -/
theorem inheritSensitivity_le_iff {sources : List Sensitivity} {inherited : Sensitivity}
    (h : inheritSensitivity sources none false = .ok inherited) {n : Nat} :
    inherited.rank ≤ n ↔ ∀ s ∈ sources, s.rank ≤ n := by
  cases sources with
  | nil => cases h
  | cons first rest =>
    cases h
    exact rank_foldl_le

/-! ### Lifecycle decisions -/

/-- `DataLifecyclePolicy`, `domain/data_lifecycle.py:43–69`: the fields a decision reads, with
what the constructor checked of them. -/
structure DataLifecyclePolicy where
  policyId : Text
  maxRetentionDays : Option Nat
  storageMaxSensitivity : Sensitivity
  telemetryMaxSensitivity : Sensitivity
  disclosureMaxSensitivity : Sensitivity
  governed : blank policyId = false

/-- `DataLifecycleDecision`, `domain/data_lifecycle.py:72–85`. -/
structure DataLifecycleDecision where
  objectId : Text
  sensitivity : Text
  policyId : Text
  retainUntil : Option Text
  expired : Bool
  storageAllowed : Bool
  telemetryAllowed : Bool
  disclosureAllowed : Bool
  deletionAllowed : Bool
  reasons : List Text
  deriving DecidableEq

/-- A `datetime` plus a number of days. Dates past the year 9999 raise. -/
def addDays (t : Datetime) : Nat → Except PyError Datetime
  | 0 => .ok t
  | days + 1 => do
    let date ← orRaise ⟨.overflowError, lit "date value out of range"⟩ t.date.next?
    addDays { t with date } days

/-- `assess_data_lifecycle`, `domain/data_lifecycle.py:104–157`. -/
def assessDataLifecycle (objectId sensitivity : Text) (createdAt : AwareDatetime)
    (policy : DataLifecyclePolicy) (now : AwareDatetime) (legalHold : Bool) :
    Except PyError DataLifecycleDecision := do
  require ⟨.valueError, lit "object_id must not be empty."⟩ (!blank objectId)
  let level ← Sensitivity.validate sensitivity (lit "sensitivity")
  let storageAllowed := decide (level.rank ≤ policy.storageMaxSensitivity.rank)
  let telemetryAllowed := decide (level.rank ≤ policy.telemetryMaxSensitivity.rank)
  let disclosureAllowed := decide (level.rank ≤ policy.disclosureMaxSensitivity.rank)
  let ceilings :=
    (if storageAllowed then [] else [lit "sensitivity exceeds storage policy ceiling"]) ++
    (if telemetryAllowed then [] else [lit "sensitivity excluded from telemetry"]) ++
    (if disclosureAllowed then [] else [lit "sensitivity excluded from disclosure"])
  let held := if legalHold then [lit "legal hold blocks deletion"] else []
  match policy.maxRetentionDays with
  | none =>
    pure ⟨objectId, sensitivity, policy.policyId, none, false, storageAllowed, telemetryAllowed,
      disclosureAllowed, false, ceilings ++ [lit "no maximum retention is configured"] ++ held⟩
  | some days => do
    let created ← createdAt.toUtc
    let eligible ← addDays created days
    let current ← now.toUtc
    let expired := decide (eligible.instant ≤ current.instant)
    let waiting := if expired then [] else [lit "retention window has not expired"]
    pure ⟨objectId, sensitivity, policy.policyId, some (isoformat eligible), expired,
      storageAllowed, telemetryAllowed, disclosureAllowed, expired && !legalHold,
      ceilings ++ waiting ++ held⟩

/-! ### Deletion records -/

/-- `DeletionRecord`, `domain/data_lifecycle.py:160–190`. -/
structure DeletionRecord where
  objectId : Text
  digest : Text
  sensitivity : Text
  deletedAt : Text
  policyId : Text
  reason : Text
  derivedFrom : List Text
  deriving DecidableEq

/-- The constructor, `__post_init__` at `domain/data_lifecycle.py:172–190`. -/
def DeletionRecord.create (r : DeletionRecord) : Except PyError DeletionRecord := do
  require ⟨.valueError, lit "object_id, policy_id, and reason must not be empty."⟩
    (!blank r.objectId && !blank r.reason && !blank r.policyId)
  require ⟨.valueError, lit "digest must be lowercase SHA-256 hex."⟩ (isSha256 r.digest)
  let _ ← Sensitivity.validate r.sensitivity (lit "sensitivity")
  require ⟨.valueError, lit "deleted_at must not be empty."⟩ (!blank r.deletedAt)
  require ⟨.valueError, lit "derived_from must not contain blank values."⟩
    (!r.derivedFrom.any blank)
  pure r

/-- `build_deletion_record`, `domain/data_lifecycle.py:205–225`. -/
def buildDeletionRecord (objectId digest sensitivity : Text) (deletedAt : AwareDatetime)
    (policyId reason : Text) (derivedFrom : List Text) : Except PyError DeletionRecord := do
  let time ← deletedAt.toUtc
  DeletionRecord.create
    ⟨objectId, digest, sensitivity, isoformat time, policyId, reason, derivedFrom⟩

/-! ### Disclosure -/

/-- `filter_disclosable_ids`, `domain/data_lifecycle.py:227–243`. -/
def filterDisclosableIds (objects : Dict Sensitivity) (maxSensitivity : Text) :
    Except PyError (List Text) := do
  let ceiling ← Sensitivity.validate maxSensitivity (lit "max_sensitivity")
  require ⟨.valueError, lit "object identifiers must not be empty."⟩ (!objects.keys.any blank)
  pure ((Dict.keys (objects.filter fun m ↦ m.2.rank ≤ ceiling.rank)).insertionSort (· ≤ ·))

/-- The identifiers are those of the objects below the ceiling. -/
theorem mem_filterDisclosableIds {objects : Dict Sensitivity} {s : Sensitivity} {ids : List Text}
    (h : filterDisclosableIds objects s.text = .ok ids) {id : Text} :
    id ∈ ids ↔ ∃ level, (id, level) ∈ objects ∧ level.rank ≤ s.rank := by
  rw [filterDisclosableIds, Sensitivity.validate_text, ok_bind, require_bind_eq_ok] at h
  cases h.2
  rw [List.mem_insertionSort, Dict.mem_keys]
  simp

end StateWake.Lifecycle
