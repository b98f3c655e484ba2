import Mathlib.Data.Int.Log
import Mathlib.Data.Rat.Floor
import StateWake.Reliability.EventCodec
import StateWake.Security.Redaction

/-!
# What telemetry carries

The event a span is given, after redaction, with the attributes of the span and of its events, and
the attributes that evidence governance allows of a manifest: `adapters/opentelemetry.py:148–196`,
`domain/privacy.py:96–109` and `domain/governance.py`. Case folding and `re.subn` are parameters;
a replacement can name a group that its pattern lacks, so `re.subn` can raise.
-/

namespace StateWake.Telemetry

open StateWake.Base Text Reliability
open Claims (EvidenceItem itemSensitivities)
open Security (PrivacyPolicy RedactionRule)

/-! ### Timestamps -/

/-- The nearest integer, halves to the even one. -/
def nearest (q : Rat) : Int :=
  let below := q.floor
  if q - below < 1 / 2 ∨ (q - below = 1 / 2 ∧ below % 2 = 0) then below else below + 1

/-- The nearest number with a significand of 53 bits. -/
def binary64 (q : Rat) : Rat :=
  if q = 0 then 0
  else
    let scale : Rat := 2 ^ (52 - Int.log 2 |q|)
    nearest (q * scale) / scale

/-- 1970-01-01, as `toOrdinal` counts. -/
def epochOrdinal : Int := 719163

/-- `_timestamp_ns`, `adapters/opentelemetry.py:148–150`: seconds and nanoseconds are floats. -/
def timestampNs (value : AwareDatetime) : Except PyError Int := do
  let utc ← value.toUtc
  let seconds := binary64 ((utc.instant - epochOrdinal * microsPerDay : Int) / 1000000)
  let nanoseconds := binary64 (seconds * 1000000000)
  pure (nanoseconds.num.tdiv nanoseconds.den)

/-! ### Redaction -/

/-- `Redactor`, `domain/privacy.py:79–85`, with what it uses of `str` and `re`. -/
structure Redactor where
  policy : PrivacyPolicy
  casefold : Text → Text
  subn : Text → Text → Text → Except PyError (Text × Nat)

namespace Redactor

variable (r : Redactor)

/-- A text under the rules, `domain/privacy.py:144–151`. -/
def redactText (value : Text) : Except PyError Text :=
  r.policy.rules.foldlM (fun redacted rule ↦ do
    let result ← r.subn rule.pattern rule.replacement redacted
    pure result.1) value

/-- `redact_metadata`, `domain/privacy.py:92–94`, of texts: the values alone. -/
def redactMetadata (metadata : Dict Text) : Except PyError (Dict Text) :=
  (Dict.sorted metadata).mapM fun m ↦
    if Security.Redactor.isSensitive r.casefold r.policy m.1 then pure (m.1, r.policy.replacement)
    else do
      let value ← r.redactText m.2
      pure (m.1, value)

/-- `redact_event`, `domain/privacy.py:96–109`. -/
def redactEvent (event : EventEnvelope) : Except PyError EventEnvelope := do
  let metadata ← r.redactMetadata event.val.metadata
  construct EventFields.postInit { event.val with metadata := metadata }

/-- Redaction keeps every other field. -/
theorem fields_of_redactEvent {event redacted : EventEnvelope}
    (h : r.redactEvent event = .ok redacted) :
    redacted.val = { event.val with metadata := redacted.val.metadata } := by
  rw [redactEvent, bind_eq_ok] at h
  obtain ⟨metadata, -, h⟩ := h
  rw [construct_eq_ok.mp h]

end Redactor

/-! ### Governance -/

/-- `SENSITIVITY_ORDER`, `domain/governance.py:11`: the place of a sensitivity. -/
def sensitivityOrder (sensitivity : Text) : Nat := itemSensitivities.idxOf sensitivity

/-- `EvidenceGovernancePolicy`, `domain/governance.py:15–42`, with what its constructor checked. -/
structure EvidenceGovernancePolicy where
  policyId : Text
  storageMaxSensitivity : Text
  telemetryMaxSensitivity : Text
  requireDigestFor : List Text
  named : blank policyId = false
  storageRated : storageMaxSensitivity ∈ itemSensitivities
  telemetryRated : telemetryMaxSensitivity ∈ itemSensitivities
  digestsRated : ∀ s ∈ requireDigestFor, s ∈ itemSensitivities

/-- `PrivacyGovernanceRuntimeConfig`, `domain/governance.py:45–50`, whose privacy policy is that of
a redactor. -/
structure PrivacyGovernanceRuntimeConfig where
  redactor : Redactor
  evidencePolicy : EvidenceGovernancePolicy

/-- The sensitivity of an item is within the ceiling of telemetry. -/
def visible (policy : EvidenceGovernancePolicy) (item : EvidenceItem) : Bool :=
  decide (sensitivityOrder item.sensitivity ≤ sensitivityOrder policy.telemetryMaxSensitivity)

/-- `project_manifest_for_telemetry`, `domain/governance.py:128–140`. -/
def projectManifestForTelemetry (manifest : EvidenceManifest) (policy : EvidenceGovernancePolicy) :
    EvidenceManifest :=
  { manifest with
    items := manifest.items.filter (visible policy)
    unique := manifest.unique.sublist (List.filter_sublist.map _) }

/-- `_evidence_governance_attributes`, `adapters/opentelemetry.py:182–196`. Of the decision of
`evaluate_evidence_governance` only the identifier of the policy is read. -/
def evidenceGovernanceAttributes (manifest : EvidenceManifest)
    (runtime : PrivacyGovernanceRuntimeConfig) : Dict Text :=
  let projected := projectManifestForTelemetry manifest runtime.evidencePolicy
  let visibleIds := projected.items.map EvidenceItem.evidenceId
  [(lit "statewake.evidence.manifest_id", manifest.manifestId),
    (lit "statewake.evidence.governance_policy_id", runtime.evidencePolicy.policyId),
    (lit "statewake.evidence.visible_ids", (lit ",").intercalate visibleIds),
    (lit "statewake.evidence.visible_count", Decimal.decimal visibleIds.length),
    (lit "statewake.evidence.omitted_count",
      Decimal.decimal (manifest.items.length - visibleIds.length))]

/-! ### Attributes -/

/-- `_span_attributes`, `adapters/opentelemetry.py:153–162`. -/
def spanAttributes (event : EventEnvelope) : Dict Text :=
  let name := (event.val.name.filter (!·.isEmpty)).getD (lit "unknown")
  [(lit "statewake.run_id", event.val.runId), (lit "statewake.agent", name),
    (lit "statewake.actor", event.val.actor)] ++
    (event.val.stateId.filter (!·.isEmpty)).toList.map fun s ↦ (lit "statewake.state_id", s)

/-- `_event_attributes`, `adapters/opentelemetry.py:165–179`. -/
def eventAttributes (event : EventEnvelope) : Dict Text :=
  let named := fun (key : Text) (value : Option Text) ↦
    (value.filter (!·.isEmpty)).toList.map fun s ↦ (key, s)
  event.val.metadata.foldl
    (fun attributes m ↦ attributes.set (lit "statewake.meta." ++ m.1) m.2)
    ([(lit "statewake.run_id", event.val.runId), (lit "statewake.actor", event.val.actor)] ++
      named (lit "statewake.name") event.val.name ++
      named (lit "statewake.state_id") event.val.stateId ++
      named (lit "statewake.payload_ref") event.val.payloadRef)

end StateWake.Telemetry
