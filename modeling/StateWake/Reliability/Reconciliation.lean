import StateWake.Base.Json
import StateWake.Base.Error

/-!
# Reading a reconciliation artifact

Three services read an identity, and two of them a status, from the same JSON object:
`services/reliability_evidence_service.py`, `services/reliability_reconciliation_binding_service.py`
and `services/reliability_recovery_service.py`. Each member may be spelled in two ways. The
binding and the recovery service try the spellings in opposite orders, and the chain falls back
to the file name.
-/

namespace StateWake.Reliability.Reconciliation

open StateWake.Base Text

-- `str` of the values a JSON object can hold
variable (str : Json → Text)

/-- `str(payload.get(field, ""))`. -/
def fieldText (payload : Dict Json) (field : Text) : Text := ((payload.get? field).map str).getD []

/-- `str(payload.get(first, payload.get(second, "")))`. -/
def eitherText (payload : Dict Json) (first second : Text) : Text :=
  match payload.get? first with
  | some v => str v
  | none => fieldText str payload second

/-- `_artifact_identity` of a JSON object, `services/reliability_evidence_service.py:24–35`:
the first field that is not blank, or the file name. -/
def artifactIdentity (payload : Dict Json) (name : Text) (fields : List Text) : Text :=
  ((fields.map (fieldText str payload)).find? fun value ↦ !blank value).getD name

/-- The identity that `build_reliability_evidence_chain` puts into the chain,
`services/reliability_evidence_service.py:165` and `:240`. -/
def chainIdentity (payload : Dict Json) (name : Text) : Text :=
  artifactIdentity str payload name [lit "reconciliation_id", lit "bundle_id"]

/-- The identity and status that the binding reads,
`services/reliability_reconciliation_binding_service.py:27–28`. -/
def bindingReading (payload : Dict Json) : Text × Text :=
  (eitherText str payload (lit "reconciliation_id") (lit "bundle_id"),
    eitherText str payload (lit "status") (lit "state"))

/-- The results that count as a success. -/
def successes : List Text := [lit "verified", lit "recovered"]

/-- `_reconciliation_semantics` of a JSON object,
`services/reliability_reconciliation_binding_service.py:22–33`. -/
def reconciliationSemantics (payload : Dict Json) : Except PyError (Text × Text) := do
  let reading := bindingReading str payload
  require ⟨.valueError, lit "reconciliation artifact lacks a canonical identity"⟩
    (!blank reading.1)
  require ⟨.valueError, lit "reconciliation result must be verified or recovered"⟩
    (reading.2 ∈ successes)
  pure reading

/-- The identity and status that the recovery service reads,
`services/reliability_recovery_service.py:170–180`. -/
def recoveryReading (payload : Dict Json) : Text × Text :=
  (eitherText str payload (lit "bundle_id") (lit "reconciliation_id"),
    eitherText str payload (lit "state") (lit "status"))

/-- The checks of `verify_reliability_recovery_outcome` on a reconciliation object, against the
identity of the chain's reference, `services/reliability_recovery_service.py:170–185`. -/
def recoverySemantics (payload : Dict Json) (referenced : Text) :
    Except PyError (Text × Text) := do
  let reading := recoveryReading str payload
  require ⟨.valueError,
    lit "reconciliation artifact identity does not match its evidence reference"⟩
    (reading.1 = referenced)
  require ⟨.valueError,
    lit "reconciliation artifact does not record a successful post-recovery result"⟩
    (reading.2 ∈ successes)
  pure reading

/-- All three services read one identity, and both readers of a status one status. -/
structure ReadAlike (payload : Dict Json) (name : Text) : Prop where
  chain : chainIdentity str payload name = (bindingReading str payload).1
  readings : bindingReading str payload = recoveryReading str payload

variable {str} {payload : Dict Json} {name : Text}

/-- Two orders of two spellings agree exactly when the spellings do, where both are there. -/
theorem eitherText_comm_iff {first second : Text} :
    eitherText str payload first second = eitherText str payload second first ↔
      ∀ v ∈ payload.get? first, ∀ w ∈ payload.get? second, str v = str w := by
  unfold eitherText fieldText
  cases hfirst : payload.get? first with
  | none => cases payload.get? second <;> simp
  | some v => cases payload.get? second <;> simp

/-- The chain takes the binding's identity unless that is blank; then it takes the other
spelling or the file name. -/
theorem chainIdentity_of_not_blank (h : blank (bindingReading str payload).1 = false) :
    chainIdentity str payload name = (bindingReading str payload).1 := by
  simp only [bindingReading, eitherText, chainIdentity, artifactIdentity, List.map_cons,
    List.map_nil] at h ⊢
  cases hid : payload.get? (lit "reconciliation_id") with
  | some v =>
    rw [hid] at h
    dsimp only at h
    rw [List.find?_cons_of_pos (by simpa [fieldText, hid] using h)]
    simp [fieldText, hid]
  | none =>
    rw [hid] at h
    dsimp only at h
    rw [List.find?_cons_of_neg (by simp [fieldText, hid, blank, strip]),
      List.find?_cons_of_pos (by simpa using h)]
    rfl

/-- Where no spelling shows an identity, the chain takes the file name. -/
theorem chainIdentity_of_blank (h : blank (bindingReading str payload).1 = true)
    (hagree : (bindingReading str payload).1 = (recoveryReading str payload).1) :
    chainIdentity str payload name = name := by
  have hrecovery := h
  rw [hagree] at hrecovery
  have hblank : blank (fieldText str payload (lit "reconciliation_id")) = true ∧
      blank (fieldText str payload (lit "bundle_id")) = true := by
    simp only [bindingReading, recoveryReading, eitherText, fieldText] at h hrecovery ⊢
    constructor
    · cases hid : payload.get? (lit "reconciliation_id") with
      | some v =>
        rw [hid] at h
        exact h
      | none => rfl
    · cases hid : payload.get? (lit "bundle_id") with
      | some v =>
        rw [hid] at hrecovery
        exact hrecovery
      | none => rfl
  simp [chainIdentity, artifactIdentity, hblank.1, hblank.2]

/-- An artifact is read alike exactly when its spellings agree where both are there, and its
identity is not blank or is the name of its file. -/
theorem readAlike_iff (str : Json → Text) (payload : Dict Json) (name : Text) :
    ReadAlike str payload name ↔
      (∀ v ∈ payload.get? (lit "reconciliation_id"), ∀ w ∈ payload.get? (lit "bundle_id"),
        str v = str w) ∧
      (∀ v ∈ payload.get? (lit "status"), ∀ w ∈ payload.get? (lit "state"), str v = str w) ∧
      (blank (eitherText str payload (lit "reconciliation_id") (lit "bundle_id")) = false ∨
        eitherText str payload (lit "reconciliation_id") (lit "bundle_id") = name) := by
  rw [← eitherText_comm_iff, ← eitherText_comm_iff]
  constructor
  · rintro ⟨hchain, hreadings⟩
    refine ⟨congrArg Prod.fst hreadings, congrArg Prod.snd hreadings, ?_⟩
    cases hblank : blank (bindingReading str payload).1 with
    | false => exact .inl hblank
    | true =>
      rw [chainIdentity_of_blank hblank (congrArg Prod.fst hreadings)] at hchain
      exact .inr hchain.symm
  · rintro ⟨hidentity, hstatus, hnamed⟩
    refine ⟨?_, Prod.ext hidentity hstatus⟩
    cases hblank : blank (bindingReading str payload).1 with
    | false => exact chainIdentity_of_not_blank hblank
    | true =>
      rw [chainIdentity_of_blank hblank hidentity]
      rcases hnamed with hvisible | hname
      · exact absurd (hblank.symm.trans hvisible) (by decide)
      · exact hname.symm

/-- The artifact accepted as verified by the binding and as recovered by the recovery service
under another identity. -/
private def twofold : Dict Json :=
  [(lit "reconciliation_id", .str (lit "first")), (lit "bundle_id", .str (lit "second")),
    (lit "status", .str (lit "verified")), (lit "state", .str (lit "recovered"))]

example : reconciliationSemantics Json.pyStr twofold = .ok (lit "first", lit "verified") ∧
    recoverySemantics Json.pyStr twofold (lit "second") = .ok (lit "second", lit "recovered") := by
  decide

theorem not_readAlike : ¬∀ payload name, ReadAlike Json.pyStr payload name := by
  intro h
  have hreadings := (h twofold (lit "reconciliation.json")).readings
  exact absurd hreadings (by decide)

end StateWake.Reliability.Reconciliation
