import StateWake.Attestation.Binding
import StateWake.Base.Calls
import StateWake.Base.LineLog

/-!
# The attestation store

`adapters/reliability_attestation.py`. One file holds attestation records, linked by digest, and
signed bindings, each after the attestation it binds. Every append reads the whole file under
the store's lock, so it is one atomic step; what the file holds is a list of entries, and an
append adds entries at its end or leaves it alone.
-/

namespace StateWake.Attestation

open StateWake.Base Text Utils RegisterHistory

namespace Store

/-! ### The reader -/

/-- What the reader has collected. Its other variables are read off these: `by_id` and
`bound_ids` index them by attestation identifier, `previous` is the digest of the last record. -/
structure Snapshot where
  records : List ReliabilityOutcomeAttestation
  bindings : List SignedReliabilityOutcomeBinding

namespace Snapshot

/-- `by_id.get(attestation_id)`. -/
def recorded? (s : Snapshot) (attestationId : Text) : Option ReliabilityOutcomeAttestation :=
  s.records.find? fun a ↦ decide (a.attestationId = attestationId)

/-- The binding of an attestation. -/
def binding? (s : Snapshot) (attestationId : Text) : Option SignedReliabilityOutcomeBinding :=
  s.bindings.find? fun b ↦ decide (b.attestation.attestationId = attestationId)

/-- The digest of the last record, or the empty text. -/
def tipDigest (s : Snapshot) : Text :=
  (s.records.getLast?.map ReliabilityOutcomeAttestation.digest).getD []

end Snapshot

/-- `_SIGNED_BINDING_RECORD_TYPE`, `adapters/reliability_attestation.py:23`. -/
def signedBindingRecordType : Text := lit "signed-reliability-outcome-binding.v1"

/-- The members of a binding record, `adapters/reliability_attestation.py:122`. -/
def bindingKeys : List Text := [lit "record_type", lit "envelope", lit "trust_context"]

/-- A binding record against what was read before it,
`adapters/reliability_attestation.py:122–151`. -/
def acceptBinding (s : Snapshot) (payload : Dict Json) :
    Except PyError SignedReliabilityOutcomeBinding := do
  require ⟨.valueError, lit "signed attestation binding has unsupported fields"⟩
    (payload.keys ⊆ bindingKeys ∧ bindingKeys ⊆ payload.keys)
  let objects := lit "signed attestation binding envelope and trust context must be objects"
  let envelope ← orRaise ⟨.valueError, objects⟩
    ((payload.get? (lit "envelope")).bind Json.asObject)
  let context ← orRaise ⟨.valueError, objects⟩
    ((payload.get? (lit "trust_context")).bind Json.asObject)
  let envelope ← SignedReliabilityOutcomeEnvelope.fromDict envelope
  let context ← ReliabilityAttestationTrustContext.fromDict context
  let binding ← SignedReliabilityOutcomeBinding.create envelope context
  let attestation := binding.attestation
  let recorded ← orRaise
    ⟨.valueError, lit "signed attestation binding references an attestation not yet recorded"⟩
    (s.recorded? attestation.attestationId)
  require
    ⟨.valueError, lit "signed attestation binding does not match canonical attestation record"⟩
    (recorded = attestation)
  require ⟨.valueError, lit "duplicate signed attestation binding record"⟩
    (s.binding? attestation.attestationId).isNone
  pure binding

/-- An attestation record against what was read before it,
`adapters/reliability_attestation.py:157–161`. -/
def acceptAttestation (s : Snapshot) (payload : Dict Json) :
    Except PyError ReliabilityOutcomeAttestation := do
  let item ← ReliabilityOutcomeAttestation.fromDict payload
  require ⟨.valueError, lit "attestation chain continuity mismatch"⟩
    (item.previousDigest = s.tipDigest)
  require ⟨.valueError, lit "duplicate reliability outcome attestation identity"⟩
    (s.recorded? item.attestationId).isNone
  pure item

/-- One line against what was read before it, `adapters/reliability_attestation.py:117–168`. -/
def acceptLine (maxRecords : Option Int) (s : Snapshot) (line : Text) :
    Except PyError Snapshot := do
  let value ← Json.loads line
  let payload ← orRaise ⟨.valueError, lit "attestation record must be a JSON object"⟩
    value.asObject
  if payload.get? (lit "record_type") = some (.str signedBindingRecordType) then do
    let binding ← acceptBinding s payload
    pure { s with bindings := s.bindings ++ [binding] }
  else do
    require ⟨.valueError, lit "unsupported reliability attestation record type"⟩
      (payload.get? (lit "record_type")).isNone
    require ⟨.overflowError, lit "attestation record count exceeds read limit"⟩
      (decide (∀ bound ∈ maxRecords, (s.records.length : Int) < bound))
    let item ← acceptAttestation s payload
    pure { s with records := s.records ++ [item] }

/-- One step of the loop, `adapters/reliability_attestation.py:115–168`. -/
def parseRecord (maxRecords : Option Int) (s : Snapshot) (number : Nat) (line : Text) :
    Except PyError Snapshot :=
  match acceptLine maxRecords s line with
  | .ok s => .ok s
  | .error e =>
    if e.kind.isRecordError then
      valueError (lit "Invalid reliability outcome attestation at line " ++
        Decimal.decimal number ++ lit ": " ++ e.message)
    else .error e

/-- `_parse_attestation_snapshot_lines`, `adapters/reliability_attestation.py:103–169`. -/
def parseSnapshotLines (lines : List Text) (maxRecords : Option Int) : Except PyError Snapshot :=
  if ∃ bound ∈ maxRecords, bound ≤ 0 then
    valueError (lit "max_records must be positive when provided")
  else LineLog.readLines (parseRecord maxRecords) ⟨[], []⟩ 1 lines

/-- `_read_snapshot_unlocked`, `adapters/reliability_attestation.py:319–328`. -/
def readSnapshotUnlocked (file : Option Bytes) : Except PyError Snapshot :=
  match file with
  | none => .ok ⟨[], []⟩
  | some raw => do
    let text ← Utf8.ofBytes raw
    parseSnapshotLines (Lines.fileLines text) none

/-! ### The writer -/

/-- `_attestation_line`, `adapters/reliability_attestation.py:336–341`. -/
def attestationLine (a : ReliabilityOutcomeAttestation) : Except PyError Bytes :=
  Utf8.toBytes (Json.dumps Json.compact (.obj a.toDict) ++ [Lines.newline])

/-- `_binding_line`, `adapters/reliability_attestation.py:344–349`. -/
def bindingLine (b : SignedReliabilityOutcomeBinding) : Except PyError Bytes := do
  let record ← b.toRecordDict
  Utf8.toBytes (Json.dumps Json.compact (.obj record) ++ [Lines.newline])

/-- The payload of an attestation without its place in the chain,
`adapters/reliability_attestation.py:246–249`. -/
def unchained (a : ReliabilityOutcomeAttestation) : Dict Json :=
  a.payload.erase (lit "previous_digest")

/-- The error of a record that does not follow the tip. -/
def tipMismatch : PyError :=
  ⟨.valueError, lit ("reliability outcome attestation previous_digest does not match the " ++
    "current chain tip.")⟩

/-- The error of a recorded identity with other contents. -/
def identityCollision : PyError :=
  ⟨.valueError, lit "reliability outcome attestation identity collision."⟩

/-- What `append` does with the snapshot it read: the attestation it returns and the bytes it
writes, if any, `adapters/reliability_attestation.py:242–260`. -/
def planAppend (s : Snapshot) (a : ReliabilityOutcomeAttestation) :
    Except PyError (ReliabilityOutcomeAttestation × Option Bytes) :=
  match s.recorded? a.attestationId with
  | some existing => do
    require identityCollision (unchained existing = unchained a)
    pure (existing, none)
  | none => do
    require tipMismatch (a.previousDigest = s.tipDigest)
    let line ← attestationLine a
    pure (a, some line)

/-- What `append_signed` does with the snapshot it read,
`adapters/reliability_attestation.py:269–305`. -/
def planAppendSigned (s : Snapshot) (b : SignedReliabilityOutcomeBinding) :
    Except PyError (SignedReliabilityOutcomeBinding × Option Bytes) := do
  let attestation := b.attestation
  let existing := s.recorded? attestation.attestationId
  require identityCollision (decide (∀ recorded ∈ existing, recorded = attestation))
  match s.binding? attestation.attestationId with
  | some recorded => do
    require ⟨.valueError, lit "signed reliability attestation binding collision."⟩ (recorded = b)
    pure (recorded, none)
  | none => do
    let head ← if existing.isSome then pure [] else do
      require tipMismatch (attestation.previousDigest = s.tipDigest)
      attestationLine attestation
    let line ← bindingLine b
    pure (b, some (head ++ line))

/-- `_append_bytes`, `adapters/reliability_attestation.py:351–363`, of what is to be written. -/
def appendBytes (file : Option Bytes) : Option Bytes → Option Bytes
  | none => file
  | some payload => some (file.getD [] ++ payload)

/-- The answer of an append and the file it leaves. -/
def execute {α : Type} (file : Option Bytes) (planned : Except PyError (α × Option Bytes)) :
    Except PyError α × Option Bytes :=
  match planned with
  | .ok (result, payload) => (.ok result, appendBytes file payload)
  | .error e => (.error e, file)

/-- `append`, `adapters/reliability_attestation.py:237–260`. -/
def append (file : Option Bytes) (a : ReliabilityOutcomeAttestation) :
    Except PyError ReliabilityOutcomeAttestation × Option Bytes :=
  execute file do
    let s ← readSnapshotUnlocked file
    planAppend s a

/-- `append_signed`, `adapters/reliability_attestation.py:262–305`. -/
def appendSigned (file : Option Bytes) (b : SignedReliabilityOutcomeBinding) :
    Except PyError SignedReliabilityOutcomeBinding × Option Bytes :=
  execute file do
    let s ← readSnapshotUnlocked file
    planAppendSigned s b

end Store
end StateWake.Attestation
