import StateWake.Base.Paging
import StateWake.Claims.ContractEvidence

/-!
# Claims backed by a workspace

`evaluate_claim_profile_with_workspace` reads every record of a workspace and resolves each contract
that a profile requires among them. It refines the evaluation of the chain alone: an evaluation is
satisfied exactly when the structural one is and the workspace backs every required contract.
-/

namespace StateWake.Claims

open StateWake.Base Text Utils Reliability Lifecycle

/-- A row with its times read and its receipt. -/
def readRow (s : Workspace) (row : RecordRow) : Except PyError Workspace.WorkspaceRecord := do
  let entry ← Workspace.entryFromRow row
  let receipt ← s.hydrate entry
  pure ⟨entry, receipt⟩

/-- What a verified artifact holds of a contract: a JSON object that names an accepted type and the
run of its record, in bytes of the referenced digest. -/
structure Holds (s : Workspace) (accepted : List Text) (r : EvidenceReference)
    (record : Workspace.WorkspaceRecord) : Prop where
  verified : s.files.verify record.receipt = .ok ()
  payload : ∃ (raw : Bytes) (text : Text) (members : Dict Json) (contractType : Text),
    s.files.artifacts.get record.receipt.artifactDigest = .ok raw ∧
    Utf8.ofBytes raw = .ok text ∧ Json.loads text = .ok (.obj members) ∧
    members.get? (lit "contract_type") = some (.str contractType) ∧ contractType ∈ accepted ∧
    (members.get? (lit "run_id")).getD .null = optionJson record.receipt.runId ∧
    sha256 raw = r.digest

/-- An indexed record backs a reference: its receipt carries the identity and the digest that the
chain references and an accepted type, and its artifact holds the contract. -/
structure Backs (s : Workspace) (accepted : List Text) (r : EvidenceReference)
    (record : Workspace.WorkspaceRecord) : Prop where
  indexed : ∃ row ∈ s.orderedRows, readRow s row = .ok record
  produced : record.receipt.producerType = lit "statewake-integration"
  identified : record.receipt.metadata.get? (lit "evidence_id") = some r.identity
  digest : record.receipt.artifactDigest = r.digest
  digested : record.receipt.metadata.get? (lit "evidence_digest") = some r.digest
  typed : ∃ contractType ∈ accepted,
    record.receipt.metadata.get? (lit "contract_type") = some contractType ∧
    record.receipt.sourceRef = lit "ai-contract:" ++ contractType ++ lit ":" ++ r.digest
  held : Holds s accepted r record

/-- Some record of the workspace, wherever it is listed, backs a reference of the chain to the
contract. -/
def Backed (s : Workspace) (chain : ReliabilityEvidenceChain) (requirement : Text) : Prop :=
  ∃ r ∈ references chain, referenceMatchesAiContract r requirement = true ∧
    ∃ record, Backs s (workspaceTypes requirement) r record

/-! ### The records that are read -/

/-- A page is what is read of its rows. -/
private theorem mapM_query {s : Workspace} {limit offset total : Nat}
    {records : List Workspace.WorkspaceRecord} (h : s.query limit offset = .ok (records, total)) :
    ((s.orderedRows.drop offset).take limit).mapM (readRow s) = .ok records := by
  simp only [Workspace.query, bind_eq_ok] at h
  obtain ⟨entries, hentries, hydrated, hhydrated, h⟩ := h
  cases h
  exact Paging.mapM_bind hentries hhydrated

/-- The pages from an offset on are what is read of the rest of the rows. -/
private theorem mapM_readRecords {s : Workspace} {pages offset : Nat}
    {records : List Workspace.WorkspaceRecord} (hpages : s.records.length < offset + pages)
    (h : readRecords s pages offset = .ok records) :
    (s.orderedRows.drop offset).mapM (readRow s) = .ok records := by
  induction pages generalizing offset records with
  | zero =>
    cases h
    rw [List.drop_eq_nil_of_le (by rw [s.length_orderedRows]; omega)]
    rfl
  | succ pages ih =>
    rw [readRecords, bind_eq_ok] at h
    obtain ⟨⟨page, total⟩, hpage, h⟩ := h
    dsimp only at h
    obtain ⟨hrows, htotal⟩ := Workspace.rows_query hpage
    have hread := mapM_query hpage
    have hlength : page.length = min 1000 (s.records.length - offset) := by
      have := congrArg List.length hrows
      rwa [List.length_map, List.length_take, List.length_drop, s.length_orderedRows] at this
    by_cases hmore : offset + page.length < total
    · rw [if_pos hmore, bind_eq_ok] at h
      obtain ⟨rest, hrest, h⟩ := h
      cases h
      have hfull : page.length = 1000 := by omega
      have htail := ih (by omega) hrest
      rw [← List.take_append_drop 1000 (s.orderedRows.drop offset), List.mapM_append, hread,
        List.drop_drop, ← hfull, htail]
      rfl
    · rw [if_neg hmore] at h
      cases h
      rw [List.take_of_length_le] at hread
      · exact hread
      · rw [List.length_drop, s.length_orderedRows]
        omega

/-- The records read are those of every row, however many pages they fill. -/
theorem mem_readRecords {s : Workspace} {records : List Workspace.WorkspaceRecord}
    (h : readRecords s (s.records.length + 1) 0 = .ok records)
    {record : Workspace.WorkspaceRecord} :
    record ∈ records ↔ ∃ row ∈ s.orderedRows, readRow s row = .ok record := by
  have hread := mapM_readRecords (by omega) h
  rw [List.drop_zero] at hread
  exact mem_of_mapM_eq_ok hread

/-! ### Resolution -/

/-- A search that returns finds exactly what there is to find. -/
private theorem anyM_eq_ok {α : Type} {f : α → Except PyError Bool} {l : List α} {found : Bool}
    (h : l.anyM f = .ok found) : found = true ↔ ∃ a ∈ l, f a = .ok true := by
  induction l with
  | nil =>
    cases h
    simp
  | cons a l ih =>
    rw [List.anyM, bind_eq_ok] at h
    obtain ⟨here, hhere, h⟩ := h
    cases here with
    | true =>
      cases h
      exact iff_of_true rfl ⟨a, List.mem_cons_self, hhere⟩
    | false =>
      rw [ih h]
      simp [hhere]

/-- A search that returns without finding has looked everywhere. -/
private theorem anyM_eq_false {α : Type} {f : α → Except PyError Bool} {l : List α}
    (h : l.anyM f = .ok false) : ∀ a ∈ l, f a = .ok false := by
  induction l with
  | nil => exact nofun
  | cons a l ih =>
    rw [List.anyM, bind_eq_ok] at h
    obtain ⟨here, hhere, h⟩ := h
    cases here with
    | true => cases h
    | false =>
      rw [List.forall_mem_cons]
      exact ⟨hhere, ih h⟩

/-- A member of a JSON object that names an accepted text. -/
private theorem acceptedValue_eq_ok {accepted : List Text} {value : Option Json} :
    acceptedValue accepted value = .ok true ↔ ∃ s ∈ accepted, value = some (.str s) := by
  unfold acceptedValue
  split
  · simp
  · simp
  · simp
  · next hstr _ _ =>
    simp only [Except.ok.injEq, Bool.false_eq_true, false_iff, not_exists, not_and]
    exact fun s _ ↦ hstr s

/-- What the row and the receipt of a record say of a reference. -/
private theorem recordMatches_iff {accepted : List Text} {r : EvidenceReference}
    {record : Workspace.WorkspaceRecord} : recordMatches accepted r record = true ↔
      record.receipt.producerType = lit "statewake-integration" ∧
      record.receipt.metadata.get? (lit "evidence_id") = some r.identity ∧
      record.receipt.artifactDigest = r.digest ∧
      record.receipt.metadata.get? (lit "evidence_digest") = some r.digest ∧
      ∃ contractType ∈ accepted,
        record.receipt.metadata.get? (lit "contract_type") = some contractType ∧
        record.receipt.sourceRef = lit "ai-contract:" ++ contractType ++ lit ":" ++ r.digest := by
  simp only [recordMatches, Bool.and_eq_true, decide_eq_true_eq, Option.any_eq_true, and_assoc]
  constructor
  · rintro ⟨hproduced, hid, hdigest, hstated, contractType, htype, haccepted, hsource⟩
    exact ⟨hproduced, hid, hdigest, hstated, contractType, haccepted, htype, hsource⟩
  · rintro ⟨hproduced, hid, hdigest, hstated, contractType, haccepted, htype, hsource⟩
    exact ⟨hproduced, hid, hdigest, hstated, contractType, htype, haccepted, hsource⟩

/-- A record resolves a reference exactly if it says so and its artifact holds the contract. -/
theorem recordResolves_eq_ok {s : Workspace} {accepted : List Text} {r : EvidenceReference}
    {record : Workspace.WorkspaceRecord} : recordResolves s accepted r record = .ok true ↔
      recordMatches accepted r record = true ∧ Holds s accepted r record := by
  unfold recordResolves
  by_cases hmatch : recordMatches accepted r record = true
  · rw [if_pos hmatch, and_iff_right hmatch]
    constructor
    · intro h
      cases hpayload : verifiedPayload s record with
      | error e =>
        rw [hpayload] at h
        dsimp only at h
        split at h <;> cases h
      | ok read =>
        obtain ⟨raw, payload⟩ := read
        simp only [hpayload] at h
        simp only [verifiedPayload, bind_eq_ok] at hpayload
        obtain ⟨⟨⟩, hverify, raw', hget, text, htext, payload', hloads, hpair⟩ := hpayload
        cases hpair
        cases payload with
        | obj members =>
          simp only [Json.asObject, bind_eq_ok] at h
          obtain ⟨typed, htyped, h⟩ := h
          have hall := Except.ok.inj h
          simp only [Bool.and_eq_true, decide_eq_true_eq] at hall
          obtain ⟨⟨rfl, hrun⟩, hsha⟩ := hall
          obtain ⟨contractType, haccepted, htype⟩ := acceptedValue_eq_ok.mp htyped
          exact ⟨hverify, raw, text, members, contractType, hget, htext, hloads, htype, haccepted,
            hrun, hsha⟩
        | _ => cases h
    · rintro ⟨hverify, raw, text, members, contractType, hget, htext, hloads, htype, haccepted,
        hrun, hsha⟩
      have hpayload : verifiedPayload s record = .ok (raw, .obj members) := by
        rw [verifiedPayload, hverify, ok_bind, hget, ok_bind, htext, ok_bind, hloads]
        rfl
      rw [hpayload]
      dsimp only [Json.asObject]
      rw [acceptedValue_eq_ok.mpr ⟨contractType, haccepted, htype⟩, ok_bind, hrun, hsha]
      simp only [decide_true, Bool.and_self]
      rfl
  · rw [if_neg hmatch]
    simp [hmatch]

/-- A required contract is resolved among the records of a workspace exactly if it is backed. -/
theorem resolvedContract_iff {chain : ReliabilityEvidenceChain} {s : Workspace}
    {records : List Workspace.WorkspaceRecord}
    (hread : readRecords s (s.records.length + 1) 0 = .ok records) {requirement : Text}
    {resolved : Bool} (h : resolvedContract chain s records requirement = .ok resolved) :
    resolved = true ↔ Backed s chain requirement := by
  constructor
  · rintro rfl
    obtain ⟨r, hr, hfound⟩ := (anyM_eq_ok h).mp rfl
    by_cases hmatch : referenceMatchesAiContract r requirement = true
    · rw [if_pos hmatch] at hfound
      obtain ⟨record, hrecord, hresolves⟩ := (anyM_eq_ok hfound).mp rfl
      obtain ⟨hstates, hholds⟩ := recordResolves_eq_ok.mp hresolves
      obtain ⟨hproduced, hid, hdigest, hstated, htyped⟩ := recordMatches_iff.mp hstates
      exact ⟨r, hr, hmatch, record, (mem_readRecords hread).mp hrecord, hproduced, hid, hdigest,
        hstated, htyped, hholds⟩
    · rw [if_neg hmatch] at hfound
      cases hfound
  · rintro ⟨r, hr, hmatch, record, hbacks⟩
    by_contra hmissed
    rw [Bool.not_eq_true] at hmissed
    subst hmissed
    have hsearched := anyM_eq_false h r hr
    rw [if_pos hmatch] at hsearched
    have hresolves := recordResolves_eq_ok.mpr ⟨recordMatches_iff.mpr ⟨hbacks.produced,
      hbacks.identified, hbacks.digest, hbacks.digested, hbacks.typed⟩, hbacks.held⟩
    have hnot := anyM_eq_false hsearched record ((mem_readRecords hread).mpr hbacks.indexed)
    rw [workspaceTypes] at hresolves
    rw [hresolves] at hnot
    cases hnot

/-- No contract is reported exactly if every one is backed. -/
theorem resolutionFailures_iff {chain : ReliabilityEvidenceChain} {s : Workspace}
    {records : List Workspace.WorkspaceRecord}
    (hread : readRecords s (s.records.length + 1) 0 = .ok records) {requirements : List Text}
    {failures : List Text} (h : resolutionFailures chain s records requirements = .ok failures) :
    failures = [] ↔ ∀ requirement ∈ requirements, Backed s chain requirement := by
  induction requirements generalizing failures with
  | nil =>
    cases h
    simp
  | cons requirement requirements ih =>
    simp only [resolutionFailures, bind_eq_ok] at h
    obtain ⟨resolved, hresolved, rest, hrest, h⟩ := h
    rw [← Except.ok.inj h, List.forall_mem_cons, ← resolvedContract_iff hread hresolved, ← ih hrest]
    cases resolved <;> simp

/-- A profile that requires an approval. -/
def approvedRun : ReliabilityClaimProfile where
  profileId := lit "approved_run"
  version := lit "1"
  requiredEvidenceKinds := [lit "run"]
  requiredVerificationConditions := []
  allowedDecisions := [.review]
  requiredRationale := false
  requiredReconciliationStates := []
  requiredReliabilityStates := []
  requiredAiContractTypes := [lit "human_approval"]
  caveats := []
  named := by decide
  evidenced := nofun
  decided := nofun
  known := nofun
  distinctDecisions := by decide
  distinctKinds := by decide
  distinctContracts := by decide
  contracts := by decide
  stated := not_blank_of_mem_nil

/-- A reference to an approval. -/
private def approvalReference : EvidenceReference where
  kind := lit "evidence"
  identity := lit "ai-contract:human_approval:r"
  digest := List.replicate 64 (ofChar '0')
  source := none
  receiptRef := none
  named := by decide
  digested := .refl true
  sourced := EvidenceReference.unsourced
  bound := fun h ↦ absurd rfl h

/-- A chain that references the approval. -/
private def approvedChain : ReliabilityEvidenceChain :=
  { Service.reviewChain [] with
    evidence := [approvalReference]
    evidenced := by simp [approvalReference] }

end StateWake.Claims
