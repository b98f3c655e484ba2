import StateWake.Lifecycle.Exports

/-!
# Interrupted deletions

A deletion unlinks first and records second, and asks for the payload before it does either. Once
a payload is unlinked the same deletion is refused for want of it, so an interrupted deletion
can be completed exactly when it was stopped before the unlinking.
-/

namespace StateWake.Lifecycle

open StateWake.Base Text Utils Calls Workspace

/-! ### Deletions and where they stop -/

/-- A workspace with its exports. -/
structure System where
  root : WorkspaceRoot
  exports : ExportStore

/-- What is deleted. -/
inductive Target where
  | record (recordId : Text)
  | «export» (exportId : Text)

/-- Where a deletion stops: the process ends there or, after the unlinking, the repository
raises. -/
inductive Stop where
  | beforeUnlink
  | afterUnlink
  | afterTombstone
  deriving DecidableEq, Repr

namespace System

/-- A system with other evidence. -/
def withContent (sys : System) (content : Workspace) : System :=
  { sys with root := { sys.root with content } }

/-- `delete_expired_record` or `delete_expired_export`. -/
def deleteExpired (managed : Text → Bool) (sys : System) (target : Target) (now : AwareDatetime)
    (reason : Text) : Except PyError Unit × System :=
  match target with
  | .record recordId =>
    ((sys.root.content.deleteExpiredRecord recordId now reason).1.map fun _ ↦ (),
      sys.withContent (sys.root.content.deleteExpiredRecord recordId now reason).2)
  | .export exportId =>
    ((sys.exports.deleteExpiredExport managed exportId now reason).1,
      { sys with exports := (sys.exports.deleteExpiredExport managed exportId now reason).2 })

/-- A deletion that ends after the payload is unlinked. -/
def deleteUnlinked (managed : Text → Bool) (sys : System) (target : Target) (now : AwareDatetime)
    (reason : Text) : System :=
  match target with
  | .record recordId =>
    match sys.root.content.admitDeletion recordId now with
    | .error _ => sys
    | .ok (record, retention, _, adapter) =>
      sys.withContent { sys.root.content with files := { sys.root.content.files with
        artifacts := (sys.root.content.files.artifacts.delete record.row.artifactDigest adapter now
          ⟨record.row.sensitivity, retention.policyId, reason, []⟩).2 } }
  | .export exportId =>
    match sys.exports.admitExportDeletion exportId now with
    | .error _ => sys
    | .ok (item, _, _) =>
      match sys.exports.checkOutput managed item with
      | .error _ => sys
      | .ok _ => { sys with exports := sys.exports.unlinked item }

/-- A deletion up to a point. -/
def interrupted (managed : Text → Bool) (sys : System) (target : Target) (now : AwareDatetime)
    (reason : Text) : Stop → System
  | .beforeUnlink => sys
  | .afterUnlink => sys.deleteUnlinked managed target now reason
  | .afterTombstone => (sys.deleteExpired managed target now reason).2

/-- The lifecycle allows a deletion: it is asked for, past its deadline and not on hold. -/
def Allowed (sys : System) (now : AwareDatetime) : Target → Prop
  | .record recordId => ∃ admitted, sys.root.content.admitDeletion recordId now = .ok admitted
  | .export exportId => ∃ admitted, sys.exports.admitExportDeletion exportId now = .ok admitted

/-- There is exactly one tombstone of an object. -/
def OneTombstone (deletions : Dict DeletionRecord) (objectId : Text) : Prop :=
  ∃ d, deletions.filter (fun m ↦ decide (m.2.objectId = objectId)) = [(objectId, d)]

/-- A target is deleted: it has one tombstone, and no payload. -/
def Deleted (sys : System) : Target → Prop
  | .record recordId => OneTombstone sys.root.content.deletions recordId ∧
      ∀ row, sys.root.content.records.get? recordId = some row →
        sys.root.content.files.artifacts.get? row.artifactDigest = none
  | .export exportId => OneTombstone sys.exports.deletions (exportObjectId exportId) ∧
      ∀ item, sys.exports.rows.get? exportId = some item →
        sys.exports.payloads.get? item.outputPath = none

/-- After an interruption the workspace opens again, and the same deletion succeeds, leaves its
target deleted and a workspace that verifies. -/
def Completes (managed : Text → Bool) (version : PackageVersion) (draw : Draw)
    (identity : WorkspaceIdentity) (sys : System) (target : Target) (now : AwareDatetime)
    (reason : Text) (stop : Stop) : Prop :=
  ∃ root after, (sys.interrupted managed target now reason stop).root.openWorkspace version draw
      none = (.ok (some identity), root) ∧
    ({ sys.interrupted managed target now reason stop with root }).deleteExpired managed target now
      reason = (.ok (), after) ∧
    after.Deleted target ∧ Verifies managed identity after.root after.exports

/-- A deletion that can be made, and after which the rest of the workspace is in order. -/
def Deletable (managed : Text → Bool) (sys : System) (now : AwareDatetime) (reason : Text) :
    Target → Prop
  | .record recordId => ∃ row, sys.root.content.Due recordId now row ∧
      sys.root.content.Recordable recordId reason ∧
      (∀ other shared, other ≠ recordId → sys.root.content.records.get? other = some shared →
        RecordIntact (sys.root.content.unlinked row) other shared) ∧
      ∀ item ∈ sys.exports.rows.map Prod.snd,
        verifyExport managed sys.exports.payloads sys.exports.deletions item = .ok []
  | .export exportId => ∃ item digest, sys.exports.Due managed exportId now item digest ∧
      sys.exports.Recordable exportId digest reason ∧ Intact sys.root.content ∧
      exportQueryIssues item = .ok [] ∧
      ∀ other kept, other ≠ exportId → sys.exports.rows.get? other = some kept →
        verifyExport managed (sys.exports.unlinked item).payloads sys.exports.deletions kept =
          .ok []

/-! ### Reachable systems -/

/-- What happens to an opened workspace with its exports. -/
inductive SystemEvent where
  | worked (op : { op : Operation // op.Proper })
  | exported (item : WorkspaceExport) (written : ExportStore.Written)
      (readBack : Except PyError Unit)
  | exportRetained (exportId : Text) (policy : DataLifecyclePolicy) (sensitivity : Text)
      (legalHold : Bool) (now : AwareDatetime)
  | deleted (target : Target) (now : AwareDatetime) (reason : Text) (stop : Stop)

/-- One event. -/
def step (governance : Option PrivacyGovernance) (managed : Text → Bool) (sys : System) :
    SystemEvent → System
  | .worked op => { sys with root := (work governance sys.root op).2 }
  | .exported item written readBack =>
    { sys with exports := (sys.exports.export item written readBack).2 }
  | .exportRetained exportId policy sensitivity legalHold now =>
    match sys.exports.applyExportRetention exportId policy sensitivity legalHold now with
    | .error _ => sys
    | .ok exports => { sys with exports }
  | .deleted target now reason stop => sys.interrupted managed target now reason stop

/-- What every reachable system keeps: it is coherent and can be reopened, exports are kept by their
identity and requirements can be stored. -/
structure Steady (identity : WorkspaceIdentity) (version : PackageVersion) (sys : System) :
    Prop where
  coherent : Coherent identity sys.root sys.exports
  named : sys.root.identity? = some identity
  database : sys.root.database =
    some { createdDatabase with workspace := [metadataRow identity version] }
  keys : sys.exports.rows.Distinct
  keyed : ∀ exportId item, sys.exports.rows.get? exportId = some item → item.exportId = exportId
  encodable : ∀ objectId retention, sys.exports.retention.get? objectId = some retention →
    SurrogateFree retention.policyId

variable {governance : Option PrivacyGovernance} {managed : Text → Bool}
  {identity : WorkspaceIdentity} {version : PackageVersion} {sys : System}

/-- A steady workspace opens again as it was. -/
theorem Steady.reopens (h : Steady identity version sys) (draw : Draw) :
    sys.root.openWorkspace version draw none =
      (.ok (some identity), sys.root.initializeDirectories) := by
  have hnamed := WorkspaceRoot.ensureManifest_of_identity?
    (s := sys.root.initializeDirectories) h.named version draw
  rw [WorkspaceRoot.openWorkspace]
  simp only [reduceCtorEq, if_false]
  rw [hnamed]
  dsimp only
  have hcomplete := WorkspaceRoot.completeOpening_of_stored (s := sys.root.initializeDirectories)
    h.database h.coherent.foreignKeys version none
  rw [hcomplete]
  simp

/-- Other evidence of the same records and tombstones keeps a system steady. -/
theorem Steady.withContent (h : Steady identity version sys) {content : Workspace}
    (hforeign : content.foreignKeysHold = true) (hsound : content.Sound) (hfiled : content.Filed)
    (ht : Tombstones (Recorded content) content.deletions) :
    Steady identity version (sys.withContent content) :=
  ⟨⟨h.coherent.manifest, h.coherent.database, hforeign, hsound, hfiled, ht,
    h.coherent.exportRetention, h.coherent.exportTombstones⟩, h.named, h.database, h.keys,
    h.keyed, h.encodable⟩

/-- Other tombstones and outputs of the same exports keep a system steady. -/
theorem Steady.withExports (h : Steady identity version sys) (exports : ExportStore)
    (hkeys : exports.rows.Distinct)
    (hkeyed : ∀ exportId item, exports.rows.get? exportId = some item → item.exportId = exportId)
    (hencodable : ∀ objectId retention, exports.retention.get? objectId = some retention →
      SurrogateFree retention.policyId)
    (hretention : ∀ objectId ∈ exports.retention.keys, Registered exports objectId)
    (ht : Tombstones (Registered exports) exports.deletions) :
    Steady identity version { sys with exports } :=
  ⟨⟨h.coherent.manifest, h.coherent.database, h.coherent.foreignKeys, h.coherent.sound,
    h.coherent.filed, h.coherent.tombstones, hretention, ht⟩, h.named, h.database, hkeys, hkeyed,
    hencodable⟩

/-! ### Deletions of records -/

section

variable {s : Workspace} {recordId reason : Text} {now : AwareDatetime} {row : RecordRow}

/-- A coherent workspace stays so without an artifact. -/
theorem Steady.unlinked (h : Steady identity version sys) (row : RecordRow) :
    Steady identity version (sys.withContent (sys.root.content.unlinked row)) := by
  have hforeign : (sys.root.content.unlinked row).foreignKeysHold = true := h.coherent.foreignKeys
  apply h.withContent hforeign
  · exact ⟨h.coherent.sound.records, h.coherent.sound.retention⟩
  · refine ⟨h.coherent.filed.keys, h.coherent.filed.receipts, h.coherent.filed.records, ?_⟩
    intro digest content hget
    replace hget : (sys.root.content.files.artifacts.erase row.artifactDigest).get? digest =
      some content := hget
    rw [Dict.get?_erase] at hget
    split at hget
    · cases hget
    · exact h.coherent.filed.artifacts digest content hget
  · exact h.coherent.tombstones

/-- Where an artifact was unlinked nothing is due. -/
theorem not_due_unlinked (hrow : s.records.get? recordId = some row) (row' : RecordRow) :
    ¬(s.unlinked row).Due recordId now row' := by
  intro h
  have hrecorded : s.records.get? recordId = some row' := h.recorded
  rw [hrow] at hrecorded
  cases hrecorded
  obtain ⟨content, hcontent⟩ := h.stored
  replace hcontent : (s.files.artifacts.erase row.artifactDigest).get? row.artifactDigest =
    some content := hcontent
  rw [Dict.get?_erase, if_pos rfl] at hcontent
  cases hcontent

/-- A deletion that stops after the unlinking unlinks what is due, and nothing else. -/
theorem deleteUnlinked_record (h : sys.root.content.Sound) (managed : Text → Bool)
    (recordId reason : Text) (now : AwareDatetime) :
    (∃ row, sys.root.content.Due recordId now row ∧
      sys.deleteUnlinked managed (.record recordId) now reason =
        sys.withContent (sys.root.content.unlinked row)) ∨
    (∀ row, ¬sys.root.content.Due recordId now row) ∧
      sys.deleteUnlinked managed (.record recordId) now reason = sys := by
  rw [deleteUnlinked]
  cases hadmitted : sys.root.content.admitDeletion recordId now with
  | error e =>
    refine .inr ⟨fun row hdue ↦ ?_, rfl⟩
    obtain ⟨retention, until', hret, hfree, hu, hlate⟩ := hdue.due
    obtain ⟨current, hcurrent⟩ := hdue.dated
    obtain ⟨entry, decision, adapter, hok, -⟩ :=
      admitDeletion_of_due h hdue.recorded hret hfree hu hcurrent hlate
    rw [hadmitted] at hok
    cases hok
  | ok admitted =>
    obtain ⟨entry, retention, decision, adapter⟩ := admitted
    obtain ⟨hrow, hret, hfree, until', current, hu, hcurrent, hlate⟩ :=
      admitDeletion_spec h hadmitted
    obtain ⟨entry', decision', adapter', hadmitted', hentry, hcan⟩ :=
      admitDeletion_of_due h hrow hret hfree hu hcurrent hlate
    rw [hadmitted] at hadmitted'
    cases hadmitted'
    dsimp only
    cases hstored : sys.root.content.files.artifacts.get? entry.row.artifactDigest with
    | none =>
      obtain ⟨e, hdelete⟩ := delete_of_missing adapter now hstored
        ⟨entry.row.sensitivity, retention.policyId, reason, []⟩
      rw [hdelete]
      refine .inr ⟨fun row hdue ↦ ?_, rfl⟩
      obtain ⟨content, hcontent⟩ := hdue.stored
      have hrecorded := hdue.recorded
      rw [hrow] at hrecorded
      cases hrecorded
      rw [hstored] at hcontent
      cases hcontent
    | some content =>
      rw [delete_of_permitted (h.records _ _ hrow).artifact hstored hcan]
      exact .inl ⟨entry.row, ⟨⟨retention, until', hret, hfree, hu, hlate⟩, hrow,
        ⟨content, hstored⟩, current, hcurrent⟩, rfl⟩

/-- One more tombstone, of an object that had none, is the only one of its object. -/
theorem oneTombstone_set {known : Text → Prop} {deletions : Dict DeletionRecord}
    (h : Tombstones known deletions) {objectId : Text} (hnone : deletions.get? objectId = none)
    {d : DeletionRecord} (hd : d.objectId = objectId) :
    OneTombstone (deletions.set objectId d) objectId := by
  refine ⟨d, ?_⟩
  rw [Dict.set_of_not_mem (Dict.get?_eq_none_iff.mp hnone), List.filter_append,
    List.filter_eq_nil_iff.mpr, List.nil_append]
  · simp [hd]
  · intro m hm
    have hid := (h.named m.1 m.2 ((Dict.get?_eq_some_iff h.keys).mpr hm)).1
    rw [decide_eq_true_eq, hid]
    rintro rfl
    exact Dict.get?_eq_none_iff.mp hnone (List.mem_map.mpr ⟨m, hm, rfl⟩)

end

/-! ### Deletions of exports -/

section

variable {exports : ExportStore} {exportId reason : Text} {now : AwareDatetime}

/-- Where an output was unlinked nothing is due. -/
theorem not_due_unlinked_export {item item' : WorkspaceExport} {digest digest' : Text}
    (h : exports.Due managed exportId now item digest) :
    ¬(exports.unlinked item).Due managed exportId now item' digest' := by
  rintro ⟨⟨retention', decision', hallowed'⟩, hchecked'⟩
  obtain ⟨⟨retention, decision, hallowed⟩, -⟩ := h
  have hsame : (exports.unlinked item).admitExportDeletion exportId now =
      exports.admitExportDeletion exportId now := rfl
  rw [hsame, hallowed] at hallowed'
  cases hallowed'
  obtain ⟨-, -, content, hcontent⟩ := ExportStore.checkOutput_eq_ok.mp hchecked'
  replace hcontent : (exports.payloads.erase item.outputPath).get? item.outputPath =
    some (.file content) := hcontent
  rw [Dict.get?_erase, if_pos rfl] at hcontent
  cases hcontent

/-- A deletion that stops after the unlinking unlinks what is due, and nothing else. -/
theorem deleteUnlinked_export (managed : Text → Bool) (sys : System) (exportId reason : Text)
    (now : AwareDatetime) :
    (∃ item digest, sys.exports.Due managed exportId now item digest ∧
      sys.deleteUnlinked managed (.export exportId) now reason =
        { sys with exports := sys.exports.unlinked item }) ∨
    (∀ item digest, ¬sys.exports.Due managed exportId now item digest) ∧
      sys.deleteUnlinked managed (.export exportId) now reason = sys := by
  rw [deleteUnlinked]
  cases hadmitted : sys.exports.admitExportDeletion exportId now with
  | error e =>
    refine .inr ⟨?_, rfl⟩
    rintro item digest ⟨⟨retention, decision, hok⟩, -⟩
    rw [hadmitted] at hok
    cases hok
  | ok admitted =>
    obtain ⟨item, retention, decision⟩ := admitted
    dsimp only
    cases hchecked : sys.exports.checkOutput managed item with
    | error e =>
      refine .inr ⟨?_, rfl⟩
      rintro item' digest ⟨⟨retention', decision', hok⟩, hdigest⟩
      rw [hadmitted] at hok
      cases hok
      rw [hchecked] at hdigest
      cases hdigest
    | ok digest => exact .inl ⟨item, digest, ⟨⟨retention, decision, hadmitted⟩, hchecked⟩, rfl⟩

/-- Other outputs and more tombstones of registered exports keep a system steady. -/
theorem Steady.withOutputs (h : Steady identity version sys) (payloads : Dict ExportPayload)
    {deletions : Dict DeletionRecord} (ht : Tombstones (Registered sys.exports) deletions) :
    Steady identity version { sys with exports := { sys.exports with payloads, deletions } } :=
  h.withExports _ h.keys h.keyed h.encodable h.coherent.exportRetention ht

/-- The export of a deletion is registered. -/
theorem Steady.registered (h : Steady identity version sys) {item : WorkspaceExport}
    {digest : Text} (hdue : sys.exports.Due managed exportId now item digest) :
    sys.exports.rows.get? exportId = some item ∧
      Registered sys.exports (exportObjectId exportId) := by
  obtain ⟨retention, decision, hallowed⟩ := hdue.allowed
  obtain ⟨-, hitem, -⟩ := ExportStore.admitExportDeletion_spec hallowed
  refine ⟨hitem, item, List.mem_map.mpr ⟨_, Dict.mem_of_get? hitem, rfl⟩, ?_⟩
  rw [h.keyed _ _ hitem]

end

/-! ### Steadiness -/

/-- A whole deletion keeps a system steady. -/
theorem Steady.deleteExpired (h : Steady identity version sys) (managed : Text → Bool)
    (target : Target)
    (now : AwareDatetime) (reason : Text) :
    Steady identity version (sys.deleteExpired managed target now reason).2 := by
  cases target with
  | record recordId =>
    let op : Operation := .deleteExpired recordId now reason
    have htombstones : Tombstones _ (apply none sys.root.content op).2.deletions :=
      apply_tombstones h.coherent.sound h.coherent.tombstones op
    have hsound : (apply none sys.root.content op).2.Sound := apply_sound h.coherent.sound
    have hfiled : (apply none sys.root.content op).2.Filed :=
      apply_filed redactsDicts_none h.coherent.sound h.coherent.filed trivial
    have hforeign : (apply none sys.root.content op).2.foreignKeysHold = true :=
      apply_foreignKeysHold h.coherent.foreignKeys op
    exact h.withContent hforeign hsound hfiled htombstones
  | «export» exportId =>
    have houtcome := ExportStore.deleteExpiredExport_outcome h.encodable managed exportId reason now
    rw [System.deleteExpired]
    generalize sys.exports.deleteExpiredExport managed exportId now reason = result at houtcome ⊢
    cases houtcome with
    | refused e refuses => exact h
    | lost e item digest due unrecordable => exact h.withOutputs _ h.coherent.exportTombstones
    | deleted item digest d due recordable object valid =>
      exact h.withOutputs _ (h.coherent.exportTombstones.set recordable.undeleted object valid
        (h.registered due).2)

/-- A deletion up to any point keeps a system steady. -/
theorem Steady.interrupted (h : Steady identity version sys) (managed : Text → Bool) (target : Target)
    (now : AwareDatetime) (reason : Text) (stop : Stop) :
    Steady identity version (sys.interrupted managed target now reason stop) := by
  cases stop with
  | beforeUnlink => exact h
  | afterTombstone => exact h.deleteExpired managed target now reason
  | afterUnlink =>
    rw [System.interrupted]
    cases target with
    | record recordId =>
      rcases deleteUnlinked_record h.coherent.sound managed recordId reason now with
        ⟨row, -, heq⟩ | ⟨-, heq⟩
      · rw [heq]
        exact h.unlinked row
      · rw [heq]
        exact h
    | «export» exportId =>
      rcases deleteUnlinked_export managed sys exportId reason now with
        ⟨item, digest, -, heq⟩ | ⟨-, heq⟩
      · rw [heq]
        exact h.withOutputs _ h.coherent.exportTombstones
      · rw [heq]
        exact h

/-- Every event keeps a system steady. -/
theorem Steady.step (hg : RedactsDicts governance) (h : Steady identity version sys)
    (event : SystemEvent) : Steady identity version (step governance managed sys event) := by
  cases event with
  | worked op =>
    exact ⟨h.coherent.work hg op, h.named, h.database, h.keys, h.keyed, h.encodable⟩
  | deleted target now reason stop => exact h.interrupted managed target now reason stop
  | exportRetained exportId policy sensitivity legalHold now =>
    rw [System.step]
    split
    · exact h
    · next exports hok =>
      simp only [ExportStore.applyExportRetention, ExportStore.getExport, bind_eq_ok,
        orRaise_eq_ok] at hok
      obtain ⟨item, ⟨⟨⟩, hbind, hitem⟩, created, -, decision, -, ⟨⟩, hpolicy, ⟨⟩⟩ := hok
      refine h.withExports _ h.keys h.keyed ?_ ?_ h.coherent.exportTombstones
      · intro objectId retention hretention
        rw [Dict.get?_set] at hretention
        split at hretention
        · cases hretention
          exact bindTexts_eq_ok.mp hpolicy _ (by simp)
        · exact h.encodable objectId retention hretention
      · intro objectId hobject
        by_cases hid : objectId = exportObjectId exportId
        · refine ⟨item, List.mem_map.mpr ⟨_, Dict.mem_of_get? hitem, rfl⟩, ?_⟩
          rw [hid, h.keyed _ _ hitem]
        · apply h.coherent.exportRetention objectId
          by_contra hnone
          apply Dict.get?_eq_none_iff.mp _ hobject
          rw [Dict.get?_set, if_neg hid]
          exact Dict.get?_eq_none_iff.mpr hnone
  | exported item written readBack =>
    rw [System.step]
    unfold ExportStore.export
    split
    · exact h
    · next payload =>
      dsimp only
      split
      · exact h.withOutputs _ h.coherent.exportTombstones
      · next exports hok =>
        simp only [bind_eq_ok, ExportStore.recordExport, require_eq_ok] at hok
        obtain ⟨⟨⟩, -, ⟨⟩, -, ⟨⟩, hnew, ⟨⟩⟩ := hok
        have hfresh : sys.exports.rows.get? item.exportId = none :=
          Option.isNone_iff_eq_none.mp hnew
        have hrows := Dict.set_of_not_mem (Dict.get?_eq_none_iff.mp hfresh)
          { item with outputDigest := some payload.digest }
        have hgrown : ∀ objectId, Registered sys.exports objectId → ∃ kept ∈
            (sys.exports.rows.set item.exportId
              { item with outputDigest := some payload.digest }).map Prod.snd,
            objectId = exportObjectId kept.exportId := by
          rintro objectId ⟨kept, hkept, heq⟩
          refine ⟨kept, ?_, heq⟩
          rw [hrows, List.map_append]
          exact List.mem_append_left _ hkept
        refine h.withExports _ ?_ ?_ h.encodable ?_ ⟨h.coherent.exportTombstones.keys, ?_⟩
        · show (sys.exports.rows.set item.exportId _).Distinct
          rw [hrows]
          exact distinct_append_singleton h.keys hfresh _
        · intro exportId kept hkept
          replace hkept : (sys.exports.rows.set item.exportId
            { item with outputDigest := some payload.digest }).get? exportId = some kept := hkept
          rw [Dict.get?_set] at hkept
          split at hkept
          · next hid =>
            cases hkept
            exact hid.symm
          · exact h.keyed exportId kept hkept
        · intro objectId hobject
          exact hgrown objectId (h.coherent.exportRetention objectId hobject)
        · intro objectId d hd
          obtain ⟨hid, hvalid, hknown⟩ := h.coherent.exportTombstones.named objectId d hd
          exact ⟨hid, hvalid, hgrown objectId hknown⟩

/-! ### Completion -/

/-- A system opened again. -/
def reopened (sys : System) : System := { sys with root := sys.root.initializeDirectories }

theorem Steady.reopened (h : Steady identity version sys) : Steady identity version sys.reopened :=
  ⟨⟨h.coherent.manifest, h.coherent.database, h.coherent.foreignKeys, h.coherent.sound,
    h.coherent.filed, h.coherent.tombstones, h.coherent.exportRetention,
    h.coherent.exportTombstones⟩, h.named, h.database, h.keys, h.keyed, h.encodable⟩

/-- A deletion comes to its effects. -/
def IsDue (managed : Text → Bool) (sys : System) (now : AwareDatetime) : Target → Prop
  | .record recordId => ∃ row, sys.root.content.Due recordId now row
  | .export exportId => ∃ item digest, sys.exports.Due managed exportId now item digest

/-- Only what is due is deleted. -/
theorem isDue_of_deleteExpired (h : Steady identity version sys) {target : Target}
    {now : AwareDatetime} {reason : Text} {left : System}
    (hok : sys.deleteExpired managed target now reason = (.ok (), left)) :
    sys.IsDue managed now target := by
  cases target with
  | record recordId =>
    have houtcome := deleteExpiredRecord_outcome h.coherent.sound recordId reason now
    rw [System.deleteExpired] at hok
    generalize sys.root.content.deleteExpiredRecord recordId now reason = result at houtcome hok
    cases houtcome with
    | refused e refuses => cases hok
    | lost e row due unrecordable => cases hok
    | deleted decision d row due recordable object digest valid => exact ⟨row, due⟩
  | «export» exportId =>
    have houtcome := ExportStore.deleteExpiredExport_outcome h.encodable managed exportId reason now
    rw [System.deleteExpired] at hok
    generalize sys.exports.deleteExpiredExport managed exportId now reason = result at houtcome hok
    cases houtcome with
    | refused e refuses => cases hok
    | lost e item digest due unrecordable => cases hok
    | deleted item digest d due recordable object valid => exact ⟨item, digest, due⟩

/-- Past the unlinking nothing is due any more. -/
theorem not_isDue_interrupted (h : Steady identity version sys) (target : Target)
    (now : AwareDatetime) (reason : Text) {stop : Stop} (hstop : stop ≠ .beforeUnlink) :
    ¬(sys.interrupted managed target now reason stop).IsDue managed now target := by
  cases target with
  | record recordId =>
    cases stop with
    | beforeUnlink => exact absurd rfl hstop
    | afterUnlink =>
      rw [System.interrupted]
      rcases deleteUnlinked_record h.coherent.sound managed recordId reason now with
        ⟨row, hdue, heq⟩ | ⟨hnone, heq⟩
      · rw [heq]
        exact fun ⟨row', hdue'⟩ ↦ not_due_unlinked hdue.recorded row' hdue'
      · rw [heq]
        exact fun ⟨row', hdue'⟩ ↦ hnone row' hdue'
    | afterTombstone =>
      have houtcome := deleteExpiredRecord_outcome h.coherent.sound recordId reason now
      rw [System.interrupted, System.deleteExpired]
      generalize sys.root.content.deleteExpiredRecord recordId now reason = result at houtcome ⊢
      cases houtcome with
      | refused e refuses => exact fun ⟨row', hdue'⟩ ↦ refuses row' hdue'
      | lost e row due unrecordable =>
        exact fun ⟨row', hdue'⟩ ↦ not_due_unlinked due.recorded row' hdue'
      | deleted decision d row due recordable object digest valid =>
        rintro ⟨row', hdue'⟩
        exact not_due_unlinked due.recorded row'
          ⟨hdue'.due, hdue'.recorded, hdue'.stored, hdue'.dated⟩
  | «export» exportId =>
    cases stop with
    | beforeUnlink => exact absurd rfl hstop
    | afterUnlink =>
      rw [System.interrupted]
      rcases deleteUnlinked_export managed sys exportId reason now with
        ⟨item, digest, hdue, heq⟩ | ⟨hnone, heq⟩
      · rw [heq]
        exact fun ⟨item', digest', hdue'⟩ ↦ not_due_unlinked_export hdue hdue'
      · rw [heq]
        exact fun ⟨item', digest', hdue'⟩ ↦ hnone item' digest' hdue'
    | afterTombstone =>
      have houtcome := ExportStore.deleteExpiredExport_outcome h.encodable managed exportId reason
        now
      rw [System.interrupted, System.deleteExpired]
      generalize sys.exports.deleteExpiredExport managed exportId now reason = result
        at houtcome ⊢
      cases houtcome with
      | refused e refuses => exact fun ⟨item', digest', hdue'⟩ ↦ refuses item' digest' hdue'
      | lost e item digest due unrecordable =>
        exact fun ⟨item', digest', hdue'⟩ ↦ not_due_unlinked_export due hdue'
      | deleted item digest d due recordable object valid =>
        rintro ⟨item', digest', hdue'⟩
        exact not_due_unlinked_export due ⟨hdue'.allowed, hdue'.checked⟩

/-- The deletion of a record succeeds and leaves a workspace in order exactly when it can be made
and the rest is. -/
theorem deletes_record_iff (h : Steady identity version sys) (recordId reason : Text)
    (now : AwareDatetime) :
    (∃ left, sys.deleteExpired managed (.record recordId) now reason = (.ok (), left) ∧
      left.Deleted (.record recordId) ∧ Verifies managed identity left.root left.exports) ↔
    sys.Deletable managed now reason (.record recordId) := by
  have hsteady := h.deleteExpired managed (.record recordId) now reason
  have houtcome := deleteExpiredRecord_outcome h.coherent.sound recordId reason now
  rw [System.deleteExpired] at hsteady ⊢
  generalize sys.root.content.deleteExpiredRecord recordId now reason = result
    at houtcome hsteady ⊢
  cases houtcome with
  | refused e refuses =>
    refine iff_of_false ?_ fun ⟨row, hdue, _⟩ ↦ refuses row hdue
    rintro ⟨left, hok, -⟩
    cases hok
  | lost e row due unrecordable =>
    refine iff_of_false ?_ fun ⟨row, _, hrecordable, _⟩ ↦ unrecordable hrecordable
    rintro ⟨left, hok, -⟩
    cases hok
  | deleted decision d row due recordable object digest valid =>
    have hdeletions : OneTombstone (sys.root.content.deletions.set recordId d) recordId :=
      oneTombstone_set h.coherent.tombstones recordable.undeleted object
    have hgone : ∀ row', sys.root.content.records.get? recordId = some row' →
        (sys.root.content.files.artifacts.erase row.artifactDigest).get? row'.artifactDigest =
          none := by
      intro row' hrow'
      rw [due.recorded] at hrow'
      cases hrow'
      rw [Dict.get?_erase, if_pos rfl]
    have hverifies : Verifies managed identity _ sys.exports ↔ _ :=
      verifies_iff hsteady.coherent managed
    have hintact := intact_tombstoned_iff (d := d) due.recorded digest
    constructor
    · rintro ⟨left, hok, -, hleft⟩
      cases hok
      obtain ⟨hrecords, hitems⟩ := hverifies.mp hleft
      exact ⟨row, due, recordable, hintact.mp hrecords, hitems⟩
    · rintro ⟨row', due', -, hothers, hitems⟩
      have hrow' := due'.recorded
      rw [due.recorded] at hrow'
      cases hrow'
      exact ⟨_, rfl, ⟨hdeletions, hgone⟩, hverifies.mpr ⟨hintact.mpr hothers, hitems⟩⟩

/-- With a tombstone and without its output an export is in order, and nothing changes for the
others, when its query is one. -/
private theorem exports_clean_iff (h : Steady identity version sys) {exportId : Text}
    {item : WorkspaceExport} (hitem : sys.exports.rows.get? exportId = some item)
    (hmanaged : managed item.outputPath = true) (payloads : Dict ExportPayload)
    (hgone : payloads.get? item.outputPath = none) (d : DeletionRecord) :
    (∀ kept ∈ sys.exports.rows.map Prod.snd, verifyExport managed payloads
        (sys.exports.deletions.set (exportObjectId exportId) d) kept = .ok []) ↔
      exportQueryIssues item = .ok [] ∧
        ∀ other kept, other ≠ exportId → sys.exports.rows.get? other = some kept →
          verifyExport managed payloads sys.exports.deletions kept = .ok [] := by
  have hself : verifyExport managed payloads
      (sys.exports.deletions.set (exportObjectId exportId) d) item = .ok [] ↔
        exportQueryIssues item = .ok [] := by
    have hnone : exportOutputIssues managed payloads true item = [] := by
      unfold exportOutputIssues
      simp [hmanaged, hgone]
    rw [verifyExport, h.keyed _ _ hitem, Dict.get?_set, if_pos rfl, Option.isSome_some, hnone]
    cases exportQueryIssues item with
    | error e => exact iff_of_false (fun h ↦ by cases h) fun h ↦ by cases h
    | ok issues =>
      rw [ok_bind, List.append_nil]
      exact Iff.rfl
  have hother {other : Text} {kept : WorkspaceExport} (hne : other ≠ exportId)
      (hkept : sys.exports.rows.get? other = some kept) : verifyExport managed payloads
        (sys.exports.deletions.set (exportObjectId exportId) d) kept =
          verifyExport managed payloads sys.exports.deletions kept := by
    have hid : exportObjectId kept.exportId ≠ exportObjectId exportId := by
      rw [h.keyed _ _ hkept]
      exact fun heq ↦ hne (List.append_cancel_left heq)
    rw [verifyExport, verifyExport, Dict.get?_set, if_neg hid]
  constructor
  · intro hall
    refine ⟨hself.mp (hall item (List.mem_map.mpr ⟨_, Dict.mem_of_get? hitem, rfl⟩)), ?_⟩
    intro other kept hne hkept
    rw [← hother hne hkept]
    exact hall kept (List.mem_map.mpr ⟨_, Dict.mem_of_get? hkept, rfl⟩)
  · rintro ⟨hquery, hothers⟩ kept hkept
    obtain ⟨⟨other, kept⟩, hmem, rfl⟩ := List.mem_map.mp hkept
    have hget : sys.exports.rows.get? other = some kept := (Dict.get?_eq_some_iff h.keys).mpr hmem
    by_cases hid : other = exportId
    · rw [hid, hitem] at hget
      cases hget
      exact hself.mpr hquery
    · show verifyExport managed payloads _ kept = .ok []
      rw [hother hid hget]
      exact hothers other kept hid hget

/-- The deletion of an export succeeds and leaves a workspace in order exactly when it can be made
and the rest is. -/
theorem deletes_export_iff (h : Steady identity version sys) (exportId reason : Text)
    (now : AwareDatetime) :
    (∃ left, sys.deleteExpired managed (.export exportId) now reason = (.ok (), left) ∧
      left.Deleted (.export exportId) ∧ Verifies managed identity left.root left.exports) ↔
    sys.Deletable managed now reason (.export exportId) := by
  have hsteady := h.deleteExpired managed (.export exportId) now reason
  have houtcome := ExportStore.deleteExpiredExport_outcome h.encodable managed exportId reason now
  rw [System.deleteExpired] at hsteady ⊢
  generalize sys.exports.deleteExpiredExport managed exportId now reason = result
    at houtcome hsteady ⊢
  cases houtcome with
  | refused e refuses =>
    refine iff_of_false ?_ fun ⟨item, digest, hdue, _⟩ ↦ refuses item digest hdue
    rintro ⟨left, hok, -⟩
    cases hok
  | lost e item digest due unrecordable =>
    refine iff_of_false ?_ ?_
    · rintro ⟨left, hok, -⟩
      cases hok
    · rintro ⟨item', digest', due', hrecordable, -⟩
      obtain ⟨rfl, rfl⟩ := due.unique due'
      exact unrecordable hrecordable
  | deleted item digest d due recordable object valid =>
    obtain ⟨hitem, hregistered⟩ := h.registered due
    obtain ⟨hmanaged, hdigest, content, hcontent⟩ := ExportStore.checkOutput_eq_ok.mp due.checked
    have hone : OneTombstone (sys.exports.deletions.set (exportObjectId exportId) d)
        (exportObjectId exportId) :=
      oneTombstone_set h.coherent.exportTombstones recordable.undeleted object
    have hgone : ∀ item', sys.exports.rows.get? exportId = some item' →
        (sys.exports.payloads.erase item.outputPath).get? item'.outputPath = none := by
      intro item' hitem'
      rw [hitem] at hitem'
      cases hitem'
      rw [Dict.get?_erase, if_pos rfl]
    have hverifies : Verifies managed identity sys.root _ ↔ _ :=
      verifies_iff hsteady.coherent managed
    have hsplit := exports_clean_iff h hitem hmanaged
      (sys.exports.payloads.erase item.outputPath) (by rw [Dict.get?_erase, if_pos rfl]) d
    constructor
    · rintro ⟨left, hok, -, hleft⟩
      cases hok
      obtain ⟨hrecords, hitems⟩ := hverifies.mp hleft
      obtain ⟨hquery, hothers⟩ := hsplit.mp hitems
      exact ⟨item, digest, due, recordable, hrecords, hquery, hothers⟩
    · rintro ⟨item', digest', due', -, hrecords, hquery, hothers⟩
      obtain ⟨rfl, rfl⟩ := due.unique due'
      exact ⟨_, rfl, ⟨hone, hgone⟩, hverifies.mpr ⟨hrecords, hsplit.mpr ⟨hquery, hothers⟩⟩⟩

private theorem completes_iff_of_steady (h : Steady identity version sys)
    (managed : Text → Bool) (draw : Draw) (target : Target) (now : AwareDatetime) (reason : Text)
    (stop : Stop) : Completes managed version draw identity sys target now reason stop ↔
      stop = .beforeUnlink ∧ sys.Deletable managed now reason target := by
  have hreopens := (h.interrupted managed target now reason stop).reopens draw
  have hopen : Completes managed version draw identity sys target now reason stop ↔
      ∃ left, (sys.interrupted managed target now reason stop).reopened.deleteExpired managed
          target now reason = (.ok (), left) ∧
        left.Deleted target ∧ Verifies managed identity left.root left.exports := by
    constructor
    · rintro ⟨root, left, hroot, hrest⟩
      rw [hreopens] at hroot
      cases hroot
      exact ⟨left, hrest⟩
    · rintro ⟨left, hrest⟩
      exact ⟨_, left, hreopens, hrest⟩
  rw [hopen]
  by_cases hstop : stop = .beforeUnlink
  · rw [hstop]
    have hdeletes : (∃ left, sys.reopened.deleteExpired managed target now reason =
          (.ok (), left) ∧ left.Deleted target ∧ Verifies managed identity left.root left.exports) ↔
        sys.reopened.Deletable managed now reason target := by
      cases target with
      | record recordId => exact deletes_record_iff h.reopened recordId reason now
      | «export» exportId => exact deletes_export_iff h.reopened exportId reason now
    refine hdeletes.trans ⟨fun hdeletable ↦ ⟨rfl, ?_⟩, fun hdeletable ↦ ?_⟩
    · cases target <;> exact hdeletable
    · cases target <;> exact hdeletable.2
  · refine iff_of_false ?_ fun hcond ↦ hstop hcond.1
    rintro ⟨left, hok, -⟩
    have hdue := isDue_of_deleteExpired (h.interrupted managed target now reason stop).reopened hok
    apply not_isDue_interrupted h target now reason hstop
    cases target <;> exact hdue

/-- The system that events reach from an opened workspace. -/
def reached (governance : Option PrivacyGovernance) (managed : Text → Bool) (root : WorkspaceRoot)
    (events : List SystemEvent) : System :=
  events.foldl (step governance managed) ⟨root, ExportStore.empty⟩

/-- Every reachable system is steady. -/
theorem steady_reached (hg : RedactsDicts governance) (managed : Text → Bool) {draw : Draw}
    {root : WorkspaceRoot} (hopened : WorkspaceRoot.absent.openWorkspace version draw none =
      (.ok (some identity), root)) (events : List SystemEvent) :
    Steady identity version (reached governance managed root events) := by
  have hrun (sys : System) (h : Steady identity version sys) :
      Steady identity version (events.foldl (step governance managed) sys) := by
    induction events generalizing sys with
    | nil => exact h
    | cons event events ih => exact ih _ (h.step hg event)
  obtain ⟨identity', root', hopened', -, hcoherent, hnamed, hdatabase⟩ :=
    opened_coherent version draw
  rw [hopened] at hopened'
  cases hopened'
  exact hrun _ ⟨hcoherent, hnamed, hdatabase, List.nodup_nil, nofun, nofun⟩

end System

/-- Operations change the evidence as they do in a workspace alone. -/
private theorem content_reached (managed : Text → Bool) (sys : System)
    (ops : List { op : Operation // op.Proper }) :
    ((ops.map System.SystemEvent.worked).foldl (System.step none managed) sys).root.content =
      run (applyProper none) sys.root.content ops := by
  induction ops generalizing sys with
  | nil => rfl
  | cons op ops ih => exact ih _

private theorem allowed_reportExpired :
    ((run (applyProper none) Workspace.empty reportExpired).admitDeletion reportRecord
      (.ofUtc RetentionAdapter.epoch)).toBool = true := by
  decide +kernel

end StateWake.Lifecycle
