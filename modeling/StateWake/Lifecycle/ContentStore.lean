import StateWake.Base.Calls
import StateWake.Lifecycle.DataLifecycle

/-!
# Retention and content-addressed artifacts

`domain/retention.py`, `adapters/retention.py` and `adapters/content_store.py`. An artifact is
deleted only when the retention contract permits it. The adapter keeps one requirement for an
artifact, so a hold is lost when an ordinary requirement that ends no earlier takes its place,
and is never kept when an ordinary requirement that ends later stands there.
-/

namespace StateWake.Lifecycle

open StateWake.Base Text

/-! ### Retention requirements -/

/-- `EvidenceRetentionRequirement`, `domain/retention.py:10–24`, with what its constructor
checked. -/
structure EvidenceRetentionRequirement where
  artifactId : Text
  retainUntil : AwareDatetime
  legalHold : Bool
  policyId : Text
  named : blank artifactId = false
  governed : blank policyId = false
  deriving DecidableEq

/-- `InMemoryEvidenceRetentionAdapter`, `adapters/retention.py:10–15`: one requirement for each
artifact. -/
abbrev RetentionAdapter := Dict EvidenceRetentionRequirement

namespace RetentionAdapter

/-- `require_retention`, `adapters/retention.py:17–21`. -/
def requireRetention (d : RetentionAdapter) (r : EvidenceRetentionRequirement) :
    RetentionAdapter :=
  match d.get? r.artifactId with
  | none => d.set r.artifactId r
  | some existing =>
    if existing.retainUntil.instant ≤ r.retainUntil.instant then d.set r.artifactId r else d

/-- `release_retention`, `adapters/retention.py:23–27`. -/
def releaseRetention (d : RetentionAdapter) (artifactId : Text) : RetentionAdapter :=
  match d.get? artifactId with
  | none => d
  | some existing => if existing.legalHold then d else d.erase artifactId

/-- `can_delete`, `adapters/retention.py:29–38`. -/
def canDelete (d : RetentionAdapter) (artifactId : Text) (now : AwareDatetime) : Bool :=
  match d.get? artifactId with
  | none => true
  | some requirement =>
    if requirement.legalHold then false
    else decide (requirement.retainUntil.instant ≤ now.instant)

/-- `is_held`, `adapters/retention.py:40–43`. -/
def isHeld (d : RetentionAdapter) (artifactId : Text) : Bool :=
  (d.get? artifactId).any fun requirement ↦ requirement.legalHold

/-- The first day of 1970. -/
def epoch : Datetime := .of (.of 1970 1 1) 0

/-- Whatever the time, an artifact under hold is not deleted, and no other is always kept. -/
theorem isHeld_iff {d : RetentionAdapter} {artifactId : Text} :
    d.isHeld artifactId = true ↔ ∀ now, d.canDelete artifactId now = false := by
  unfold isHeld canDelete
  cases d.get? artifactId with
  | none => exact iff_of_false Bool.false_ne_true fun hall ↦ nomatch hall (.ofUtc epoch)
  | some requirement =>
    cases hhold : requirement.legalHold with
    | true => simp [hhold]
    | false =>
      refine iff_of_false (by simp [hhold]) fun hall ↦ ?_
      have hlate := hall requirement.retainUntil
      simp [hhold] at hlate

end RetentionAdapter

/-! ### The content-addressed store -/

/-- `ContentAddressedArtifactStore`, `adapters/content_store.py:13–18`: the file at each
digest. -/
abbrev ContentAddressedArtifactStore := Dict Bytes

namespace ContentAddressedArtifactStore

/-- `_path_for`, `adapters/content_store.py:96–100`. -/
def pathFor (digest : Text) : Except PyError Unit :=
  require ⟨.valueError, lit "digest must be a lowercase SHA-256 hexadecimal string."⟩
    (isSha256 digest)

/-- The check that a file's content has its digest, `adapters/content_store.py:27–31`. -/
def checkIntegrity (digest : Text) (content : Bytes) : Except PyError Unit :=
  require ⟨.valueError, lit "Artifact integrity failure: expected " ++ digest ++ lit ", got " ++
    sha256 content ++ lit "."⟩ (sha256 content = digest)

/-- `put`, `adapters/content_store.py:20–43`. -/
def put (files : ContentAddressedArtifactStore) (content : Bytes) :
    Except PyError Text × ContentAddressedArtifactStore :=
  match files.get? (sha256 content) with
  | some existing =>
    (do
      checkIntegrity (sha256 content) existing
      pure (sha256 content), files)
  | none => (.ok (sha256 content), files.set (sha256 content) content)

/-- `get`, `adapters/content_store.py:45–56`. -/
def get (files : ContentAddressedArtifactStore) (digest : Text) : Except PyError Bytes := do
  pathFor digest
  let content ← orRaise ⟨.fileNotFoundError, lit "Artifact not found: " ++ digest⟩
    (files.get? digest)
  checkIntegrity digest content
  pure content

/-- `exists`, `adapters/content_store.py:92–94`. -/
def «exists» (files : ContentAddressedArtifactStore) (digest : Text) : Except PyError Bool := do
  pathFor digest
  pure (files.get? digest).isSome

/-- The descriptive arguments of a deletion. -/
structure Deletion where
  sensitivity : Text
  policyId : Text
  reason : Text
  derivedFrom : List Text

/-- `delete`, `adapters/content_store.py:58–90`. The file is gone once the contract permits it,
whatever the record of the deletion then says. -/
def delete (files : ContentAddressedArtifactStore) (digest : Text) (retention : RetentionAdapter)
    (now : AwareDatetime) (d : Deletion) :
    Except PyError DeletionRecord × ContentAddressedArtifactStore :=
  let permitted : Except PyError Unit := do
    pathFor digest
    let _ ← orRaise ⟨.fileNotFoundError, lit "Artifact not found: " ++ digest⟩
      (files.get? digest)
    require ⟨.permissionError,
      lit "artifact deletion is blocked by retention policy: " ++ digest⟩
      (retention.canDelete digest now)
  match permitted with
  | .error e => (.error e, files)
  | .ok () =>
    (buildDeletionRecord digest digest d.sensitivity now d.policyId d.reason d.derivedFrom,
      files.erase digest)

/-- A stored artifact that may not be deleted stays, and the caller is told. -/
theorem delete_of_blocked {files : ContentAddressedArtifactStore} {digest : Text}
    {retention : RetentionAdapter} {now : AwareDatetime} (hdigest : isSha256 digest = true)
    (hstored : files.get? digest ≠ none) (hblocked : retention.canDelete digest now = false)
    (d : Deletion) :
    delete files digest retention now d = (.error ⟨.permissionError,
      lit "artifact deletion is blocked by retention policy: " ++ digest⟩, files) := by
  obtain ⟨content, hcontent⟩ := Option.ne_none_iff_exists'.mp hstored
  rw [delete, pathFor, hdigest, require_true, ok_bind, hcontent, orRaise_some, ok_bind, hblocked]
  rfl

/-- A deletion succeeds exactly when the contract permits it and its record can be written. The
artifact is then gone. -/
theorem delete_eq_ok {files files' : ContentAddressedArtifactStore} {digest : Text}
    {retention : RetentionAdapter} {now : AwareDatetime} {d : Deletion} {r : DeletionRecord} :
    delete files digest retention now d = (.ok r, files') ↔
      isSha256 digest = true ∧ (∃ content, files.get? digest = some content) ∧
      retention.canDelete digest now = true ∧
      buildDeletionRecord digest digest d.sensitivity now d.policyId d.reason d.derivedFrom =
        .ok r ∧ files' = files.erase digest := by
  rw [delete, pathFor]
  cases hdigest : isSha256 digest with
  | false => simp [require]
  | true =>
    rw [require_true, ok_bind]
    cases hstored : files.get? digest with
    | none => simp
    | some content =>
      rw [orRaise_some, ok_bind]
      cases hpermits : retention.canDelete digest now with
      | false => simp [require]
      | true =>
        rw [require_true]
        simp [eq_comm]

end ContentAddressedArtifactStore

/-! ### Runs of the retention adapter -/

namespace RetentionAdapter

/-- An operation of the adapter. -/
inductive Operation where
  | require (requirement : EvidenceRetentionRequirement)
  | release (artifactId : Text)

/-- One operation; none raises. -/
def apply (d : RetentionAdapter) (op : Operation) : Except PyError Unit × RetentionAdapter :=
  match op with
  | .require r => (.ok (), d.requireRetention r)
  | .release artifactId => (.ok (), d.releaseRetention artifactId)

/-- The requirements applied to an artifact since it was last released. -/
def appliedSince (artifactId : Text) (ops : List Operation) :
    List EvidenceRetentionRequirement :=
  ops.foldl (fun applied op ↦
    match op with
    | .require r => if r.artifactId = artifactId then applied ++ [r] else applied
    | .release released => if released = artifactId then [] else applied) []

open Calls

/-- Once a hold was applied to an artifact, nothing that follows permits its deletion: the store
raises and keeps it. -/
def HoldsKept (ops : List Operation) : Prop :=
  ∀ pre r mid post, ops = pre ++ .require r :: mid ++ post → r.legalHold = true → ∀ now,
    (run apply [] (pre ++ .require r :: mid)).canDelete r.artifactId now = false ∧
    ∀ (files : ContentAddressedArtifactStore) d, isSha256 r.artifactId = true →
      files.get? r.artifactId ≠ none →
      files.delete r.artifactId (run apply [] (pre ++ .require r :: mid)) now d =
        (.error ⟨.permissionError,
          lit "artifact deletion is blocked by retention policy: " ++ r.artifactId⟩, files)

/-- Deletion is permitted only from the last deadline applied since the last release on. -/
def DeadlinesKept (ops : List Operation) : Prop :=
  ∀ artifactId now, (run apply [] ops).canDelete artifactId now = true →
    ∀ r ∈ appliedSince artifactId ops, r.retainUntil.instant ≤ now.instant

/-- An operation that leaves holds alone: where a requirement meets a stored one that differs
from it in being a hold, the hold is the one the adapter keeps. -/
def Keeps (d : RetentionAdapter) : Operation → Prop
  | .release _ => True
  | .require r => ∀ existing, d.get? r.artifactId = some existing →
      r.legalHold ≠ existing.legalHold →
      (r.legalHold = true ↔ existing.retainUntil.instant ≤ r.retainUntil.instant)

variable {d : RetentionAdapter} {a : Text} {ops : List Operation} {op : Operation}
  {r existing : EvidenceRetentionRequirement}

private theorem run_append_singleton :
    run apply d (ops ++ [op]) = (apply (run apply d ops) op).2 := by
  rw [run_append, run_cons, run_nil]

/-- What stands for an artifact after a requirement was applied to it. -/
private theorem get?_requireRetention : (d.requireRetention r).get? a =
    if a = r.artifactId ∧ ∀ existing, d.get? a = some existing →
      existing.retainUntil.instant ≤ r.retainUntil.instant then some r else d.get? a := by
  unfold requireRetention
  by_cases ha : a = r.artifactId
  · rw [ha]
    cases hd : d.get? r.artifactId with
    | none => simp
    | some existing =>
      by_cases hle : existing.retainUntil.instant ≤ r.retainUntil.instant
      · simp [hle]
      · simp [hle, hd]
  · rw [if_neg fun h ↦ ha h.1]
    split
    · rw [Dict.get?_set, if_neg ha]
    · split
      · rw [Dict.get?_set, if_neg ha]
      · rfl

/-- What stands for an artifact after one was released. -/
private theorem get?_releaseRetention {released : Text} : (d.releaseRetention released).get? a =
    if a = released ∧ d.isHeld a = false then none else d.get? a := by
  unfold releaseRetention
  by_cases ha : a = released
  · rw [← ha, isHeld]
    cases hd : d.get? a with
    | none => simp [hd]
    | some existing =>
      cases hhold : existing.legalHold with
      | true => simp [hd, hhold]
      | false => simp [hhold]
  · rw [if_neg fun h ↦ ha h.1]
    split
    · rfl
    · split
      · rfl
      · rw [Dict.get?_erase, if_neg ha]

/-- What stands for an artifact was applied to it. -/
private theorem mem_of_get? (h : (run apply [] ops).get? a = some r) :
    .require r ∈ ops ∧ r.artifactId = a := by
  induction ops using List.reverseRecOn with
  | nil => cases h
  | append_singleton ops op ih =>
    rw [run_append_singleton] at h
    cases op with
    | require q =>
      rw [apply, get?_requireRetention] at h
      split at h
      · next hq =>
        cases h
        exact ⟨by simp, hq.1.symm⟩
      · exact ⟨List.mem_append_left _ (ih h).1, (ih h).2⟩
    | release released =>
      rw [apply, get?_releaseRetention] at h
      split at h
      · cases h
      · exact ⟨List.mem_append_left _ (ih h).1, (ih h).2⟩

theorem isHeld_eq_true : d.isHeld a = true ↔ ∃ r, d.get? a = some r ∧ r.legalHold = true := by
  rw [isHeld, Option.any_eq_true]

/-- An operation that leaves holds alone keeps every hold, and applies a hold that comes. -/
private theorem isHeld_apply (hkeeps : Keeps d op)
    (h : d.isHeld a = true ∨ ∃ r, op = .require r ∧ r.artifactId = a ∧ r.legalHold = true) :
    (apply d op).2.isHeld a = true := by
  rw [isHeld_eq_true]
  cases op with
  | require q =>
    rw [apply, get?_requireRetention]
    split
    · next hq =>
      refine ⟨q, rfl, ?_⟩
      rcases h with h | ⟨r, hr, -, hhold⟩
      · obtain ⟨existing, hget, hhold⟩ := isHeld_eq_true.mp h
        by_contra hnot
        refine hnot ((hkeeps existing (hq.1 ▸ hget) ?_).mpr (hq.2 existing hget))
        rw [hhold]
        exact hnot
      · cases hr
        exact hhold
    · next hq =>
      rcases h with h | ⟨r, hr, ha, hhold⟩
      · exact isHeld_eq_true.mp h
      · cases hr
        obtain ⟨existing, hget, hle⟩ : ∃ existing, d.get? a = some existing ∧
            ¬existing.retainUntil.instant ≤ q.retainUntil.instant := by
          by_contra hnot
          exact hq ⟨ha.symm, fun existing hget ↦ not_not.mp fun hle ↦ hnot ⟨existing, hget, hle⟩⟩
        refine ⟨existing, hget, ?_⟩
        by_contra hnot
        refine hle ((hkeeps existing (ha ▸ hget) ?_).mp hhold)
        rw [hhold]
        exact fun heq ↦ hnot heq.symm
  | release released =>
    rcases h with h | ⟨r, hr, -⟩
    · rw [apply, get?_releaseRetention, if_neg fun hc ↦ by rw [h] at hc; cases hc.2]
      exact isHeld_eq_true.mp h
    · cases hr

/-- Along a run whose operations leave holds alone, every artifact a hold was applied to is
under hold. -/
private theorem isHeld_run (hkeeps : Along apply Keeps [] ops) (hr : .require r ∈ ops)
    (hhold : r.legalHold = true) : (run apply [] ops).isHeld r.artifactId = true := by
  rw [along_iff_forall_split] at hkeeps
  induction ops using List.reverseRecOn with
  | nil => cases hr
  | append_singleton ops op ih =>
    rw [run_append_singleton]
    refine isHeld_apply (hkeeps ops op [] rfl) ?_
    rcases List.mem_append.mp hr with hr | hr
    · refine .inl (ih (fun pre c post hsplit ↦ hkeeps pre c (post ++ [op]) ?_) hr)
      rw [hsplit, List.append_assoc, List.cons_append]
    · exact .inr ⟨r, (List.mem_singleton.mp hr).symm, rfl, hhold⟩

private theorem holdsKept_of_along (hkeeps : Along apply Keeps [] ops) : HoldsKept ops := by
  intro pre r mid post hops hhold now
  have hheld : (run apply [] (pre ++ .require r :: mid)).isHeld r.artifactId = true := by
    refine isHeld_run ?_ (by simp) hhold
    rw [along_iff_forall_split] at hkeeps ⊢
    intro before c after hsplit
    refine hkeeps before c (after ++ post) ?_
    rw [hops, hsplit, List.append_assoc, List.cons_append]
  have hblocked := isHeld_iff.mp hheld now
  exact ⟨hblocked, fun files d hdigest hstored ↦
    ContentAddressedArtifactStore.delete_of_blocked hdigest hstored hblocked d⟩

/-- Where holds are kept, every operation leaves holds alone. -/
private theorem along_of_holdsKept (h : HoldsKept ops) : Along apply Keeps [] ops := by
  rw [along_iff_forall_split]
  rintro pre (r | released) post hops
  · intro existing hget hne
    -- the state after the requirement tells which of the two the adapter kept
    have hafter : (run apply [] (pre ++ [.require r])).get? r.artifactId =
        if existing.retainUntil.instant ≤ r.retainUntil.instant then some r
        else some existing := by
      rw [run_append_singleton, apply, get?_requireRetention, hget]
      simp
    have hheld : (run apply [] (pre ++ [.require r])).isHeld r.artifactId = true := by
      rw [isHeld_iff]
      intro now
      cases hhold : r.legalHold with
      | true => exact (h pre r [] post (by simpa using hops) hhold now).1
      | false =>
        obtain ⟨hmem, hid⟩ := mem_of_get? hget
        obtain ⟨before, mid, hpre⟩ := List.append_of_mem hmem
        rw [hhold] at hne
        have hexisting : existing.legalHold = true := by
          cases he : existing.legalHold with
          | true => rfl
          | false => exact absurd he.symm hne
        have hkept := (h before existing (mid ++ [.require r]) post
          (by rw [hops, hpre]; simp) hexisting now).1
        rw [hid] at hkept
        rw [hpre, List.append_assoc]
        exact hkept
    rw [isHeld, hafter] at hheld
    by_cases hle : existing.retainUntil.instant ≤ r.retainUntil.instant
    · rw [if_pos hle] at hheld
      exact iff_of_true hheld hle
    · rw [if_neg hle] at hheld
      exact iff_of_false (fun hr ↦ hne (hr.trans hheld.symm)) hle
  · trivial

private theorem appliedSince_append_singleton : appliedSince a (ops ++ [op]) =
    match op with
    | .require r => if r.artifactId = a then appliedSince a ops ++ [r] else appliedSince a ops
    | .release released => if released = a then [] else appliedSince a ops := by
  rw [appliedSince, List.foldl_append]
  rfl

/-- What stands for an artifact ends no earlier than anything applied since its release. -/
private theorem le_stored (hr : r ∈ appliedSince a ops) : ∃ stored,
    (run apply [] ops).get? a = some stored ∧
      r.retainUntil.instant ≤ stored.retainUntil.instant := by
  induction ops using List.reverseRecOn with
  | nil => cases hr
  | append_singleton ops op ih =>
    rw [appliedSince_append_singleton] at hr
    rw [run_append_singleton]
    cases op with
    | require q =>
      dsimp only at hr
      rw [apply, get?_requireRetention]
      by_cases hq : q.artifactId = a
      · rw [if_pos hq] at hr
        split
        · next hlast =>
          refine ⟨q, rfl, ?_⟩
          rcases List.mem_append.mp hr with hr | hr
          · obtain ⟨stored, hget, hle⟩ := ih hr
            exact le_trans hle (hlast.2 stored hget)
          · rw [List.mem_singleton.mp hr]
        · next hlast =>
          rcases List.mem_append.mp hr with hr | hr
          · exact ih hr
          · rw [List.mem_singleton.mp hr]
            by_contra hnot
            refine hlast ⟨hq.symm, fun existing hget ↦ ?_⟩
            by_contra hle
            exact hnot ⟨existing, hget, le_of_not_ge hle⟩
      · rw [if_neg hq] at hr
        rw [if_neg fun h ↦ hq h.1.symm]
        exact ih hr
    | release released =>
      dsimp only at hr
      rw [apply, get?_releaseRetention]
      by_cases hreleased : released = a
      · rw [if_pos hreleased] at hr
        cases hr
      · rw [if_neg hreleased] at hr
        rw [if_neg fun h ↦ hreleased h.1.symm]
        exact ih hr

private theorem deadlinesKept (ops : List Operation) : DeadlinesKept ops := by
  intro a now hdelete r hr
  obtain ⟨stored, hget, hle⟩ := le_stored hr
  rw [canDelete, hget] at hdelete
  refine le_trans hle ?_
  cases hhold : stored.legalHold with
  | true => simp [hhold] at hdelete
  | false => simpa [hhold] using hdelete

/-- A requirement that ends at the start of 1970. -/
private def untilEpoch (legalHold : Bool) : EvidenceRetentionRequirement :=
  ⟨lit "artifact", .ofUtc epoch, legalHold, lit "default", by decide, by decide⟩

end RetentionAdapter

end StateWake.Lifecycle
