import StateWake.Attestation.Idempotence
import StateWake.Base.Interleaving
import StateWake.Base.JsonTruncated

/-!
# Writers and crashes

Any number of writers call the store at once. What a call offers is worked out before its lock
is taken, so the tip it was built on may be old; the commit under the lock reads the file again.
The file holds a linked history whatever the schedule. A signed append writes two lines in one
buffer: cut between them, the file keeps an attestation without its binding, and cut within one
of them it cannot be read.
-/

namespace StateWake.Attestation

open StateWake.Base Text Utils RegisterHistory Trust Store
open TrustHistory (founding acceptAll oneAuthority)

/-! ### Writers -/

/-- Where a writer stands: before its call, before its commit, or after it. -/
inductive Phase where
  | ready
  | offering (x : Answer)
  | returned (y : Answer)
  | raised (e : PyError)

variable (ed25519 : Bytes → Bytes → Bytes → Bool)
  (provider : SigningKeyReference → Bytes → Except PyError Bytes)

/-- A writer works out what it offers from the file of the moment, and commits it later. -/
def next (c : Call) (file : Option Bytes) : Phase → Option Bytes × Phase
  | .ready =>
    match offer ed25519 provider file c with
    | .error e => (file, .raised e)
    | .ok x => (file, .offering x)
  | .offering x =>
    match commit file x with
    | (.ok y, file') => (file', .returned y)
    | (.error e, file') => (file', .raised e)
  | phase => (file, phase)

variable {ι : Type} [DecidableEq ι]

/-- The file after the writers' steps in a given order, starting without a file. -/
def reached (calls : ι → Call) (schedule : List ι) : Option Bytes :=
  (Interleaving.run (fun i ↦ next ed25519 provider (calls i)) ⟨none, fun _ ↦ .ready⟩
    schedule).shared

variable {ed25519 provider}

/-- What a writer is about to commit can be written. -/
private def Phase.Writable : Phase → Prop
  | .offering x => x.Writable
  | _ => True

omit [DecidableEq ι] in
private theorem preserves (calls : ι → Call) :
    Interleaving.Preserves (fun i ↦ next ed25519 provider (calls i)) (fun _ _ _ ↦ True)
      Represents (fun _ _ phase ↦ phase.Writable) where
  keeps := by
    intro i file h phase hr hphase _
    cases phase with
    | ready =>
      rw [next]
      cases hx : offer ed25519 provider file (calls i) with
      | error e => exact ⟨h, hr, trivial, fun _ _ _ hm ↦ hm⟩
      | ok x => exact ⟨h, hr, offer_writable hx, fun _ _ _ hm ↦ hm⟩
    | offering x =>
      obtain ⟨g, hg⟩ := commit_grows hr (x := x) hphase
      rw [next]
      split
      · next y file' hcommit =>
        rw [hcommit] at hg
        exact ⟨h ++ g, hg, trivial, fun _ _ _ hm ↦ hm⟩
      · next e file' hcommit =>
        rw [hcommit] at hg
        exact ⟨h ++ g, hg, trivial, fun _ _ _ hm ↦ hm⟩
    | returned y => exact ⟨h, hr, trivial, fun _ _ _ hm ↦ hm⟩
    | raised e => exact ⟨h, hr, trivial, fun _ _ _ hm ↦ hm⟩

/-- Whatever the schedule, the file holds a history. -/
theorem reached_represents (calls : ι → Call) (schedule : List ι) :
    ∃ h, Represents (reached ed25519 provider calls schedule) h := by
  obtain ⟨h, hr, -⟩ := (@preserves ed25519 provider _ calls).holds_run
    (c := ⟨none, fun _ ↦ .ready⟩) ⟨[], represents_none, fun _ ↦ trivial⟩
    (Interleaving.meets_true _ _ schedule)
  exact ⟨h, hr⟩

/-! ### Linked logs -/

variable {file : Option Bytes} {h : List Entry} {e : Entry} {b : SignedReliabilityOutcomeBinding}
  {data : Bytes} {k : Nat}

/-- A file that can be read: its attestations have distinct identifiers and name the digest of
the one before them, and every binding comes once and after its attestation. -/
structure LinkedLog (file : Option Bytes) (h : List Entry) : Prop where
  content : file.getD [] = LineLog.encode Entry.line h
  readable : readSnapshotUnlocked file = .ok (after h)
  identified : ((after h).records.map fun a ↦ a.attestationId).Nodup
  linked : Prefixwise (fun pre a ↦ a.previousDigest = Snapshot.tipDigest ⟨pre, []⟩)
    (after h).records
  follows : Prefixwise (fun pre e ↦ ∀ b, e = .bound b → b.attestation ∈ (after pre).records) h
  once : ((after h).bindings.map fun b ↦ b.attestation.attestationId).Nodup

private theorem linked_of_stored (hs : Prefixwise Stored h) :
    Prefixwise (fun pre a ↦ a.previousDigest = Snapshot.tipDigest ⟨pre, []⟩)
      (after h).records := by
  induction h using List.reverseRecOn with
  | nil => exact prefixwise_nil _
  | append_singleton h e ih =>
    obtain ⟨hh, he⟩ := prefixwise_append_singleton.mp hs
    cases he with
    | attested linked fresh =>
      rw [after_attested]
      exact prefixwise_append_singleton.mpr ⟨ih hh, linked⟩
    | bound =>
      rw [after_bound]
      exact ih hh

private theorem follows_of_stored (hs : Prefixwise Stored h) :
    Prefixwise (fun pre e ↦ ∀ b, e = .bound b → b.attestation ∈ (after pre).records) h := by
  refine hs.mono fun pre e he b heq ↦ ?_
  subst heq
  cases he with
  | bound writable written recorded fresh => exact (recorded?_eq_some recorded).1

/-- A file that holds a history is a linked log. -/
theorem linkedLog_of_represents (hr : Represents file h) : LinkedLog file h where
  content := hr.content
  readable := readSnapshotUnlocked_represents hr
  identified := (identified_once hr.stored).1
  linked := linked_of_stored hr.stored
  follows := follows_of_stored hr.stored
  once := (identified_once hr.stored).2

/-! ### Crashes -/

/-- The file a crash leaves after `k` bytes of what a call writes. -/
def torn (file : Option Bytes) (data : Bytes) (k : Nat) : Option Bytes :=
  some (file.getD [] ++ data.take k)

/-- A file reads with an attestation and its binding or with neither. -/
def Whole (file : Option Bytes) (b : SignedReliabilityOutcomeBinding) : Prop :=
  ∃ s, readSnapshotUnlocked file = .ok s ∧ (b.attestation ∈ s.records ↔ b ∈ s.bindings)

/-- An attestation is recorded in a file. -/
def Recorded (file : Option Bytes) (a : ReliabilityOutcomeAttestation) : Prop :=
  ∃ s, readSnapshotUnlocked file = .ok s ∧ a ∈ s.records

private theorem line_pos (e : Entry) : 0 < e.line.length := by
  obtain ⟨r, hr⟩ : ∃ r, e.line = 0x7B :: r := Json.dumps_obj_head ..
  rw [hr]
  exact Nat.succ_pos _

/-- A proper part of a line is refused after any records. -/
private theorem parseRecord_torn (hs : Stored h e) (hk : k < e.line.length) (s : Snapshot)
    (number : Nat) : ∃ error, parseRecord none s number (e.line.take k) = .error error := by
  have hsplit : e.line = e.line.take k ++ e.line.drop k := (List.take_append_drop ..).symm
  have hparse : Json.parse (e.line.take k) = none :=
    Json.parse_truncated Json.compact hs.readable.1 hsplit (by simpa using hk)
  have haccept : ∃ error, acceptLine none s (e.line.take k) = .error error := by
    rw [acceptLine, Json.loads, hparse]
    exact ⟨_, rfl⟩
  obtain ⟨error, haccept⟩ := haccept
  rw [parseRecord, haccept]
  dsimp only
  split <;> exact ⟨_, rfl⟩

/-- The first characters of a line are not blank. -/
private theorem not_blank_take (e : Entry) (hk : 0 < k) : blank (e.line.take k) = false := by
  obtain ⟨r, hr⟩ : ∃ r, e.line = 0x7B :: r := Json.dumps_obj_head ..
  obtain ⟨n, rfl⟩ := Nat.exists_eq_succ_of_ne_zero hk.ne'
  rw [hr, List.take_succ_cons]
  exact Bool.eq_false_iff.mpr fun hb ↦
    absurd ((blank_iff _).mp hb 0x7B List.mem_cons_self) (by decide)

/-- What is read after the first `k` characters of one more line. -/
private theorem read_cut (hs : Prefixwise Stored (h ++ [e])) (hk : k ≤ e.line.length) :
    readSnapshotUnlocked (some (LineLog.encode Entry.line h ++
      (LineLog.encode Entry.line [e]).take k)) =
      LineLog.readLines (parseRecord none) (after h) (h.length + 1)
        (if e.line.take k = [] then [] else [e.line.take k]) := by
  obtain ⟨hh, he⟩ := prefixwise_append_singleton.mp hs
  rw [LineLog.take_encode_singleton hk]
  exact readSnapshotUnlocked_append hh
    (fun c hc ↦ he.plain.ascii c (List.mem_of_mem_take hc))
    (fun c hc ↦ he.plain.unbroken c (List.mem_of_mem_take hc))

/-- Cut within a line, the file cannot be read. -/
private theorem read_torn (hs : Prefixwise Stored (h ++ [e])) (hpos : 0 < k)
    (hk : k < e.line.length) : ∃ error, readSnapshotUnlocked (some (LineLog.encode Entry.line h ++
      (LineLog.encode Entry.line [e]).take k)) = .error error := by
  have hvisible := not_blank_take e hpos
  have hne : e.line.take k ≠ [] := by
    intro hn
    rw [hn] at hvisible
    cases hvisible
  rw [read_cut hs hk.le, if_neg hne, LineLog.readLines_singleton hvisible]
  exact parseRecord_torn (prefixwise_append_singleton.mp hs).2 hk _ _

/-- Cut after a line, with or without its line feed, the file reads with it. -/
private theorem read_full (hs : Prefixwise Stored (h ++ [e])) (hk : e.line.length ≤ k) :
    readSnapshotUnlocked (some (LineLog.encode Entry.line h ++
      (LineLog.encode Entry.line [e]).take k)) = .ok (after (h ++ [e])) := by
  rcases hk.eq_or_lt with rfl | hlt
  · have hplain := (prefixwise_append_singleton.mp hs).2.plain
    have hne : e.line ≠ [] := by
      intro hn
      have hvisible := hplain.visible
      rw [hn] at hvisible
      cases hvisible
    have hread : parseRecord none (after h) (h.length + 1) (e.line ++ []) =
        .ok (after (h ++ [e])) :=
      (prefixwise_append_singleton.mp hs).2.parseRecord (h.length + 1) nofun
    rw [List.append_nil] at hread
    rw [read_cut hs le_rfl, List.take_length, if_neg hne,
      LineLog.readLines_singleton hplain.visible, hread]
  · rw [List.take_of_length_le (by rw [LineLog.length_encode_singleton]; omega),
      ← LineLog.encode_append]
    exact readSnapshotUnlocked_represents ⟨rfl, hs⟩

/-! ### Signed appends cut short -/

private theorem not_bound_of_unbound (hu : Unbound h b) : b ∉ (after h).bindings := by
  intro hb
  have hnone := List.find?_eq_none.mp hu.unbound b hb
  simp at hnone

private theorem whole_of_read {s : Snapshot} (hs : readSnapshotUnlocked file = .ok s) :
    Whole file b ↔ (b.attestation ∈ s.records ↔ b ∈ s.bindings) := by
  constructor
  · rintro ⟨s', hs', hiff⟩
    rw [hs] at hs'
    cases hs'
    exact hiff
  · intro hiff
    exact ⟨s, hs, hiff⟩

private theorem not_whole_of_error {error : PyError}
    (he : readSnapshotUnlocked file = .error error) : ¬Whole file b := by
  rintro ⟨s, hs, -⟩
  rw [he] at hs
  cases hs

/-- A binding whose attestation is recorded is whole again once its line is. -/
private theorem whole_recorded_iff (hs : Prefixwise Stored h) (hu : Unbound h b)
    (hrec : (after h).recorded? b.attestation.attestationId = some b.attestation) :
    Whole (some (LineLog.encode Entry.line h ++ (LineLog.encode Entry.line [.bound b]).take k)) b ↔
      (Entry.bound b).line.length ≤ k := by
  have hstored : Prefixwise Stored (h ++ [.bound b]) :=
    prefixwise_append_singleton.mpr ⟨hs, .bound hu.writable hu.written hrec hu.unbound⟩
  have hmem := (recorded?_eq_some hrec).1
  rcases Nat.eq_zero_or_pos k with rfl | hpos
  · have hread : readSnapshotUnlocked (some (LineLog.encode Entry.line h ++
        (LineLog.encode Entry.line [.bound b]).take 0)) = .ok (after h) := by
      rw [List.take_zero, List.append_nil]
      exact readSnapshotUnlocked_represents ⟨rfl, hs⟩
    rw [whole_of_read hread]
    have hlong := line_pos (.bound b)
    exact iff_of_false (fun hiff ↦ not_bound_of_unbound hu (hiff.mp hmem)) (by omega)
  · by_cases hk : (Entry.bound b).line.length ≤ k
    · rw [whole_of_read (read_full hstored hk), after_bound]
      exact iff_of_true (by simp [hmem]) hk
    · obtain ⟨error, he⟩ := read_torn hstored hpos (not_le.mp hk)
      exact iff_of_false (not_whole_of_error he) hk

/-- A binding with its attestation is whole when nothing was written or the second line is. -/
private theorem whole_fresh_iff (hs : Prefixwise Stored h) (hu : Unbound h b)
    (hf : Fresh h b.attestation) :
    Whole (some (LineLog.encode Entry.line h ++
        (LineLog.encode Entry.line [.attested b.attestation, .bound b]).take k)) b ↔
      k = 0 ∨ (LineLog.encode Entry.line [.attested b.attestation]).length +
        (Entry.bound b).line.length ≤ k := by
  have hattested : Prefixwise Stored (h ++ [.attested b.attestation]) :=
    prefixwise_append_singleton.mpr ⟨hs, hf.stored⟩
  have hstored : Prefixwise Stored (h ++ [.attested b.attestation] ++ [.bound b]) := by
    have hadded := hu.stored hs
    rw [added, hf.unrecorded, Option.isSome_none, if_neg Bool.false_ne_true] at hadded
    rwa [List.append_assoc]
  have hsplit : LineLog.encode Entry.line [.attested b.attestation, .bound b] =
      LineLog.encode Entry.line [.attested b.attestation] ++
        LineLog.encode Entry.line [.bound b] :=
    LineLog.encode_append (h := [Entry.attested b.attestation]) (g := [Entry.bound b])
  have hlong := line_pos (.bound b)
  have hunattested : b.attestation ∉ (after h).records := by
    intro ha
    have hnone := List.find?_eq_none.mp hf.unrecorded _ ha
    simp at hnone
  have hunbound := not_bound_of_unbound hu
  have hline : (LineLog.encode Entry.line [.attested b.attestation]).length = _ :=
    LineLog.length_encode_singleton _
  rw [hsplit, List.take_append, ← List.append_assoc]
  rcases Nat.lt_or_ge k (LineLog.encode Entry.line [.attested b.attestation]).length with
    hlt | hge
  · -- cut within the line of the attestation or before its line feed
    rw [Nat.sub_eq_zero_of_le hlt.le, List.take_zero, List.append_nil]
    rcases Nat.eq_zero_or_pos k with rfl | hpos
    · have hread : readSnapshotUnlocked (some (LineLog.encode Entry.line h ++
          (LineLog.encode Entry.line [.attested b.attestation]).take 0)) = .ok (after h) := by
        rw [List.take_zero, List.append_nil]
        exact readSnapshotUnlocked_represents ⟨rfl, hs⟩
      rw [whole_of_read hread]
      exact iff_of_true (iff_of_false hunattested hunbound) (.inl rfl)
    · refine iff_of_false ?_ (by omega)
      by_cases hk : (Entry.attested b.attestation).line.length ≤ k
      · rw [whole_of_read (read_full hattested hk), after_attested]
        intro hiff
        exact hunbound (hiff.mp (by simp))
      · obtain ⟨error, he⟩ := read_torn hattested hpos (not_le.mp hk)
        exact not_whole_of_error he
  · -- the attestation is written; the binding is cut
    rw [List.take_of_length_le hge, ← LineLog.encode_append]
    have hrec : (after (h ++ [.attested b.attestation])).recorded? b.attestation.attestationId =
        some b.attestation := by
      apply recorded?_of_mem hattested
      simp
    have hu' : Unbound (h ++ [.attested b.attestation]) b :=
      ⟨hu.writable, hu.written, .inl hrec, by
        simp only [Snapshot.binding?, after_attested]
        exact hu.unbound⟩
    rw [whole_recorded_iff hattested hu' hrec]
    omega

/-- Where a signed append is cut, the file stays whole exactly when all but a line feed was
written, or nothing of an attestation that was not recorded before. -/
theorem whole_torn_iff (hr : Represents file h) (hw : Json.Writable (.obj b.envelope.attestation))
    (hcall : appendSigned file b = (.ok b, some (file.getD [] ++ data))) :
    Whole (torn file data k) b ↔
      data.length ≤ k + 1 ∨ k = 0 ∧ ¬Recorded file b.attestation := by
  have hread := readSnapshotUnlocked_represents hr
  have hrecorded : Recorded file b.attestation ↔ b.attestation ∈ (after h).records := by
    constructor
    · rintro ⟨s, hs, hmem⟩
      rw [hread] at hs
      cases hs
      exact hmem
    · exact fun hmem ↦ ⟨_, hread, hmem⟩
  rw [hrecorded, torn, hr.content]
  rcases appendSigned_cases hr b hw with ⟨hu, happend⟩ | ⟨hbound, happend⟩ | ⟨e, happend⟩
  · have hdata : data = LineLog.encode Entry.line (added h b) := by
      rw [happend] at hcall
      have hfile := (Prod.mk.inj hcall).2
      rw [appendBytes, Option.some.injEq] at hfile
      exact (List.append_cancel_left hfile).symm
    subst hdata
    rcases hu.recorded with hrec | hfresh
    · have hmem := (recorded?_eq_some hrec).1
      rw [added, hrec, Option.isSome_some, if_pos rfl, whole_recorded_iff hr.stored hu hrec,
        LineLog.length_encode_singleton]
      simp only [hmem, not_true_eq_false, and_false, or_false]
      omega
    · have hunattested : b.attestation ∉ (after h).records := by
        intro ha
        have hnone := List.find?_eq_none.mp hfresh.unrecorded _ ha
        simp at hnone
      rw [added, hfresh.unrecorded, Option.isSome_none, if_neg Bool.false_ne_true,
        whole_fresh_iff hr.stored hu hfresh,
        show [Entry.attested b.attestation, .bound b] = [.attested b.attestation] ++ [.bound b] from
          rfl, LineLog.encode_append, List.length_append, LineLog.length_encode_singleton,
        LineLog.length_encode_singleton]
      simp only [hunattested, not_false_eq_true, and_true]
      omega
  · have hnil : data = [] := by
      rw [happend] at hcall
      have hfile := (Prod.mk.inj hcall).2
      cases file with
      | none => cases hfile
      | some raw => exact List.self_eq_append_right.mp (Option.some.inj hfile)
    have hmem := (binding?_eq_some hbound).1
    have hread' : readSnapshotUnlocked (some (LineLog.encode Entry.line h)) = .ok (after h) :=
      readSnapshotUnlocked_represents ⟨rfl, hr.stored⟩
    rw [hnil, List.take_nil, List.append_nil, whole_of_read hread']
    exact iff_of_true (iff_of_true (recorded?_eq_some (recorded?_of_bound hr.stored hmem)).1 hmem)
      (.inl (Nat.zero_le _))
  · rw [happend] at hcall
    cases hcall

variable (ed25519 provider)

end StateWake.Attestation
