import StateWake.Base.Calls
import StateWake.Base.KeyedHistory
import StateWake.Trust.TrustCheckpoint
import Mathlib.Data.List.Perm.Basic

/-!
# The trust anchor store

`adapters/trust_anchor.py`. The store is a directory with one file for each checkpoint.
Publishing compares a checkpoint with the latest one of its subject; finding the latest sorts
all files of the subject by record count and time text and checks them in that order. The
order in which the directory lists its files is the parameter `listing`.
-/

namespace StateWake.Trust

open StateWake.Base Text Utils KeyedHistory TrustCheckpoint

namespace TrustAnchorStore

/-- The files of the directory by name. -/
abbrev Directory := Dict Bytes

variable (ed25519 : Bytes → Bytes → Bytes → Bool) (publicKeys : Dict Bytes)
  (listing : Directory → List Text)

/-- `_path`, `adapters/trust_anchor.py:33–39`: the name of the file of a checkpoint. -/
def path (checkpointId : Text) : Except PyError Text :=
  if checkpointId = [] ∨ checkpointId = lit "." ∨ checkpointId = lit ".." then
    trustAnchorError (lit "checkpoint_id must not be empty or a path segment.")
  else if (47 : CodePoint) ∈ checkpointId then
    trustAnchorError (lit "checkpoint_id must be a single path-safe segment.")
  else .ok (checkpointId ++ lit ".json")

/-- Whether `glob("*.json")` lists a file name. -/
def isJson (name : Text) : Bool := (lit ".json").isSuffixOf name

/-- `path.stem` of a listed name; a name that is all suffix has none. -/
def stem (name : Text) : Text :=
  if name = lit ".json" then name else name.take (name.length - 5)

/-- `retrieve`, `adapters/trust_anchor.py:65–71`. -/
def retrieve (directory : Directory) (checkpointId : Text) : Except PyError TrustCheckpoint := do
  let name ← path checkpointId
  let raw ← orRaise ⟨.fileNotFoundError, name⟩ (directory.get? name)
  let payload ← loadObject raw (lit "trust checkpoint")
  let checkpoint ← fromDict payload
  require ⟨.trustAnchorError, lit "checkpoint ID does not match its storage key."⟩
    (checkpoint.checkpointId = checkpointId)
  verify ed25519 publicKeys checkpoint

/-- The order of `(history_record_count, issued_at)`. -/
def keyLe (a b : TrustCheckpoint) : Bool :=
  decide (a.historyRecordCount < b.historyRecordCount) ||
    decide (a.historyRecordCount = b.historyRecordCount) && decide (a.issuedAt ≤ b.issuedAt)

/-- `_latest`, `adapters/trust_anchor.py:81–111`. -/
def latest (directory : Directory) (subjectId : Option Text) :
    Except PyError (Option TrustCheckpoint) := do
  let all ← ((listing directory).filter isJson).mapM fun name ↦
    retrieve ed25519 publicKeys directory (stem name)
  let checkpoints := all.filter fun c ↦ decide (∀ s ∈ subjectId, c.subjectId = s)
  if subjectId = none ∧ 1 < (checkpoints.map TrustCheckpoint.subjectId).dedup.length then
    .error ⟨.anchorDiscrepancyError,
      lit "latest checkpoint requires a subject when multiple subjects exist."⟩
  else
    let sorted := checkpoints.mergeSort keyLe
    match sorted.getLast? with
    | none => pure none
    | some last => do
      let ties := sorted.filter fun c ↦
        decide (c.historyRecordCount = last.historyRecordCount ∧ c.issuedAt = last.issuedAt)
      require ⟨.anchorDiscrepancyError,
        lit "independent trust anchor contains ambiguous latest checkpoints."⟩ (ties.length ≤ 1)
      forM (sorted.zip sorted.tail) fun pair ↦ ensureCheckpointSequence (some pair.1) pair.2
      pure (some last)

/-- What a checkpoint is stored as, `adapters/trust_anchor.py:59–62`. -/
def content (c : TrustCheckpoint) : Bytes :=
  Utf8.ascii (Json.dumps Json.compact (.obj c.toDict))

/-- `publish`, `adapters/trust_anchor.py:41–63`. The temporary file has no listed name and is
renamed at once. -/
def publish (directory : Directory) (c : TrustCheckpoint) : Except PyError Unit × Directory :=
  let checked : Except PyError (Option Text) := do
    let _ ← verify ed25519 publicKeys c
    let name ← path c.checkpointId
    if (directory.get? name).isSome then
      let existing ← retrieve ed25519 publicKeys directory c.checkpointId
      let stored ← existing.digest
      let given ← c.digest
      require ⟨.anchorDiscrepancyError, lit "checkpoint ID already exists with different content."⟩
        (stored = given ∧ existing.signature = c.signature)
      pure none
    else
      let previous ← latest ed25519 publicKeys listing directory (some c.subjectId)
      ensureCheckpointSequence previous c
      pure (some name)
  match checked with
  | .error e => (.error e, directory)
  | .ok none => (.ok (), directory)
  | .ok (some name) => (.ok (), directory.set name (content c))

/-! ### The directory of a history -/

/-- The file of a checkpoint. -/
def fileName (checkpointId : Text) : Text := checkpointId ++ lit ".json"

/-- The directory that holds the checkpoints of a history. -/
def entries (h : List TrustCheckpoint) : Directory :=
  h.map fun c ↦ (fileName c.checkpointId, content c)

/-- Checkpoints a directory can hold: authentic, with different path-safe identifiers. -/
structure Stocked (h : List TrustCheckpoint) : Prop where
  unique : (h.map TrustCheckpoint.checkpointId).Nodup
  named : ∀ c ∈ h, path c.checkpointId = .ok (fileName c.checkpointId)
  authentic : ∀ c ∈ h, verify ed25519 publicKeys c = .ok c

variable {ed25519 publicKeys listing} {h : List TrustCheckpoint} {c : TrustCheckpoint}

theorem path_eq_ok {checkpointId name : Text} (hp : path checkpointId = .ok name) :
    name = fileName checkpointId ∧ checkpointId ≠ [] := by
  rw [path] at hp
  split at hp
  · cases hp
  · next hid =>
    split at hp
    · cases hp
    · cases hp
      exact ⟨rfl, fun hnil ↦ hid (.inl hnil)⟩

theorem fileName_injective : Function.Injective fileName := fun _ _ hab ↦
  List.append_cancel_right hab

theorem isJson_fileName (checkpointId : Text) : isJson (fileName checkpointId) = true := by
  rw [isJson, List.isSuffixOf_iff_suffix]
  exact List.suffix_append ..

theorem stem_fileName {checkpointId : Text} (hne : checkpointId ≠ []) :
    stem (fileName checkpointId) = checkpointId := by
  have hlength : (fileName checkpointId).length - 5 = checkpointId.length := by
    rw [fileName, List.length_append, show (lit ".json").length = 5 from rfl, Nat.add_sub_cancel]
  rw [stem, if_neg, hlength, fileName, List.take_left]
  intro heq
  exact hne (List.append_left_eq_self.mp heq)

theorem keys_entries (h : List TrustCheckpoint) :
    (entries h).keys = h.map fun c ↦ fileName c.checkpointId := by
  simp [entries, Dict.keys]

theorem Stocked.distinct (hs : Stocked ed25519 publicKeys h) : (entries h).Distinct := by
  rw [Dict.Distinct, keys_entries, ← Function.comp_def fileName, ← List.map_map]
  exact hs.unique.map fileName_injective

theorem Stocked.get?_entries (hs : Stocked ed25519 publicKeys h) (hc : c ∈ h) :
    (entries h).get? (fileName c.checkpointId) = some (content c) :=
  (Dict.get?_eq_some_iff hs.distinct).mpr (List.mem_map.mpr ⟨c, hc, rfl⟩)

/-- A stored checkpoint is retrieved. -/
theorem Stocked.retrieve (hs : Stocked ed25519 publicKeys h) (hc : c ∈ h) :
    TrustAnchorStore.retrieve ed25519 publicKeys (entries h) c.checkpointId = .ok c := by
  have hauth := hs.authentic c hc
  have hpairs : ∀ u ∈ Json.texts (.obj c.toDict), PairFree u :=
    fun u hu ↦ ((verify_eq_ok hauth).2.2 u hu).pairFree
  rw [TrustAnchorStore.retrieve, hs.named c hc, ok_bind, hs.get?_entries hc, orRaise_some, ok_bind,
    content, loadObject_dumps c.writable_toDict, ok_bind,
    fromDict_of_readsAs (readsAs_readMembers Json.compact c.writable_toDict hpairs), ok_bind,
    decide_eq_true rfl, require_true, ok_bind, hauth]

/-- All files are retrieved, in the order the directory lists them. -/
theorem Stocked.retrieve_all (hs : Stocked ed25519 publicKeys h)
    (hlisting : (listing (entries h)).Perm (entries h).keys) :
    ∃ g, g.Perm h ∧ ((listing (entries h)).filter isJson).mapM (fun name ↦
      TrustAnchorStore.retrieve ed25519 publicKeys (entries h) (stem name)) = .ok g := by
  rw [keys_entries] at hlisting
  have hexists := List.eq_map_comp_perm fun c : TrustCheckpoint ↦ fileName c.checkpointId
  obtain ⟨g, hg, hperm⟩ := (congrFun₂ hexists (listing (entries h)) h).mpr hlisting
  refine ⟨g, hperm, ?_⟩
  have hall : (listing (entries h)).filter isJson = listing (entries h) := by
    rw [List.filter_eq_self, hg]
    intro name hname
    obtain ⟨c, -, rfl⟩ := List.mem_map.mp hname
    exact isJson_fileName _
  rw [hall, hg]
  refine mapM_map_eq_ok fun c hc ↦ ?_
  have hmem := hperm.mem_iff.mp hc
  rw [stem_fileName (path_eq_ok (hs.named c hmem)).2, hs.retrieve hmem]

/-! ### The latest checkpoint -/

/-- `(history_record_count, issued_at)` strictly grows. -/
def KeyLt (a b : TrustCheckpoint) : Prop :=
  a.historyRecordCount < b.historyRecordCount ∨
    a.historyRecordCount = b.historyRecordCount ∧ a.issuedAt < b.issuedAt

theorem keyLe_iff {a b : TrustCheckpoint} : keyLe a b = true ↔
    a.historyRecordCount < b.historyRecordCount ∨
      a.historyRecordCount = b.historyRecordCount ∧ a.issuedAt ≤ b.issuedAt := by
  simp [keyLe]

theorem KeyLt.le {a b : TrustCheckpoint} (hab : KeyLt a b) : keyLe a b = true :=
  keyLe_iff.mpr (hab.imp_right fun ⟨hcount, hissued⟩ ↦ ⟨hcount, hissued.le⟩)

theorem KeyLt.not_ge {a b : TrustCheckpoint} (hab : KeyLt a b) : ¬keyLe b a = true := by
  rw [keyLe_iff]
  rintro (hlt | ⟨heq, hle⟩)
  · rcases hab with hlt' | ⟨heq', -⟩ <;> omega
  · rcases hab with hlt' | ⟨-, hlt'⟩
    · omega
    · exact absurd hle (not_le.mpr hlt')

theorem KeyLt.trans {a b c : TrustCheckpoint} (hab : KeyLt a b) (hbc : KeyLt b c) : KeyLt a c := by
  rcases hab with hab | ⟨hab, hab'⟩ <;> rcases hbc with hbc | ⟨hbc, hbc'⟩
  · exact .inl (by omega)
  · exact .inl (by omega)
  · exact .inl (by omega)
  · exact .inr ⟨hab.trans hbc, hab'.trans hbc'⟩

/-- Checkpoints in order either differ strictly or have one key. -/
theorem keyLt_of_keyLe {a b : TrustCheckpoint} (hle : keyLe a b = true)
    (hne : ¬(a.historyRecordCount = b.historyRecordCount ∧ a.issuedAt = b.issuedAt)) :
    KeyLt a b := by
  rcases keyLe_iff.mp hle with hlt | ⟨hcount, hissued⟩
  · exact .inl hlt
  · exact .inr ⟨hcount, lt_of_le_of_ne hissued fun heq ↦ hne ⟨hcount, heq⟩⟩

private theorem keyLe_trans (a b c : TrustCheckpoint) (hab : keyLe a b = true)
    (hbc : keyLe b c = true) : keyLe a c = true := by
  rw [keyLe_iff] at *
  rcases hab with hab | ⟨hab, hab'⟩ <;> rcases hbc with hbc | ⟨hbc, hbc'⟩
  · exact .inl (by omega)
  · exact .inl (by omega)
  · exact .inl (by omega)
  · exact .inr ⟨hab.trans hbc, hab'.trans hbc'⟩

private theorem keyLe_total (a b : TrustCheckpoint) : (keyLe a b || keyLe b a) = true := by
  rw [Bool.or_eq_true, keyLe_iff, keyLe_iff]
  rcases lt_trichotomy a.historyRecordCount b.historyRecordCount with hlt | heq | hgt
  · exact .inl (.inl hlt)
  · rcases le_total a.issuedAt b.issuedAt with hle | hle
    · exact .inl (.inr ⟨heq, hle⟩)
    · exact .inr (.inr ⟨heq.symm, hle⟩)
  · exact .inr (.inl hgt)

/-- Sorting finds a strictly increasing list again, in whatever order its elements come. -/
theorem mergeSort_eq_of_strict {l m : List TrustCheckpoint} (hl : l.Pairwise KeyLt)
    (hperm : m.Perm l) : m.mergeSort keyLe = l := by
  have hsorted := List.pairwise_mergeSort keyLe_trans keyLe_total m
  have hperm' : (m.mergeSort keyLe).Perm l := (List.mergeSort_perm m keyLe).trans hperm
  refine hperm'.eq_of_pairwise (fun a b ha hb hab hba ↦ ?_) hsorted (hl.imp KeyLt.le)
  by_contra hne
  have hsymm : l.Pairwise fun x y ↦ KeyLt x y ∨ KeyLt y x := hl.imp Or.inl
  have : Std.Symm fun x y ↦ KeyLt x y ∨ KeyLt y x := ⟨fun _ _ ↦ Or.symm⟩
  rcases hsymm.forall (hperm'.mem_iff.mp ha) hb hne with hlt | hlt
  · exact hlt.not_ge hba
  · exact hlt.not_ge hab

/-- The elements with the key of the last one of a strictly increasing list: that one. -/
private theorem length_ties_le {l : List TrustCheckpoint} (hl : l.Pairwise KeyLt)
    (last : TrustCheckpoint) : (l.filter fun c ↦ decide (c.historyRecordCount =
      last.historyRecordCount ∧ c.issuedAt = last.issuedAt)).length ≤ 1 := by
  have hkeys : ∀ c ∈ l.filter fun c ↦ decide (c.historyRecordCount = last.historyRecordCount ∧
      c.issuedAt = last.issuedAt), c.historyRecordCount = last.historyRecordCount ∧
        c.issuedAt = last.issuedAt := fun c hc ↦ of_decide_eq_true (List.mem_filter.mp hc).2
  have hpairs := hl.filter fun c ↦ decide (c.historyRecordCount = last.historyRecordCount ∧
    c.issuedAt = last.issuedAt)
  revert hkeys hpairs
  generalize l.filter _ = ties
  intro hkeys hpairs
  match ties with
  | [] => exact Nat.zero_le _
  | [_] => exact le_rfl
  | a :: b :: _ =>
    have hab := List.rel_of_pairwise_cons hpairs (List.mem_cons_self ..)
    obtain ⟨hcount, hissued⟩ := hkeys a (by simp)
    obtain ⟨hcount', hissued'⟩ := hkeys b (by simp)
    rcases hab with hlt | ⟨-, hlt⟩
    · omega
    · rw [hissued, hissued'] at hlt
      exact absurd hlt (lt_irrefl _)

/-- A relation holds between neighbours exactly when the list is a chain. -/
private theorem forall_zip_tail_iff {R : TrustCheckpoint → TrustCheckpoint → Prop}
    {l : List TrustCheckpoint} : (∀ pair ∈ l.zip l.tail, R pair.1 pair.2) ↔ l.IsChain R := by
  induction l with
  | nil => simp
  | cons a l ih =>
    cases l with
    | nil => simp
    | cons b l =>
      rw [List.isChain_cons_cons, ← ih]
      simp

/-- The sequence a subject's checkpoints form when the latest one can be found. -/
def Increases : Option TrustCheckpoint → TrustCheckpoint → Prop
  | none, current => Continues none current
  | some previous, current => Continues (some previous) current ∧ KeyLt previous current

private theorem pairwise_of_isChain {l : List TrustCheckpoint}
    (hl : l.IsChain fun p c ↦ Increases (some p) c) : l.Pairwise KeyLt := by
  have hlt : l.IsChain KeyLt := hl.imp fun _ _ hpc ↦ hpc.2
  have : Trans KeyLt KeyLt KeyLt := ⟨KeyLt.trans⟩
  exact hlt.pairwise

/-- The checkpoints of a subject, in the order the directory lists their files. -/
private theorem filter_subject (g : List TrustCheckpoint) (s : Text) :
    (g.filter fun c ↦ decide (∀ t ∈ some s, c.subjectId = t)) =
      ofKey TrustCheckpoint.subjectId s g := by
  simp [ofKey]

/-- The latest checkpoint of a subject whose checkpoints strictly increase is the last of
them. -/
theorem Stocked.latest_of_increases (hs : Stocked ed25519 publicKeys h)
    (hlisting : (listing (entries h)).Perm (entries h).keys) {s : Text}
    (hchain : (ofKey TrustCheckpoint.subjectId s h).IsChain fun p c ↦ Increases (some p) c) :
    latest ed25519 publicKeys listing (entries h) (some s) =
      .ok (tip? TrustCheckpoint.subjectId s h) := by
  obtain ⟨g, hperm, hall⟩ := hs.retrieve_all hlisting
  have hstrict := pairwise_of_isChain hchain
  have hsorted : (ofKey TrustCheckpoint.subjectId s g).mergeSort keyLe =
      ofKey TrustCheckpoint.subjectId s h := mergeSort_eq_of_strict hstrict (hperm.filter _)
  have hsequence : forM ((ofKey TrustCheckpoint.subjectId s h).zip
      (ofKey TrustCheckpoint.subjectId s h).tail)
        (fun pair ↦ ensureCheckpointSequence (some pair.1) pair.2) =
          (.ok () : Except PyError Unit) := by
    rw [forM_eq_ok]
    have hcontinues := hchain.imp fun _ _ hpc ↦ ensureCheckpointSequence_eq_ok.mpr hpc.1
    exact forall_zip_tail_iff.mpr hcontinues
  rw [latest, hall, ok_bind]
  dsimp only
  rw [if_neg (by simp), filter_subject, hsorted, tip?]
  cases hlast : (ofKey TrustCheckpoint.subjectId s h).getLast? with
  | none => rfl
  | some last =>
    dsimp only
    rw [decide_eq_true (length_ties_le hstrict last), require_true, ok_bind, hsequence]
    rfl

/-- Whatever checkpoint is found as the latest one has the greatest key of its subject. -/
theorem Stocked.keyLt_latest (hs : Stocked ed25519 publicKeys h)
    (hlisting : (listing (entries h)).Perm (entries h).keys) {s : Text} {last : TrustCheckpoint}
    (hlatest : latest ed25519 publicKeys listing (entries h) (some s) = .ok (some last))
    (hc : c ∈ h) (hsubject : c.subjectId = s) (hne : c ≠ last) : KeyLt c last := by
  obtain ⟨g, hperm, hall⟩ := hs.retrieve_all hlisting
  have hmem : c ∈ (ofKey TrustCheckpoint.subjectId s g).mergeSort keyLe := by
    rw [List.mem_mergeSort]
    exact List.mem_filter.mpr ⟨hperm.mem_iff.mpr hc, decide_eq_true hsubject⟩
  have hsorted := List.pairwise_mergeSort keyLe_trans keyLe_total
    (ofKey TrustCheckpoint.subjectId s g)
  rw [latest, hall, ok_bind] at hlatest
  dsimp only at hlatest
  rw [if_neg (by simp), filter_subject] at hlatest
  revert hmem hsorted hlatest
  generalize (ofKey TrustCheckpoint.subjectId s g).mergeSort keyLe = sorted
  intro hlatest hmem hsorted
  cases hl : sorted.getLast? with
  | none =>
    rw [hl] at hlatest
    cases hlatest
  | some x =>
    rw [hl] at hlatest
    obtain ⟨hties, hrest⟩ := require_bind_eq_ok.mp hlatest
    obtain ⟨_, -, hx⟩ := bind_eq_ok.mp hrest
    cases hx
    obtain ⟨init, rfl⟩ := List.getLast?_eq_some_iff.mp hl
    have hinit : c ∈ init := by
      rcases List.mem_append.mp hmem with hc | hc
      · exact hc
      · exact absurd (List.mem_singleton.mp hc) hne
    have hle := (List.pairwise_append.mp hsorted).2.2 c hinit last (by simp)
    refine keyLt_of_keyLe hle fun hkey ↦ ?_
    have hin : c ∈ init.filter fun c ↦ decide (c.historyRecordCount = last.historyRecordCount ∧
        c.issuedAt = last.issuedAt) := List.mem_filter.mpr ⟨hinit, decide_eq_true hkey⟩
    have hpos := List.length_pos_of_mem hin
    have hlast : [last].filter (fun c ↦ decide (c.historyRecordCount = last.historyRecordCount ∧
        c.issuedAt = last.issuedAt)) = [last] := by simp
    rw [decide_eq_true_eq, List.filter_append, hlast, List.length_append,
      List.length_singleton] at hties
    omega

/-! ### Publishing -/

variable (ed25519 publicKeys)

/-- A history whose directory answers for every subject. -/
structure Valid (h : List TrustCheckpoint) : Prop extends Stocked ed25519 publicKeys h where
  sequence : Stepwise TrustCheckpoint.subjectId Increases h

/-- A checkpoint with a new file. -/
structure Unpublished (directory : Directory) (c : TrustCheckpoint) : Prop where
  authentic : verify ed25519 publicKeys c = .ok c
  named : path c.checkpointId = .ok (fileName c.checkpointId)
  absent : directory.get? (fileName c.checkpointId) = none

variable {ed25519 publicKeys}

theorem Valid.latest (hv : Valid ed25519 publicKeys h)
    (hlisting : (listing (entries h)).Perm (entries h).keys) (s : Text) :
    TrustAnchorStore.latest ed25519 publicKeys listing (entries h) (some s) =
      .ok (tip? TrustCheckpoint.subjectId s h) :=
  hv.latest_of_increases hlisting (hv.sequence.path s).2

/-- A new checkpoint that continues its subject is published. -/
theorem Valid.publish_new (hv : Valid ed25519 publicKeys h)
    (hlisting : (listing (entries h)).Perm (entries h).keys)
    (hn : Unpublished ed25519 publicKeys (entries h) c)
    (hc : Continues (tip? TrustCheckpoint.subjectId c.subjectId h) c) :
    publish ed25519 publicKeys listing (entries h) c = (.ok (), entries (h ++ [c])) := by
  have habsent : fileName c.checkpointId ∉ (entries h).keys := by
    intro hk
    obtain ⟨v, hv'⟩ := Dict.mem_keys.mp hk
    rw [← Dict.get?_eq_some_iff hv.distinct, hn.absent] at hv'
    cases hv'
  simp only [publish, hn.authentic, hn.named, hn.absent, hv.latest hlisting, ok_bind,
    Option.isSome_none, Bool.false_eq_true, ↓reduceIte, ensureCheckpointSequence_eq_ok.mpr hc]
  simp only [pure, Except.pure, Dict.set_of_not_mem habsent]
  simp [entries]

/-- Anything else changes nothing. -/
theorem Valid.publish_old (hv : Valid ed25519 publicKeys h)
    (hlisting : (listing (entries h)).Perm (entries h).keys)
    (hn : ¬(Unpublished ed25519 publicKeys (entries h) c ∧
      Continues (tip? TrustCheckpoint.subjectId c.subjectId h) c)) :
    (publish ed25519 publicKeys listing (entries h) c).2 = entries h := by
  rw [publish]
  cases hauth : verify ed25519 publicKeys c with
  | error e => rfl
  | ok d =>
    obtain ⟨rfl, -, -⟩ := verify_eq_ok hauth
    cases hpath : path d.checkpointId with
    | error e => rfl
    | ok name =>
      obtain ⟨rfl, -⟩ := path_eq_ok hpath
      rw [ok_bind, ok_bind]
      cases hget : (entries h).get? (fileName d.checkpointId) with
      | some raw =>
        simp only [Option.isSome_some, ↓reduceIte]
        split
        · rfl
        · rfl
        · next name hname =>
          obtain ⟨_, -, hname⟩ := bind_eq_ok.mp hname
          obtain ⟨_, -, hname⟩ := bind_eq_ok.mp hname
          obtain ⟨_, -, hname⟩ := bind_eq_ok.mp hname
          obtain ⟨-, hname⟩ := require_bind_eq_ok.mp hname
          cases hname
      | none =>
        simp only [Option.isSome_none, Bool.false_eq_true, ↓reduceIte, hv.latest hlisting, ok_bind]
        cases hseq : ensureCheckpointSequence
          (tip? TrustCheckpoint.subjectId d.subjectId h) d with
        | error e => rfl
        | ok _ =>
          exact absurd ⟨⟨hauth, hpath, hget⟩, ensureCheckpointSequence_eq_ok.mp hseq⟩ hn

variable (ed25519 publicKeys listing)

/-- A publish together with the list of accepted checkpoints: those that changed the
directory, in order. -/
def journal (state : Directory × List TrustCheckpoint) (c : TrustCheckpoint) :
    Except PyError Unit × Directory × List TrustCheckpoint :=
  match publish ed25519 publicKeys listing state.1 c with
  | (.error e, directory) => (.error e, directory, state.2)
  | (.ok (), directory) =>
    (.ok (), directory, if directory = state.1 then state.2 else state.2 ++ [c])

/-- The checkpoints of a subject form one chain with non-decreasing record counts. -/
def Chained (l : List TrustCheckpoint) : Prop :=
  (∀ c, l.head? = some c → Continues none c) ∧ l.IsChain fun p c ↦ Continues (some p) c

/-- What a caller relies on: after a publish that returns, the latest checkpoint of every
subject is the last accepted one, at the end of a chain; a publish that raises changes
nothing. -/
def AnswersLatest (state : Directory × List TrustCheckpoint) (c : TrustCheckpoint) : Prop :=
  match journal ed25519 publicKeys listing state c with
  | (.error _, state') => state' = state
  | (.ok (), directory, accepted) => ∀ s,
    latest ed25519 publicKeys listing directory (some s) =
        .ok (tip? TrustCheckpoint.subjectId s accepted) ∧
      Chained (ofKey TrustCheckpoint.subjectId s accepted)

/-- A new checkpoint that continues an accepted one has a greater record count, or the same
one and a greater time text. -/
def KeyGrows (state : Directory × List TrustCheckpoint) (c : TrustCheckpoint) : Prop :=
  Unpublished ed25519 publicKeys state.1 c →
    ∀ p ∈ tip? TrustCheckpoint.subjectId c.subjectId state.2, Continues (some p) c → KeyLt p c

variable {ed25519 publicKeys listing}

theorem Valid.chained (hv : Valid ed25519 publicKeys h) (s : Text) :
    Chained (ofKey TrustCheckpoint.subjectId s h) := by
  obtain ⟨hhead, hchain⟩ := hv.sequence.path s
  exact ⟨hhead, hchain.imp fun _ _ hpc ↦ hpc.1⟩

/-- A new checkpoint can be stored too. -/
theorem Stocked.append (hs : Stocked ed25519 publicKeys h)
    (hn : Unpublished ed25519 publicKeys (entries h) c) : Stocked ed25519 publicKeys (h ++ [c]) where
  unique := by
    rw [List.map_append, List.map_singleton, List.nodup_append_comm]
    refine List.nodup_cons.mpr ⟨fun hmem ↦ ?_, hs.unique⟩
    obtain ⟨e, he, hid⟩ := List.mem_map.mp hmem
    have hget := hs.get?_entries he
    rw [hid, hn.absent] at hget
    cases hget
  named e he := by
    rcases List.mem_append.mp he with he | he
    · exact hs.named e he
    · rw [List.mem_singleton.mp he]
      exact hn.named
  authentic e he := by
    rcases List.mem_append.mp he with he | he
    · exact hs.authentic e he
    · rw [List.mem_singleton.mp he]
      exact hn.authentic

theorem Valid.append (hv : Valid ed25519 publicKeys h)
    (hn : Unpublished ed25519 publicKeys (entries h) c)
    (hc : Increases (tip? TrustCheckpoint.subjectId c.subjectId h) c) :
    Valid ed25519 publicKeys (h ++ [c]) :=
  ⟨hv.toStocked.append hn, stepwise_append_singleton.mpr ⟨hv.sequence, hc⟩⟩

/-- A publish of a new checkpoint that continues its subject is recorded. -/
theorem journal_new (hv : Valid ed25519 publicKeys h)
    (hlisting : (listing (entries h)).Perm (entries h).keys)
    (hn : Unpublished ed25519 publicKeys (entries h) c)
    (hc : Continues (tip? TrustCheckpoint.subjectId c.subjectId h) c) :
    journal ed25519 publicKeys listing (entries h, h) c =
      (.ok (), entries (h ++ [c]), h ++ [c]) := by
  have hne : entries (h ++ [c]) ≠ entries h := by
    intro heq
    have hlength := congrArg List.length heq
    simp [entries] at hlength
  simp only [journal, hv.publish_new hlisting hn hc, if_neg hne]

/-- Any other publish leaves directory and record alone. -/
theorem journal_old (hv : Valid ed25519 publicKeys h)
    (hlisting : (listing (entries h)).Perm (entries h).keys)
    (hn : ¬(Unpublished ed25519 publicKeys (entries h) c ∧
      Continues (tip? TrustCheckpoint.subjectId c.subjectId h) c)) :
    (journal ed25519 publicKeys listing (entries h, h) c).2 = (entries h, h) := by
  have hold := hv.publish_old hlisting hn
  rw [journal]
  revert hold
  cases publish ed25519 publicKeys listing (entries h) c with
  | mk result directory =>
    rintro rfl
    cases result with
    | error e => rfl
    | ok _ => simp only [↓reduceIte]

/-- A new checkpoint that continues its subject increases it once its key grows. -/
theorem increases_of_keyGrows (hn : Unpublished ed25519 publicKeys (entries h) c)
    (hc : Continues (tip? TrustCheckpoint.subjectId c.subjectId h) c)
    (hgrows : KeyGrows ed25519 publicKeys (entries h, h) c) :
    Increases (tip? TrustCheckpoint.subjectId c.subjectId h) c := by
  cases htip : tip? TrustCheckpoint.subjectId c.subjectId h with
  | none =>
    rw [htip] at hc
    exact hc
  | some p =>
    rw [htip] at hc
    exact ⟨hc, hgrows hn p htip hc⟩

/-- One publish answers for the latest checkpoints exactly when its key grows. -/
theorem answersLatest_iff (hlist : ∀ d, (listing d).Perm (Dict.keys d))
    (hv : Valid ed25519 publicKeys h) :
    AnswersLatest ed25519 publicKeys listing (entries h, h) c ↔
      KeyGrows ed25519 publicKeys (entries h, h) c := by
  by_cases hnew : Unpublished ed25519 publicKeys (entries h) c ∧
    Continues (tip? TrustCheckpoint.subjectId c.subjectId h) c
  · obtain ⟨hn, hc⟩ := hnew
    have hstocked := hv.toStocked.append hn
    simp only [AnswersLatest, journal_new hv (hlist _) hn hc]
    constructor
    · intro hanswers _ p hp _
      obtain ⟨hlatest, -⟩ := hanswers c.subjectId
      rw [tip?_append_singleton, if_pos rfl] at hlatest
      obtain ⟨hmem, hsubject⟩ := mem_of_tip? hp
      refine hstocked.keyLt_latest (hlist _) hlatest (List.mem_append_left _ hmem) hsubject ?_
      rintro rfl
      have hget := hv.get?_entries hmem
      rw [hn.absent] at hget
      cases hget
    · intro hgrows s
      have hv' := hv.append hn (increases_of_keyGrows hn hc hgrows)
      exact ⟨hv'.latest (hlist _) s, hv'.chained s⟩
  · have hold := journal_old hv (hlist _) hnew
    refine iff_of_true ?_ fun hn p hp hc ↦ ?_
    · rw [AnswersLatest]
      revert hold
      cases journal ed25519 publicKeys listing (entries h, h) c with
      | mk result state =>
        rintro rfl
        cases result with
        | error e => rfl
        | ok _ => exact fun s ↦ ⟨hv.latest (hlist _) s, hv.chained s⟩
    · refine absurd ⟨hn, ?_⟩ hnew
      rw [show tip? TrustCheckpoint.subjectId c.subjectId h = some p from hp]
      exact hc

/-- Every signature is valid. -/
def acceptSignature : Bytes → Bytes → Bytes → Bool := fun _ _ _ ↦ true

/-- One signing key. -/
def oneKey : Dict Bytes := [(lit "checkpoint-key-v1", List.replicate 32 65)]

/-- A first checkpoint. -/
def firstCheckpoint : TrustCheckpoint where
  checkpointId := lit "cp-1"
  subjectId := lit "subject-1"
  issuedAt := lit "2026-09-13T00:00:10Z"
  historyTipDigest := sha256 []
  historyRecordCount := 10
  signingKeyId := lit "checkpoint-key-v1"
  signingKeyDigest := sha256 (List.replicate 32 65)
  signature := lit "c2ln"
  previousCheckpointDigest := none
  checkpointNamed := by decide
  subjectNamed := by decide
  issued := by decide
  keyNamed := by decide
  signed := .refl false
  tipDigest := isSha256_sha256_nil
  keyDigest := isSha256_sha256 _
  countNonneg := by decide
  previousDigest := isSha256_of_mem_none

/-- The next checkpoint, of the same record count and time. -/
def secondCheckpoint : TrustCheckpoint :=
  { firstCheckpoint with
    checkpointId := lit "cp-2"
    previousCheckpointDigest := some ((firstCheckpoint.payloadBytes.toOption.map sha256).getD
      (sha256 []))
    checkpointNamed := by decide
    previousDigest := fun d hd ↦ by
      cases hd
      cases firstCheckpoint.payloadBytes.toOption with
      | none => exact isSha256_sha256 _
      | some content => exact isSha256_sha256 _ }

private theorem payloadBytes_isOk {c : TrustCheckpoint}
    (htexts : SurrogateFree c.checkpointId ∧ SurrogateFree c.subjectId ∧
      SurrogateFree c.issuedAt ∧ SurrogateFree c.signingKeyId) :
    ∃ content, c.payloadBytes = .ok content := by
  obtain ⟨hid, hsubject, hissued, hkey⟩ := htexts
  rw [payloadBytes, canonicalBytes_isOk_iff c.writable_payload]
  intro u hu
  simp only [payload, Json.mem_texts_obj, List.mem_cons, List.not_mem_nil, or_false,
    exists_eq_or_imp, exists_eq_left, Json.mem_texts_str, Json.mem_texts_int,
    mem_texts_optionJson] at hu
  rcases hu with (rfl | rfl) | (rfl | rfl) | (rfl | rfl) | (rfl | rfl) | (rfl | rfl) | rfl |
    (rfl | rfl) | (rfl | rfl) | rfl | hu
  any_goals exact surrogateFree_lit _
  · exact hid
  · exact hsubject
  · exact hissued
  · exact surrogateFree_of_isSha256 c.tipDigest
  · exact hkey
  · exact surrogateFree_of_isSha256 c.keyDigest
  · exact surrogateFree_of_isSha256 (c.previousDigest u hu)

private theorem verify_acceptSignature {c : TrustCheckpoint} {content : Bytes}
    (hc : c.payloadBytes = .ok content) (hkey : c.signingKeyId = lit "checkpoint-key-v1")
    (hdigest : c.signingKeyDigest = sha256 (List.replicate 32 65))
    (hsignature : c.signature = lit "c2ln") : verify acceptSignature oneKey c = .ok c := by
  have hdecode : TrustCheckpoint.b64decode (lit "c2ln") (lit "signature") = .ok [115, 105, 103] := by decide
  have hget : oneKey.get? (lit "checkpoint-key-v1") = some (List.replicate 32 65) := by decide
  rw [verify, hkey, hget, orRaise_some, ok_bind, hdigest, decide_eq_true rfl, require_true,
    ok_bind, hc, hsignature, hdecode]
  rfl

private theorem continues_second : Continues (some firstCheckpoint) secondCheckpoint := by
  obtain ⟨content, hcontent⟩ := payloadBytes_isOk (c := firstCheckpoint)
    ⟨surrogateFree_lit _, surrogateFree_lit _, surrogateFree_lit _, surrogateFree_lit _⟩
  refine ⟨⟨sha256 content, by rw [digest, hcontent]; rfl, ?_⟩, le_rfl⟩
  rw [show secondCheckpoint.previousCheckpointDigest =
    some ((firstCheckpoint.payloadBytes.toOption.map sha256).getD (sha256 [])) from rfl, hcontent]
  rfl

private theorem authentic_sample {c : TrustCheckpoint}
    (hc : c = firstCheckpoint ∨ c = secondCheckpoint) :
    verify acceptSignature oneKey c = .ok c := by
  rcases hc with rfl | rfl
  · obtain ⟨content, hcontent⟩ := payloadBytes_isOk (c := firstCheckpoint)
      ⟨surrogateFree_lit _, surrogateFree_lit _, surrogateFree_lit _, surrogateFree_lit _⟩
    exact verify_acceptSignature hcontent rfl rfl rfl
  · obtain ⟨content, hcontent⟩ := payloadBytes_isOk (c := secondCheckpoint)
      ⟨surrogateFree_lit _, surrogateFree_lit _, surrogateFree_lit _, surrogateFree_lit _⟩
    exact verify_acceptSignature hcontent rfl rfl rfl

end TrustAnchorStore

end StateWake.Trust
