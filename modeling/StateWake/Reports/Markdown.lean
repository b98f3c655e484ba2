import StateWake.Base.Framed
import StateWake.Reports.Report

/-!
# The Markdown report

`reports/markdown.py` and `reports/sections.py`. An f-string is a line of marks and values. Every
value but one goes through `safe_report_text`, which leaves neither a line boundary nor a backtick:
the digest of the profile's evaluation is put in as it is, and the constructor does not check it.
-/

namespace StateWake.Reports

open StateWake.Base Text Framed

/-! ### Escaping -/

/-- The backtick, the mark of inline code. -/
def codeMark : CodePoint := 0x60

/-- The metacharacters that a backslash is put before, `reports/sections.py:17`. -/
def markers : List CodePoint := [0x2A, 0x5B, 0x5D, 0x3C, 0x3E, 0x7C, 0x23]

/-- `safe_report_text`, `reports/sections.py:6–19`. -/
def safeReportText (value : Text) : Text :=
  let singleLine := (lit " ").intercalate (Lines.splitlines value)
  let singleLine := singleLine.map fun c ↦ if c.val < 32 ∨ c.val = 127 then 0x20 else c
  let escaped := replaceAll singleLine [0x5C] [0x5C, 0x5C]
  let escaped := replaceAll escaped [codeMark] (lit "&#96;")
  markers.foldl (fun escaped marker ↦ replaceAll escaped [marker] [0x5C, marker]) escaped

/-- Putting backslashes before the metacharacters keeps what they and the backslash have. -/
theorem forall_mem_markers {P : CodePoint → Prop} (hslash : P 0x5C) {s : Text}
    (hs : ∀ d ∈ s, P d) (ms : List CodePoint) (hms : ∀ m ∈ ms, P m) :
    ∀ d ∈ ms.foldl (fun escaped marker ↦ replaceAll escaped [marker] [0x5C, marker]) s, P d := by
  induction ms generalizing s with
  | nil => exact hs
  | cons m ms ih =>
    rw [List.foldl_cons]
    apply ih _ fun n hn ↦ hms n (List.mem_cons_of_mem m hn)
    apply forall_mem_replaceAll
    · intro d hd
      rw [List.mem_cons, List.mem_singleton] at hd
      cases hd with
      | inl hd => exact hd ▸ hslash
      | inr hd => exact hd ▸ hms m List.mem_cons_self
    · exact fun d hd _ ↦ hs d hd

/-- A character that neither ends a line nor marks code. -/
def Inline (c : CodePoint) : Prop := Lines.isBoundary c = false ∧ c ≠ codeMark

instance (c : CodePoint) : Decidable (Inline c) := by
  unfold Inline
  infer_instance

/-- A text whose characters are checked one by one. -/
private theorem forall_mem_of_all {P : CodePoint → Prop} [DecidablePred P] {s : Text}
    (h : s.all (fun c ↦ decide (P c)) = true) : ∀ c ∈ s, P c :=
  fun c hc ↦ of_decide_eq_true (List.all_eq_true.mp h c hc)

/-- An escaped text has neither line boundaries nor backticks. -/
theorem inline_safeReportText (value : Text) : ∀ c ∈ safeReportText value, Inline c := by
  have hentity : ∀ c ∈ lit "&#96;", Inline c := forall_mem_of_all (by decide +kernel)
  have hspace : ∀ c ∈ lit " ", Lines.isBoundary c = false := forall_mem_of_all (by decide +kernel)
  have hline : ∀ c ∈ (lit " ").intercalate (Lines.splitlines value), Lines.isBoundary c = false :=
    forall_mem_intercalate hspace fun part hpart ↦ Lines.unbroken_of_mem_splitlines hpart
  apply forall_mem_markers (P := Inline) (by decide) _ markers
    (forall_mem_of_all (by decide))
  apply forall_mem_replaceAll hentity
  apply forall_mem_replaceAll (P := fun c ↦ c ≠ codeMark → Inline c)
    (forall_mem_of_all (by decide))
  intro d hd _ hne
  obtain ⟨c, hc, rfl⟩ := List.mem_map.mp hd
  refine ⟨?_, hne⟩
  split
  · rfl
  · exact hline c hc

/-! ### Lines -/

/-- A line without values. -/
def fixed (text : String) : Line := [.mark (lit text)]

/-- A labelled value in code marks. -/
def coded (label : Text) (value : Text) (closing : Text) : Line :=
  [.mark (label ++ lit ": `"), .value value, .mark (codeMark :: closing)]

/-- `bullet_lines`, `reports/sections.py:22–26`. -/
def bulletLines (label : String) (values : List Text) : List Line :=
  if values.isEmpty then [[.mark (lit "- " ++ lit label ++ lit ": none")]]
  else values.map fun value ↦ coded (lit "- " ++ lit label) (safeReportText value) []

/-- A list of items without code marks, `reports/markdown.py:63–74`. -/
def itemLines (items : List Text) : List Line :=
  if items.isEmpty then [fixed "- none"]
  else items.map fun item ↦ [.mark (lit "- "), .value (safeReportText item)]

/-- The heading of a section, between empty lines. -/
def sectionHeading (title : String) : List Line := [[], fixed title, []]

/-- The lines before the digest of the profile's evaluation, `reports/markdown.py:16–28`. -/
def headLines (r : ReportFields) : List Line :=
  [fixed "# Reliability Verification Report"] ++ sectionHeading "## Candidate identity" ++
  [coded (lit "- Candidate") (safeReportText r.candidateIdentity) [],
    coded (lit "- Candidate digest") (safeReportText r.candidateDigest) [],
    coded (lit "- Report type") (safeReportText r.reportType) []] ++
  sectionHeading "## Intended claim" ++
  [[.mark (lit "- Claim: "), .value (safeReportText r.claim)],
    [.mark (lit "- Profile: `"), .value (safeReportText r.profileId), .mark (lit "@"),
      .value (safeReportText r.profileVersion), .mark [codeMark]]]

/-- `report.profile_evaluation_digest or "not-recorded"`, `reports/markdown.py:29`: not escaped. -/
def profileEvaluationDigestText (r : ReportFields) : Text :=
  (r.profileEvaluationDigest.filter (!·.isEmpty)).getD (lit "not-recorded")

/-- The lines after it, `reports/markdown.py:30–83`, but for the empty last one. -/
def tailLines (r : ReportFields) (digest : Text) : List Line :=
  sectionHeading "## Decision" ++
  [fixed (if r.verified then "- Verification status: **VERIFIED**"
      else "- Verification status: **NOT VERIFIED**"),
    coded (lit "- StateWake decision") (safeReportText r.decision) [],
    coded (lit "- Approval status") (safeReportText r.approvalStatus) []] ++
  sectionHeading "## Evidence included" ++ bulletLines "Included" r.evidenceIncluded ++
  sectionHeading "## Evidence omitted" ++ bulletLines "Omitted" r.evidenceOmitted ++
  sectionHeading "## Evidence missing" ++ bulletLines "Missing" r.evidenceMissing ++
  sectionHeading "## Verification checks" ++ bulletLines "PASS" r.checksPassed ++
  bulletLines "FAIL" r.checksFailed ++ bulletLines "UNRUN-ENV" r.checksUnrun ++
  bulletLines "UNKNOWN" r.checksUnknown ++
  sectionHeading "## State transitions" ++
  [coded (lit "- Recovery status") (safeReportText r.recoveryStatus) []] ++
  sectionHeading "## Recovery and reconciliation" ++
  [fixed (if r.recoveryStatus ∈ [lit "verified", lit "recovered"] then
      "- Failure and recovery state are preserved as explicit report fields."
    else "- Recovery is not verified in this report.")] ++
  sectionHeading "## Caveats" ++ itemLines r.caveats ++
  sectionHeading "## Residual risk" ++ itemLines r.residualRisks ++
  sectionHeading "## Human decisions required" ++ itemLines r.humanDecisionsRequired ++
  sectionHeading "## Machine-readable appendix" ++ bulletLines "Source identity" r.sourceIdentities ++
  bulletLines "Artifact digest" r.artifactDigests ++
  bulletLines "Appendix" r.machineReadableAppendix ++
  sectionHeading "## Decision rationale" ++ itemLines r.rationale ++
  [[], coded (lit "Verifier") (safeReportText r.verifierVersion) (lit "  "),
    coded (lit "Generated") (safeReportText r.generatedAt) (lit "  "),
    coded (lit "Report digest") (safeReportText digest) []]

/-- The lines of a report, but for the empty last one. -/
def reportLines (r : ReportFields) (digest : Text) : List Line :=
  headLines r ++ coded (lit "- Profile evaluation digest") (profileEvaluationDigestText r) [] ::
    tailLines r digest

/-- `render_markdown_report`, `reports/markdown.py:12–86`. -/
def renderMarkdownReport (r : ReliabilityVerificationReport) : Except PyError Text := do
  validateReport r
  let digest ← r.val.digest
  pure ([Lines.newline].intercalate ((reportLines r.val digest ++ [[]]).map Line.text))

/-- The frames of a report: its lines without their values, which depend neither on the digest nor
on the contents of a field. -/
def reportFrames (r : ReportFields) : List (List (Option Text)) :=
  (reportLines r []).map Line.frame

/-- Reports that differ only in the contents of their text fields and of the items of their lists:
the flag and the statuses are the same, and so are the lengths of the lists. -/
structure SameShape (r r' : ReportFields) : Prop where
  verified : r.verified = r'.verified
  recoveryStatus : r.recoveryStatus = r'.recoveryStatus
  approvalStatus : r.approvalStatus = r'.approvalStatus
  evidenceIncluded : r.evidenceIncluded.length = r'.evidenceIncluded.length
  evidenceOmitted : r.evidenceOmitted.length = r'.evidenceOmitted.length
  evidenceMissing : r.evidenceMissing.length = r'.evidenceMissing.length
  checksPassed : r.checksPassed.length = r'.checksPassed.length
  checksFailed : r.checksFailed.length = r'.checksFailed.length
  checksUnrun : r.checksUnrun.length = r'.checksUnrun.length
  checksUnknown : r.checksUnknown.length = r'.checksUnknown.length
  sourceIdentities : r.sourceIdentities.length = r'.sourceIdentities.length
  artifactDigests : r.artifactDigests.length = r'.artifactDigests.length
  rationale : r.rationale.length = r'.rationale.length
  caveats : r.caveats.length = r'.caveats.length
  residualRisks : r.residualRisks.length = r'.residualRisks.length
  humanDecisionsRequired : r.humanDecisionsRequired.length = r'.humanDecisionsRequired.length
  machineReadableAppendix : r.machineReadableAppendix.length = r'.machineReadableAppendix.length

/-- The two reports are rendered with the same frames: as many lines, the same marks on each, and
no backtick from a field. -/
def Uninjected (r r' : ReliabilityVerificationReport) : Prop :=
  ∃ out out', renderMarkdownReport r = .ok out ∧ renderMarkdownReport r' = .ok out' ∧
    reportFrames r.val = reportFrames r'.val ∧
      Fits codeMark out (reportFrames r.val) ∧ Fits codeMark out' (reportFrames r'.val)

/-- A report is rendered as it should be: no evidence is both missing and included, UTF-8 can
encode its texts, and the digest of the profile's evaluation ends no line and marks no code. -/
structure Renderable (r : ReliabilityVerificationReport) : Prop where
  disjoint : ∀ item ∈ r.val.evidenceMissing, item ∉ r.val.evidenceIncluded
  encodable : ∀ s ∈ Json.texts (.obj r.val.payload), SurrogateFree s
  inline : ∀ digest ∈ r.val.profileEvaluationDigest, ∀ c ∈ digest, Inline c

/-! ### What frames depend on -/

theorem frame_coded (label value closing : Text) : Line.frame (coded label value closing) =
    [some (label ++ lit ": `"), none, some (codeMark :: closing)] := rfl

/-- Lines of one frame are as many frames as lines. -/
theorem frames_map {f : Text → Line} (hf : ∀ v v', Line.frame (f v) = Line.frame (f v'))
    {values values' : List Text} (h : values.length = values'.length) :
    (values.map f).map Line.frame = (values'.map f).map Line.frame := by
  apply List.ext_getElem
  · simp only [List.length_map, h]
  · intro i hi hi'
    simp only [List.getElem_map]
    exact hf _ _

theorem isEmpty_of_length {values values' : List Text} (h : values.length = values'.length) :
    values.isEmpty = values'.isEmpty := by
  cases values with
  | nil => rw [List.length_eq_zero_iff.mp h.symm]
  | cons v values =>
    cases values' with
    | nil => cases h
    | cons v' values' => rfl

theorem frames_bulletLines (label : String) {values values' : List Text}
    (h : values.length = values'.length) :
    (bulletLines label values).map Line.frame = (bulletLines label values').map Line.frame := by
  rw [bulletLines, bulletLines, isEmpty_of_length h]
  split
  · rfl
  · exact frames_map (fun _ _ ↦ rfl) h

theorem frames_itemLines {values values' : List Text} (h : values.length = values'.length) :
    (itemLines values).map Line.frame = (itemLines values').map Line.frame := by
  rw [itemLines, itemLines, isEmpty_of_length h]
  split
  · rfl
  · exact frames_map (fun _ _ ↦ rfl) h

/-- Reports of one shape have the same frames, whatever their digests. -/
theorem frames_reportLines {r r' : ReportFields} (h : SameShape r r') (digest digest' : Text) :
    (reportLines r digest).map Line.frame = (reportLines r' digest').map Line.frame := by
  have hhead : (headLines r).map Line.frame = (headLines r').map Line.frame := by
    simp only [headLines, List.map_append, List.map_cons, List.map_nil, frame_coded]
    rfl
  have htail : (tailLines r digest).map Line.frame = (tailLines r' digest').map Line.frame := by
    unfold tailLines
    simp only [List.map_append, List.map_cons, List.map_nil, frame_coded, h.verified,
      h.recoveryStatus,
      frames_bulletLines _ h.evidenceIncluded, frames_bulletLines _ h.evidenceOmitted,
      frames_bulletLines _ h.evidenceMissing, frames_bulletLines _ h.checksPassed,
      frames_bulletLines _ h.checksFailed, frames_bulletLines _ h.checksUnrun,
      frames_bulletLines _ h.checksUnknown, frames_bulletLines _ h.sourceIdentities,
      frames_bulletLines _ h.artifactDigests, frames_bulletLines _ h.machineReadableAppendix,
      frames_itemLines h.caveats, frames_itemLines h.residualRisks,
      frames_itemLines h.humanDecisionsRequired, frames_itemLines h.rationale]
  rw [reportLines, reportLines, List.map_append, List.map_append, hhead, List.map_cons,
    List.map_cons, frame_coded, frame_coded, htail]

/-! ### Clean lines -/

/-- A line is one, and its values are without backticks. -/
def Clean (line : Line) : Prop :=
  (∀ p ∈ line, Lines.Unbroken p.text) ∧ ∀ v ∈ line.values, codeMark ∉ v

theorem Clean.unbroken {line : Line} (h : Clean line) : Lines.Unbroken line.text :=
  Line.forall_mem_text h.1

theorem codeMark_not_mem {v : Text} (h : ∀ c ∈ v, Inline c) : codeMark ∉ v :=
  fun hmem ↦ (h codeMark hmem).2 rfl

theorem unbroken_of_inline {v : Text} (h : ∀ c ∈ v, Inline c) : Lines.Unbroken v :=
  fun c hc ↦ (h c hc).1

theorem unbroken_append {s t : Text} (hs : Lines.Unbroken s) (ht : Lines.Unbroken t) :
    Lines.Unbroken (s ++ t) := by
  intro c hc
  cases List.mem_append.mp hc with
  | inl hc => exact hs c hc
  | inr hc => exact ht c hc

theorem clean_nil : Clean [] := ⟨nofun, nofun⟩

theorem clean_fixed {text : String} (h : Lines.Unbroken (lit text)) : Clean (fixed text) :=
  ⟨fun p hp ↦ by rw [List.mem_singleton.mp hp]; exact h, nofun⟩

theorem clean_coded {label value closing : Text} (hlabel : Lines.Unbroken label)
    (hvalue : ∀ c ∈ value, Inline c) (hclosing : Lines.Unbroken closing) :
    Clean (coded label value closing) := by
  have hopening : Lines.Unbroken (lit ": `") := forall_mem_of_all (by decide +kernel)
  constructor
  · simp only [coded, List.forall_mem_cons, Piece.text]
    refine ⟨unbroken_append hlabel hopening, unbroken_of_inline hvalue, ?_, List.forall_mem_nil _⟩
    exact unbroken_append (s := [codeMark]) (forall_mem_of_all (by decide)) hclosing
  · intro v hv
    rw [List.mem_singleton.mp hv]
    exact codeMark_not_mem hvalue

theorem clean_valued {label value : Text} (hlabel : Lines.Unbroken label)
    (hvalue : ∀ c ∈ value, Inline c) : Clean [.mark label, .value value] := by
  constructor
  · simp only [List.forall_mem_cons, Piece.text]
    exact ⟨hlabel, unbroken_of_inline hvalue, List.forall_mem_nil _⟩
  · intro v hv
    rw [List.mem_singleton.mp hv]
    exact codeMark_not_mem hvalue

/-- The texts of the format that lines are made of. -/
private def marks : List String := [
  "# Reliability Verification Report", "## Candidate identity", "## Intended claim",
  "## Decision", "## Evidence included", "## Evidence omitted", "## Evidence missing",
  "## Verification checks", "## State transitions", "## Recovery and reconciliation",
  "## Caveats", "## Residual risk", "## Human decisions required",
  "## Machine-readable appendix", "## Decision rationale", "- Candidate", "- Candidate digest",
  "- Report type", "- Claim: ", "- Profile: `", "@", "- Profile evaluation digest",
  "- Verification status: **VERIFIED**", "- Verification status: **NOT VERIFIED**",
  "- StateWake decision", "- Approval status", "Included", "Omitted", "Missing", "PASS", "FAIL",
  "UNRUN-ENV", "UNKNOWN", "- Recovery status", "- Recovery is not verified in this report.",
  "- Failure and recovery state are preserved as explicit report fields.", "Source identity",
  "Artifact digest", "Appendix", "Verifier", "Generated", "Report digest", "- ", "- none",
  ": none", "  "]

private theorem unbroken_marks : ∀ text ∈ marks, Lines.Unbroken (lit text) := by
  have hall : marks.all (fun text ↦ (lit text).all fun c ↦ !Lines.isBoundary c) = true := by
    decide +kernel
  intro text htext c hc
  have := List.all_eq_true.mp (List.all_eq_true.mp hall text htext) c hc
  simpa using this

section

variable {r : ReportFields}

private theorem clean_bulletLines {label : String} (h : Lines.Unbroken (lit label))
    (values : List Text) : ∀ line ∈ bulletLines label values, Clean line := by
  have hlabel : Lines.Unbroken (lit "- " ++ lit label) :=
    unbroken_append (unbroken_marks _ (by decide)) h
  intro line hline
  rw [bulletLines] at hline
  split at hline
  · rw [List.mem_singleton.mp hline]
    exact ⟨fun p hp ↦ by
      rw [List.mem_singleton.mp hp]
      exact unbroken_append hlabel (unbroken_marks _ (by decide)), nofun⟩
  · obtain ⟨value, -, rfl⟩ := List.mem_map.mp hline
    exact clean_coded hlabel (inline_safeReportText value) nofun

private theorem clean_itemLines (items : List Text) : ∀ line ∈ itemLines items, Clean line := by
  intro line hline
  rw [itemLines] at hline
  split at hline
  · rw [List.mem_singleton.mp hline]
    exact clean_fixed (unbroken_marks _ (by decide))
  · obtain ⟨item, -, rfl⟩ := List.mem_map.mp hline
    exact clean_valued (unbroken_marks _ (by decide)) (inline_safeReportText item)

private theorem clean_section {title : String} (h : Lines.Unbroken (lit title)) :
    ∀ line ∈ sectionHeading title, Clean line := by
  simp only [sectionHeading, List.forall_mem_cons]
  exact ⟨clean_nil, clean_fixed h, clean_nil, nofun⟩

private theorem clean_profile (r : ReportFields) : Clean [.mark (lit "- Profile: `"),
    .value (safeReportText r.profileId), .mark (lit "@"), .value (safeReportText r.profileVersion),
    .mark [codeMark]] := by
  constructor
  · simp only [List.forall_mem_cons, Piece.text]
    exact ⟨unbroken_marks _ (by decide), unbroken_of_inline (inline_safeReportText _),
      unbroken_marks _ (by decide), unbroken_of_inline (inline_safeReportText _),
      forall_mem_of_all (by decide), List.forall_mem_nil _⟩
  · change ∀ v ∈ [safeReportText r.profileId, safeReportText r.profileVersion], codeMark ∉ v
    simp only [List.forall_mem_cons]
    exact ⟨codeMark_not_mem (inline_safeReportText _), codeMark_not_mem (inline_safeReportText _),
      List.forall_mem_nil _⟩

private theorem clean_field {label : String} (h : label ∈ marks) (value : Text) :
    Clean (coded (lit label) (safeReportText value) []) :=
  clean_coded (unbroken_marks label h) (inline_safeReportText value) nofun

theorem clean_headLines (r : ReportFields) : ∀ line ∈ headLines r, Clean line := by
  simp only [headLines, List.forall_mem_append, List.forall_mem_cons, List.not_mem_nil,
    false_implies, implies_true, and_true, and_assoc]
  exact ⟨clean_fixed (unbroken_marks _ (by decide)), clean_section (unbroken_marks _ (by decide)),
    clean_field (by decide) _, clean_field (by decide) _, clean_field (by decide) _,
    clean_section (unbroken_marks _ (by decide)),
    clean_valued (unbroken_marks _ (by decide)) (inline_safeReportText _), clean_profile r⟩

theorem clean_tailLines (r : ReportFields) (digest : Text) :
    ∀ line ∈ tailLines r digest, Clean line := by
  have hstatus : Clean (fixed (if r.verified then "- Verification status: **VERIFIED**"
      else "- Verification status: **NOT VERIFIED**")) := by
    apply clean_fixed
    split <;> exact unbroken_marks _ (by decide)
  have hrecovery : Clean (fixed (if r.recoveryStatus ∈ [lit "verified", lit "recovered"] then
      "- Failure and recovery state are preserved as explicit report fields."
      else "- Recovery is not verified in this report.")) := by
    apply clean_fixed
    split <;> exact unbroken_marks _ (by decide)
  have hsection : ∀ title ∈ marks, ∀ line ∈ sectionHeading title, Clean line :=
    fun title h ↦ clean_section (unbroken_marks title h)
  have hbullets : ∀ label ∈ marks, ∀ values, ∀ line ∈ bulletLines label values, Clean line :=
    fun label h ↦ clean_bulletLines (unbroken_marks label h)
  have hspaced : ∀ label ∈ marks, ∀ value,
      Clean (coded (lit label) (safeReportText value) (lit "  ")) := fun label h value ↦
    clean_coded (unbroken_marks label h) (inline_safeReportText value)
      (unbroken_marks _ (by decide))
  unfold tailLines
  simp only [List.forall_mem_append, List.forall_mem_cons, List.not_mem_nil,
    false_implies, implies_true, and_true, and_assoc]
  exact ⟨hsection _ (by decide), hstatus, clean_field (by decide) _, clean_field (by decide) _,
    hsection _ (by decide), hbullets _ (by decide) _, hsection _ (by decide),
    hbullets _ (by decide) _, hsection _ (by decide), hbullets _ (by decide) _,
    hsection _ (by decide), hbullets _ (by decide) _, hbullets _ (by decide) _,
    hbullets _ (by decide) _, hbullets _ (by decide) _, hsection _ (by decide),
    clean_field (by decide) _, hsection _ (by decide), hrecovery, hsection _ (by decide),
    clean_itemLines _, hsection _ (by decide), clean_itemLines _, hsection _ (by decide),
    clean_itemLines _, hsection _ (by decide), hbullets _ (by decide) _, hbullets _ (by decide) _,
    hbullets _ (by decide) _, hsection _ (by decide), clean_itemLines _, clean_nil,
    hspaced _ (by decide) _, hspaced _ (by decide) _, clean_field (by decide) _⟩

/-- The line of the profile's evaluation is clean where its digest is of inline characters. -/
theorem clean_profileEvaluation {r : ReportFields}
    (h : ∀ digest ∈ r.profileEvaluationDigest, ∀ c ∈ digest, Inline c) :
    Clean (coded (lit "- Profile evaluation digest") (profileEvaluationDigestText r) []) := by
  apply clean_coded (unbroken_marks _ (by decide)) _ (fun _ hc ↦ by cases hc)
  rw [profileEvaluationDigestText]
  cases hdigest : r.profileEvaluationDigest.filter (!·.isEmpty) with
  | none => exact forall_mem_of_all (by decide +kernel)
  | some digest => exact h digest (Option.filter_eq_some_iff.mp hdigest).1

end

/-! ### Rendering -/

/-- Lines joined before an empty one are each terminated. -/
theorem intercalate_concat_nil (lines : List Text) :
    [Lines.newline].intercalate (lines ++ [[]]) = Lines.terminated lines := by
  induction lines with
  | nil => rfl
  | cons line lines ih =>
    rw [Lines.terminated_cons, ← ih]
    cases lines with
    | nil => simp [List.intercalate]
    | cons next lines => simp [List.intercalate]

theorem renderMarkdownReport_eq_ok {r : ReliabilityVerificationReport} {out : Text} :
    renderMarkdownReport r = .ok out ↔ validateReport r = .ok () ∧ ∃ digest,
      r.val.digest = .ok digest ∧
        out = Lines.terminated ((reportLines r.val digest).map Line.text) := by
  simp only [renderMarkdownReport, bind_eq_ok, List.map_append, List.map_cons, List.map_nil,
    Line.text_nil, intercalate_concat_nil]
  constructor
  · rintro ⟨⟨⟩, hvalid, digest, hdigest, h⟩
    exact ⟨hvalid, digest, hdigest, (Except.ok.inj h).symm⟩
  · rintro ⟨hvalid, digest, hdigest, rfl⟩
    exact ⟨(), hvalid, digest, hdigest, rfl⟩

/-- The frames of a report are those of its lines, with any digest. -/
theorem reportFrames_eq (r : ReportFields) (digest : Text) :
    reportFrames r = (reportLines r digest).map Line.frame := by
  apply frames_reportLines
  constructor <;> rfl

/-- A report is rendered with its frames exactly if it is renderable. -/
theorem rendered_iff (r : ReliabilityVerificationReport) :
    (∃ out, renderMarkdownReport r = .ok out ∧ Fits codeMark out (reportFrames r.val)) ↔
      Renderable r := by
  constructor
  · rintro ⟨out, hout, hfits⟩
    obtain ⟨hvalid, digest, hdigest, rfl⟩ := renderMarkdownReport_eq_ok.mp hout
    rw [reportFrames_eq r.val digest] at hfits
    have hinline := unbroken_of_fits (fun line hline ↦ (clean_headLines r.val line hline).unbroken)
      (fun line hline ↦ (clean_tailLines r.val digest line hline).unbroken)
      (unbroken_append (unbroken_marks _ (by decide)) (forall_mem_of_all (by decide +kernel)))
      (by decide) hfits
    refine ⟨validateReport_eq_ok.mp hvalid, r.val.digest_isOk_iff.mp ⟨digest, hdigest⟩, ?_⟩
    intro own hown c hc
    have htext : profileEvaluationDigestText r.val = own := by
      rw [profileEvaluationDigestText, Option.mem_def.mp hown, Option.filter_some_pos]
      · rfl
      · cases own with
        | nil => cases hc
        | cons d own => rfl
    rw [htext] at hinline
    exact ⟨hinline.1 c hc, fun heq ↦ hinline.2 (heq ▸ hc)⟩
  · intro h
    obtain ⟨digest, hdigest⟩ := r.val.digest_isOk_iff.mpr h.encodable
    refine ⟨_, renderMarkdownReport_eq_ok.mpr
      ⟨validateReport_eq_ok.mpr h.disjoint, digest, hdigest, rfl⟩, ?_⟩
    have hclean : ∀ line ∈ reportLines r.val digest, Clean line := by
      rw [reportLines, List.forall_mem_append, List.forall_mem_cons]
      exact ⟨clean_headLines r.val, clean_profileEvaluation h.inline,
        clean_tailLines r.val digest⟩
    rw [reportFrames_eq r.val digest]
    exact fits_terminated (fun line hline ↦ (hclean line hline).unbroken)
      fun line hline ↦ (hclean line hline).2

/-- A report on one omitted piece of evidence. -/
private def omittedFields (profileEvaluationDigest : Option Text) : ReportFields :=
  { formatVersion := lit "1", claim := lit "c", decision := lit "review", profileId := lit "p",
    profileVersion := lit "1", verified := false, evidenceIncluded := [],
    evidenceOmitted := [lit "log"], checksPassed := [], checksFailed := [],
    sourceIdentities := [], rationale := [], caveats := [], recoveryStatus := lit "none",
    verifierVersion := lit "1", generatedAt := lit "now", candidateIdentity := lit "a",
    candidateDigest := lit "d", reportType := lit "engineering", evidenceMissing := [],
    checksUnrun := [], checksUnknown := [], residualRisks := [], humanDecisionsRequired := [],
    allowedUse := [], prohibitedUse := [], machineReadableAppendix := [], artifactDigests := [],
    profileEvaluationDigest := profileEvaluationDigest, approvalStatus := lit "not-approval" }

/-- The constructor does not read the digest. -/
private theorem postInit_omittedFields (profileEvaluationDigest : Option Text) :
    (omittedFields profileEvaluationDigest).postInit = .ok () := by
  have hnone : (omittedFields none).postInit = .ok () := by decide +kernel
  exact hnone

private def omittedReport (profileEvaluationDigest : Option Text) : ReliabilityVerificationReport :=
  ⟨omittedFields profileEvaluationDigest, postInit_omittedFields profileEvaluationDigest⟩

end StateWake.Reports
