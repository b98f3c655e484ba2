import StateWake.Base.Text

/-!
# Lines of text

`str.splitlines` and iteration over a file opened in text mode. The two disagree:
text mode breaks only at `\n`, `\r` and `\r\n`, `splitlines` also at the other Unicode
line boundaries. Lines written one at a time, each followed by `\n`, come back as
written when none of them contains a boundary of the reader's kind.
-/

namespace StateWake.Base

open Text

namespace Lines

/-- `\n`. -/
def newline : CodePoint := 10

/-- The boundaries `str.splitlines` breaks at. -/
def isBoundary (c : CodePoint) : Bool :=
  (0x0A ≤ c.val && c.val ≤ 0x0D) || (0x1C ≤ c.val && c.val ≤ 0x1E) || c.val == 0x85 ||
    c.val == 0x2028 || c.val == 0x2029

private def splitlinesFrom (cur : Text) : Text → List Text
  | [] => if cur.isEmpty then [] else [cur]
  | c :: s =>
    if c.val = 0x0D then
      match s with
      | d :: s => cur :: if d.val = 0x0A then splitlinesFrom [] s else splitlinesFrom [] (d :: s)
      | [] => [cur]
    else if isBoundary c then cur :: splitlinesFrom [] s
    else splitlinesFrom (cur ++ [c]) s

private theorem splitlinesFrom_nil (cur : Text) :
    splitlinesFrom cur [] = if cur.isEmpty then [] else [cur] := rfl

private theorem splitlinesFrom_cons (cur : Text) (c : CodePoint) (s : Text) :
    splitlinesFrom cur (c :: s) = if c.val = 0x0D then
        match s with
        | d :: s => cur :: if d.val = 0x0A then splitlinesFrom [] s else splitlinesFrom [] (d :: s)
        | [] => [cur]
      else if isBoundary c then cur :: splitlinesFrom [] s
      else splitlinesFrom (cur ++ [c]) s := by
  cases s <;> rfl

/-- `str.splitlines()`: the boundaries are dropped and `\r\n` counts once. -/
def splitlines (s : Text) : List Text := splitlinesFrom [] s

/-- Newline translation of text mode: `\r\n` and `\r` are read as `\n`. -/
def translateNewlines : Text → Text
  | [] => []
  | c :: s =>
    if c.val = 0x0D then
      match s with
      | d :: s =>
        newline :: if d.val = 0x0A then translateNewlines s else translateNewlines (d :: s)
      | [] => [newline]
    else c :: translateNewlines s

private def fileLinesFrom (cur : Text) : Text → List Text
  | [] => if cur.isEmpty then [] else [cur]
  | c :: s =>
    if c.val = 0x0A then (cur ++ [c]) :: fileLinesFrom [] s else fileLinesFrom (cur ++ [c]) s

/-- The lines iteration over a text-mode file yields, each with its `\n`. -/
def fileLines (s : Text) : List Text := fileLinesFrom [] (translateNewlines s)

/-- Each line followed by `\n`: the text a line-by-line writer leaves behind. -/
def terminated (ls : List Text) : Text := (ls.map (· ++ [newline])).flatten

/-- No boundary of `str.splitlines` occurs. -/
def Unbroken (s : Text) : Prop := ∀ c ∈ s, isBoundary c = false

instance (s : Text) : Decidable (Unbroken s) := by unfold Unbroken; infer_instance

@[simp] theorem terminated_nil : terminated [] = [] := rfl

@[simp] theorem terminated_cons (l : Text) (ls : List Text) :
    terminated (l :: ls) = l ++ newline :: terminated ls := by
  simp [terminated]

@[simp] theorem terminated_append (ls ms : List Text) :
    terminated (ls ++ ms) = terminated ls ++ terminated ms := by
  simp [terminated]

private theorem splitlinesFrom_unbroken (cur l rest : Text) (h : Unbroken l) :
    splitlinesFrom cur (l ++ rest) = splitlinesFrom (cur ++ l) rest := by
  induction l generalizing cur with
  | nil => simp
  | cons c l ih =>
    have hc : isBoundary c = false := h c (by simp)
    have hr : c.val ≠ 0x0D := by
      intro he
      simp [isBoundary, he] at hc
    rw [List.cons_append, splitlinesFrom_cons]
    simp only [hr, hc, ↓reduceIte, Bool.false_eq_true]
    rw [ih _ fun d hd ↦ h d (List.mem_cons_of_mem c hd), List.append_assoc]
    rfl

private theorem splitlinesFrom_newline (cur rest : Text) :
    splitlinesFrom cur (newline :: rest) = cur :: splitlinesFrom [] rest := by
  rw [splitlinesFrom_cons]
  rfl

/-- Unbroken lines, each followed by `\n`, split into themselves before whatever
follows them. -/
theorem splitlines_terminated_append (ls : List Text) (rest : Text)
    (h : ∀ l ∈ ls, Unbroken l) : splitlines (terminated ls ++ rest) = ls ++ splitlines rest := by
  induction ls with
  | nil => rfl
  | cons l ls ih =>
    have hl : Unbroken l := h l (by simp)
    have ht := ih fun m hm ↦ h m (List.mem_cons_of_mem l hm)
    simp only [splitlines] at *
    rw [terminated_cons, List.append_assoc, splitlinesFrom_unbroken _ _ _ hl, List.nil_append,
      List.cons_append, splitlinesFrom_newline, ht, List.cons_append]

/-- Unbroken lines, each followed by `\n`, split into themselves. -/
theorem splitlines_terminated (ls : List Text) (h : ∀ l ∈ ls, Unbroken l) :
    splitlines (terminated ls) = ls := by
  simpa [splitlines, splitlinesFrom_nil] using splitlines_terminated_append ls [] h

/-- A nonempty unbroken text is one line. -/
theorem splitlines_unbroken {l : Text} (hl : Unbroken l) (hne : l ≠ []) : splitlines l = [l] := by
  have := splitlinesFrom_unbroken [] l [] hl
  simp only [List.append_nil, List.nil_append] at this
  rw [splitlines, this, splitlinesFrom_nil]
  simp [hne]

/-- A text with a boundary is split at its first one: the first line is a proper prefix. -/
theorem splitlines_of_boundary (pre : Text) (c : CodePoint) (rest : Text) (hpre : Unbroken pre)
    (hc : isBoundary c = true) : ∃ ls, splitlines (pre ++ c :: rest) = pre :: ls := by
  rw [splitlines, splitlinesFrom_unbroken _ _ _ hpre, List.nil_append, splitlinesFrom_cons]
  simp only [hc, ↓reduceIte]
  split
  · split
    · exact ⟨_, rfl⟩
    · exact ⟨[], rfl⟩
  · exact ⟨_, rfl⟩

/-- The lines of a text have no boundary. -/
theorem unbroken_of_mem_splitlines {s l : Text} (h : l ∈ splitlines s) : Unbroken l := by
  have hmem : ∀ (cur s : Text), Unbroken cur → ∀ l ∈ splitlinesFrom cur s, Unbroken l := by
    intro cur s
    fun_induction splitlinesFrom cur s with
    | case1 cur hempty => nofun
    | case2 cur hempty =>
      intro hcur l hl
      rw [List.mem_singleton.mp hl]
      exact hcur
    | case3 cur c hc d rest ihrest ihcons =>
      intro hcur l hl
      cases List.mem_cons.mp hl with
      | inl heq => exact heq ▸ hcur
      | inr hl =>
        split at hl
        · exact ihrest nofun l hl
        · exact ihcons nofun l hl
    | case4 cur c hc =>
      intro hcur l hl
      rw [List.mem_singleton.mp hl]
      exact hcur
    | case5 cur c rest hc hboundary ih =>
      intro hcur l hl
      cases List.mem_cons.mp hl with
      | inl heq => exact heq ▸ hcur
      | inr hl => exact ih nofun l hl
    | case6 cur c rest hc hboundary ih =>
      intro hcur
      apply ih
      intro d hd
      cases List.mem_append.mp hd with
      | inl hd => exact hcur d hd
      | inr hd =>
        rw [List.mem_singleton.mp hd]
        exact Bool.eq_false_iff.mpr hboundary
  exact hmem [] s nofun l h

private theorem splitlinesFrom_append :
    ∀ cur s t : Text, splitlinesFrom cur (s ++ newline :: t) =
      splitlinesFrom cur (s ++ [newline]) ++ splitlinesFrom [] t
  | cur, [], t => by
    rw [List.nil_append, List.nil_append, splitlinesFrom_newline, splitlinesFrom_newline]
    rfl
  | cur, c :: s, t => by
    rw [List.cons_append, List.cons_append, splitlinesFrom_cons, splitlinesFrom_cons]
    by_cases hc : c.val = 0x0D
    · rw [if_pos hc, if_pos hc]
      cases s with
      | nil => rfl
      | cons d s =>
        rw [List.cons_append, List.cons_append]
        dsimp only
        by_cases hd : d.val = 0x0A
        · rw [if_pos hd, if_pos hd, splitlinesFrom_append [] s t]
          rfl
        · have hrest := splitlinesFrom_append [] (d :: s) t
          rw [List.cons_append, List.cons_append] at hrest
          rw [if_neg hd, if_neg hd, hrest]
          rfl
    · rw [if_neg hc, if_neg hc]
      by_cases hboundary : isBoundary c = true
      · rw [if_pos hboundary, if_pos hboundary, splitlinesFrom_append [] s t]
        rfl
      · rw [if_neg hboundary, if_neg hboundary]
        exact splitlinesFrom_append (cur ++ [c]) s t

/-- What follows a line feed is split on its own. -/
theorem splitlines_append (s t : Text) : splitlines (s ++ newline :: t) =
    splitlines (s ++ [newline]) ++ splitlines t := splitlinesFrom_append [] s t

private theorem length_splitlinesFrom_le :
    ∀ cur s : Text, (splitlinesFrom cur s).length ≤ min cur.length 1 + s.length
  | cur, [] => by
    rw [splitlinesFrom_nil]
    cases cur with
    | nil => exact Nat.zero_le _
    | cons c cur => exact Nat.le_min.mpr ⟨Nat.le_add_left _ _, le_rfl⟩
  | cur, c :: s => by
    rw [splitlinesFrom_cons]
    by_cases hc : c.val = 0x0D
    · rw [if_pos hc]
      cases s with
      | nil => exact Nat.le_add_left _ _
      | cons d s =>
        dsimp only
        by_cases hd : d.val = 0x0A
        · have hrest := length_splitlinesFrom_le [] s
          rw [if_pos hd, List.length_cons, List.length_cons, List.length_cons]
          rw [List.length_nil] at hrest
          omega
        · have hrest := length_splitlinesFrom_le [] (d :: s)
          rw [if_neg hd, List.length_cons, List.length_cons]
          rw [List.length_nil] at hrest
          omega
    · rw [if_neg hc]
      by_cases hboundary : isBoundary c = true
      · have hrest := length_splitlinesFrom_le [] s
        rw [if_pos hboundary, List.length_cons, List.length_cons]
        rw [List.length_nil] at hrest
        omega
      · have hrest := length_splitlinesFrom_le (cur ++ [c]) s
        rw [if_neg hboundary, List.length_cons]
        omega

/-- A text has no more lines than code points. -/
theorem length_splitlines_le (s : Text) : (splitlines s).length ≤ s.length := by
  have hlength := length_splitlinesFrom_le [] s
  rwa [List.length_nil, Nat.zero_min, Nat.zero_add] at hlength

/-- A text before a line end and unbroken lines is at least one line more. -/
private theorem length_splitlinesFrom (ls : List Text) (h : ∀ l ∈ ls, Unbroken l) :
    ∀ cur t : Text, ls.length + 1 ≤ (splitlinesFrom cur (t ++ newline :: terminated ls)).length
  | cur, [] => by
    rw [List.nil_append, splitlinesFrom_newline, List.length_cons]
    exact Nat.le_of_eq (congrArg (· + 1) (congrArg List.length (splitlines_terminated ls h)).symm)
  | cur, c :: t => by
    rw [List.cons_append, splitlinesFrom_cons]
    by_cases hc : c.val = 0x0D
    · rw [if_pos hc]
      cases t with
      | nil =>
        rw [List.nil_append, List.length_cons]
        exact Nat.le_of_eq (congrArg (· + 1) (congrArg List.length (splitlines_terminated ls h)).symm)
      | cons d t =>
        rw [List.cons_append, List.length_cons]
        by_cases hd : d.val = 0x0A
        · rw [if_pos hd]
          exact Nat.le_succ_of_le (length_splitlinesFrom ls h [] t)
        · rw [if_neg hd]
          exact Nat.le_succ_of_le (length_splitlinesFrom ls h [] (d :: t))
    · rw [if_neg hc]
      by_cases hboundary : isBoundary c = true
      · rw [if_pos hboundary, List.length_cons]
        exact Nat.le_succ_of_le (length_splitlinesFrom ls h [] t)
      · rw [if_neg hboundary]
        exact length_splitlinesFrom ls h (cur ++ [c]) t

/-- A broken text that a line goes on after, before unbroken lines, is at least two lines more. -/
theorem length_splitlines_of_broken {t : Text} (ht : ¬Unbroken t) {q : CodePoint}
    (hq : isBoundary q = false) {ls : List Text} (h : ∀ l ∈ ls, Unbroken l) :
    ls.length + 2 ≤ (splitlines (t ++ q :: newline :: terminated ls)).length := by
  have hbroken : ∀ cur t : Text, ¬Unbroken t →
      ls.length + 2 ≤ (splitlinesFrom cur (t ++ q :: newline :: terminated ls)).length := by
    intro cur t
    induction t generalizing cur with
    | nil => exact fun hn ↦ absurd nofun hn
    | cons c t ih =>
      intro hn
      rw [List.cons_append, splitlinesFrom_cons]
      by_cases hc : c.val = 0x0D
      · rw [if_pos hc]
        cases t with
        | nil =>
          have hqn : q.val ≠ 0x0A := by
            intro heq
            simp [isBoundary, heq] at hq
          rw [List.nil_append, List.length_cons, if_neg hqn]
          exact Nat.succ_le_succ (length_splitlinesFrom ls h [] [q])
        | cons d t =>
          rw [List.cons_append, List.length_cons]
          by_cases hd : d.val = 0x0A
          · rw [if_pos hd]
            have := length_splitlinesFrom ls h [] (t ++ [q])
            rw [List.append_assoc] at this
            exact Nat.succ_le_succ this
          · rw [if_neg hd]
            have := length_splitlinesFrom ls h [] (d :: t ++ [q])
            rw [List.append_assoc] at this
            exact Nat.succ_le_succ this
      · rw [if_neg hc]
        by_cases hboundary : isBoundary c = true
        · rw [if_pos hboundary, List.length_cons]
          have := length_splitlinesFrom ls h [] (t ++ [q])
          rw [List.append_assoc] at this
          exact Nat.succ_le_succ this
        · rw [if_neg hboundary]
          apply ih
          intro ht
          apply hn
          intro d hd
          cases List.mem_cons.mp hd with
          | inl heq => exact heq ▸ Bool.eq_false_iff.mpr hboundary
          | inr hd => exact ht d hd
  exact hbroken [] t ht

/-- Text mode leaves a text without carriage returns as it is. -/
theorem translateNewlines_eq_self {s : Text} (h : ∀ c ∈ s, c.val ≠ 0x0D) :
    translateNewlines s = s := by
  induction s with
  | nil => rfl
  | cons c s ih =>
    rw [translateNewlines.eq_def]
    simp only [h c (by simp), ↓reduceIte]
    rw [ih fun d hd ↦ h d (List.mem_cons_of_mem c hd)]

/-- Membership in terminated lines: a newline or part of a line. -/
theorem mem_terminated {c : CodePoint} {ls : List Text} (h : c ∈ terminated ls) :
    c = newline ∨ ∃ l ∈ ls, c ∈ l := by
  simp only [terminated, List.mem_flatten, List.mem_map] at h
  obtain ⟨_, ⟨l, hl, rfl⟩, hc⟩ := h
  rcases List.mem_append.mp hc with hc | hc
  · exact .inr ⟨l, hl, hc⟩
  · exact .inl (List.mem_singleton.mp hc)

/-- An unbroken text has no carriage return. -/
theorem Unbroken.ne_cr {l : Text} (h : Unbroken l) {c : CodePoint} (hc : c ∈ l) :
    c.val ≠ 0x0D := by
  intro he
  have := h c hc
  simp [isBoundary, he] at this

private theorem fileLinesFrom_unbroken (cur l rest : Text) (h : Unbroken l) :
    fileLinesFrom cur (l ++ rest) = fileLinesFrom (cur ++ l) rest := by
  induction l generalizing cur with
  | nil => simp
  | cons c l ih =>
    have hc : isBoundary c = false := h c (by simp)
    have hr : c.val ≠ 0x0A := by
      intro he
      simp [isBoundary, he] at hc
    rw [List.cons_append, fileLinesFrom]
    simp only [hr, ↓reduceIte]
    rw [ih _ fun d hd ↦ h d (List.mem_cons_of_mem c hd), List.append_assoc]
    rfl

/-- Iterating a text-mode file yields its unbroken lines, each with its `\n`, and then the
unbroken text after the last `\n`, if any. -/
theorem fileLines_terminated_append (ls : List Text) {p : Text} (h : ∀ l ∈ ls, Unbroken l)
    (hp : Unbroken p) :
    fileLines (terminated ls ++ p) = ls.map (· ++ [newline]) ++ if p = [] then [] else [p] := by
  have hcr : ∀ c ∈ terminated ls ++ p, c.val ≠ 0x0D := by
    intro c hc
    rcases List.mem_append.mp hc with hc | hc
    · rcases mem_terminated hc with rfl | ⟨l, hl, hc⟩
      · decide
      · exact (h l hl).ne_cr hc
    · exact hp.ne_cr hc
  rw [fileLines, translateNewlines_eq_self hcr]
  clear hcr
  induction ls with
  | nil =>
    have hlast := fileLinesFrom_unbroken [] p [] hp
    rw [List.append_nil, List.nil_append, fileLinesFrom] at hlast
    rw [terminated_nil, List.nil_append, hlast, List.map_nil, List.nil_append]
    simp only [List.isEmpty_iff]
  | cons l ls ih =>
    have ht := ih fun m hm ↦ h m (List.mem_cons_of_mem l hm)
    rw [terminated_cons, List.append_assoc, fileLinesFrom_unbroken _ _ _ (h l (by simp)),
      List.cons_append, fileLinesFrom, if_pos (by decide), ht]
    rfl

/-- Iterating a text-mode file yields its unbroken lines, each with its `\n`. -/
theorem fileLines_terminated (ls : List Text) (h : ∀ l ∈ ls, Unbroken l) :
    fileLines (terminated ls) = ls.map (· ++ [newline]) := by
  have hall := fileLines_terminated_append ls (p := []) h fun _ hc ↦ by cases hc
  rwa [List.append_nil, if_pos rfl, List.append_nil] at hall

end Lines
end StateWake.Base
