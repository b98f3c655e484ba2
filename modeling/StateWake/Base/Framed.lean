import StateWake.Base.Lines

/-!
# Framed lines

A line is made of fixed marks and of values between them. A text fits a sequence of frames if it
has one line a frame, each made of the marks of the frame around values in which a mark of choice
does not occur.

Library support; no repository notion occurs here.
-/

namespace StateWake.Base.Framed

open Text

/-- A part of a line: a mark of the format, or a value put in. -/
inductive Piece where
  | mark (text : Text)
  | value (text : Text)

namespace Piece

def text : Piece → Text
  | mark t => t
  | value t => t

/-- The piece without its value. -/
def frame : Piece → Option Text
  | mark t => some t
  | value _ => none

/-- The value put in, if any. -/
def value? : Piece → Option Text
  | mark _ => none
  | value t => some t

end Piece

/-- A line in pieces. -/
abbrev Line := List Piece

namespace Line

def text (line : Line) : Text := line.flatMap Piece.text

/-- The marks of a line, with the places of its values. -/
def frame (line : Line) : List (Option Text) := line.map Piece.frame

def values (line : Line) : List Text := line.filterMap Piece.value?

@[simp] theorem text_nil : text [] = [] := rfl

@[simp] theorem text_cons (p : Piece) (line : Line) : text (p :: line) = p.text ++ text line :=
  List.flatMap_cons

/-- A line is free of what its pieces are free of. -/
theorem forall_mem_text {P : CodePoint → Prop} {line : Line}
    (h : ∀ p ∈ line, ∀ c ∈ p.text, P c) : ∀ c ∈ line.text, P c := by
  intro c hc
  obtain ⟨p, hp, hc⟩ := List.mem_flatMap.mp hc
  exact h p hp c hc

end Line

/-- A text has one line a frame, each the marks of the frame around values without `quote`. -/
def Fits (quote : CodePoint) (text : Text) (frames : List (List (Option Text))) : Prop :=
  ∃ lines : List Line, lines.map Line.frame = frames ∧
    Lines.splitlines text = lines.map Line.text ∧ ∀ line ∈ lines, ∀ v ∈ line.values, quote ∉ v

/-- Unbroken lines with values without `quote` fit their frames. -/
theorem fits_terminated {quote : CodePoint} {lines : List Line}
    (hunbroken : ∀ line ∈ lines, Lines.Unbroken line.text)
    (hvalues : ∀ line ∈ lines, ∀ v ∈ line.values, quote ∉ v) :
    Fits quote (Lines.terminated (lines.map Line.text)) (lines.map Line.frame) :=
  ⟨lines, rfl, Lines.splitlines_terminated _ (List.forall_mem_map.mpr hunbroken), hvalues⟩

/-- The value between two marks is that of every line of the same frame and text. -/
theorem value_of_text {opening closing v : Text} {line : Line}
    (hframe : line.frame = Line.frame [.mark opening, .value v, .mark closing])
    (htext : line.text = Line.text [.mark opening, .value v, .mark closing]) : v ∈ line.values := by
  match line, hframe with
  | [.mark a, .value w, .mark b], hframe =>
    simp only [Line.frame, List.map_cons, List.map_nil, Piece.frame, List.cons.injEq,
      Option.some.injEq, and_true, true_and] at hframe
    obtain ⟨rfl, rfl⟩ := hframe
    simp only [Line.text_cons, Line.text_nil, Piece.text, List.append_nil] at htext
    rw [List.append_cancel_left_eq, List.append_cancel_right_eq] at htext
    rw [htext]
    exact List.mem_singleton_self v

/-- A text that fits the frames of given lines, where one line of them has a value between two
marks that may be broken and the other lines are unbroken, has that value unbroken and without
`quote`. -/
theorem unbroken_of_fits {quote q : CodePoint} {before after : List Line} {opening v : Text}
    (hbefore : ∀ line ∈ before, Lines.Unbroken line.text)
    (hafter : ∀ line ∈ after, Lines.Unbroken line.text) (hopening : Lines.Unbroken opening)
    (hq : Lines.isBoundary q = false)
    (h : Fits quote (Lines.terminated
      ((before ++ [.mark opening, .value v, .mark [q]] :: after).map Line.text))
      ((before ++ [.mark opening, .value v, .mark [q]] :: after).map Line.frame)) :
    Lines.Unbroken v ∧ quote ∉ v := by
  obtain ⟨lines, hframes, hsplit, hvalues⟩ := h
  have hlength : lines.length = before.length + (after.length + 1) := by
    have := congrArg List.length hframes
    simpa using this
  have hmiddle : Line.text [.mark opening, .value v, .mark [q]] = opening ++ v ++ [q] := by
    simp [Piece.text]
  rw [List.map_append, List.map_cons, Lines.terminated_append, Lines.terminated_cons,
    Lines.splitlines_terminated_append _ _ (List.forall_mem_map.mpr hbefore), hmiddle] at hsplit
  have hunbroken : Lines.Unbroken v := by
    by_contra hbroken
    have hopens : ¬Lines.Unbroken (opening ++ v) := fun hu ↦
      hbroken fun c hc ↦ hu c (List.mem_append_right _ hc)
    have hmany := Lines.length_splitlines_of_broken hopens hq
      (List.forall_mem_map (f := Line.text) |>.mpr hafter)
    have hcount := congrArg List.length hsplit
    rw [List.length_append, List.length_map, List.length_map, hlength] at hcount
    rw [List.length_map] at hmany
    rw [List.append_assoc, List.singleton_append] at hcount
    omega
  have hline : Lines.Unbroken (opening ++ v ++ [q]) := by
    intro c hc
    simp only [List.mem_append, List.mem_singleton] at hc
    rcases hc with (hc | hc) | rfl
    · exact hopening c hc
    · exact hunbroken c hc
    · exact hq
  refine ⟨hunbroken, ?_⟩
  have hrest : Lines.splitlines ((opening ++ v ++ [q]) ++
      Lines.newline :: Lines.terminated (after.map Line.text)) =
      (opening ++ v ++ [q]) :: after.map Line.text := by
    rw [← Lines.terminated_cons]
    apply Lines.splitlines_terminated
    intro l hl
    cases List.mem_cons.mp hl with
    | inl heq => exact heq ▸ hline
    | inr hl => exact (List.forall_mem_map.mpr hafter) l hl
  rw [hrest] at hsplit
  -- the line at the place of the value
  have hi : before.length < lines.length := by omega
  have hmem : lines[before.length] ∈ lines := List.getElem_mem hi
  apply hvalues _ hmem
  refine @value_of_text opening [q] _ _ ?_ ?_
  · have := congrArg (·[before.length]?) hframes
    simpa [List.getElem?_eq_getElem hi] using this
  · have := congrArg (·[before.length]?) hsplit
    rw [hmiddle]
    simpa [List.getElem?_eq_getElem hi] using this.symm

end StateWake.Base.Framed
