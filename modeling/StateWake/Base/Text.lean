import Mathlib.Data.List.DropRight

/-!
# Python text

A `str` is a finite sequence of code points, unpaired surrogates included: that is
the domain of every text argument of the modelled program, and surrogates decide
which texts survive UTF-8 and JSON. Library support; no repository notion occurs here.
-/

namespace StateWake.Base

/-- One element of a `str`: any code point up to U+10FFFF, surrogates included. -/
abbrev CodePoint := Fin 0x110000

/-- A Python `str`. -/
abbrev Text := List CodePoint

instance CodePoint.instNeZero : @NeZero Nat Zero.ofOfNat0 0x110000 := ⟨by decide⟩

instance CodePoint.instLawfulBEq : LawfulBEq CodePoint := inferInstance

instance Text.instLawfulBEq : LawfulBEq Text := inferInstance

instance Text.instLawfulBEqProd : LawfulBEq (Text × Text) := inferInstance

namespace Text

/-- The code point of a Unicode scalar value. -/
def ofChar (c : Char) : CodePoint :=
  ⟨c.toNat, by
    have h := c.valid
    simp only [UInt32.isValidChar, Nat.isValidChar] at h
    change c.val.toNat < 0x110000
    omega⟩

/-- A literal of the source text. -/
def lit (s : String) : Text := s.toList.map ofChar

private theorem ofChar_inj {a b : Char} (h : ofChar a = ofChar b) : a = b :=
  Char.toNat_inj.mp (show (ofChar a).val = (ofChar b).val by rw [h])

/-- Literals are compared by comparing the strings that spell them. -/
@[simp] theorem lit_inj {s t : String} : lit s = lit t ↔ s = t := by
  constructor
  · intro h
    exact String.toList_inj.mp (List.map_injective_iff.mpr (fun _ _ ↦ ofChar_inj) h)
  · rintro rfl
    rfl

/-- A lowercase hexadecimal digit, of a number modulo 16. -/
def hexDigit (n : Nat) : CodePoint :=
  Fin.ofNat 0x110000 (if n % 16 < 10 then 48 + n % 16 else 87 + n % 16)

theorem val_hexDigit (n : Nat) :
    (hexDigit n).val = if n % 16 < 10 then 48 + n % 16 else 87 + n % 16 := by
  rw [hexDigit, Fin.val_ofNat, Nat.mod_eq_of_lt]
  split <;> omega

private def replaceFrom (old new : Text) : Nat → Text → Text
  | _, [] => []
  | skip + 1, _ :: s => replaceFrom old new skip s
  | 0, c :: s =>
    if old.isPrefixOf (c :: s) then new ++ replaceFrom old new (old.length - 1) s
    else c :: replaceFrom old new 0 s

/-- `s.replace(old, new)` for a nonempty `old`: occurrences are taken from the left. -/
def replaceAll (s old new : Text) : Text := replaceFrom old new 0 s

/-- A part that cannot start an occurrence is kept. -/
theorem replaceAll_append (c : CodePoint) (old new pre s : Text) (h : c ∉ pre) :
    replaceAll (pre ++ s) (c :: old) new = pre ++ replaceAll s (c :: old) new := by
  induction pre with
  | nil => rfl
  | cons d pre ih =>
    simp only [List.mem_cons, not_or] at h
    rw [List.cons_append, replaceAll, replaceFrom, if_neg]
    · exact congrArg _ (ih h.2)
    · simp [h.1]

/-- Replacing one character. -/
theorem replaceAll_char (s new : Text) (c : CodePoint) :
    replaceAll s [c] new = s.flatMap fun e ↦ if e = c then new else [e] := by
  induction s with
  | nil => rfl
  | cons e s ih =>
    rw [replaceAll, replaceFrom, List.flatMap_cons, ← ih]
    by_cases he : e = c
    · rw [if_pos (by simp [he]), if_pos he]
      rfl
    · rw [if_neg (by simpa using fun hc ↦ he hc.symm), if_neg he]
      rfl

/-- Replacing one character by another. -/
theorem replaceAll_singleton (s : Text) (c d : CodePoint) :
    replaceAll s [c] [d] = s.map fun e ↦ if e = c then d else e := by
  rw [replaceAll_char, List.map_eq_flatMap]
  congr 1
  funext e
  split <;> rfl

/-- What a text after replacing a character has: what the replacement has, and the rest of it. -/
theorem forall_mem_replaceAll {P : CodePoint → Prop} {s new : Text} {c : CodePoint}
    (hnew : ∀ d ∈ new, P d) (hs : ∀ d ∈ s, d ≠ c → P d) : ∀ d ∈ replaceAll s [c] new, P d := by
  intro d hd
  rw [replaceAll_char] at hd
  obtain ⟨e, he, hd⟩ := List.mem_flatMap.mp hd
  split at hd
  · exact hnew d hd
  · next hne =>
    rw [List.mem_singleton.mp hd]
    exact hs e he hne

/-! ### White space -/

/-- `str.isspace` for one code point: bidirectional class WS, B or S, or category Zs. -/
def isSpace (c : CodePoint) : Bool :=
  (0x09 ≤ c.val && c.val ≤ 0x0D) || (0x1C ≤ c.val && c.val ≤ 0x20) || c.val == 0x85 ||
    c.val == 0xA0 || c.val == 0x1680 || (0x2000 ≤ c.val && c.val ≤ 0x200A) ||
    c.val == 0x2028 || c.val == 0x2029 || c.val == 0x202F || c.val == 0x205F || c.val == 0x3000

/-- `str.strip()`. -/
def strip (s : Text) : Text := (s.dropWhile isSpace).rdropWhile isSpace

/-- The program's blankness test `not s.strip()`. -/
def blank (s : Text) : Bool := (strip s).isEmpty

theorem not_blank_of_mem_nil : ∀ s ∈ ([] : List Text), blank s = false := nofun

private theorem rdropWhile_eq_nil (p : CodePoint → Bool) (s : Text) :
    s.rdropWhile p = [] ↔ ∀ c ∈ s, p c = true := by
  rw [List.rdropWhile_eq_nil_iff]

/-- A text is blank exactly when all of it is white space. -/
theorem blank_iff (s : Text) : blank s = true ↔ ∀ c ∈ s, isSpace c = true := by
  simp only [blank, strip, List.isEmpty_iff, rdropWhile_eq_nil]
  induction s with
  | nil => simp
  | cons c s ih =>
    cases hc : isSpace c with
    | true => simp [hc, ih]
    | false => simp [hc]

/-- A text with something visible in it is not blank. -/
theorem not_blank_append {s : Text} (h : blank s = false) (t : Text) : blank (s ++ t) = false := by
  rw [← Bool.not_eq_true, blank_iff] at h ⊢
  exact fun hall ↦ h fun c hc ↦ hall c (List.mem_append_left t hc)

/-- Stripping never lengthens a text. -/
theorem length_strip_le (s : Text) : (strip s).length ≤ s.length :=
  le_trans (List.rdropWhile_prefix isSpace _).length_le (List.dropWhile_sublist isSpace).length_le

/-- A text `strip` cannot shorten is left alone. -/
theorem strip_eq_self_of_length {s : Text} (h : s.length ≤ (strip s).length) : strip s = s := by
  have hp := List.rdropWhile_prefix isSpace (s.dropWhile isSpace)
  have hs : (s.dropWhile isSpace).Sublist s := List.dropWhile_sublist isSpace
  have hd : s.dropWhile isSpace = s :=
    hs.eq_of_length_le (le_trans h hp.length_le)
  rw [hd] at hp
  rw [strip, hd] at h ⊢
  exact hp.eq_of_length_le h

/-! ### Surrogates -/

/-- A high (leading) surrogate. -/
def isHigh (c : CodePoint) : Bool := 0xD800 ≤ c.val && c.val ≤ 0xDBFF

/-- A low (trailing) surrogate. -/
def isLow (c : CodePoint) : Bool := 0xDC00 ≤ c.val && c.val ≤ 0xDFFF

/-- A surrogate of either kind: the code points UTF-8 cannot carry. -/
def isSurrogate (c : CodePoint) : Bool := 0xD800 ≤ c.val && c.val ≤ 0xDFFF

/-- The code point a surrogate pair stands for. -/
def joinPair (h l : CodePoint) : CodePoint :=
  Fin.ofNat 0x110000 (0x10000 + (h.val - 0xD800) * 0x400 + (l.val - 0xDC00))

/-- Replace each high surrogate directly followed by a low one by the code point the
pair stands for. This is what escaping to ASCII and unescaping does to a text. -/
def joinSurrogates : Text → Text
  | [] => []
  | [c] => [c]
  | h :: l :: rest =>
    if isHigh h && isLow l then joinPair h l :: joinSurrogates rest
    else h :: joinSurrogates (l :: rest)

/-- No high surrogate is directly followed by a low one. -/
def PairFree (s : Text) : Prop := List.IsChain (fun h l ↦ ¬(isHigh h = true ∧ isLow l = true)) s

/-- No surrogate at all: the texts UTF-8 can encode. -/
def SurrogateFree (s : Text) : Prop := ∀ c ∈ s, isSurrogate c = false

instance (s : Text) : Decidable (PairFree s) := by unfold PairFree; infer_instance

instance (s : Text) : Decidable (SurrogateFree s) := by unfold SurrogateFree; infer_instance

theorem surrogateFree_nil : SurrogateFree [] := List.forall_mem_nil _

/-- Source literals have no surrogates. -/
@[simp] theorem surrogateFree_lit (s : String) : SurrogateFree (lit s) := by
  intro c hc
  obtain ⟨d, -, rfl⟩ := List.mem_map.mp hc
  have hv := d.valid
  simp only [UInt32.isValidChar, Nat.isValidChar] at hv
  simp only [isSurrogate, show (ofChar d).val = d.val.toNat from rfl, Bool.and_eq_false_iff,
    decide_eq_false_iff_not]
  omega

/-- What a separator and the parts have, the joined text has. -/
theorem forall_mem_intercalate {P : CodePoint → Prop} {sep : Text} (hsep : ∀ c ∈ sep, P c)
    {parts : List Text} (hparts : ∀ part ∈ parts, ∀ c ∈ part, P c) :
    ∀ c ∈ sep.intercalate parts, P c := by
  induction parts with
  | nil => nofun
  | cons part parts ih =>
    have hrest := ih fun other hother ↦ hparts other (List.mem_cons_of_mem part hother)
    cases parts with
    | nil =>
      rw [List.intercalate, List.intersperse_singleton, List.flatten_singleton]
      exact hparts part List.mem_cons_self
    | cons next parts =>
      intro c hc
      rw [List.intercalate, List.intersperse_cons_cons, List.flatten_cons, List.flatten_cons,
        List.mem_append, List.mem_append] at hc
      rcases hc with hc | hc | hc
      · exact hparts part List.mem_cons_self c hc
      · exact hsep c hc
      · exact hrest c hc

theorem surrogateFree_append {s t : Text} (hs : SurrogateFree s) (ht : SurrogateFree t) :
    SurrogateFree (s ++ t) := fun c hc ↦ (List.mem_append.mp hc).elim (hs c) (ht c)

private theorem isSurrogate_of_isHigh {c : CodePoint} (h : isHigh c = true) :
    isSurrogate c = true := by
  simp only [isHigh, isSurrogate, Bool.and_eq_true, decide_eq_true_eq] at *
  omega

/-- A text without surrogates has no pair of them. -/
theorem SurrogateFree.pairFree {s : Text} (h : SurrogateFree s) : PairFree s := by
  induction s with
  | nil => simp [PairFree]
  | cons a s ih =>
    have ht : PairFree s := ih fun c hc ↦ h c (List.mem_cons_of_mem a hc)
    cases s with
    | nil => simp [PairFree]
    | cons b s =>
      refine List.isChain_cons_cons.mpr ⟨fun hp ↦ ?_, ht⟩
      have ha := h a (by simp)
      rw [isSurrogate_of_isHigh hp.1] at ha
      simp at ha

@[simp] theorem pairFree_lit (s : String) : PairFree (lit s) := (surrogateFree_lit s).pairFree

/-- Joining never lengthens a text. -/
theorem length_joinSurrogates_le (s : Text) : (joinSurrogates s).length ≤ s.length := by
  fun_induction joinSurrogates s with
  | case1 => simp
  | case2 c => simp
  | case3 h l rest hp ih => simp only [List.length_cons]; omega
  | case4 h l rest hp ih => simpa using ih

/-- A text is unchanged by joining exactly when it has no surrogate pair. -/
theorem joinSurrogates_eq_self_iff (s : Text) : joinSurrogates s = s ↔ PairFree s := by
  fun_induction joinSurrogates s with
  | case1 => simp [PairFree]
  | case2 c => simp [PairFree]
  | case3 h l rest hp ih =>
    have hl := length_joinSurrogates_le rest
    constructor
    · intro he
      have := congrArg List.length he
      simp only [List.length_cons] at this
      omega
    · intro hc
      simp only [PairFree, List.isChain_cons_cons] at hc
      exact absurd (by simpa using hp) hc.1
  | case4 h l rest hp ih =>
    simp only [List.cons.injEq, true_and, ih, PairFree, List.isChain_cons_cons]
    simp only [Bool.and_eq_true] at hp
    exact ⟨fun hc ↦ ⟨hp, hc⟩, fun hc ↦ hc.2⟩

private theorem isSpace_joinPair (h l : CodePoint) (hp : (isHigh h && isLow l) = true) :
    isSpace (joinPair h l) = false ∧ isSpace h = false := by
  simp only [isHigh, isLow, Bool.and_eq_true, decide_eq_true_eq] at hp
  have hv : (joinPair h l).val = 0x10000 + (h.val - 0xD800) * 0x400 + (l.val - 0xDC00) := by
    simp only [joinPair, Fin.val_ofNat]
    omega
  constructor
  · simp only [isSpace, hv, Bool.or_eq_false_iff, Bool.and_eq_false_iff, decide_eq_false_iff_not,
      beq_eq_false_iff_ne]
    omega
  · simp only [isSpace, Bool.or_eq_false_iff, Bool.and_eq_false_iff, decide_eq_false_iff_not,
      beq_eq_false_iff_ne]
    omega

/-- Joining surrogates neither makes a text blank nor stops it from being blank. -/
@[simp] theorem blank_joinSurrogates (s : Text) : blank (joinSurrogates s) = blank s := by
  rw [Bool.eq_iff_iff, blank_iff, blank_iff]
  fun_induction joinSurrogates s with
  | case1 => rfl
  | case2 c => rfl
  | case3 h l rest hp ih =>
    obtain ⟨hj, hh⟩ := isSpace_joinPair h l hp
    simp [hj, hh]
  | case4 h l rest hp ih => simp only [List.forall_mem_cons, ih]

/-- The trimmed, joined form of a text is the text itself exactly when the text is
already trimmed and has no surrogate pair. -/
theorem strip_joinSurrogates_eq_self_iff (s : Text) :
    strip (joinSurrogates s) = s ↔ strip s = s ∧ PairFree s := by
  rw [← joinSurrogates_eq_self_iff]
  constructor
  · intro h
    have hs := length_strip_le (joinSurrogates s)
    have hj : joinSurrogates s = s := by
      have := strip_eq_self_of_length (s := joinSurrogates s) (by
        rw [h]; exact length_joinSurrogates_le s)
      rw [← this, h]
    rw [hj] at h
    exact ⟨h, hj⟩
  · rintro ⟨hs, hj⟩
    rw [hj, hs]

end Text
end StateWake.Base
