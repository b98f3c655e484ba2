import StateWake.Base.Json
import StateWake.Base.Lines
import StateWake.Base.Utf8

/-!
# Writing JSON

`json.dumps` with `sort_keys=True`, in the three forms the program uses. With
`ensure_ascii` the text is printable ASCII; without it, text at or above U+0080 is
written as it is, the line boundaries of `str.splitlines` among it included.
-/

namespace StateWake.Base

open Text

namespace Json

/-- The options of `json.dumps` the program varies. -/
structure Style where
  ensureAscii : Bool
  indent : Option Nat

/-- `sort_keys=True, separators=(",", ":")`. -/
def compact : Style := ⟨true, none⟩

/-- `sort_keys=True, separators=(",", ":"), ensure_ascii=False`. -/
def canonical : Style := ⟨false, none⟩

/-- `indent=2, sort_keys=True`. -/
def indented : Style := ⟨true, some 2⟩

/-- The letter of a two-character escape. -/
def shortEscape (c : CodePoint) : Option CodePoint :=
  if c.val = 0x22 then some 0x22
  else if c.val = 0x5C then some 0x5C
  else if c.val = 0x0A then some 0x6E
  else if c.val = 0x0D then some 0x72
  else if c.val = 0x09 then some 0x74
  else if c.val = 0x0C then some 0x66
  else if c.val = 0x08 then some 0x62
  else none

/-- `\uXXXX`. -/
def escapeUnit (n : Nat) : Text :=
  [0x5C, 0x75, hexDigit (n / 4096), hexDigit (n / 256), hexDigit (n / 16), hexDigit n]

/-- The leading surrogate of a code point past U+FFFF. -/
def highUnit (c : CodePoint) : Nat := 0xD800 + (c.val - 0x10000) / 0x400

/-- The trailing surrogate of a code point past U+FFFF. -/
def lowUnit (c : CodePoint) : Nat := 0xDC00 + (c.val - 0x10000) % 0x400

/-- One code point inside a string literal. -/
def escapeCodePoint (ensureAscii : Bool) (c : CodePoint) : Text :=
  match shortEscape c with
  | some e => [0x5C, e]
  | none =>
    if c.val < 0x20 then escapeUnit c.val
    else if !ensureAscii || c.val < 0x7F then [c]
    else if c.val < 0x10000 then escapeUnit c.val
    else escapeUnit (highUnit c) ++ escapeUnit (lowUnit c)

/-- A string literal. -/
def quote (ensureAscii : Bool) (s : Text) : Text :=
  0x22 :: (s.flatMap (escapeCodePoint ensureAscii) ++ [0x22])

/-- The line break before an element at a nesting level. -/
def lineBreak (style : Style) (level : Nat) : Text :=
  match style.indent with
  | none => []
  | some n => 0x0A :: List.replicate (n * level) 0x20

/-- The separator between a key and its value. -/
def colon (style : Style) : Text :=
  match style.indent with
  | none => [0x3A]
  | some _ => [0x3A, 0x20]

mutual
/-- A value, its members in the order given. -/
def render (style : Style) (level : Nat) : Json → Text
  | .null => lit "null"
  | .bool true => lit "true"
  | .bool false => lit "false"
  | .int n => intText n
  | .float literal => literal
  | .str s => quote style.ensureAscii s
  | .arr [] => lit "[]"
  | .arr (v :: items) =>
    0x5B :: (lineBreak style (level + 1) ++ render style (level + 1) v ++
      renderItems style (level + 1) items ++ lineBreak style level ++ [0x5D])
  | .obj [] => lit "\x7b\x7d"
  | .obj ((k, v) :: members) =>
    0x7B :: (lineBreak style (level + 1) ++ quote style.ensureAscii k ++ colon style ++
      render style (level + 1) v ++ renderMembers style (level + 1) members ++
      lineBreak style level ++ [0x7D])

/-- The elements after the first. -/
def renderItems (style : Style) (level : Nat) : List Json → Text
  | [] => []
  | v :: items =>
    0x2C :: (lineBreak style level ++ render style level v ++ renderItems style level items)

/-- The members after the first. -/
def renderMembers (style : Style) (level : Nat) : List (Text × Json) → Text
  | [] => []
  | (k, v) :: members =>
    0x2C :: (lineBreak style level ++ quote style.ensureAscii k ++ colon style ++
      render style level v ++ renderMembers style level members)
end

section

variable (style : Style) (level : Nat)

theorem render_null : render style level .null = lit "null" := rfl
theorem render_true : render style level (.bool true) = lit "true" := rfl
theorem render_false : render style level (.bool false) = lit "false" := rfl
theorem render_int (n : Int) : render style level (.int n) = intText n := rfl
theorem render_float (l : Text) : render style level (.float l) = l := rfl
theorem render_str (s : Text) : render style level (.str s) = quote style.ensureAscii s := rfl
theorem render_arr_nil : render style level (.arr []) = lit "[]" := rfl
theorem render_obj_nil : render style level (.obj []) = lit "\x7b\x7d" := rfl

theorem render_arr_cons (v : Json) (items : List Json) : render style level (.arr (v :: items)) =
    0x5B :: (lineBreak style (level + 1) ++ render style (level + 1) v ++
      renderItems style (level + 1) items ++ lineBreak style level ++ [0x5D]) := rfl

theorem render_obj_cons (m : Text × Json) (members : List (Text × Json)) :
    render style level (.obj (m :: members)) =
      0x7B :: (lineBreak style (level + 1) ++ quote style.ensureAscii m.1 ++ colon style ++
        render style (level + 1) m.2 ++ renderMembers style (level + 1) members ++
        lineBreak style level ++ [0x7D]) := rfl

theorem renderItems_cons (v : Json) (items : List Json) : renderItems style level (v :: items) =
    0x2C :: (lineBreak style level ++ render style level v ++ renderItems style level items) := rfl

theorem renderMembers_cons (m : Text × Json) (members : List (Text × Json)) :
    renderMembers style level (m :: members) =
      0x2C :: (lineBreak style level ++ quote style.ensureAscii m.1 ++ colon style ++
        render style level m.2 ++ renderMembers style level members) := rfl

end

/-- `json.dumps(value, ...)`. -/
def dumps (style : Style) (v : Json) : Text := render style 0 (sortKeys v)

theorem dumps_eq (style : Style) (v : Json) : dumps style v = render style 0 (sortKeys v) := rfl

/-! ### What is written -/

mutual
/-- Every text of a value, keys included. -/
def texts : Json → List Text
  | .str s => [s]
  | .arr items => textsItems items
  | .obj members => textsMembers members
  | _ => []

def textsItems : List Json → List Text
  | [] => []
  | v :: items => texts v ++ textsItems items

def textsMembers : List (Text × Json) → List Text
  | [] => []
  | (k, v) :: members => k :: texts v ++ textsMembers members
end

private theorem mem_textsItems {s : Text} {items : List Json} :
    s ∈ textsItems items ↔ ∃ v ∈ items, s ∈ texts v := by
  induction items with
  | nil => simp [textsItems]
  | cons v items ih => simp [textsItems, ih]

private theorem mem_textsMembers {s : Text} {members : List (Text × Json)} :
    s ∈ textsMembers members ↔ ∃ m ∈ members, s = m.1 ∨ s ∈ texts m.2 := by
  induction members with
  | nil => simp [textsMembers]
  | cons m members ih =>
    rw [show m = (m.1, m.2) from rfl, textsMembers]
    simp [ih, or_assoc]

@[simp] theorem mem_texts_str {s t : Text} : s ∈ texts (.str t) ↔ s = t :=
  List.mem_singleton
@[simp] theorem mem_texts_null {s : Text} : s ∈ texts .null ↔ False :=
  iff_false_intro List.not_mem_nil
@[simp] theorem mem_texts_bool {s : Text} {b : Bool} : s ∈ texts (.bool b) ↔ False :=
  iff_false_intro List.not_mem_nil
@[simp] theorem mem_texts_int {s : Text} {n : Int} : s ∈ texts (.int n) ↔ False :=
  iff_false_intro List.not_mem_nil

@[simp] theorem mem_texts_arr {s : Text} {items : List Json} :
    s ∈ texts (.arr items) ↔ ∃ v ∈ items, s ∈ texts v := by
  rw [texts, mem_textsItems]

@[simp] theorem mem_texts_obj {s : Text} {members : Dict Json} :
    s ∈ texts (.obj members) ↔ ∃ m ∈ members, s = m.1 ∨ s ∈ texts m.2 := by
  rw [texts, mem_textsMembers]

/-- What holds of every text of an object holds of its keys and of the texts of its members. -/
theorem forall_texts_obj {P : Text → Prop} {members : Dict Json} :
    (∀ s ∈ texts (.obj members), P s) ↔ ∀ m ∈ members, P m.1 ∧ ∀ s ∈ texts m.2, P s := by
  simp only [mem_texts_obj, forall_exists_index, and_imp]
  constructor
  · exact fun h m hm ↦ ⟨h m.1 m hm (.inl rfl), fun s hs ↦ h s m hm (.inr hs)⟩
  · rintro h s m hm (rfl | hs)
    · exact (h m hm).1
    · exact (h m hm).2 s hs

/-- Ordering members keeps the texts. -/
@[simp] theorem mem_texts_sortKeys {s : Text} (v : Json) : s ∈ texts (sortKeys v) ↔ s ∈ texts v := by
  induction v with
  | null | bool | int | float | str => simp
  | arr items ih =>
    simp only [sortKeys_arr, mem_texts_arr, List.mem_map, exists_exists_and_eq_and]
    exact ⟨fun ⟨v, hv, hs⟩ ↦ ⟨v, hv, (ih v hv).mp hs⟩, fun ⟨v, hv, hs⟩ ↦ ⟨v, hv, (ih v hv).mpr hs⟩⟩
  | obj members ih =>
    simp only [sortKeys_obj, mem_texts_obj, (Dict.sorted_perm _).mem_iff, Dict.mapValues,
      List.mem_map, exists_exists_and_eq_and]
    constructor
    · rintro ⟨m, hm, hs⟩
      exact ⟨m, hm, hs.imp id (ih m hm).mp⟩
    · rintro ⟨m, hm, hs⟩
      exact ⟨m, hm, hs.imp id (ih m hm).mpr⟩

/-- Printable ASCII. -/
def Printable (c : CodePoint) : Prop := 0x20 ≤ c.val ∧ c.val < 0x7F

instance (c : CodePoint) : Decidable (Printable c) := by unfold Printable; infer_instance

private theorem printable_of_mem_lit {s : String} {c : CodePoint}
    (hs : s.toList.all (fun d ↦ 0x20 ≤ d.toNat && d.toNat < 0x7F) = true) (h : c ∈ lit s) :
    Printable c := by
  obtain ⟨d, hd, rfl⟩ := List.mem_map.mp h
  have := List.all_eq_true.mp hs d hd
  simp only [Bool.and_eq_true, decide_eq_true_eq] at this
  exact this

private theorem printable_hexDigit (n : Nat) : Printable (hexDigit n) := by
  rw [Printable, val_hexDigit]
  split <;> omega

private theorem printable_escapeUnit {n : Nat} {c : CodePoint} (h : c ∈ escapeUnit n) :
    Printable c := by
  simp only [escapeUnit, List.mem_cons, List.not_mem_nil, or_false] at h
  rcases h with rfl | rfl | rfl | rfl | rfl | rfl
  · decide
  · decide
  all_goals exact printable_hexDigit _

private theorem printable_shortEscape {c e : CodePoint} (h : shortEscape c = some e) :
    Printable e := by
  unfold shortEscape at h
  repeat' split at h
  all_goals first | (cases h; decide) | cases h

private theorem mem_escapeCodePoint {ensureAscii : Bool} {c d : CodePoint}
    (h : d ∈ escapeCodePoint ensureAscii c) :
    Printable d ∨ (ensureAscii = false ∧ 0x7F ≤ d.val ∧ d = c) := by
  unfold escapeCodePoint at h
  split at h
  · next e he =>
    simp only [List.mem_cons, List.not_mem_nil, or_false] at h
    rcases h with rfl | rfl
    · exact .inl (by decide)
    · exact .inl (printable_shortEscape he)
  · split at h
    · exact .inl (printable_escapeUnit h)
    · split at h
      · next hlt ha =>
        rw [List.mem_singleton] at h
        subst h
        simp only [Bool.or_eq_true, Bool.not_eq_true', decide_eq_true_eq] at ha
        by_cases hd : d.val < 0x7F
        · exact .inl ⟨by omega, hd⟩
        · exact .inr ⟨ha.resolve_right hd, by omega, rfl⟩
      · split at h
        · exact .inl (printable_escapeUnit h)
        · rcases List.mem_append.mp h with h | h
          all_goals exact .inl (printable_escapeUnit h)

private theorem mem_quote {ensureAscii : Bool} {s : Text} {c : CodePoint}
    (h : c ∈ quote ensureAscii s) :
    Printable c ∨ (ensureAscii = false ∧ 0x7F ≤ c.val ∧ c ∈ s) := by
  simp only [quote, List.mem_cons, List.mem_append, List.mem_flatMap, List.not_mem_nil,
    or_false] at h
  rcases h with rfl | ⟨d, hd, h⟩ | rfl
  · exact .inl (by decide)
  · rcases mem_escapeCodePoint h with hp | ⟨ha, hc, rfl⟩
    · exact .inl hp
    · exact .inr ⟨ha, hc, hd⟩
  · exact .inl (by decide)

private theorem printable_intText {n : Int} {c : CodePoint} (h : c ∈ intText n) : Printable c := by
  have hdec : ∀ k, c ∈ Decimal.decimal k → Printable c := by
    intro k hk
    have := List.all_eq_true.mp (Decimal.all_decimal k) c hk
    simp only [Decimal.isDigit, Bool.and_eq_true, decide_eq_true_eq] at this
    exact ⟨by omega, by omega⟩
  unfold intText at h
  split at h
  · rcases List.mem_append.mp h with h | h
    · simp only [show lit "-" = [45] from rfl, List.mem_singleton] at h
      subst h
      decide
    · exact hdec _ h
  · exact hdec _ h

private theorem printable_digit {c : CodePoint} (h : Decimal.isDigit c = true) : Printable c := by
  simp only [Decimal.isDigit, Bool.and_eq_true, decide_eq_true_eq] at h
  exact ⟨by omega, by omega⟩

private theorem printable_float {l : Text} (hl : FloatLiteral l) {c : CodePoint} (h : c ∈ l) :
    Printable c := by
  obtain ⟨sign, n, fraction, exponent, rfl, hsign, hfraction, hexponent, -⟩ := hl.parts
  rcases List.mem_append.mp h with h | h
  · rcases hsign with rfl | rfl
    · cases h
    · exact printable_of_mem_lit (by decide) h
  rcases List.mem_append.mp h with h | h
  · exact printable_digit (List.all_eq_true.mp (Decimal.all_decimal n) c h)
  rcases List.mem_append.mp h with h | h
  · rcases hfraction with rfl | ⟨d, ds, rfl, hd⟩
    · cases h
    · rcases List.mem_cons.mp h with rfl | h
      · exact ⟨by decide, by decide⟩
      · exact printable_digit (List.all_eq_true.mp hd c h)
  · rcases hexponent with rfl | ⟨mark, d, ds, rfl, hmark, hd⟩
    · cases h
    · rcases List.mem_cons.mp h with rfl | h
      · exact ⟨by decide, by decide⟩
      · rcases List.mem_append.mp h with h | h
        · rcases hmark with rfl | rfl | rfl
          · cases h
          · exact printable_of_mem_lit (by decide) h
          · exact printable_of_mem_lit (by decide) h
        · exact printable_digit (List.all_eq_true.mp hd c h)

private theorem mem_lineBreak {style : Style} {level : Nat} {c : CodePoint}
    (h : c ∈ lineBreak style level) :
    Printable c ∨ (style.indent.isSome = true ∧ c = Lines.newline) := by
  unfold lineBreak at h
  split at h
  · cases h
  · next n hn =>
    rcases List.mem_cons.mp h with rfl | h
    · exact .inr ⟨by rw [hn]; rfl, rfl⟩
    · rw [(List.mem_replicate.mp h).2]
      exact .inl (by decide)

private theorem printable_colon {style : Style} {c : CodePoint} (h : c ∈ colon style) :
    Printable c := by
  unfold colon at h
  split at h
  · rw [List.mem_singleton] at h
    subst h
    decide
  · simp only [List.mem_cons, List.not_mem_nil, or_false] at h
    rcases h with rfl | rfl <;> decide

private theorem renderItems_eq (style : Style) (level : Nat) (items : List Json) :
    renderItems style level items =
      items.flatMap fun v ↦ 0x2C :: (lineBreak style level ++ render style level v) := by
  induction items with
  | nil => rfl
  | cons v items ih => simp [renderItems_cons, ih]

private theorem renderMembers_eq (style : Style) (level : Nat) (members : List (Text × Json)) :
    renderMembers style level members = members.flatMap fun m ↦
      0x2C :: (lineBreak style level ++ quote style.ensureAscii m.1 ++ colon style ++
        render style level m.2) := by
  induction members with
  | nil => rfl
  | cons m members ih =>
    rw [renderMembers_cons, ih]
    simp

/-- Layout around the elements: printable ASCII, or the line feed of an indented form. -/
def Layout (style : Style) (c : CodePoint) : Prop :=
  Printable c ∨ (style.indent.isSome = true ∧ c = Lines.newline)

private theorem mem_render_arr {style : Style} {level : Nat} {items : List Json} {c : CodePoint}
    (h : c ∈ render style level (.arr items)) :
    Layout style c ∨ ∃ v ∈ items, c ∈ render style (level + 1) v := by
  cases items with
  | nil =>
    rw [render_arr_nil, show lit "[]" = [0x5B, 0x5D] from rfl] at h
    simp only [List.mem_cons, List.not_mem_nil, or_false] at h
    rcases h with rfl | rfl <;> exact .inl (.inl (by decide))
  | cons v items =>
    rw [render_arr_cons, renderItems_eq] at h
    simp only [List.mem_cons, List.mem_append, List.mem_flatMap, List.not_mem_nil, or_false] at h
    rcases h with rfl | (((h | h) | ⟨w, hw, rfl | h | h⟩) | h) | rfl
    · exact .inl (.inl (by decide))
    · exact .inl (mem_lineBreak h)
    · exact .inr ⟨v, by simp, h⟩
    · exact .inl (.inl (by decide))
    · exact .inl (mem_lineBreak h)
    · exact .inr ⟨w, List.mem_cons_of_mem v hw, h⟩
    · exact .inl (mem_lineBreak h)
    · exact .inl (.inl (by decide))

private theorem mem_render_obj {style : Style} {level : Nat} {members : List (Text × Json)}
    {c : CodePoint} (h : c ∈ render style level (.obj members)) :
    Layout style c ∨ ∃ m ∈ members, c ∈ quote style.ensureAscii m.1 ∨
      c ∈ render style (level + 1) m.2 := by
  cases members with
  | nil =>
    rw [render_obj_nil, show lit "\x7b\x7d" = [0x7B, 0x7D] from rfl] at h
    simp only [List.mem_cons, List.not_mem_nil, or_false] at h
    rcases h with rfl | rfl <;> exact .inl (.inl (by decide))
  | cons m members =>
    rw [render_obj_cons, renderMembers_eq] at h
    simp only [List.mem_cons, List.mem_append, List.mem_flatMap, List.not_mem_nil, or_false] at h
    rcases h with rfl | (((((h | h) | h) | h) | ⟨w, hw, rfl | (((h | h) | h) | h)⟩) | h) | rfl
    · exact .inl (.inl (by decide))
    · exact .inl (mem_lineBreak h)
    · exact .inr ⟨m, by simp, .inl h⟩
    · exact .inl (.inl (printable_colon h))
    · exact .inr ⟨m, by simp, .inr h⟩
    · exact .inl (.inl (by decide))
    · exact .inl (mem_lineBreak h)
    · exact .inr ⟨w, List.mem_cons_of_mem m hw, .inl h⟩
    · exact .inl (.inl (printable_colon h))
    · exact .inr ⟨w, List.mem_cons_of_mem m hw, .inr h⟩
    · exact .inl (mem_lineBreak h)
    · exact .inl (.inl (by decide))

private theorem mem_render_arr_of_mem {style : Style} {level : Nat} {items : List Json}
    {v : Json} (hv : v ∈ items) {c : CodePoint} (h : c ∈ render style (level + 1) v) :
    c ∈ render style level (.arr items) := by
  cases items with
  | nil => cases hv
  | cons w items =>
    rw [render_arr_cons, renderItems_eq]
    simp only [List.mem_cons, List.mem_append, List.mem_flatMap]
    rcases List.mem_cons.mp hv with rfl | hv
    · exact .inr (.inl (.inl (.inl (.inr h))))
    · exact .inr (.inl (.inl (.inr ⟨v, hv, .inr (.inr h)⟩)))

private theorem mem_render_obj_of_mem {style : Style} {level : Nat} {members : List (Text × Json)}
    {m : Text × Json} (hm : m ∈ members) {c : CodePoint}
    (h : c ∈ quote style.ensureAscii m.1 ∨ c ∈ render style (level + 1) m.2) :
    c ∈ render style level (.obj members) := by
  cases members with
  | nil => cases hm
  | cons w members =>
    rw [render_obj_cons, renderMembers_eq]
    simp only [List.mem_cons, List.mem_append, List.mem_flatMap]
    rcases List.mem_cons.mp hm with rfl | hm
    · rcases h with h | h
      · exact .inr (.inl (.inl (.inl (.inl (.inl (.inr h))))))
      · exact .inr (.inl (.inl (.inl (.inr h))))
    · rcases h with h | h
      · exact .inr (.inl (.inl (.inr ⟨m, hm, .inr (.inl (.inl (.inr h)))⟩)))
      · exact .inr (.inl (.inl (.inr ⟨m, hm, .inr (.inr h)⟩)))

/-- Every code point of a rendering is layout or, without `ensure_ascii`, belongs to a text
of the value. -/
theorem mem_render {style : Style} {level : Nat} {v : Json} (hw : Writable v) {c : CodePoint}
    (h : c ∈ render style level v) :
    Layout style c ∨ (style.ensureAscii = false ∧ 0x7F ≤ c.val ∧ ∃ s ∈ texts v, c ∈ s) := by
  induction v generalizing level with
  | null =>
    rw [render_null] at h
    exact .inl (.inl (printable_of_mem_lit (by decide) h))
  | bool b =>
    cases b with
    | true =>
      rw [render_true] at h
      exact .inl (.inl (printable_of_mem_lit (by decide) h))
    | false =>
      rw [render_false] at h
      exact .inl (.inl (printable_of_mem_lit (by decide) h))
  | int n =>
    rw [render_int] at h
    exact .inl (.inl (printable_intText h))
  | float l =>
    rw [render_float] at h
    exact .inl (.inl (printable_float hw h))
  | str s =>
    rw [render_str] at h
    rcases mem_quote h with hp | ⟨ha, hc, hs⟩
    · exact .inl (.inl hp)
    · exact .inr ⟨ha, hc, s, by simp, hs⟩
  | arr items ih =>
    rcases mem_render_arr h with hl | ⟨v, hv, h⟩
    · exact .inl hl
    · rcases ih v hv ((writable_arr items).mp hw v hv) h with hl | ⟨ha, hc, s, hs, hm⟩
      · exact .inl hl
      · exact .inr ⟨ha, hc, s, mem_texts_arr.mpr ⟨v, hv, hs⟩, hm⟩
  | obj members ih =>
    rcases mem_render_obj h with hl | ⟨m, hm, h | h⟩
    · exact .inl hl
    · rcases mem_quote h with hp | ⟨ha, hc, hs⟩
      · exact .inl (.inl hp)
      · exact .inr ⟨ha, hc, m.1, mem_texts_obj.mpr ⟨m, hm, .inl rfl⟩, hs⟩
    · rcases ih m hm (((writable_obj members).mp hw).2 m hm).2 h with hl | ⟨ha, hc, s, hs, hs'⟩
      · exact .inl hl
      · exact .inr ⟨ha, hc, s, mem_texts_obj.mpr ⟨m, hm, .inr hs⟩, hs'⟩

private theorem mem_quote_of_mem {s : Text} {c : CodePoint} (hc : 0x7F ≤ c.val) (h : c ∈ s) :
    c ∈ quote false s := by
  have he : shortEscape c = none := by
    unfold shortEscape
    repeat rw [if_neg (by omega)]
  have : c ∈ escapeCodePoint false c := by
    rw [escapeCodePoint, he]
    dsimp only
    rw [if_neg (by omega), if_pos (by simp)]
    exact List.mem_singleton_self c
  simp only [quote, List.mem_cons, List.mem_append, List.mem_flatMap]
  exact .inr (.inl ⟨c, h, this⟩)

/-- Without `ensure_ascii`, text at or above U+007F is written as it is. -/
theorem mem_render_of_mem_texts {style : Style} (ha : style.ensureAscii = false) {level : Nat}
    {v : Json} {c : CodePoint} (hc : 0x7F ≤ c.val) {s : Text} (hs : s ∈ texts v) (h : c ∈ s) :
    c ∈ render style level v := by
  induction v generalizing level with
  | null | bool | int => simp at hs
  | float l => simp [texts] at hs
  | str t =>
    rw [mem_texts_str.mp hs] at h
    rw [render_str, ha]
    exact mem_quote_of_mem hc h
  | arr items ih =>
    obtain ⟨v, hv, hs⟩ := mem_texts_arr.mp hs
    exact mem_render_arr_of_mem hv (ih v hv hs)
  | obj members ih =>
    obtain ⟨m, hm, rfl | hs⟩ := mem_texts_obj.mp hs
    · exact mem_render_obj_of_mem hm (.inl (ha ▸ mem_quote_of_mem hc h))
    · exact mem_render_obj_of_mem hm (.inr (ih m hm hs))

/-- A written object starts with a brace. -/
theorem dumps_obj_head (style : Style) (members : Dict Json) :
    ∃ s, dumps style (.obj members) = 0x7B :: s := by
  rw [dumps, sortKeys_obj]
  cases (Dict.mapValues sortKeys members).sorted with
  | nil => exact ⟨_, rfl⟩
  | cons m d => exact ⟨_, render_obj_cons style 0 m d⟩

/-- A written object is not blank. -/
@[simp] theorem not_blank_dumps_obj (style : Style) (members : Dict Json) :
    blank (dumps style (.obj members)) = false := by
  obtain ⟨s, hs⟩ := dumps_obj_head style members
  rw [← Bool.not_eq_true, blank_iff, hs]
  intro h
  exact absurd (h 0x7B List.mem_cons_self) (by decide)

/-- The compact form is one line of printable ASCII. -/
theorem printable_of_mem_compact {v : Json} (hw : Writable v) {c : CodePoint}
    (h : c ∈ dumps compact v) : Printable c := by
  rcases mem_render hw.sortKeys h with (hp | ⟨hi, -⟩) | ⟨ha, -⟩
  · exact hp
  · cases hi
  · cases ha

/-- A form with `ensure_ascii` is ASCII. -/
theorem isAscii_dumps {style : Style} (ha : style.ensureAscii = true) {v : Json}
    (hw : Writable v) : Utf8.IsAscii (dumps style v) := by
  intro c h
  rcases mem_render hw.sortKeys h with (hp | ⟨-, rfl⟩) | ⟨ha', -⟩
  · exact lt_trans hp.2 (by decide)
  · decide
  · rw [ha] at ha'
    cases ha'

/-- A written integer is ASCII. -/
theorem surrogateFree_intText (n : Int) : SurrogateFree (intText n) := by
  have hascii : Utf8.IsAscii (dumps compact (.int n)) := isAscii_dumps rfl (writable_int n)
  rw [dumps_eq, sortKeys_int] at hascii
  exact hascii.surrogateFree

/-- The compact form contains no line boundary. -/
theorem unbroken_compact {v : Json} (hw : Writable v) : Lines.Unbroken (dumps compact v) := by
  intro c h
  have hp := printable_of_mem_compact hw h
  simp only [Printable] at hp
  simp only [Lines.isBoundary, Bool.or_eq_false_iff, Bool.and_eq_false_iff,
    decide_eq_false_iff_not, beq_eq_false_iff_ne]
  omega

/-- At or above U+007F the canonical form contains what the texts of the value contain. -/
theorem mem_canonical_iff {v : Json} (hw : Writable v) {c : CodePoint} (hc : 0x7F ≤ c.val) :
    c ∈ dumps canonical v ↔ ∃ s ∈ texts v, c ∈ s := by
  constructor
  · intro h
    rcases mem_render hw.sortKeys h with (hp | ⟨hi, -⟩) | ⟨-, -, s, hs, hm⟩
    · exact absurd hp.2 (by omega)
    · cases hi
    · exact ⟨s, (mem_texts_sortKeys v).mp hs, hm⟩
  · rintro ⟨s, hs, hm⟩
    exact mem_render_of_mem_texts rfl hc ((mem_texts_sortKeys v).mpr hs) hm

/-- A written value can be encoded when its texts can be. -/
theorem surrogateFree_dumps (style : Style) {v : Json} (hw : Writable v)
    (h : ∀ s ∈ texts v, SurrogateFree s) : SurrogateFree (dumps style v) := by
  intro c hc
  rcases mem_render hw.sortKeys hc with (hp | ⟨-, rfl⟩) | ⟨-, -, s, hs, hm⟩
  · have hlt := hp.2
    simp only [isSurrogate, Bool.and_eq_false_iff, decide_eq_false_iff_not]
    omega
  · rfl
  · exact h s ((mem_texts_sortKeys v).mp hs) c hm

/-- No text has a surrogate that the canonical form does not have. -/
theorem surrogateFree_of_canonical {v : Json} (h : SurrogateFree (dumps canonical v)) :
    ∀ s ∈ texts v, SurrogateFree s := by
  intro s hs c hc
  cases hb : isSurrogate c with
  | false => rfl
  | true =>
    have hlow : 0x7F ≤ c.val := by
      simp only [isSurrogate, Bool.and_eq_true, decide_eq_true_eq] at hb
      omega
    rw [← hb]
    exact h c (mem_render_of_mem_texts rfl hlow ((mem_texts_sortKeys v).mpr hs) hc)

/-- The canonical form can be encoded exactly when no text has a surrogate. -/
theorem surrogateFree_canonical_iff {v : Json} (hw : Writable v) :
    SurrogateFree (dumps canonical v) ↔ ∀ s ∈ texts v, SurrogateFree s :=
  ⟨surrogateFree_of_canonical, surrogateFree_dumps canonical hw⟩

/-- The line boundaries the canonical form leaves unescaped. -/
def isRawBoundary (c : CodePoint) : Bool := c.val == 0x85 || c.val == 0x2028 || c.val == 0x2029

/-- The canonical form is one line exactly when no text has an unescaped boundary. -/
theorem unbroken_canonical_iff {v : Json} (hw : Writable v) :
    Lines.Unbroken (dumps canonical v) ↔ ∀ s ∈ texts v, ∀ c ∈ s, isRawBoundary c = false := by
  constructor
  · intro h s hs c hc
    cases hb : isRawBoundary c with
    | false => rfl
    | true =>
      have hv : c.val = 0x85 ∨ c.val = 0x2028 ∨ c.val = 0x2029 := by
        simpa [isRawBoundary, or_assoc] using hb
      have := h c ((mem_canonical_iff hw (by omega)).mpr ⟨s, hs, hc⟩)
      simp only [Lines.isBoundary, Bool.or_eq_false_iff, beq_eq_false_iff_ne] at this
      omega
  · intro h c hc
    rcases mem_render hw.sortKeys hc with (hp | ⟨hi, -⟩) | ⟨-, hc', s, hs, hm⟩
    · simp only [Printable] at hp
      simp only [Lines.isBoundary, Bool.or_eq_false_iff, Bool.and_eq_false_iff,
        decide_eq_false_iff_not, beq_eq_false_iff_ne]
      omega
    · cases hi
    · have := h s ((mem_texts_sortKeys v).mp hs) c hm
      simp only [isRawBoundary, Bool.or_eq_false_iff, beq_eq_false_iff_ne] at this
      simp only [Lines.isBoundary, Bool.or_eq_false_iff, Bool.and_eq_false_iff,
        decide_eq_false_iff_not, beq_eq_false_iff_ne]
      omega

attribute [irreducible] dumps

end Json
end StateWake.Base

