import StateWake.Base.JsonScan

/-!
# Reading back what was written

`loads (dumps style v)` is the ordered value, in the ASCII styles with surrogate pairs
joined. The proof follows the renderer: a string literal first, then numbers and words,
then values by induction, each before an arbitrary rest of the text.
-/

namespace StateWake.Base

open Text

namespace Json

/-! ### String literals -/

/-- The elements a code point is read back as. -/
private def elementsOf (ensureAscii : Bool) (c : CodePoint) : List (Bool × CodePoint) :=
  match shortEscape c with
  | some _ => [(false, c)]
  | none =>
    if c.val < 0x20 then [(true, c)]
    else if !ensureAscii || c.val < 0x7F then [(false, c)]
    else if c.val < 0x10000 then [(true, c)]
    else [(true, Fin.ofNat 0x110000 (highUnit c)), (true, Fin.ofNat 0x110000 (lowUnit c))]

private theorem hexValue_hexDigit (n : Nat) : hexValue (hexDigit n) = some (n % 16) := by
  have hv := val_hexDigit n
  unfold hexValue
  split at hv
  · rw [if_pos (by omega), hv]
    congr 1
    omega
  · rw [if_neg (by omega), if_pos (by omega), hv]
    congr 1
    omega

private theorem hexUnit_hexDigit {n : Nat} (h : n < 65536) :
    hexUnit (hexDigit (n / 4096)) (hexDigit (n / 256)) (hexDigit (n / 16)) (hexDigit n) =
      some (Fin.ofNat 0x110000 n) := by
  simp only [hexUnit, hexValue_hexDigit, Option.bind_eq_bind, Option.bind_some, Option.pure_def]
  congr 2
  omega

private theorem scanString_escapeUnit {n : Nat} (h : n < 65536) (rest : Text) :
    scanString (escapeUnit n ++ rest) =
      (scanString rest).map fun p ↦ ((true, Fin.ofNat 0x110000 n) :: p.1, p.2) := by
  simp only [escapeUnit, List.cons_append, List.nil_append]
  rw [scanString, if_neg (by decide), if_pos (by decide)]
  dsimp only
  rw [if_pos (by decide), hexUnit_hexDigit h]
  cases scanString rest <;> rfl

private theorem scanString_raw {c : CodePoint} (hs : shortEscape c = none) (hc : ¬c.val < 0x20)
    (rest : Text) :
    scanString (c :: rest) = (scanString rest).map fun p ↦ ((false, c) :: p.1, p.2) := by
  have hq : c.val ≠ 0x22 := by
    intro h
    simp [shortEscape, h] at hs
  have hb : c.val ≠ 0x5C := by
    intro h
    simp [shortEscape, h] at hs
  rw [scanString.eq_def]
  dsimp only
  rw [if_neg hq, if_neg hb, if_neg hc]
  cases scanString rest <;> rfl

private theorem unescape_shortEscape {c e : CodePoint} (h : shortEscape c = some e) :
    e.val ≠ 0x75 ∧ unescape e = some c := by
  have hfin : ∀ d : CodePoint, c.val = d.val → some d = some c := fun d hd ↦ by
    rw [Fin.ext hd]
  unfold shortEscape at h
  split at h
  · next hv => cases h; exact ⟨by decide, hfin 0x22 hv⟩
  split at h
  · next hv => cases h; exact ⟨by decide, hfin 0x5C hv⟩
  split at h
  · next hv => cases h; exact ⟨by decide, hfin 0x0A hv⟩
  split at h
  · next hv => cases h; exact ⟨by decide, hfin 0x0D hv⟩
  split at h
  · next hv => cases h; exact ⟨by decide, hfin 0x09 hv⟩
  split at h
  · next hv => cases h; exact ⟨by decide, hfin 0x0C hv⟩
  split at h
  · next hv => cases h; exact ⟨by decide, hfin 0x08 hv⟩
  · cases h

private theorem scanString_short {c e : CodePoint} (h : shortEscape c = some e) (rest : Text) :
    scanString (0x5C :: e :: rest) =
      (scanString rest).map fun p ↦ ((false, c) :: p.1, p.2) := by
  obtain ⟨hu, hc⟩ := unescape_shortEscape h
  rw [scanString.eq_def]
  dsimp only
  rw [if_neg (by decide), if_pos (by decide), if_neg hu, hc]
  cases scanString rest <;> rfl

private theorem unit_lt (c : CodePoint) (h : ¬c.val < 0x10000) :
    highUnit c < 65536 ∧ lowUnit c < 65536 := by
  have := c.isLt
  unfold highUnit lowUnit
  omega

private theorem scanString_escapeCodePoint (ensureAscii : Bool) (c : CodePoint) (rest : Text) :
    scanString (escapeCodePoint ensureAscii c ++ rest) =
      (scanString rest).map fun p ↦ (elementsOf ensureAscii c ++ p.1, p.2) := by
  have hself : Fin.ofNat 0x110000 c.val = c := Fin.ofNat_val_eq_self c
  unfold escapeCodePoint elementsOf
  cases hs : shortEscape c with
  | some e => exact scanString_short hs rest
  | none =>
    dsimp only
    split
    · rw [scanString_escapeUnit (by omega), hself]
      rfl
    · split
      · exact scanString_raw hs (by assumption) rest
      · split
        · rw [scanString_escapeUnit (by assumption), hself]
          rfl
        · next h =>
          obtain ⟨hh, hl⟩ := unit_lt c h
          rw [List.append_assoc, scanString_escapeUnit hh, scanString_escapeUnit hl,
            Option.map_map]
          rfl

private theorem scanString_flatMap (ensureAscii : Bool) (s rest : Text) :
    scanString (s.flatMap (escapeCodePoint ensureAscii) ++ 0x22 :: rest) =
      some (s.flatMap (elementsOf ensureAscii), rest) := by
  induction s with
  | nil =>
    rw [List.flatMap_nil, List.nil_append, scanString.eq_def]
    rfl
  | cons c s ih =>
    rw [List.flatMap_cons, List.append_assoc, scanString_escapeCodePoint, ih]
    rfl

private theorem joinElements_cons (e : Bool) (c : CodePoint) (rest : List (Bool × CodePoint))
    (h : ∀ f l, rest.head? = some (f, l) → ¬(e = true ∧ f = true ∧ isHigh c = true ∧
      isLow l = true)) : joinElements ((e, c) :: rest) = c :: joinElements rest := by
  cases rest with
  | nil => rfl
  | cons p rest =>
    obtain ⟨f, l⟩ := p
    rw [joinElements, if_neg]
    simp only [Bool.and_eq_true]
    exact fun hc ↦ h f l rfl ⟨hc.1.1.1, hc.1.1.2, hc.1.2, hc.2⟩

private theorem not_surrogate_of_flag_false {c : CodePoint} {f : Bool} {l : CodePoint}
    (h : (f, l) ∈ elementsOf false c) (hf : f = true) : isHigh l = false := by
  subst hf
  unfold elementsOf at h
  split at h
  · simp at h
  · split at h
    · simp only [List.mem_singleton, Prod.mk.injEq, true_and] at h
      subst h
      simp only [isHigh, Bool.and_eq_false_iff, decide_eq_false_iff_not]
      omega
    · simp at h

/-- Without `ensure_ascii` no element pairs up: the text is read back as it was. -/
private theorem joinElements_raw (s : Text) :
    joinElements (s.flatMap (elementsOf false)) = s := by
  induction s with
  | nil => rfl
  | cons c s ih =>
    have hone : ∃ e, elementsOf false c = [(e, c)] := by
      unfold elementsOf
      split
      · exact ⟨false, rfl⟩
      · split
        · exact ⟨true, rfl⟩
        · exact ⟨false, by simp⟩
    obtain ⟨e, he⟩ := hone
    rw [List.flatMap_cons, he, List.singleton_append, joinElements_cons, ih]
    rintro f l - ⟨rfl, -, hh, -⟩
    rw [not_surrogate_of_flag_false (he ▸ List.mem_singleton_self _) rfl] at hh
    cases hh

private theorem val_units (c : CodePoint) :
    (Fin.ofNat 0x110000 (highUnit c)).val = highUnit c ∧
      (Fin.ofNat 0x110000 (lowUnit c)).val = lowUnit c := by
  have hc := c.isLt
  rw [Fin.val_ofNat, Fin.val_ofNat, highUnit, lowUnit]
  omega

private theorem head_elementsOf (c : CodePoint) :
    ∃ f l rest, elementsOf true c = (f, l) :: rest ∧ (isLow l = true → l = c) := by
  unfold elementsOf
  split
  · exact ⟨_, _, _, rfl, fun _ ↦ rfl⟩
  · split
    · exact ⟨_, _, _, rfl, fun _ ↦ rfl⟩
    · split
      · exact ⟨_, _, _, rfl, fun _ ↦ rfl⟩
      · split
        · exact ⟨_, _, _, rfl, fun _ ↦ rfl⟩
        · next h =>
          refine ⟨_, _, _, rfl, fun hl ↦ ?_⟩
          have hc := c.isLt
          have hv := val_units c
          simp only [isLow, hv.1, Bool.and_eq_true, decide_eq_true_eq] at hl
          rw [highUnit] at hl
          omega

private theorem elementsOf_surrogate {c : CodePoint} (h : isSurrogate c = true) :
    elementsOf true c = [(true, c)] := by
  simp only [isSurrogate, Bool.and_eq_true, decide_eq_true_eq] at h
  have hs : shortEscape c = none := by
    unfold shortEscape
    repeat rw [if_neg (by omega)]
  rw [elementsOf, hs]
  dsimp only
  rw [if_neg (by omega), if_neg, if_pos (by omega)]
  simp only [Bool.not_true, Bool.false_or, decide_eq_true_eq]
  omega

private theorem isSurrogate_of_isHigh_or_isLow {c : CodePoint}
    (h : isHigh c = true ∨ isLow c = true) : isSurrogate c = true := by
  simp only [isHigh, isLow, isSurrogate, Bool.and_eq_true, decide_eq_true_eq] at *
  omega

private theorem joinPair_units (c : CodePoint) (h : ¬c.val < 0x10000) :
    isHigh (Fin.ofNat 0x110000 (highUnit c)) = true ∧
      isLow (Fin.ofNat 0x110000 (lowUnit c)) = true ∧
      joinPair (Fin.ofNat 0x110000 (highUnit c)) (Fin.ofNat 0x110000 (lowUnit c)) = c := by
  have hc := c.isLt
  obtain ⟨hh, hl⟩ := val_units c
  simp only [isHigh, isLow, hh, hl, Bool.and_eq_true, decide_eq_true_eq]
  refine ⟨by rw [highUnit]; omega, by rw [lowUnit]; omega, Fin.ext ?_⟩
  rw [joinPair, hh, hl, Fin.val_ofNat, highUnit, lowUnit]
  omega

/-- The elements of one code point are read back as that code point unless it is a high
surrogate before a low one. -/
private theorem joinElements_elementsOf (c : CodePoint) (rest : List (Bool × CodePoint))
    (h : ∀ f l, rest.head? = some (f, l) → ¬(isHigh c = true ∧ isLow l = true)) :
    joinElements (elementsOf true c ++ rest) = c :: joinElements rest := by
  have hsingle : ∀ e, joinElements ((e, c) :: rest) = c :: joinElements rest := fun e ↦
    joinElements_cons e c rest fun f l hr hc ↦ h f l hr hc.2.2
  unfold elementsOf
  split
  · exact hsingle false
  · split
    · exact hsingle true
    · split
      · exact hsingle false
      · split
        · exact hsingle true
        · next hc =>
          obtain ⟨hh, hl, hj⟩ := joinPair_units c hc
          simp only [List.cons_append, List.nil_append, joinElements, hh, hl, hj, Bool.and_self,
            ↓reduceIte]

/-- With `ensure_ascii` the text is read back with its surrogate pairs joined. -/
private theorem joinElements_ascii (s : Text) :
    joinElements (s.flatMap (elementsOf true)) = joinSurrogates s := by
  fun_induction joinSurrogates s with
  | case1 => rfl
  | case2 c =>
    have := joinElements_elementsOf c [] (by simp)
    simpa [joinElements] using this
  | case3 h l rest hp ih =>
    simp only [Bool.and_eq_true] at hp
    rw [List.flatMap_cons, List.flatMap_cons,
      elementsOf_surrogate (isSurrogate_of_isHigh_or_isLow (.inl hp.1)),
      elementsOf_surrogate (isSurrogate_of_isHigh_or_isLow (.inr hp.2))]
    simp only [List.cons_append, List.nil_append, joinElements, hp.1, hp.2, Bool.and_self,
      ↓reduceIte, ih]
  | case4 h l rest hp ih =>
    rw [List.flatMap_cons, joinElements_elementsOf, ih]
    intro f m hm hc
    obtain ⟨f', l', tail, he, hl⟩ := head_elementsOf l
    rw [List.flatMap_cons, he] at hm
    simp only [List.cons_append, List.head?_cons, Option.some.injEq, Prod.mk.injEq] at hm
    obtain ⟨rfl, rfl⟩ := hm
    rw [hl hc.2] at hc
    exact hp (by simp [hc])

/-- What a text is read back as. -/
def readText (style : Style) (s : Text) : Text :=
  if style.ensureAscii then joinSurrogates s else s

private theorem scanString_quoted (style : Style) (s rest : Text) :
    (scanString (s.flatMap (escapeCodePoint style.ensureAscii) ++ 0x22 :: rest)).map
      (fun p ↦ (joinElements p.1, p.2)) = some (readText style s, rest) := by
  rw [scanString_flatMap, readText, Option.map_some]
  cases style.ensureAscii
  · rw [joinElements_raw]; rfl
  · rw [joinElements_ascii]; rfl

/-! ### Numbers and words -/

/-- A text that does not continue a number. -/
def Stops (s : Text) : Prop :=
  ∀ c, s.head? = some c →
    Decimal.isDigit c = false ∧ c.val ≠ 0x2E ∧ c.val ≠ 0x65 ∧ c.val ≠ 0x45

private theorem stops_cons {c : CodePoint} (h : Decimal.isDigit c = false ∧ c.val ≠ 0x2E ∧
    c.val ≠ 0x65 ∧ c.val ≠ 0x45) (s : Text) : Stops (c :: s) := by
  intro d hd
  cases hd
  exact h

/-- A text that does not continue a run of digits. -/
private def NoDigit (s : Text) : Prop := ∀ c, s.head? = some c → Decimal.isDigit c = false

private theorem Stops.noDigit {s : Text} (h : Stops s) : NoDigit s := fun c hc ↦ (h c hc).1

private theorem noDigit_cons {c : CodePoint} (h : Decimal.isDigit c = false) (s : Text) :
    NoDigit (c :: s) := by
  intro d hd
  cases hd
  exact h

private theorem takeWhile_digits {digits rest : Text} (hd : digits.all Decimal.isDigit = true)
    (hr : NoDigit rest) :
    (digits ++ rest).takeWhile Decimal.isDigit = digits ∧
      (digits ++ rest).dropWhile Decimal.isDigit = rest := by
  have hall := List.all_eq_true.mp hd
  have hrest : rest.takeWhile Decimal.isDigit = [] ∧ rest.dropWhile Decimal.isDigit = rest := by
    cases rest with
    | nil => exact ⟨rfl, rfl⟩
    | cons c rest =>
      have := hr c rfl
      simp [this]
  rw [List.takeWhile_append_of_pos hall, List.dropWhile_append_of_pos hall, hrest.1, hrest.2]
  exact ⟨List.append_nil _, rfl⟩

private theorem decimal_eq_cons (n : Nat) :
    ∃ c s, Decimal.decimal n = c :: s ∧ Decimal.isDigit c = true := by
  cases hn : Decimal.decimal n with
  | nil =>
    rcases Nat.eq_zero_or_pos n with rfl | hp
    · simp [Decimal.decimal_zero] at hn
    · obtain ⟨c, s, hs, -⟩ := Decimal.decimal_head hp
      rw [hs] at hn
      cases hn
  | cons c s =>
    exact ⟨c, s, rfl, List.all_eq_true.mp (Decimal.all_decimal n) c (by simp [hn])⟩

private theorem scanDigits_decimal (n : Nat) {rest : Text} (hr : NoDigit rest) :
    scanDigits (Decimal.decimal n ++ rest) = some (Decimal.decimal n, rest) := by
  rcases Nat.eq_zero_or_pos n with rfl | hn
  · rfl
  · obtain ⟨c, s, hs, hc⟩ := Decimal.decimal_head hn
    have hall := Decimal.all_decimal n
    obtain ⟨ht, hd⟩ := takeWhile_digits hall hr
    have hdig : Decimal.isDigit c = true :=
      List.all_eq_true.mp hall c (by rw [hs]; exact List.mem_cons_self)
    rw [hs] at ht hd ⊢
    simp only [List.cons_append] at ht hd ⊢
    simp only [scanDigits, hdig, ht, hd, ↓reduceIte]
    rw [if_neg (by omega)]

private theorem scanFraction_stops {rest : Text} (hr : Stops rest) :
    scanFraction rest = ([], rest) := by
  unfold scanFraction
  split
  · next c d rest =>
    rw [if_neg]
    exact fun h ↦ (hr c rfl).2.1 h.1
  · rfl

private theorem scanExponent_stops {rest : Text} (hr : Stops rest) :
    scanExponent rest = ([], rest) := by
  unfold scanExponent
  split
  · next c rest =>
    rw [if_neg]
    exact fun h ↦ h.elim (hr c rfl).2.2.1 (hr c rfl).2.2.2
  · rfl

/-- Before a numeral there is no word. -/
private theorem scanAtom_decimal (n : Nat) (rest : Text) :
    scanAtom (Decimal.decimal n ++ rest) = scanUnsigned [] (Decimal.decimal n ++ rest) := by
  obtain ⟨c, s, hs, hc⟩ := decimal_eq_cons n
  simp only [Decimal.isDigit, Bool.and_eq_true, decide_eq_true_eq] at hc
  have hw : wordOf c = none := by
    unfold wordOf
    repeat rw [if_neg (by omega)]
  rw [hs, List.cons_append, scanAtom]
  simp only [hw, scanNumber]
  rw [if_neg (by omega)]

/-- A sign and a digit are not the start of `-Infinity`. -/
private theorem scanAtom_negative (n : Nat) (rest : Text) :
    scanAtom (0x2D :: (Decimal.decimal n ++ rest)) =
      scanUnsigned [0x2D] (Decimal.decimal n ++ rest) := by
  obtain ⟨c, s, hs, hc⟩ := decimal_eq_cons n
  have hp : afterPrefix (lit "-Infinity") (0x2D :: c :: (s ++ rest)) = none := by
    have hne : ((73 : CodePoint) == c) = false := by
      rw [beq_eq_false_iff_ne]
      rintro rfl
      simp [Decimal.isDigit] at hc
    simp [afterPrefix, show lit "-Infinity" = [45, 73, 110, 102, 105, 110, 105, 116, 121] from rfl,
      List.isPrefixOf, hne]
  rw [hs, List.cons_append, scanAtom]
  simp only [show wordOf 0x2D = some (lit "-Infinity", .float (lit "-Infinity")) from rfl, hp,
    scanNumber]
  rw [if_pos (by decide)]

private theorem intText_cases (n : Int) :
    (0 ≤ n ∧ intText n = Decimal.decimal n.natAbs) ∨
      (n < 0 ∧ intText n = 0x2D :: Decimal.decimal n.natAbs) := by
  unfold intText
  split
  · next hn => exact .inr ⟨hn, rfl⟩
  · next hn => exact .inl ⟨by omega, rfl⟩

private theorem scanUnsigned_decimal (sign : Text) (n : Nat) {rest : Text} (hr : Stops rest) :
    scanUnsigned sign (Decimal.decimal n ++ rest) =
      some (.int (if sign.isEmpty then (n : Int) else -n), rest) := by
  simp only [scanUnsigned, scanDigits_decimal n hr.noDigit, scanFraction_stops hr,
    scanExponent_stops hr, List.isEmpty_nil, Bool.and_self, ↓reduceIte, Decimal.value_decimal]

private theorem scanAtom_intText (n : Int) {rest : Text} (hr : Stops rest) :
    scanAtom (intText n ++ rest) = some (.int n, rest) := by
  rcases intText_cases n with ⟨hn, hs⟩ | ⟨hn, hs⟩
  · rw [hs, scanAtom_decimal, scanUnsigned_decimal [] n.natAbs hr]
    simp only [List.isEmpty_nil, ↓reduceIte]
    congr 3
    omega
  · rw [hs, List.cons_append, scanAtom_negative, scanUnsigned_decimal [0x2D] n.natAbs hr]
    simp only [List.isEmpty_cons, Bool.false_eq_true, ↓reduceIte]
    congr 3
    omega

private theorem scanExponent_append {exponent rest : Text} (hr : Stops rest)
    (h : exponent = [] ∨ ∃ mark d ds, exponent = 0x65 :: (mark ++ d :: ds) ∧
      (mark = [] ∨ mark = lit "+" ∨ mark = lit "-") ∧ (d :: ds).all Decimal.isDigit = true) :
    scanExponent (exponent ++ rest) = (exponent, rest) := by
  rcases h with rfl | ⟨mark, d, ds, rfl, hmark, hdigits⟩
  · exact scanExponent_stops hr
  · obtain ⟨ht, hd⟩ := takeWhile_digits hdigits hr.noDigit
    have hdigit : Decimal.isDigit d = true := List.all_eq_true.mp hdigits d (by simp)
    simp only [Decimal.isDigit, Bool.and_eq_true, decide_eq_true_eq] at hdigit
    have hmarked : ¬(d.val = 0x2B ∨ d.val = 0x2D) := by omega
    have hmark65 : ((0x65 : CodePoint).val = 0x65 ∨ (0x65 : CodePoint).val = 0x45) :=
      .inl (by decide)
    rw [List.cons_append] at ht hd
    rw [List.cons_append, List.append_assoc, List.cons_append]
    rcases hmark with rfl | rfl | rfl
    · simp only [List.nil_append, scanExponent, if_pos hmark65, if_neg hmarked, ht, hd,
        List.isEmpty_cons, Bool.false_eq_true, ↓reduceIte]
      rfl
    · have hplus : (0x2B : CodePoint).val = 0x2B ∨ (0x2B : CodePoint).val = 0x2D :=
        .inl (by decide)
      simp only [show lit "+" = [0x2B] from rfl, List.cons_append, List.nil_append, scanExponent,
        if_pos hmark65, if_pos hplus, ht, hd, List.isEmpty_cons, Bool.false_eq_true, ↓reduceIte]
    · have hminus : (0x2D : CodePoint).val = 0x2B ∨ (0x2D : CodePoint).val = 0x2D :=
        .inr (by decide)
      simp only [show lit "-" = [0x2D] from rfl, List.cons_append, List.nil_append, scanExponent,
        if_pos hmark65, if_pos hminus, ht, hd, List.isEmpty_cons, Bool.false_eq_true, ↓reduceIte]

private theorem scanFraction_append {fraction rest : Text} (hr : NoDigit rest)
    (hdot : ∀ c, rest.head? = some c → c.val ≠ 0x2E)
    (h : fraction = [] ∨ ∃ d ds, fraction = 0x2E :: d :: ds ∧
      (d :: ds).all Decimal.isDigit = true) :
    scanFraction (fraction ++ rest) = (fraction, rest) := by
  rcases h with rfl | ⟨d, ds, rfl, hdigits⟩
  · rw [List.nil_append]
    unfold scanFraction
    split
    · next c d rest =>
      rw [if_neg]
      exact fun h ↦ hdot c rfl h.1
    · rfl
  · obtain ⟨ht, hd⟩ := takeWhile_digits hdigits hr
    have hdigit : Decimal.isDigit d = true := List.all_eq_true.mp hdigits d (by simp)
    rw [List.cons_append] at ht hd
    rw [List.cons_append, List.cons_append, scanFraction, if_pos ⟨by decide, hdigit⟩, ht, hd]

/-- A float's text is scanned as that float. -/
private theorem scanAtom_float {l : Text} (hl : FloatLiteral l) {rest : Text} (hr : Stops rest) :
    scanAtom (l ++ rest) = some (.float l, rest) := by
  obtain ⟨sign, n, fraction, exponent, rfl, hsign, hfraction, hexponent, hne⟩ := hl.parts
  have hhead : ∀ c, (exponent ++ rest).head? = some c →
      Decimal.isDigit c = false ∧ c.val ≠ 0x2E := by
    intro c hc
    rcases hexponent with rfl | ⟨mark, d, ds, rfl, -, -⟩
    · exact ⟨(hr c hc).1, (hr c hc).2.1⟩
    · cases hc
      exact ⟨by decide, by decide⟩
  have hdigits : NoDigit (fraction ++ (exponent ++ rest)) := by
    rcases hfraction with rfl | ⟨d, ds, rfl, -⟩
    · exact fun c hc ↦ (hhead c hc).1
    · exact noDigit_cons (by decide) _
  have hempty : (fraction.isEmpty && exponent.isEmpty) = false := by
    rw [Bool.and_eq_false_iff, List.isEmpty_eq_false_iff, List.isEmpty_eq_false_iff]
    exact hne
  have hscan : ∀ sign : Text, scanUnsigned sign (Decimal.decimal n ++ (fraction ++
      (exponent ++ rest))) =
        some (.float (sign ++ Decimal.decimal n ++ fraction ++ exponent), rest) := by
    intro sign
    simp only [scanUnsigned, scanDigits_decimal n hdigits,
      scanFraction_append (fun c hc ↦ (hhead c hc).1) (fun c hc ↦ (hhead c hc).2) hfraction,
      scanExponent_append hr hexponent, hempty, Bool.false_eq_true, ↓reduceIte]
  simp only [List.append_assoc] at hscan ⊢
  rcases hsign with rfl | rfl
  · rw [List.nil_append, List.nil_append, scanAtom_decimal, hscan]
    rfl
  · rw [show lit "-" = [0x2D] from rfl, List.singleton_append, List.singleton_append,
      scanAtom_negative, hscan]
    rfl

private theorem afterPrefix_append (word rest : Text) :
    afterPrefix word (word ++ rest) = some rest := by
  simp [afterPrefix]

private theorem scanAtom_null (rest : Text) : scanAtom (lit "null" ++ rest) = some (.null, rest) := by
  have h := afterPrefix_append (lit "null") rest
  rw [show lit "null" = [110, 117, 108, 108] from rfl] at h ⊢
  simp only [List.cons_append, List.nil_append] at h ⊢
  simp only [scanAtom, show wordOf 110 = some ([110, 117, 108, 108], .null) from rfl, h]

private theorem scanAtom_true (rest : Text) :
    scanAtom (lit "true" ++ rest) = some (.bool true, rest) := by
  have h := afterPrefix_append (lit "true") rest
  rw [show lit "true" = [116, 114, 117, 101] from rfl] at h ⊢
  simp only [List.cons_append, List.nil_append] at h ⊢
  simp only [scanAtom, show wordOf 116 = some ([116, 114, 117, 101], .bool true) from rfl, h]

private theorem scanAtom_false (rest : Text) :
    scanAtom (lit "false" ++ rest) = some (.bool false, rest) := by
  have h := afterPrefix_append (lit "false") rest
  rw [show lit "false" = [102, 97, 108, 115, 101] from rfl] at h ⊢
  simp only [List.cons_append, List.nil_append] at h ⊢
  simp only [scanAtom, show wordOf 102 = some ([102, 97, 108, 115, 101], .bool false) from rfl, h]

/-! ### Values -/

/-- What a value is read back as: in the ASCII styles, with surrogate pairs joined. -/
def readback (style : Style) (v : Json) : Json := if style.ensureAscii then joined v else v

@[simp] theorem readback_null (style : Style) : readback style .null = .null := by
  simp [readback]

@[simp] theorem readback_bool (style : Style) (b : Bool) :
    readback style (.bool b) = .bool b := by
  simp [readback]

@[simp] theorem readback_int (style : Style) (n : Int) : readback style (.int n) = .int n := by
  simp [readback]

@[simp] theorem readback_float (style : Style) (l : Text) :
    readback style (.float l) = .float l := by
  simp [readback]

@[simp] theorem readback_str (style : Style) (s : Text) :
    readback style (.str s) = .str (readText style s) := by
  unfold readback readText
  split <;> simp

@[simp] theorem readback_arr (style : Style) (items : List Json) :
    readback style (.arr items) = .arr (items.map (readback style)) := by
  unfold readback
  split <;> simp

theorem readback_obj (style : Style) {members : Dict Json} (h : ∀ m ∈ members, PairFree m.1) :
    readback style (.obj members) = .obj (Dict.mapValues (readback style) members) := by
  unfold readback
  split
  · rw [joined_obj h]
  · simp [Dict.mapValues]

private theorem skipBlank_cons {c : CodePoint} (h : isBlank c = false) (s : Text) :
    skipBlank (c :: s) = c :: s := by
  rw [skipBlank, List.dropWhile_cons, h]
  rfl

private theorem skipBlank_lineBreak (style : Style) (level : Nat) (s : Text) :
    skipBlank (lineBreak style level ++ s) = skipBlank s := by
  unfold lineBreak skipBlank
  split
  · rfl
  · rw [List.cons_append, List.dropWhile_cons, if_pos (by decide),
      List.dropWhile_append_of_pos]
    intro c hc
    rw [(List.mem_replicate.mp hc).2]
    decide

private theorem stops_lineBreak (style : Style) (level : Nat) {s : Text} (h : Stops s) :
    Stops (lineBreak style level ++ s) := by
  unfold lineBreak
  split
  · exact h
  · exact stops_cons (by decide) _

/-- The first character of a number. -/
private def NumberStart (c : CodePoint) : Prop := Decimal.isDigit c = true ∨ c = 0x2D

private theorem numberStart_spec {c : CodePoint} (h : NumberStart c) :
    isBlank c = false ∧ c.val ≠ 0x5D ∧ c.val < 0x80 := by
  rcases h with hc | rfl
  · simp only [Decimal.isDigit, Bool.and_eq_true, decide_eq_true_eq] at hc
    refine ⟨?_, by omega, by omega⟩
    simp only [isBlank, Bool.or_eq_false_iff, beq_eq_false_iff_ne]
    omega
  · decide

/-- The text of an integer or a float starts with a digit or a sign. -/
private theorem number_head {l : Text} (h : (∃ n, l = intText n) ∨ FloatLiteral l) :
    ∃ c s, l = c :: s ∧ NumberStart c := by
  have hsigned : ∀ (n : Nat) (t : Text), ∃ c s, Decimal.decimal n ++ t = c :: s ∧
      NumberStart c := by
    intro n t
    obtain ⟨c, s, hs, hc⟩ := decimal_eq_cons n
    exact ⟨c, s ++ t, by rw [hs]; rfl, .inl hc⟩
  rcases h with ⟨n, rfl⟩ | hl
  · rcases intText_cases n with ⟨-, hs⟩ | ⟨-, hs⟩
    · rw [hs, ← List.append_nil (Decimal.decimal _)]
      exact hsigned _ _
    · exact ⟨_, _, hs, .inr rfl⟩
  · obtain ⟨sign, n, fraction, exponent, rfl, hsign, -⟩ := hl.parts
    rcases hsign with rfl | rfl
    · exact hsigned n _
    · exact ⟨_, _, rfl, .inr rfl⟩

/-- A number is scanned as an atom. -/
private theorem scanValue_number {l : Text} (h : (∃ n, l = intText n) ∨ FloatLiteral l)
    (fuel : Nat) (rest : Text) : scanValue (fuel + 1) (l ++ rest) = scanAtom (l ++ rest) := by
  obtain ⟨c, s, rfl, hc⟩ := number_head h
  have hne : c.val ≠ 0x22 ∧ c.val ≠ 0x7B ∧ c.val ≠ 0x5B := by
    rcases hc with hc | rfl
    · simp only [Decimal.isDigit, Bool.and_eq_true, decide_eq_true_eq] at hc
      omega
    · decide
  rw [List.cons_append, scanValue, if_neg hne.1, if_neg hne.2.1, if_neg hne.2.2]

/-- A rendering starts with an ASCII character other than white space or a closing bracket. -/
private theorem render_head (style : Style) (level : Nat) {v : Json} (hw : Writable v) :
    ∃ c s, render style level v = c :: s ∧ isBlank c = false ∧ c.val ≠ 0x5D ∧ c.val < 0x80 := by
  cases v with
  | null => exact ⟨_, _, by rw [render]; rfl, by decide, by decide, by decide⟩
  | bool b => cases b <;> exact ⟨_, _, by rw [render]; rfl, by decide, by decide, by decide⟩
  | int n =>
    rw [render]
    obtain ⟨c, s, hs, hc⟩ := number_head (.inl ⟨n, rfl⟩)
    exact ⟨c, s, hs, numberStart_spec hc⟩
  | float l =>
    rw [render]
    obtain ⟨c, s, hs, hc⟩ := number_head (.inr hw)
    exact ⟨c, s, hs, numberStart_spec hc⟩
  | str s => exact ⟨_, _, by rw [render, quote], by decide, by decide, by decide⟩
  | arr items =>
    cases items with
    | nil => exact ⟨_, _, by rw [render]; rfl, by decide, by decide, by decide⟩
    | cons v items => exact ⟨_, _, by rw [render], by decide, by decide, by decide⟩
  | obj members =>
    cases members with
    | nil => exact ⟨_, _, by rw [render]; rfl, by decide, by decide, by decide⟩
    | cons m members =>
      exact ⟨_, _, by rw [show m = (m.1, m.2) from rfl, render], by decide, by decide, by decide⟩

private theorem skipBlank_render (style : Style) (level : Nat) {v : Json} (hw : Writable v)
    (s : Text) : skipBlank (render style level v ++ s) = render style level v ++ s := by
  obtain ⟨c, t, ht, hc, -⟩ := render_head style level hw
  rw [ht, List.cons_append, skipBlank_cons hc]

/-- The statement of the round trip for one value, before any rest of the text. -/
private def ReadsBack (style : Style) (v : Json) : Prop :=
  ∀ level fuel rest, Stops rest → (render style level v).length < fuel →
    scanValue fuel (render style level v ++ rest) = some (readback style v, rest)

private theorem stops_renderItems (style : Style) (level level' : Nat) (items : List Json)
    (rest : Text) :
    Stops (renderItems style level items ++ (lineBreak style level' ++ 0x5D :: rest)) := by
  cases items with
  | nil => exact stops_lineBreak _ _ (stops_cons (by decide) _)
  | cons v items => exact stops_cons (by decide) _

private theorem scanItems_render (style : Style) (level level' : Nat) (v : Json)
    (items : List Json) (hw : ∀ w ∈ v :: items, Writable w)
    (ih : ∀ w ∈ v :: items, ReadsBack style w) (fuel : Nat) (rest : Text)
    (hf : (render style level v).length + (renderItems style level items).length + 1 < fuel) :
    scanItems fuel (render style level v ++ (renderItems style level items ++
      (lineBreak style level' ++ 0x5D :: rest))) =
        some ((v :: items).map (readback style), rest) := by
  induction items generalizing v fuel with
  | nil =>
    obtain ⟨fuel, rfl⟩ : ∃ n, fuel = n + 1 := ⟨fuel - 1, by omega⟩
    have hv := ih v (by simp) level fuel _ (stops_renderItems style level level' [] rest)
      (by omega)
    rw [scanItems, hv]
    simp only [renderItems, List.nil_append, Option.bind_eq_bind, Option.bind_some,
      skipBlank_lineBreak, skipBlank_cons (show isBlank 0x5D = false from by decide)]
    rfl
  | cons w items ihi =>
    obtain ⟨fuel, rfl⟩ : ∃ n, fuel = n + 1 := ⟨fuel - 1, by omega⟩
    simp only [renderItems, List.length_cons, List.length_append] at hf
    have hv := ih v (by simp) level fuel _
      (stops_renderItems style level level' (w :: items) rest) (by omega)
    have hrest := ihi w (fun x hx ↦ hw x (List.mem_cons_of_mem v hx))
      (fun x hx ↦ ih x (List.mem_cons_of_mem v hx)) fuel (by omega)
    rw [scanItems, hv]
    simp only [renderItems, List.cons_append, List.append_assoc, Option.bind_eq_bind,
      Option.bind_some, skipBlank_cons (show isBlank 0x2C = false from by decide),
      skipBlank_lineBreak, skipBlank_render style level (hw w (by simp))]
    rw [if_neg (by decide), if_pos (by decide), hrest]
    rfl

private theorem stops_renderMembers (style : Style) (level level' : Nat)
    (members : List (Text × Json)) (rest : Text) :
    Stops (renderMembers style level members ++ (lineBreak style level' ++ 0x7D :: rest)) := by
  cases members with
  | nil => exact stops_lineBreak _ _ (stops_cons (by decide) _)
  | cons m members =>
    rw [show m = (m.1, m.2) from rfl, renderMembers]
    exact stops_cons (by decide) _

private theorem skipBlank_colon (style : Style) (s : Text) :
    ∃ t, skipBlank (colon style ++ s) = 0x3A :: t ∧ skipBlank t = skipBlank s := by
  unfold colon
  split
  · exact ⟨s, rfl, rfl⟩
  · exact ⟨0x20 :: s, rfl, by rw [skipBlank, List.dropWhile_cons, if_pos (by decide)]; rfl⟩

/-- A member read back: the key as text, then the value, up to what follows it. -/
private theorem scanMember_render (style : Style) (level : Nat) (k : Text) (v : Json)
    (hw : Writable v) (ih : ReadsBack style v) (fuel : Nat) (rest : Text) (hr : Stops rest)
    (hf : (render style level v).length < fuel) :
    scanMembers (fuel + 1) (quote style.ensureAscii k ++ (colon style ++
      (render style level v ++ rest))) =
        match skipBlank rest with
        | [] => none
        | d :: s =>
          if d.val = 0x7D then some ([(readText style k, readback style v)], s)
          else if d.val = 0x2C then
            (scanMembers fuel (skipBlank s)).map fun p ↦
              ((readText style k, readback style v) :: p.1, p.2)
          else none := by
  obtain ⟨t, ht, hs⟩ := skipBlank_colon style (render style level v ++ rest)
  have hk := scanString_flatMap style.ensureAscii k
    (colon style ++ (render style level v ++ rest))
  have hj : joinElements (k.flatMap (elementsOf style.ensureAscii)) = readText style k := by
    have := scanString_quoted style k []
    rw [scanString_flatMap] at this
    simpa using this
  rw [skipBlank_render style level hw] at hs
  rw [quote, List.cons_append, List.append_assoc, List.singleton_append, scanMembers,
    if_pos (by decide), hk]
  simp only [Option.bind_eq_bind, Option.bind_some, ht]
  rw [if_pos (by decide), hs, ih level fuel rest hr hf]
  simp only [Option.bind_some, hj]
  cases skipBlank rest with
  | nil => rfl
  | cons d s =>
    simp only
    split
    · rfl
    · split
      · cases scanMembers fuel (skipBlank s) <;> rfl
      · rfl

private theorem scanMembers_render (style : Style) (level level' : Nat) (k : Text) (v : Json)
    (members : List (Text × Json)) (hw : ∀ m ∈ (k, v) :: members, Writable m.2)
    (ih : ∀ m ∈ (k, v) :: members, ReadsBack style m.2) (fuel : Nat) (rest : Text)
    (hf : (render style level v).length + (renderMembers style level members).length + 1 < fuel) :
    scanMembers fuel (quote style.ensureAscii k ++ (colon style ++ (render style level v ++
      (renderMembers style level members ++ (lineBreak style level' ++ 0x7D :: rest))))) =
        some (((k, v) :: members).map fun m ↦ (readText style m.1, readback style m.2), rest) := by
  induction members generalizing k v fuel with
  | nil =>
    obtain ⟨fuel, rfl⟩ : ∃ n, fuel = n + 1 := ⟨fuel - 1, by omega⟩
    rw [scanMember_render style level k v (hw (k, v) (by simp)) (ih (k, v) (by simp)) fuel _
      (stops_renderMembers style level level' [] rest) (by omega)]
    simp only [renderMembers, List.nil_append, skipBlank_lineBreak,
      skipBlank_cons (show isBlank 0x7D = false from by decide)]
    rfl
  | cons m members ihm =>
    obtain ⟨fuel, rfl⟩ : ∃ n, fuel = n + 1 := ⟨fuel - 1, by omega⟩
    obtain ⟨l, w⟩ := m
    simp only [renderMembers, List.length_cons, List.length_append] at hf
    have hrest := ihm l w (fun x hx ↦ hw x (List.mem_cons_of_mem _ hx))
      (fun x hx ↦ ih x (List.mem_cons_of_mem _ hx)) fuel (by omega)
    have hquote : ∀ s, skipBlank (quote style.ensureAscii l ++ s) = quote style.ensureAscii l ++ s :=
      fun s ↦ skipBlank_cons (by decide) _
    rw [scanMember_render style level k v (hw (k, v) (by simp)) (ih (k, v) (by simp)) fuel _
      (stops_renderMembers style level level' ((l, w) :: members) rest) (by omega)]
    simp only [renderMembers, List.cons_append, List.append_assoc,
      skipBlank_cons (show isBlank 0x2C = false from by decide), skipBlank_lineBreak, hquote]
    rw [if_neg (by decide), if_pos (by decide), hrest]
    rfl

/-- Every value the program writes reads back before any rest that does not continue it. -/
private theorem readsBack (style : Style) {v : Json} (hw : Writable v) : ReadsBack style v := by
  induction v with
  | null =>
    intro level fuel rest hr hf
    obtain ⟨fuel, rfl⟩ : ∃ n, fuel = n + 1 := ⟨fuel - 1, by omega⟩
    rw [render, readback_null]
    exact scanAtom_null rest
  | bool b =>
    intro level fuel rest hr hf
    obtain ⟨fuel, rfl⟩ : ∃ n, fuel = n + 1 := ⟨fuel - 1, by omega⟩
    cases b
    · rw [render, readback_bool]
      exact scanAtom_false rest
    · rw [render, readback_bool]
      exact scanAtom_true rest
  | int n =>
    intro level fuel rest hr hf
    obtain ⟨fuel, rfl⟩ : ∃ n, fuel = n + 1 := ⟨fuel - 1, by omega⟩
    rw [render, readback_int, scanValue_number (.inl ⟨n, rfl⟩)]
    exact scanAtom_intText n hr
  | float l =>
    intro level fuel rest hr hf
    obtain ⟨fuel, rfl⟩ : ∃ n, fuel = n + 1 := ⟨fuel - 1, by omega⟩
    rw [render, readback_float, scanValue_number (.inr hw)]
    exact scanAtom_float hw hr
  | str s =>
    intro level fuel rest hr hf
    obtain ⟨fuel, rfl⟩ : ∃ n, fuel = n + 1 := ⟨fuel - 1, by omega⟩
    have hs := scanString_quoted style s rest
    rw [render, quote, List.cons_append, List.append_assoc, List.singleton_append, scanValue,
      if_pos (by decide), readback_str]
    rw [scanString_flatMap] at hs ⊢
    simpa using hs
  | arr items ih =>
    intro level fuel rest hr hf
    obtain ⟨fuel, rfl⟩ : ∃ n, fuel = n + 1 := ⟨fuel - 1, by omega⟩
    cases items with
    | nil =>
      rw [render, readback_arr]
      rfl
    | cons v items =>
      have hw' := (writable_arr _).mp hw
      obtain ⟨c, s, hs, -, hc, -⟩ := render_head style (level + 1) (hw' v (by simp))
      rw [render] at hf ⊢
      simp only [List.length_cons, List.length_append, List.length_nil] at hf
      have hitems := scanItems_render style (level + 1) level v items hw'
        (fun w hm ↦ ih w hm (hw' w hm)) fuel rest (by omega)
      simp only [List.cons_append, List.append_assoc, List.nil_append, scanValue,
        skipBlank_lineBreak, skipBlank_render style (level + 1) (hw' v (by simp))]
      rw [if_neg (by decide), if_neg (by decide), if_pos (by decide)]
      rw [hs] at hitems ⊢
      simp only [List.cons_append] at hitems ⊢
      rw [if_neg hc, hitems, readback_arr]
      rfl
  | obj members ih =>
    intro level fuel rest hr hf
    obtain ⟨fuel, rfl⟩ : ∃ n, fuel = n + 1 := ⟨fuel - 1, by omega⟩
    have hw' := (writable_obj _).mp hw
    cases members with
    | nil =>
      rw [render, readback_obj style (by simp)]
      rfl
    | cons m members =>
      obtain ⟨k, v⟩ := m
      rw [render] at hf ⊢
      simp only [List.length_cons, List.length_append, List.length_nil] at hf
      have hmembers := scanMembers_render style (level + 1) level k v members
        (fun m hm ↦ (hw'.2 m hm).2) (fun m hm ↦ ih m hm (hw'.2 m hm).2) fuel rest (by omega)
      have hquote : ∀ s, skipBlank (quote style.ensureAscii k ++ s) =
          quote style.ensureAscii k ++ s := fun s ↦ skipBlank_cons (by decide) _
      have hkeys : ((k, v) :: members).map (fun m ↦ (readText style m.1, readback style m.2)) =
          Dict.mapValues (readback style) ((k, v) :: members) := by
        refine List.map_congr_left fun m hm ↦ ?_
        have := (joinSurrogates_eq_self_iff m.1).mpr (hw'.2 m hm).1
        simp [readText, this]
      have hdistinct : (Dict.mapValues (readback style) ((k, v) :: members)).Distinct := by
        rw [Dict.Distinct, Dict.keys_mapValues]
        exact hw'.1
      simp only [List.cons_append, List.append_assoc, List.nil_append, scanValue,
        skipBlank_lineBreak, hquote]
      rw [if_neg (by decide), if_pos (by decide)]
      rw [quote] at hmembers ⊢
      simp only [List.cons_append] at hmembers ⊢
      rw [if_neg (by decide), hmembers, hkeys, readback_obj style fun m hm ↦ (hw'.2 m hm).1]
      simp only [Option.bind_eq_bind, Option.bind_some, Dict.ofPairs_of_distinct hdistinct]
      rfl

/-- Scanning a written value consumes it and leaves what follows. -/
theorem scanValue_dumps_append (style : Style) {v : Json} (hw : Writable v) {rest : Text}
    (hr : Stops rest) {fuel : Nat} (hf : (dumps style v).length < fuel) :
    scanValue fuel (dumps style v ++ rest) = some (readback style (sortKeys v), rest) := by
  rw [dumps_eq] at hf ⊢
  exact readsBack style hw.sortKeys 0 fuel rest hr hf

/-- Scanning a written value consumes all of it. -/
theorem scanValue_dumps (style : Style) {v : Json} (hw : Writable v) {fuel : Nat}
    (hf : (dumps style v).length < fuel) :
    scanValue fuel (dumps style v) = some (readback style (sortKeys v), []) := by
  have hread := @scanValue_dumps_append style _ hw [] (fun _ h ↦ by cases h) _ hf
  rwa [List.append_nil] at hread

/-- Reading what was written, its members in the order they are in, gives the value back. -/
theorem parse_render (style : Style) {v : Json} (hw : Writable v) :
    parse (render style 0 v) = some (readback style v) := by
  obtain ⟨c, s, hc, hb, -, hlt⟩ := render_head style 0 hw
  have hskip : skipBlank (render style 0 v) = render style 0 v := by
    have := skipBlank_render style 0 hw []
    rwa [List.append_nil] at this
  have hbom : (render style 0 v).head? ≠ some 0xFEFF := by
    rw [hc]
    intro h
    cases h
    exact absurd hlt (by decide)
  have hscan := readsBack style hw 0 _ [] (fun _ h ↦ by cases h)
    (Nat.lt_succ_self (render style 0 v).length)
  rw [List.append_nil] at hscan
  rw [parse, if_neg hbom, hskip, hscan]
  rfl

/-- Reading what was written gives the ordered value back. -/
theorem parse_dumps (style : Style) {v : Json} (hw : Writable v) :
    parse (dumps style v) = some (readback style (sortKeys v)) := by
  rw [dumps_eq]
  exact parse_render style hw.sortKeys

/-- `json.loads(json.dumps(value))`. -/
@[simp] theorem loads_dumps (style : Style) {v : Json} (hw : Writable v) :
    loads (dumps style v) = .ok (readback style (sortKeys v)) := by
  rw [loads, parse_dumps style hw, orRaise_some]

/-! ### Objects -/

/-- The members of an object after writing and reading it. -/
def readMembers (style : Style) (members : Dict Json) : Dict Json :=
  (Dict.mapValues (fun v ↦ readback style (sortKeys v)) members).sorted

@[simp] theorem mem_keys_readMembers {style : Style} {members : Dict Json} {key : Text} :
    key ∈ (readMembers style members).keys ↔ key ∈ members.keys := by
  rw [readMembers, Dict.mem_keys_sorted, Dict.keys_mapValues]

/-- Reading a written object gives its members. -/
theorem loads_dumps_obj (style : Style) {members : Dict Json} (hw : Writable (.obj members)) :
    loads (dumps style (.obj members)) = .ok (.obj (readMembers style members)) := by
  have hs := (writable_obj _).mp (by simpa only [sortKeys_obj] using hw.sortKeys)
  have hm : ∀ v, Dict.mapValues (readback style) (Dict.mapValues sortKeys v) =
      Dict.mapValues (fun v ↦ readback style (sortKeys v)) v := by
    intro v
    simp [Dict.mapValues]
  rw [loads_dumps style hw, sortKeys_obj, readback_obj style fun m hm ↦ (hs.2 m hm).1,
    ← Dict.sorted_mapValues, hm, readMembers]

/-- A line feed is white space. -/
theorem isBlank_newline : ∀ c ∈ [Lines.newline], isBlank c = true := by
  intro c hc
  rw [List.mem_singleton.mp hc]
  rfl

/-- White space after a written object is skipped. -/
theorem loads_dumps_obj_append (style : Style) {members : Dict Json}
    (hw : Writable (.obj members)) {rest : Text} (hr : ∀ c ∈ rest, isBlank c = true) :
    loads (dumps style (.obj members) ++ rest) = .ok (.obj (readMembers style members)) := by
  have hstops : Stops rest := by
    intro c hc
    have hblank := hr c (List.mem_of_mem_head? hc)
    simp only [isBlank, Bool.or_eq_true, beq_iff_eq] at hblank
    have hdigit : Decimal.isDigit c = false := by
      simp only [Decimal.isDigit, Bool.and_eq_false_imp, decide_eq_true_eq, decide_eq_false_iff_not]
      omega
    exact ⟨hdigit, by omega, by omega, by omega⟩
  have hrest : skipBlank rest = [] := List.dropWhile_eq_nil_iff.mpr hr
  obtain ⟨r, hhead⟩ := dumps_obj_head style members
  have hskip : skipBlank (dumps style (.obj members) ++ rest) =
      dumps style (.obj members) ++ rest := by
    rw [hhead]
    rfl
  have hlen : (dumps style (.obj members)).length <
      (dumps style (.obj members) ++ rest).length + 1 := by
    rw [List.length_append]
    omega
  have hparse : parse (dumps style (.obj members) ++ rest) =
      some (readback style (sortKeys (.obj members))) := by
    unfold parse
    rw [if_neg (by rw [hhead]; simp), hskip, scanValue_dumps_append style hw hstops hlen]
    simp [hrest]
  rw [← loads_dumps_obj style hw, loads_dumps style hw, loads, hparse, orRaise_some]

/-- Looking up a member of a written object: the member as read back. -/
@[simp] theorem get?_readMembers (style : Style) {members : Dict Json} (hd : members.Distinct)
    (key : Text) : (readMembers style members).get? key =
      (members.get? key).map fun v ↦ readback style (sortKeys v) := by
  rw [readMembers, Dict.get?_sorted, Dict.get?_mapValues]
  rw [Dict.Distinct, Dict.keys_mapValues]
  exact hd

private theorem joined_eq_self {v : Json} (hw : Writable v) (h : ∀ s ∈ texts v, PairFree s) :
    joined v = v := by
  induction v with
  | null | bool | int | float => simp
  | str s => rw [joined_str, (joinSurrogates_eq_self_iff s).mpr (h s (by simp))]
  | arr items ih =>
    have hw' := (writable_arr items).mp hw
    rw [joined_arr, List.map_congr_left fun v hv ↦
      ih v hv (hw' v hv) fun s hs ↦ h s (mem_texts_arr.mpr ⟨v, hv, hs⟩), List.map_id']
  | obj members ih =>
    have hw' := (writable_obj members).mp hw
    rw [joined_obj fun m hm ↦ (hw'.2 m hm).1, Dict.mapValues,
      List.map_congr_left fun m hm ↦ by
        rw [ih m hm (hw'.2 m hm).2 fun s hs ↦ h s (mem_texts_obj.mpr ⟨m, hm, .inr hs⟩)],
      List.map_id']

/-- A value without surrogate pairs is read back as it is, in every style. -/
theorem readback_eq_self (style : Style) {v : Json} (hw : Writable v)
    (h : ∀ s ∈ texts v, PairFree s) : readback style v = v := by
  unfold readback
  split
  · exact joined_eq_self hw h
  · rfl

/-- A member without surrogate pairs is read back as it was, its own members ordered. -/
theorem get?_readMembers_of_pairFree (style : Style) {members : Dict Json}
    (hw : Writable (.obj members)) (h : ∀ s ∈ texts (.obj members), PairFree s) {key : Text}
    {v : Json} (hv : members.get? key = some v) :
    (readMembers style members).get? key = some (sortKeys v) := by
  have hw' := (writable_obj members).mp hw
  have hm := Dict.mem_of_get? hv
  rw [get?_readMembers style hw'.1, hv, Option.map_some,
    readback_eq_self style (hw'.2 _ hm).2.sortKeys fun s hs ↦
      h s (mem_texts_obj.mpr ⟨_, hm, .inr ((mem_texts_sortKeys _).mp hs)⟩)]

/-- Dropping a member from a written object without surrogate pairs and writing the rest
canonically is writing the original rest canonically. -/
theorem sortKeys_erase_readMembers (style : Style) {members : Dict Json}
    (hw : Writable (.obj members)) (h : ∀ s ∈ texts (.obj members), PairFree s) (key : Text) :
    sortKeys (.obj ((readMembers style members).erase key)) =
      sortKeys (.obj (members.erase key)) := by
  have hw' := (writable_obj members).mp hw
  have hread : readMembers style members = (Dict.mapValues sortKeys members).sorted := by
    rw [readMembers]
    congr 1
    refine List.map_congr_left fun m hm ↦ ?_
    dsimp only
    rw [readback_eq_self style (hw'.2 m hm).2.sortKeys fun s hs ↦
      h s (mem_texts_obj.mpr ⟨m, hm, .inr ((mem_texts_sortKeys _).mp hs)⟩)]
  have hd : (Dict.mapValues sortKeys members).Distinct := by
    rw [Dict.Distinct, Dict.keys_mapValues]
    exact hw'.1
  have hidem : ∀ d : Dict Json, Dict.mapValues sortKeys (Dict.mapValues sortKeys d) =
      Dict.mapValues sortKeys d := by
    intro d
    simp [Dict.mapValues]
  rw [hread, sortKeys_obj, sortKeys_obj, Dict.sorted_mapValues, Dict.sorted_erase_sorted hd,
    Dict.erase_mapValues, ← Dict.sorted_mapValues, hidem]

/-- A written object with one more member, read and stripped of it, is written as the
object itself: how a stored digest is checked against the members it covers. -/
theorem dumps_erase_readMembers (style style' : Style) {members : Dict Json} {key : Text}
    {v : Json} (hw : Writable (.obj (members ++ [(key, v)])))
    (h : ∀ s ∈ texts (.obj (members ++ [(key, v)])), PairFree s) (hk : key ∉ members.keys) :
    dumps style' (.obj ((readMembers style (members ++ [(key, v)])).erase key)) =
      dumps style' (.obj members) := by
  rw [dumps_eq, sortKeys_erase_readMembers style hw h, Dict.erase_append_singleton hk, dumps_eq]

end Json
end StateWake.Base
