import StateWake.Base.Utf8

/-!
# URL-safe base64 without padding

`base64.urlsafe_b64encode` with its padding stripped, and `base64.urlsafe_b64decode` of a text
padded again. Decoding is the lenient one of the standard library: characters outside the
alphabet are skipped. Decoding inverts encoding. Library support; no repository notion
occurs here.
-/

namespace StateWake.Base.Base64

open Text

/-- The character of a six-bit value. -/
def symbol (n : Nat) : CodePoint :=
  Fin.ofNat 0x110000 (if n < 26 then 65 + n else if n < 52 then 71 + n
    else if n < 62 then n - 4 else if n = 62 then 45 else 95)

/-- The six-bit value of a character; both alphabets decode. -/
def sextet? (c : CodePoint) : Option Nat :=
  if 65 ≤ c.val ∧ c.val ≤ 90 then some (c.val - 65)
  else if 97 ≤ c.val ∧ c.val ≤ 122 then some (c.val - 71)
  else if 48 ≤ c.val ∧ c.val ≤ 57 then some (c.val + 4)
  else if c.val = 43 ∨ c.val = 45 then some 62
  else if c.val = 47 ∨ c.val = 95 then some 63
  else none

/-- The padding character `=`. -/
def padding : CodePoint := 61

/-- `urlsafe_b64encode(value).rstrip(b"=")`. -/
def encode : Bytes → Text
  | [] => []
  | [a] => [symbol (a.toNat / 4), symbol (a.toNat % 4 * 16)]
  | [a, b] => [symbol (a.toNat / 4), symbol (a.toNat % 4 * 16 + b.toNat / 16),
      symbol (b.toNat % 16 * 4)]
  | a :: b :: c :: rest =>
    symbol (a.toNat / 4) :: symbol (a.toNat % 4 * 16 + b.toNat / 16) ::
      symbol (b.toNat % 16 * 4 + c.toNat / 64) :: symbol (c.toNat % 64) :: encode rest

/-- `binascii.a2b_base64` from a position in its group of four, with the bits left over and
the padding met since the last data character; `none` stands for `binascii.Error`. -/
def scan (position left pads : Nat) : Text → Option Bytes
  | [] => if position = 0 then some [] else none
  | c :: s =>
    if c = padding then
      if 2 ≤ position then
        if 4 ≤ position + (pads + 1) then some [] else scan position left (pads + 1) s
      else scan position left pads s
    else
      match sextet? c with
      | none => scan position left pads s
      | some v =>
        match position with
        | 0 => scan 1 v 0 s
        | 1 => (scan 2 (v % 16) 0 s).map (UInt8.ofNat (left * 4 + v / 16) :: ·)
        | 2 => (scan 3 (v % 4) 0 s).map (UInt8.ofNat (left * 16 + v / 4) :: ·)
        | _ => (scan 0 0 0 s).map (UInt8.ofNat (left * 64 + v) :: ·)

/-- The padding `"=" * (-len(value) % 4)`. -/
def pad (s : Text) : Text := List.replicate ((4 - s.length % 4) % 4) padding

/-- `urlsafe_b64decode(value + "=" * (-len(value) % 4))`; only ASCII text decodes. -/
def decode (s : Text) : Option Bytes :=
  if s.all fun c ↦ decide (c.val < 0x80) then scan 0 0 0 (s ++ pad s) else none

private theorem symbol_spec (n : Nat) (h : n < 64) :
    sextet? (symbol n) = some n ∧ symbol n ≠ padding ∧ (symbol n).val < 0x80 := by
  revert n
  decide

variable {n left pads : Nat}

private theorem scan_symbol (position : Nat) (s : Text) (h : n < 64) :
    scan position left pads (symbol n :: s) = match position with
      | 0 => scan 1 n 0 s
      | 1 => (scan 2 (n % 16) 0 s).map (UInt8.ofNat (left * 4 + n / 16) :: ·)
      | 2 => (scan 3 (n % 4) 0 s).map (UInt8.ofNat (left * 16 + n / 4) :: ·)
      | _ => (scan 0 0 0 s).map (UInt8.ofNat (left * 64 + n) :: ·) := by
  obtain ⟨hs, hp, -⟩ := symbol_spec n h
  rw [scan, if_neg hp, hs]

private theorem scan_first (s : Text) (h : n < 64) :
    scan 0 left pads (symbol n :: s) = scan 1 n 0 s := scan_symbol 0 s h

private theorem scan_second (s : Text) (h : n < 64) :
    scan 1 left pads (symbol n :: s) =
      (scan 2 (n % 16) 0 s).map (UInt8.ofNat (left * 4 + n / 16) :: ·) := scan_symbol 1 s h

private theorem scan_third (s : Text) (h : n < 64) :
    scan 2 left pads (symbol n :: s) =
      (scan 3 (n % 4) 0 s).map (UInt8.ofNat (left * 16 + n / 4) :: ·) := scan_symbol 2 s h

private theorem scan_fourth (s : Text) (h : n < 64) :
    scan 3 left pads (symbol n :: s) =
      (scan 0 0 0 s).map (UInt8.ofNat (left * 64 + n) :: ·) := scan_symbol 3 s h

private theorem ofNat_eq (a : UInt8) {n : Nat} (h : n = a.toNat) : UInt8.ofNat n = a := by
  rw [h, UInt8.ofNat_toNat]

/-- A group of three bytes is read back, and the rest after it. -/
private theorem scan_group (a b c : UInt8) (s : Text) :
    scan 0 0 0 (symbol (a.toNat / 4) :: symbol (a.toNat % 4 * 16 + b.toNat / 16) ::
      symbol (b.toNat % 16 * 4 + c.toNat / 64) :: symbol (c.toNat % 64) :: s) =
        (scan 0 0 0 s).map fun rest ↦ a :: b :: c :: rest := by
  have ha := a.toNat_lt
  have hb := b.toNat_lt
  have hc := c.toNat_lt
  rw [scan_first _ (by omega), scan_second _ (by omega), scan_third _ (by omega),
    scan_fourth _ (by omega)]
  simp only [Option.map_map]
  rw [ofNat_eq a (by omega), ofNat_eq b (by omega), ofNat_eq c (by omega)]
  rfl

private theorem scan_encode (bytes : Bytes) :
    scan 0 0 0 (encode bytes ++ pad (encode bytes)) = some bytes := by
  induction bytes using encode.induct with
  | case1 => rfl
  | case2 a =>
    have ha := a.toNat_lt
    rw [show encode [a] ++ pad (encode [a]) =
      symbol (a.toNat / 4) :: symbol (a.toNat % 4 * 16) :: [padding, padding] from rfl,
      scan_first _ (by omega), scan_second _ (by omega), ofNat_eq a (by omega)]
    rfl
  | case3 a b =>
    have ha := a.toNat_lt
    have hb := b.toNat_lt
    rw [show encode [a, b] ++ pad (encode [a, b]) =
      symbol (a.toNat / 4) :: symbol (a.toNat % 4 * 16 + b.toNat / 16) ::
        symbol (b.toNat % 16 * 4) :: [padding] from rfl,
      scan_first _ (by omega), scan_second _ (by omega), scan_third _ (by omega),
      ofNat_eq a (by omega), ofNat_eq b (by omega)]
    rfl
  | case4 a b c rest ih =>
    have hpad : pad (encode (a :: b :: c :: rest)) = pad (encode rest) := by
      simp only [pad, encode, List.length_cons]
      congr 1
      omega
    rw [hpad, encode]
    simp only [List.cons_append]
    rw [scan_group, ih, Option.map_some]

/-- Encoded text is ASCII. -/
theorem isAscii_encode (bytes : Bytes) : Utf8.IsAscii (encode bytes) := by
  have hsymbol : ∀ n, n < 64 → (symbol n).val < 0x80 := fun n hn ↦ (symbol_spec n hn).2.2
  induction bytes using encode.induct with
  | case1 => exact fun c hc ↦ nomatch hc
  | case2 a =>
    have ha := a.toNat_lt
    intro c hc
    simp only [encode, List.mem_cons, List.not_mem_nil, or_false] at hc
    rcases hc with rfl | rfl <;> exact hsymbol _ (by omega)
  | case3 a b =>
    have ha := a.toNat_lt
    have hb := b.toNat_lt
    intro c hc
    simp only [encode, List.mem_cons, List.not_mem_nil, or_false] at hc
    rcases hc with rfl | rfl | rfl <;> exact hsymbol _ (by omega)
  | case4 a b c rest ih =>
    have ha := a.toNat_lt
    have hb := b.toNat_lt
    have hc' := c.toNat_lt
    intro d hd
    simp only [encode, List.mem_cons] at hd
    rcases hd with rfl | rfl | rfl | rfl | hd
    · exact hsymbol _ (by omega)
    · exact hsymbol _ (by omega)
    · exact hsymbol _ (by omega)
    · exact hsymbol _ (by omega)
    · exact ih d hd

/-- Decoding inverts encoding. -/
@[simp] theorem decode_encode (bytes : Bytes) : decode (encode bytes) = some bytes := by
  rw [decode, if_pos, scan_encode]
  exact List.all_eq_true.mpr fun c hc ↦ decide_eq_true (isAscii_encode bytes c hc)

theorem encode_injective : Function.Injective encode := fun a b h ↦ by
  have hd := decode_encode a
  rw [h, decode_encode] at hd
  exact (Option.some.inj hd).symm

/-- What decodes is ASCII. -/
theorem isAscii_of_decode {s : Text} {bytes : Bytes} (h : decode s = some bytes) :
    Utf8.IsAscii s := by
  rw [decode] at h
  split at h
  · next hs => exact fun c hc ↦ of_decide_eq_true (List.all_eq_true.mp hs c hc)
  · cases h

/-- The text of nonempty bytes is nonempty. -/
theorem encode_ne_nil {bytes : Bytes} (h : bytes ≠ []) : encode bytes ≠ [] := by
  intro he
  have hd := decode_encode bytes
  rw [he] at hd
  exact h (Option.some.inj hd).symm

/-- Encoded bytes are visible. -/
theorem not_blank_encode {bytes : Bytes} (h : bytes ≠ []) : blank (encode bytes) = false := by
  have hsymbol : ∀ n, n < 64 → isSpace (symbol n) = false := by decide
  have hhead : ∃ n rest, n < 64 ∧ encode bytes = symbol n :: rest := by
    match bytes with
    | [] => exact absurd rfl h
    | [a] | [a, _] | a :: _ :: _ :: _ =>
      have ha := a.toNat_lt
      exact ⟨a.toNat / 4, _, by omega, rfl⟩
  obtain ⟨n, rest, hn, hrest⟩ := hhead
  rw [← Bool.not_eq_true, blank_iff, hrest]
  intro hall
  have hspace := hall (symbol n) List.mem_cons_self
  rw [hsymbol n hn] at hspace
  cases hspace

end StateWake.Base.Base64
