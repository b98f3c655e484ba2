import StateWake.Base.Error

/-!
# Strict UTF-8

`str.encode("utf-8")` and `bytes.decode("utf-8")` over the list models of text and
bytes. Encoding fails exactly on surrogates; decoding rejects overlong forms,
surrogates and values past U+10FFFF. Every encoding decodes to its text.
-/

namespace StateWake.Base

/-- A Python `bytes` value. -/
abbrev Bytes := List UInt8

namespace Utf8

open Text

/-- The UTF-8 form of one code point; surrogates have none. -/
def encodeCodePoint (c : CodePoint) : Option Bytes :=
  let v := c.val
  if v < 0x80 then some [.ofNat v]
  else if v < 0x800 then some [.ofNat (0xC0 + v / 0x40), .ofNat (0x80 + v % 0x40)]
  else if isSurrogate c then none
  else if v < 0x10000 then
    some [.ofNat (0xE0 + v / 0x1000), .ofNat (0x80 + v / 0x40 % 0x40), .ofNat (0x80 + v % 0x40)]
  else
    some [.ofNat (0xF0 + v / 0x40000), .ofNat (0x80 + v / 0x1000 % 0x40),
      .ofNat (0x80 + v / 0x40 % 0x40), .ofNat (0x80 + v % 0x40)]

/-- `str.encode("utf-8")`; `none` stands for `UnicodeEncodeError`. -/
def encode : Text → Option Bytes
  | [] => some []
  | c :: s => do
    let head ← encodeCodePoint c
    let rest ← encode s
    pure (head ++ rest)

/-- A continuation byte. -/
def isTail (b : UInt8) : Bool := 0x80 ≤ b.toNat && b.toNat < 0xC0

/-- `bytes.decode("utf-8")`; `none` stands for `UnicodeDecodeError`. -/
def decode : Bytes → Option Text
  | [] => some []
  | a :: rest =>
    if a.toNat < 0x80 then (decode rest).map (Fin.ofNat 0x110000 a.toNat :: ·)
    else if a.toNat < 0xC2 then none
    else if a.toNat < 0xE0 then
      match rest with
      | b :: rest =>
        if isTail b then
          (decode rest).map
            (Fin.ofNat 0x110000 ((a.toNat - 0xC0) * 0x40 + (b.toNat - 0x80)) :: ·)
        else none
      | [] => none
    else if a.toNat < 0xF0 then
      match rest with
      | b :: c :: rest =>
        let v := (a.toNat - 0xE0) * 0x1000 + (b.toNat - 0x80) * 0x40 + (c.toNat - 0x80)
        if isTail b && isTail c && 0x800 ≤ v && !(0xD800 ≤ v && v ≤ 0xDFFF) then
          (decode rest).map (Fin.ofNat 0x110000 v :: ·)
        else none
      | _ => none
    else if a.toNat < 0xF5 then
      match rest with
      | b :: c :: d :: rest =>
        let v := (a.toNat - 0xF0) * 0x40000 + (b.toNat - 0x80) * 0x1000 +
          (c.toNat - 0x80) * 0x40 + (d.toNat - 0x80)
        if isTail b && isTail c && isTail d && 0x10000 ≤ v && v < 0x110000 then
          (decode rest).map (Fin.ofNat 0x110000 v :: ·)
        else none
      | _ => none
    else none

/-- `str.encode("utf-8")` raising `UnicodeEncodeError`. -/
def toBytes (s : Text) : Except PyError Bytes := orRaise ⟨.unicodeEncodeError, []⟩ (encode s)

/-- `bytes.decode("utf-8")` raising `UnicodeDecodeError`. -/
def ofBytes (b : Bytes) : Except PyError Text := orRaise ⟨.unicodeDecodeError, []⟩ (decode b)

private theorem ofNat_eq_of_val (c : CodePoint) (n : Nat) (h : n = c.val) :
    Fin.ofNat 0x110000 n = c := by
  apply Fin.ext
  simp only [Fin.val_ofNat, h]
  exact Nat.mod_eq_of_lt c.isLt

private theorem decode_encodeCodePoint (c : CodePoint) (head rest : Bytes)
    (h : encodeCodePoint c = some head) :
    decode (head ++ rest) = (decode rest).map (c :: ·) := by
  have hc := c.isLt
  simp only [encodeCodePoint] at h
  split at h
  · -- one byte
    cases h
    rw [decode.eq_def]
    simp only [List.cons_append, List.nil_append, UInt8.toNat_ofNat', Nat.reducePow]
    rw [if_pos (by omega), ofNat_eq_of_val c _ (by omega)]
  · split at h
    · -- two bytes
      cases h
      simp only [List.cons_append, List.nil_append, decode, UInt8.toNat_ofNat', Nat.reducePow,
        isTail, Bool.and_eq_true, decide_eq_true_eq]
      rw [if_neg (by omega), if_neg (by omega), if_pos (by omega), if_pos (by omega),
        ofNat_eq_of_val c _ (by omega)]
    · split at h
      · cases h
      · next hs =>
        simp only [isSurrogate, Bool.and_eq_true, decide_eq_true_eq] at hs
        split at h
        · -- three bytes
          cases h
          simp only [List.cons_append, List.nil_append, decode, UInt8.toNat_ofNat', Nat.reducePow,
            isTail, Bool.and_eq_true, decide_eq_true_eq, Bool.not_eq_true', Bool.and_eq_false_iff,
            decide_eq_false_iff_not]
          rw [if_neg (by omega), if_neg (by omega), if_neg (by omega), if_pos (by omega),
            if_pos (by omega), ofNat_eq_of_val c _ (by omega)]
        · -- four bytes
          cases h
          simp only [List.cons_append, List.nil_append, decode, UInt8.toNat_ofNat', Nat.reducePow,
            isTail, Bool.and_eq_true, decide_eq_true_eq]
          rw [if_neg (by omega), if_neg (by omega), if_neg (by omega), if_neg (by omega),
            if_pos (by omega), if_pos (by omega), ofNat_eq_of_val c _ (by omega)]

/-- Decoding inverts encoding on a prefix, whatever bytes follow it. -/
theorem decode_encode_append (s : Text) (b rest : Bytes) (h : encode s = some b) :
    decode (b ++ rest) = (decode rest).map (s ++ ·) := by
  induction s generalizing b with
  | nil =>
    cases h
    simp
  | cons c s ih =>
    simp only [encode, Option.bind_eq_bind, Option.bind_eq_some_iff, Option.pure_def,
      Option.some.injEq] at h
    obtain ⟨head, hc, tail, ht, rfl⟩ := h
    rw [List.append_assoc, decode_encodeCodePoint c head _ hc, ih tail ht, Option.map_map]
    rfl

/-- Every encoding decodes to its text. -/
theorem decode_encode {s : Text} {b : Bytes} (h : encode s = some b) : decode b = some s := by
  have hd := decode_encode_append s b [] h
  simpa [decode] using hd

private theorem not_tail_of_lt {b : UInt8} (h : b.toNat < 0x80) : isTail b = false := by
  rw [isTail, Bool.and_eq_false_iff]
  exact .inl (decide_eq_false (by omega))

/-- The bytes of the first code point, and what is decoded after them. A byte of ASCII is the code
point by itself. -/
private theorem exists_head {a : UInt8} {rest : Bytes} {s : Text}
    (h : decode (a :: rest) = some s) : ∃ head tail c t, a :: rest = head ++ tail ∧
      1 ≤ head.length ∧ decode tail = some t ∧ s = c :: t ∧
      (∀ more, decode (head ++ more) = (decode more).map (c :: ·)) ∧
      ∀ x ∈ head, x.toNat < 0x80 → head = [x] ∧ c = Fin.ofNat 0x110000 x.toNat := by
  rw [decode.eq_def] at h
  dsimp only at h
  by_cases h₁ : a.toNat < 0x80
  · rw [if_pos h₁, Option.map_eq_some_iff] at h
    obtain ⟨t, ht, rfl⟩ := h
    refine ⟨[a], rest, _, t, rfl, le_rfl, ht, rfl, fun more ↦ ?_, fun x hx _ ↦ ?_⟩
    · rw [List.singleton_append, decode.eq_def]
      exact if_pos h₁
    · rw [List.mem_singleton.mp hx]
      exact ⟨rfl, rfl⟩
  rw [if_neg h₁] at h
  by_cases h₂ : a.toNat < 0xC2
  · rw [if_pos h₂] at h
    cases h
  rw [if_neg h₂] at h
  by_cases h₃ : a.toNat < 0xE0
  · rw [if_pos h₃] at h
    cases rest with
    | nil => cases h
    | cons b rest =>
      dsimp only at h
      by_cases hb : isTail b = true
      · rw [if_pos hb, Option.map_eq_some_iff] at h
        obtain ⟨t, ht, rfl⟩ := h
        refine ⟨[a, b], rest, _, t, rfl, by simp, ht, rfl, fun more ↦ ?_, fun x hx hlt ↦ ?_⟩
        · rw [List.cons_append, List.cons_append, List.nil_append, decode.eq_def]
          dsimp only
          rw [if_neg h₁, if_neg h₂, if_pos h₃, if_pos hb]
        · have htail := not_tail_of_lt hlt
          grind
      · rw [if_neg hb] at h
        cases h
  rw [if_neg h₃] at h
  by_cases h₄ : a.toNat < 0xF0
  · rw [if_pos h₄] at h
    rcases rest with _ | ⟨b, _ | ⟨c, rest⟩⟩
    · cases h
    · cases h
    · dsimp only at h
      split at h
      · next hv =>
        rw [Option.map_eq_some_iff] at h
        obtain ⟨t, ht, rfl⟩ := h
        refine ⟨[a, b, c], rest, _, t, rfl, by simp, ht, rfl, fun more ↦ ?_, fun x hx hlt ↦ ?_⟩
        · rw [List.cons_append, List.cons_append, List.cons_append, List.nil_append,
            decode.eq_def]
          dsimp only
          rw [if_neg h₁, if_neg h₂, if_neg h₃, if_pos h₄, if_pos hv]
        · have htail := not_tail_of_lt hlt
          simp only [Bool.and_eq_true] at hv
          grind
      · cases h
  rw [if_neg h₄] at h
  by_cases h₅ : a.toNat < 0xF5
  · rw [if_pos h₅] at h
    rcases rest with _ | ⟨b, _ | ⟨c, _ | ⟨d, rest⟩⟩⟩
    · cases h
    · cases h
    · cases h
    · dsimp only at h
      split at h
      · next hv =>
        rw [Option.map_eq_some_iff] at h
        obtain ⟨t, ht, rfl⟩ := h
        refine ⟨[a, b, c, d], rest, _, t, rfl, by simp, ht, rfl, fun more ↦ ?_, fun x hx hlt ↦ ?_⟩
        · rw [List.cons_append, List.cons_append, List.cons_append, List.cons_append,
            List.nil_append, decode.eq_def]
          dsimp only
          rw [if_neg h₁, if_neg h₂, if_neg h₃, if_neg h₄, if_pos h₅, if_pos hv]
        · have htail := not_tail_of_lt hlt
          simp only [Bool.and_eq_true] at hv
          grind
      · cases h
  · rw [if_neg h₅] at h
    cases h

/-- What follows decodable bytes is decoded on its own. -/
theorem decode_append {b rest : Bytes} {s : Text} (h : decode b = some s) :
    decode (b ++ rest) = (decode rest).map (s ++ ·) := by
  induction hn : b.length using Nat.strong_induction_on generalizing b s with
  | _ n ih =>
    cases b with
    | nil =>
      cases h
      exact (Option.map_id' (x := decode rest)).symm
    | cons a b =>
      obtain ⟨head, tail, c, t, heq, hlength, htail, rfl, hhead, -⟩ := exists_head h
      have hlt : tail.length < n := by
        rw [← hn, heq, List.length_append]
        omega
      rw [heq, List.append_assoc, hhead, ih _ hlt htail rfl, Option.map_map]
      rfl

/-- A text has no more code points than bytes. -/
theorem length_le_of_decode {b : Bytes} {s : Text} (h : decode b = some s) :
    s.length ≤ b.length := by
  induction hn : b.length using Nat.strong_induction_on generalizing b s with
  | _ n ih =>
    cases b with
    | nil =>
      cases h
      exact Nat.zero_le _
    | cons a b =>
      obtain ⟨head, tail, c, t, heq, hlength, htail, rfl, -⟩ := exists_head h
      rw [heq, List.length_append] at hn
      have hshort := ih tail.length (by omega) htail rfl
      rw [List.length_cons]
      omega

/-- Bytes that end with one of ASCII decode to a text that ends with it. -/
theorem exists_of_decode_append_singleton {b : Bytes} {x : UInt8} (hx : x.toNat < 0x80) {s : Text}
    (h : decode (b ++ [x]) = some s) : ∃ t, s = t ++ [Fin.ofNat 0x110000 x.toNat] := by
  induction hn : b.length using Nat.strong_induction_on generalizing b s with
  | _ n ih =>
    have hne : ∃ a rest, b ++ [x] = a :: rest := List.exists_cons_of_ne_nil (by simp)
    obtain ⟨a, rest, hcons⟩ := hne
    rw [hcons] at h
    obtain ⟨head, tail, c, t, heq, hlength, htail, rfl, -, hascii⟩ := exists_head h
    rw [← hcons] at heq
    rcases List.eq_nil_or_concat tail with hnil | ⟨init, last, hlast⟩
    · rw [hnil, List.append_nil] at heq
      obtain ⟨hhead, hc⟩ := hascii x (by rw [← heq]; simp) hx
      rw [hnil] at htail
      cases htail
      exact ⟨[], by rw [hc]; rfl⟩
    · rw [hlast, List.concat_eq_append] at heq htail
      rw [← List.append_assoc] at heq
      obtain ⟨hb, hx'⟩ := List.append_inj' heq rfl
      rw [← List.singleton_inj.mp hx'] at htail
      have hlt : init.length < n := by
        rw [← hn, hb, List.length_append]
        omega
      obtain ⟨t', ht'⟩ := ih _ hlt htail rfl
      exact ⟨c :: t', by rw [ht']; rfl⟩

/-- Encoding maps concatenation to concatenation. -/
theorem encode_append (s t : Text) :
    encode (s ++ t) = (do let a ← encode s; let b ← encode t; pure (a ++ b)) := by
  induction s with
  | nil => simp [encode]
  | cons c s ih =>
    simp only [List.cons_append, encode, ih]
    cases encodeCodePoint c <;> cases encode s <;> cases encode t <;> simp

/-- The concatenation of two encodable texts is encoded piecewise. -/
theorem encode_append_of_some {s t : Text} {a b : Bytes} (hs : encode s = some a)
    (ht : encode t = some b) : encode (s ++ t) = some (a ++ b) := by
  rw [encode_append, hs, ht]
  rfl

private theorem encodeCodePoint_isSome (c : CodePoint) :
    (encodeCodePoint c).isSome = !isSurrogate c := by
  simp only [encodeCodePoint]
  split
  · next h =>
    have : isSurrogate c = false := by
      simp only [isSurrogate, Bool.and_eq_false_iff, decide_eq_false_iff_not]; omega
    simp [this]
  · split
    · next h =>
      have : isSurrogate c = false := by
        simp only [isSurrogate, Bool.and_eq_false_iff, decide_eq_false_iff_not]; omega
      simp [this]
    · split
      · next h => simp [h]
      · next h =>
        rw [Bool.not_eq_true] at h
        split <;> simp [h]

/-- The texts `encode` accepts are those without surrogates. -/
theorem encode_isSome_iff (s : Text) : (encode s).isSome = true ↔ SurrogateFree s := by
  induction s with
  | nil => simp [encode, SurrogateFree]
  | cons c s ih =>
    have hc := encodeCodePoint_isSome c
    simp only [encode, SurrogateFree, List.forall_mem_cons] at *
    cases h : encodeCodePoint c with
    | none => simp_all
    | some head =>
      rw [h] at hc
      simp only [Option.isSome_some, Bool.true_eq, Bool.not_eq_true'] at hc
      rw [← ih, hc]
      cases encode s <;> simp

/-- A text that was encoded has no surrogate. -/
theorem surrogateFree_of_encode {s : Text} {b : Bytes} (h : encode s = some b) :
    SurrogateFree s := (encode_isSome_iff s).mp (by rw [h]; rfl)

/-- Distinct texts have distinct encodings. -/
theorem encode_inj {s t : Text} {b : Bytes} (hs : encode s = some b) (ht : encode t = some b) :
    s = t := by
  have hd := decode_encode hs
  rw [decode_encode ht] at hd
  exact (Option.some.inj hd).symm

/-! ### ASCII -/

/-- Every code point is below U+0080. -/
def IsAscii (s : Text) : Prop := ∀ c ∈ s, c.val < 0x80

/-- One byte for each code point: the encoding of an ASCII text. -/
def ascii (s : Text) : Bytes := s.map fun c ↦ .ofNat c.val

theorem IsAscii.surrogateFree {s : Text} (h : IsAscii s) : SurrogateFree s := by
  intro c hc
  have hlt := h c hc
  simp only [isSurrogate, Bool.and_eq_false_iff, decide_eq_false_iff_not]
  omega

/-- ASCII texts are encoded byte by byte. -/
theorem encode_of_isAscii {s : Text} (h : IsAscii s) : encode s = some (ascii s) := by
  induction s with
  | nil => rfl
  | cons c s ih =>
    have hc : c.val < 0x80 := h c (by simp)
    have hs := ih fun d hd ↦ h d (List.mem_cons_of_mem c hd)
    simp [encode, encodeCodePoint, hc, hs, ascii]

/-- ASCII bytes decode one by one. -/
theorem decode_ascii {s : Text} (h : IsAscii s) : decode (ascii s) = some s :=
  decode_encode (encode_of_isAscii h)

@[simp] theorem toBytes_of_isAscii {s : Text} (h : IsAscii s) : toBytes s = .ok (ascii s) := by
  rw [toBytes, encode_of_isAscii h, orRaise_some]

@[simp] theorem ofBytes_ascii {s : Text} (h : IsAscii s) : ofBytes (ascii s) = .ok s := by
  rw [ofBytes, decode_ascii h, orRaise_some]

/-- What was encoded decodes to it. -/
theorem ofBytes_of_toBytes {s : Text} {b : Bytes} (h : toBytes s = .ok b) : ofBytes b = .ok s := by
  rw [toBytes, orRaise_eq_ok] at h
  rw [ofBytes, decode_encode h, orRaise_some]

end Utf8
end StateWake.Base
