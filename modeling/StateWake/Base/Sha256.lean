import Mathlib.Algebra.Group.Nat.Defs
import StateWake.Base.Utf8

/-!
# SHA-256

`hashlib.sha256(content).hexdigest()`. Words are naturals below 2^32 with the reduction
written out. The program relies on one property of every digest, its lowercase
hexadecimal form; freedom from collisions is never assumed of the function, only of the
messages a result names.
-/

namespace StateWake.Base

open Text

namespace Sha256

/-- 2^32. -/
def modulus : Nat := 4294967296

/-- The round constants. -/
def roundConstants : List Nat := [
  0x428a2f98, 0x71374491, 0xb5c0fbcf, 0xe9b5dba5, 0x3956c25b, 0x59f111f1, 0x923f82a4, 0xab1c5ed5,
  0xd807aa98, 0x12835b01, 0x243185be, 0x550c7dc3, 0x72be5d74, 0x80deb1fe, 0x9bdc06a7, 0xc19bf174,
  0xe49b69c1, 0xefbe4786, 0x0fc19dc6, 0x240ca1cc, 0x2de92c6f, 0x4a7484aa, 0x5cb0a9dc, 0x76f988da,
  0x983e5152, 0xa831c66d, 0xb00327c8, 0xbf597fc7, 0xc6e00bf3, 0xd5a79147, 0x06ca6351, 0x14292967,
  0x27b70a85, 0x2e1b2138, 0x4d2c6dfc, 0x53380d13, 0x650a7354, 0x766a0abb, 0x81c2c92e, 0x92722c85,
  0xa2bfe8a1, 0xa81a664b, 0xc24b8b70, 0xc76c51a3, 0xd192e819, 0xd6990624, 0xf40e3585, 0x106aa070,
  0x19a4c116, 0x1e376c08, 0x2748774c, 0x34b0bcb5, 0x391c0cb3, 0x4ed8aa4a, 0x5b9cca4f, 0x682e6ff3,
  0x748f82ee, 0x78a5636f, 0x84c87814, 0x8cc70208, 0x90befffa, 0xa4506ceb, 0xbef9a3f7, 0xc67178f2]

/-- The eight chaining words. -/
structure State where
  a : Nat
  b : Nat
  c : Nat
  d : Nat
  e : Nat
  f : Nat
  g : Nat
  h : Nat

/-- The initial chaining words. -/
def initial : State :=
  ⟨0x6a09e667, 0xbb67ae85, 0x3c6ef372, 0xa54ff53a, 0x510e527f, 0x9b05688c, 0x1f83d9ab, 0x5be0cd19⟩

/-- Rotation to the right. -/
def rotr (n x : Nat) : Nat := (x >>> n) ||| ((x <<< (32 - n)) % modulus)

/-- One round of the compression function. -/
def round (s : State) (k w : Nat) : State :=
  let s1 := rotr 6 s.e ^^^ rotr 11 s.e ^^^ rotr 25 s.e
  let choice := (s.e &&& s.f) ^^^ ((modulus - 1 - s.e) &&& s.g)
  let t1 := (s.h + s1 + choice + k + w) % modulus
  let s0 := rotr 2 s.a ^^^ rotr 13 s.a ^^^ rotr 22 s.a
  let majority := (s.a &&& s.b) ^^^ (s.a &&& s.c) ^^^ (s.b &&& s.c)
  ⟨(t1 + (s0 + majority)) % modulus, s.a, s.b, s.c, (s.d + t1) % modulus, s.e, s.f, s.g⟩

/-- The rounds, over a sliding window of sixteen schedule words. -/
def rounds : List Nat → List Nat → State → State
  | [], _, s => s
  | _, [], s => s
  | k :: ks, w :: ws, s =>
    let s0 := rotr 7 (ws.getD 0 0) ^^^ rotr 18 (ws.getD 0 0) ^^^ (ws.getD 0 0 >>> 3)
    let s1 := rotr 17 (ws.getD 13 0) ^^^ rotr 19 (ws.getD 13 0) ^^^ (ws.getD 13 0 >>> 10)
    rounds ks (ws ++ [(s1 + ws.getD 8 0 + s0 + w) % modulus]) (round s k w)

/-- Wordwise sum of chaining values. -/
def add (s t : State) : State :=
  ⟨(s.a + t.a) % modulus, (s.b + t.b) % modulus, (s.c + t.c) % modulus, (s.d + t.d) % modulus,
    (s.e + t.e) % modulus, (s.f + t.f) % modulus, (s.g + t.g) % modulus, (s.h + t.h) % modulus⟩

/-- Big-endian words. -/
def words : Bytes → List Nat
  | a :: b :: c :: d :: rest =>
    (a.toNat * 16777216 + b.toNat * 65536 + c.toNat * 256 + d.toNat) :: words rest
  | _ => []

/-- Compress blocks of sixteen words. -/
def blocks : Nat → List Nat → State → State
  | 0, _, s => s
  | n + 1, ws, s => blocks n (ws.drop 16) (add s (rounds roundConstants (ws.take 16) s))

/-- Message padding: a one bit, zeros and the length in bits. -/
def pad (m : Bytes) : Bytes :=
  m ++ [0x80] ++ List.replicate ((119 - m.length % 64) % 64) 0 ++
    (List.range 8).map fun i ↦ .ofNat (8 * m.length / 256 ^ (7 - i))

/-- The eight hexadecimal digits of a word. -/
def hexWord (x : Nat) : Text := (List.range 8).map fun i ↦ hexDigit (x / 16 ^ (7 - i))

end Sha256

open Sha256 in
/-- `hashlib.sha256(content).hexdigest()`. -/
def sha256 (content : Bytes) : Text :=
  let padded := pad content
  let s := blocks (padded.length / 64) (words padded) initial
  hexWord s.a ++ hexWord s.b ++ hexWord s.c ++ hexWord s.d ++ hexWord s.e ++ hexWord s.f ++
    hexWord s.g ++ hexWord s.h

/-- The digest of given words, for those a proof names: evaluating it takes no text apart. -/
def ofWords (words : List Nat) : Text := words.flatMap Sha256.hexWord

/-- `char in "0123456789abcdef"`. -/
def isLowerHex (c : CodePoint) : Bool :=
  (48 ≤ c.val && c.val ≤ 57) || (97 ≤ c.val && c.val ≤ 102)

/-- `len(value) == 64 and all(char in "0123456789abcdef" for char in value)`. -/
def isSha256 (value : Text) : Bool := value.length == 64 && value.all isLowerHex

private theorem isLowerHex_hexDigit (n : Nat) : isLowerHex (hexDigit n) = true := by
  rw [isLowerHex, val_hexDigit]
  simp only [Bool.or_eq_true, Bool.and_eq_true, decide_eq_true_eq]
  split <;> omega

private theorem length_hexWord (x : Nat) : (Sha256.hexWord x).length = 8 := by
  simp [Sha256.hexWord]

private theorem all_hexWord (x : Nat) : (Sha256.hexWord x).all isLowerHex = true := by
  simp only [Sha256.hexWord, List.all_map, List.all_eq_true, Function.comp_apply]
  exact fun _ _ ↦ isLowerHex_hexDigit _

@[simp] theorem length_sha256 (content : Bytes) : (sha256 content).length = 64 := by
  simp [sha256, length_hexWord]

/-- Every digest is lowercase hexadecimal. -/
@[simp] theorem isSha256_sha256 (content : Bytes) : isSha256 (sha256 content) = true := by
  rw [isSha256, length_sha256]
  simp [sha256, all_hexWord]

theorem isSha256_sha256_nil : isSha256 (sha256 []) = true := isSha256_sha256 []

theorem isSha256_of_mem_none : ∀ s ∈ (none : Option Text), isSha256 s = true := nofun

/-- A digest is never the empty text. -/
@[simp] theorem sha256_ne_nil (content : Bytes) : sha256 content ≠ [] := by
  intro h
  have := length_sha256 content
  rw [h] at this
  cases this

private theorem val_of_isLowerHex {c : CodePoint} (h : isLowerHex c = true) :
    48 ≤ c.val ∧ c.val ≤ 102 := by
  simp only [isLowerHex, Bool.or_eq_true, Bool.and_eq_true, decide_eq_true_eq] at h
  omega

/-- A text in digest form is ASCII. -/
theorem isAscii_of_isSha256 {value : Text} (h : isSha256 value = true) : Utf8.IsAscii value := by
  simp only [isSha256, Bool.and_eq_true, List.all_eq_true] at h
  intro c hc
  have := val_of_isLowerHex (h.2 c hc)
  omega

/-- A text in digest form has no surrogate. -/
theorem surrogateFree_of_isSha256 {value : Text} (h : isSha256 value = true) :
    SurrogateFree value := by
  intro c hc
  have := isAscii_of_isSha256 h c hc
  simp only [isSurrogate, Bool.and_eq_false_iff, decide_eq_false_iff_not]
  omega

/-- A text in digest form is not blank. -/
theorem not_blank_of_isSha256 {value : Text} (h : isSha256 value = true) : blank value = false := by
  simp only [isSha256, Bool.and_eq_true, List.all_eq_true, beq_iff_eq] at h
  cases value with
  | nil => exact absurd h.1 (by decide)
  | cons c value =>
    have hc := val_of_isLowerHex (h.2 c (by simp))
    rw [← Bool.not_eq_true, blank_iff]
    intro hs
    have := hs c (by simp)
    simp only [isSpace, Bool.or_eq_true, Bool.and_eq_true, decide_eq_true_eq, beq_iff_eq] at this
    omega

attribute [irreducible] sha256

end StateWake.Base
