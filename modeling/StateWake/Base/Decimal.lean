import Mathlib.Algebra.Group.Nat.Defs
import StateWake.Base.Text

/-!
# Decimal digits

The decimal text of a natural number, with and without a fixed width, and the value
of a run of digits. Reading inverts writing; an unpadded numeral has no leading zero.
-/

namespace StateWake.Base.Decimal

/-- An ASCII digit. -/
def isDigit (c : CodePoint) : Bool := 48 ≤ c.val && c.val ≤ 57

/-- The digit of a number below ten. -/
def digit (n : Nat) : CodePoint := Fin.ofNat 0x110000 (48 + n % 10)

/-- The value of a run of digits, most significant first. -/
def value (s : Text) : Nat := s.foldl (fun acc c ↦ acc * 10 + (c.val - 48)) 0

private def decimalFuel : Nat → Nat → Text
  | 0, _ => []
  | fuel + 1, n => if n < 10 then [digit n] else decimalFuel fuel (n / 10) ++ [digit n]

/-- `str(n)` for a natural number. -/
def decimal (n : Nat) : Text := decimalFuel (n + 1) n

/-- `n` in exactly `width` digits, as `%0{width}d` writes a number that fits. -/
def padded : Nat → Nat → Text
  | 0, _ => []
  | width + 1, n => padded width (n / 10) ++ [digit n]

/-- The number a text of digits denotes. -/
def number? (s : Text) : Option Nat := if s.all isDigit then some (value s) else none

@[simp] theorem val_digit (n : Nat) : (digit n).val = 48 + n % 10 := by
  simp only [digit, Fin.val_ofNat]
  omega

@[simp] theorem isDigit_digit (n : Nat) : isDigit (digit n) = true := by
  simp only [isDigit, val_digit, Bool.and_eq_true, decide_eq_true_eq]
  omega

/-- One more digit multiplies by ten. -/
theorem value_append_singleton (s : Text) (c : CodePoint) :
    value (s ++ [c]) = value s * 10 + (c.val - 48) := by
  simp [value]

private theorem value_decimalFuel (fuel n : Nat) (h : n < fuel) :
    value (decimalFuel fuel n) = n := by
  induction fuel generalizing n with
  | zero => omega
  | succ fuel ih =>
    rw [decimalFuel]
    split
    · simp only [value, List.foldl_cons, List.foldl_nil, val_digit]
      omega
    · rw [value_append_singleton, ih _ (by omega), val_digit]
      omega

/-- Reading a numeral gives its number. -/
theorem value_decimal (n : Nat) : value (decimal n) = n :=
  value_decimalFuel _ _ (Nat.lt_succ_self n)

private theorem all_decimalFuel (fuel n : Nat) : (decimalFuel fuel n).all isDigit = true := by
  induction fuel generalizing n with
  | zero => rfl
  | succ fuel ih =>
    rw [decimalFuel]
    split <;> simp [ih]

/-- A numeral consists of digits. -/
theorem all_decimal (n : Nat) : (decimal n).all isDigit = true := all_decimalFuel _ _

private theorem decimalFuel_head (fuel n : Nat) (h : n < fuel) (hn : 0 < n) :
    ∃ c s, decimalFuel fuel n = c :: s ∧ 49 ≤ c.val := by
  induction fuel generalizing n with
  | zero => omega
  | succ fuel ih =>
    rw [decimalFuel]
    split
    · exact ⟨_, [], rfl, by rw [val_digit]; omega⟩
    · obtain ⟨c, s, hs, hc⟩ := ih (n / 10) (by omega) (by omega)
      exact ⟨c, s ++ [digit n], by rw [hs]; rfl, hc⟩

/-- The numeral of a positive number starts with a nonzero digit. -/
theorem decimal_head {n : Nat} (hn : 0 < n) : ∃ c s, decimal n = c :: s ∧ 49 ≤ c.val :=
  decimalFuel_head _ _ (Nat.lt_succ_self n) hn

theorem decimal_zero : decimal 0 = [digit 0] := rfl

private theorem value_padded (width n : Nat) : value (padded width n) = n % 10 ^ width := by
  induction width generalizing n with
  | zero => simp [padded, value, Nat.mod_one]
  | succ width ih =>
    rw [padded, value_append_singleton, ih, val_digit, Nat.pow_succ, Nat.mul_comm (10 ^ width) 10,
      Nat.mod_mul]
    omega

private theorem all_padded (width n : Nat) : (padded width n).all isDigit = true := by
  induction width generalizing n with
  | zero => rfl
  | succ width ih => simp [padded, ih]

/-- Reading a number that fits its fixed width gives it back. -/
theorem number?_padded {width n : Nat} (h : n < 10 ^ width) :
    number? (padded width n) = some n := by
  rw [number?, if_pos (all_padded width n), value_padded, Nat.mod_eq_of_lt h]

@[simp] theorem length_padded (width n : Nat) : (padded width n).length = width := by
  induction width generalizing n with
  | zero => rfl
  | succ width ih => simp [padded, ih]

/-- Every element of a fixed-width numeral is a digit. -/
theorem isDigit_of_mem_padded {width n : Nat} {c : CodePoint} (h : c ∈ padded width n) :
    isDigit c = true := List.all_eq_true.mp (all_padded width n) c h

end StateWake.Base.Decimal
