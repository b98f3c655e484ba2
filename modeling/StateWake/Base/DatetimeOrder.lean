import StateWake.Base.Datetime
import Mathlib.Data.List.Lex
import Mathlib.Order.Fin.Basic

/-!
# The order of timestamps

UTC timestamps written by `isoformat` sort as text in the order of their instants: every field has
a fixed width, and where a fraction of a second is left out the offset takes its place, whose sign
sorts before the point.
-/

namespace StateWake.Base

open Text Decimal

/-! ### Fixed-width fields -/

/-- Texts with first parts of one length sort by these first. -/
theorem append_lt_append_iff {s s' t t' : Text} (h : s.length = s'.length) :
    s ++ t < s' ++ t' ↔ s < s' ∨ s = s' ∧ t < t' := by
  induction s generalizing s' with
  | nil =>
    obtain rfl := List.length_eq_zero_iff.mp h.symm
    simp
  | cons c s ih =>
    cases s' with
    | nil => cases h
    | cons c' s' =>
      have hlength : s.length = s'.length := Nat.succ.inj h
      simp only [List.cons_append, List.cons_lt_cons_iff, ih hlength, List.cons.injEq]
      constructor
      · rintro (hc | ⟨hc, hs | ⟨hs, ht⟩⟩)
        · exact .inl (.inl hc)
        · exact .inl (.inr ⟨hc, hs⟩)
        · exact .inr ⟨⟨hc, hs⟩, ht⟩
      · rintro ((hc | ⟨hc, hs⟩) | ⟨⟨hc, hs⟩, ht⟩)
        · exact .inl hc
        · exact .inr ⟨hc, .inl hs⟩
        · exact .inr ⟨hc, .inr ⟨hs, ht⟩⟩

/-- A field that is smaller, or the same before a smaller rest, sorts first. -/
theorem padded_append_lt {width n m : Nat} {s t : Text} (hn : n < 10 ^ width) (hm : m < 10 ^ width)
    (h : n < m ∨ n = m ∧ s < t) : padded width n ++ s < padded width m ++ t := by
  have hlength : (padded width n).length = (padded width m).length := by
    rw [length_padded, length_padded]
  rw [append_lt_append_iff hlength]
  rcases h with h | ⟨rfl, h⟩
  · left
    induction width generalizing n m with
    | zero => omega
    | succ width ih =>
      have hlength' : (padded width (n / 10)).length = (padded width (m / 10)).length := by
        rw [length_padded, length_padded]
      rw [padded, padded, append_lt_append_iff hlength']
      rw [Nat.pow_succ] at hn hm
      by_cases hd : n / 10 < m / 10
      · exact .inl (ih (by omega) (by omega) (by rw [length_padded, length_padded]) hd)
      · have heq : n / 10 = m / 10 := by omega
        refine .inr ⟨by rw [heq], ?_⟩
        rw [List.cons_lt_cons_iff]
        left
        rw [Fin.lt_def, val_digit, val_digit]
        omega
  · exact .inr ⟨rfl, h⟩

/-! ### Dates -/

namespace Date

/-- Months follow one another. -/
theorem daysBeforeMonth_mono (y : Nat) {m m' : Nat} (hm : 1 ≤ m) (h : m ≤ m') :
    daysBeforeMonth y m ≤ daysBeforeMonth y m' := by
  induction m', h using Nat.le_induction with
  | base => exact le_rfl
  | succ k hk ih =>
    rw [daysBeforeMonth_succ y k (by omega)]
    omega

private theorem toOrdinal_le (t : Date) : daysBeforeMonth t.year t.month + t.day ≤
    if isLeap t.year then 366 else 365 := by
  have hmono := daysBeforeMonth_mono t.year (by have := t.month_pos; omega)
    (Nat.succ_le_succ t.month_le)
  rw [daysBeforeMonth_succ t.year t.month t.month_pos, Nat.succ_eq_add_one,
    daysBeforeMonth_succ t.year 12 (by omega), daysBeforeMonth_december] at hmono
  have hdecember : daysInMonth t.year 12 = 31 := rfl
  have hday := t.day_le
  rw [hdecember] at hmono
  split at hmono <;> simp_all <;> omega

private theorem years_mono {y y' : Nat} (hy : 1 ≤ y) (h : y < y') :
    (y - 1) * 365 + (y - 1) / 4 - (y - 1) / 100 + (y - 1) / 400 +
        (if isLeap y then 366 else 365) ≤
      (y' - 1) * 365 + (y' - 1) / 4 - (y' - 1) / 100 + (y' - 1) / 400 := by
  induction y', h using Nat.le_induction with
  | base =>
    rw [← leap_step y hy]
    exact le_rfl
  | succ k hk ih =>
    have hstep := leap_step k (by omega)
    rw [Nat.add_sub_cancel, hstep]
    omega

/-- A later date comes later in its year, or in a later one. -/
theorem lt_of_toOrdinal_lt {t u : Date} (h : t.toOrdinal < u.toOrdinal) :
    t.year < u.year ∨ t.year = u.year ∧
      (t.month < u.month ∨ t.month = u.month ∧ t.day < u.day) := by
  unfold toOrdinal at h
  rcases Nat.lt_trichotomy t.year u.year with hy | hy | hy
  · exact .inl hy
  · refine .inr ⟨hy, ?_⟩
    rw [hy] at h
    rcases Nat.lt_trichotomy t.month u.month with hm | hm | hm
    · exact .inl hm
    · rw [hm] at h
      exact .inr ⟨hm, by omega⟩
    · have hmono := daysBeforeMonth_mono u.year (by omega) (Nat.succ_le_of_lt hm)
      rw [Nat.succ_eq_add_one, daysBeforeMonth_succ u.year u.month u.month_pos] at hmono
      have hday := u.day_le
      have hpos := t.day_pos
      omega
  · have hmono := years_mono u.year_pos hy
    have hle := toOrdinal_le u
    have hpos := t.day_pos
    omega

/-- A date is known by its ordinal. -/
theorem toOrdinal_injective : Function.Injective toOrdinal := by
  intro t u h
  have hlt (v w : Date) (hvw : v.toOrdinal = w.toOrdinal) : ¬(v.year < w.year ∨
      v.year = w.year ∧ (v.month < w.month ∨ v.month = w.month ∧ v.day < w.day)) := by
    intro hlex
    unfold toOrdinal at hvw
    rcases hlex with hy | ⟨hy, hm | ⟨hm, hd⟩⟩
    · have hmono := years_mono v.year_pos hy
      have hle := toOrdinal_le v
      have hpos := w.day_pos
      omega
    · have hmono := daysBeforeMonth_mono v.year (by omega) (Nat.succ_le_of_lt hm)
      rw [Nat.succ_eq_add_one, daysBeforeMonth_succ v.year v.month v.month_pos] at hmono
      have hday := v.day_le
      have hpos := w.day_pos
      rw [hy] at hvw hmono hday
      omega
    · rw [hy, hm] at hvw
      omega
  have htu := hlt t u h
  have hut := hlt u t h.symm
  obtain ⟨y, m, d⟩ := t
  obtain ⟨y', m', d'⟩ := u
  simp only [Date.mk.injEq] at htu hut ⊢
  omega

end Date

/-! ### Timestamps -/

private theorem fraction_lt {n m : Nat} (hm : m < 1000000) (h : n < m) :
    (if n = 0 then [] else lit "." ++ padded 6 n) ++ lit "+00:00" <
      (if m = 0 then [] else lit "." ++ padded 6 m) ++ lit "+00:00" := by
  rw [if_neg (by omega : ¬m = 0)]
  by_cases hn : n = 0
  · rw [if_pos hn, List.nil_append]
    exact List.cons_lt_cons_iff.mpr (.inl (by decide))
  · rw [if_neg hn, List.append_assoc, List.append_assoc]
    apply (append_lt_append_iff rfl).mpr
    exact .inr ⟨rfl, padded_append_lt (by omega) (by omega) (.inl h)⟩

/-- A timestamp that denotes an earlier instant is the smaller text. -/
theorem isoformat_lt {t u : Datetime} (h : t.instant < u.instant) : isoformat t < isoformat u := by
  have htm := t.micros_lt
  have hum := u.micros_lt
  have hty := t.date.year_le
  have huy := u.date.year_le
  have hto := t.date.month_le
  have huo := u.date.month_le
  have htd := le_trans t.date.day_le (Date.daysInMonth_le _ _)
  have hud := le_trans u.date.day_le (Date.daysInMonth_le _ _)
  simp only [microsPerDay] at htm hum
  have hday : t.date.toOrdinal < u.date.toOrdinal ∨ t.date = u.date ∧ t.micros < u.micros := by
    simp only [Datetime.instant, microsPerDay] at h
    by_cases hordinal : t.date.toOrdinal = u.date.toOrdinal
    · right
      exact ⟨Date.toOrdinal_injective hordinal, by omega⟩
    · left
      omega
  have hlex : t.date.year < u.date.year ∨ t.date.year = u.date.year ∧
      (t.date.month < u.date.month ∨ t.date.month = u.date.month ∧
        (t.date.day < u.date.day ∨ t.date.day = u.date.day ∧ t.micros < u.micros)) := by
    rcases hday with hday | ⟨hday, hmicros⟩
    · have := Date.lt_of_toOrdinal_lt hday
      omega
    · rw [hday]
      exact .inr ⟨rfl, .inr ⟨rfl, .inr ⟨rfl, hmicros⟩⟩⟩
  simp only [isoformat, isoformatBody, List.append_assoc]
  have hsep {c s' t' : Text} (hs : s' < t') : c ++ s' < c ++ t' :=
    (append_lt_append_iff rfl).mpr (.inr ⟨rfl, hs⟩)
  apply padded_append_lt (by omega) (by omega)
  refine hlex.imp_right (And.imp_right fun hlex ↦ hsep ?_)
  apply padded_append_lt (by omega) (by omega)
  refine hlex.imp_right (And.imp_right fun hlex ↦ hsep ?_)
  apply padded_append_lt (by omega) (by omega)
  refine hlex.imp_right (And.imp_right fun hmicros ↦ hsep ?_)
  -- the time of day, a field at a time
  apply padded_append_lt (by omega) (by omega)
  by_cases hh : t.micros / 1000000 / 3600 < u.micros / 1000000 / 3600
  · exact .inl hh
  refine .inr ⟨by omega, hsep (padded_append_lt (by omega) (by omega) ?_)⟩
  by_cases hn : t.micros / 1000000 / 60 % 60 < u.micros / 1000000 / 60 % 60
  · exact .inl hn
  refine .inr ⟨by omega, hsep (padded_append_lt (by omega) (by omega) ?_)⟩
  by_cases hs : t.micros / 1000000 % 60 < u.micros / 1000000 % 60
  · exact .inl hs
  exact .inr ⟨by omega, fraction_lt (by omega) (by omega)⟩

/-- A written time is not blank. -/
theorem not_blank_isoformat (t : Datetime) : blank (isoformat t) = false := by
  by_contra h
  rw [Bool.not_eq_false, blank_iff] at h
  have hcolon := h (ofChar ':') (List.mem_append_right _ (by decide))
  exact absurd hcolon (by decide)

/-- A timestamp is known by its text. -/
theorem isoformat_injective : Function.Injective isoformat := by
  intro t u h
  have ht := fromisoformat_isoformat t
  rw [h, fromisoformat_isoformat u] at ht
  cases ht
  rfl

/-- A timestamp is known by its instant. -/
theorem Datetime.instant_injective : Function.Injective Datetime.instant := by
  intro t u h
  have htm := t.micros_lt
  have hum := u.micros_lt
  simp only [Datetime.instant, microsPerDay] at h htm hum
  have hdate : t.date = u.date := Date.toOrdinal_injective (by omega)
  have hmicros : t.micros = u.micros := by
    rw [hdate] at h
    omega
  obtain ⟨date, micros, hlt⟩ := t
  obtain ⟨date', micros', hlt'⟩ := u
  cases hdate
  cases hmicros
  rfl

/-- Timestamps sort as their instants do. -/
theorem isoformat_le_iff {t u : Datetime} : isoformat t ≤ isoformat u ↔ t.instant ≤ u.instant := by
  constructor
  · intro h
    by_contra hlt
    exact absurd (isoformat_lt (not_le.mp hlt)) (not_lt_of_ge h)
  · intro h
    by_cases heq : t.instant = u.instant
    · rw [Datetime.instant_injective heq]
    · exact le_of_lt (isoformat_lt (lt_of_le_of_ne h heq))

end StateWake.Base
