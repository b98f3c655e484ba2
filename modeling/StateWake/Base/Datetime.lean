import StateWake.Base.Decimal
import StateWake.Base.Error
import Mathlib.Tactic.IntervalCases

/-!
# Timezone-aware timestamps

A `Datetime` is a valid proleptic Gregorian date and a time of day with microseconds;
an `AwareDatetime` adds a UTC offset of less than a day. Only three operations matter
to the program: `astimezone(UTC)`, which overflows at the ends of the calendar,
`isoformat` of a UTC value and `fromisoformat`. Writing and reading a UTC value are
inverse, and comparing timestamps is comparing the instants they denote.
-/

namespace StateWake.Base

open Text Decimal

/-! ### Calendar -/

/-- Gregorian leap years. -/
def isLeap (y : Nat) : Bool := y % 4 == 0 && (y % 100 != 0 || y % 400 == 0)

/-- Days of a month. -/
def daysInMonth (y m : Nat) : Nat :=
  if m = 2 then if isLeap y then 29 else 28
  else if m = 4 ∨ m = 6 ∨ m = 9 ∨ m = 11 then 30
  else 31

/-- A calendar date between 0001-01-01 and 9999-12-31. -/
structure Date where
  year : Nat
  month : Nat
  day : Nat
  year_pos : 1 ≤ year
  year_le : year ≤ 9999
  month_pos : 1 ≤ month
  month_le : month ≤ 12
  day_pos : 1 ≤ day
  day_le : day ≤ daysInMonth year month
  deriving DecidableEq

/-- Microseconds of a day. -/
def microsPerDay : Nat := 86400000000

/-- A date with a time of day in microseconds. -/
structure Datetime where
  date : Date
  micros : Nat
  micros_lt : micros < microsPerDay
  deriving DecidableEq

/-- A `datetime` with `tzinfo`: local fields and the UTC offset in microseconds. -/
structure AwareDatetime where
  «local» : Datetime
  offset : Int
  offset_gt : -(microsPerDay : Int) < offset
  offset_lt : offset < microsPerDay
  deriving DecidableEq

/-- A time of a day, of literals. -/
def Datetime.of (date : Date) (micros : Nat)
    (h : decide (micros < microsPerDay) = true := by exact .refl true) : Datetime :=
  ⟨date, micros, of_decide_eq_true h⟩

/-- A time at an offset, of literals. -/
def AwareDatetime.of («local» : Datetime) (offset : Int)
    (h : decide (-(microsPerDay : Int) < offset ∧ offset < microsPerDay) = true := by
      exact .refl true) : AwareDatetime :=
  ⟨«local», offset, (of_decide_eq_true h).1, (of_decide_eq_true h).2⟩

namespace Date

theorem daysInMonth_le (y m : Nat) : daysInMonth y m ≤ 31 := by
  unfold daysInMonth
  split
  · split <;> omega
  · split <;> omega

theorem daysInMonth_pos (y m : Nat) : 1 ≤ daysInMonth y m := by
  unfold daysInMonth
  split
  · split <;> omega
  · split <;> omega

/-- The date constructor: out-of-range fields raise `ValueError`. -/
def make? (y m d : Nat) : Option Date :=
  if h : 1 ≤ y ∧ y ≤ 9999 ∧ 1 ≤ m ∧ m ≤ 12 ∧ 1 ≤ d ∧ d ≤ daysInMonth y m then
    some ⟨y, m, d, h.1, h.2.1, h.2.2.1, h.2.2.2.1, h.2.2.2.2.1, h.2.2.2.2.2⟩
  else none

@[simp] theorem make?_self (t : Date) : make? t.year t.month t.day = some t := by
  rw [make?, dif_pos ⟨t.year_pos, t.year_le, t.month_pos, t.month_le, t.day_pos, t.day_le⟩]

/-- A day of the calendar, of literals. -/
def of (y m d : Nat)
    (h : decide (1 ≤ y ∧ y ≤ 9999 ∧ 1 ≤ m ∧ m ≤ 12 ∧ 1 ≤ d ∧ d ≤ daysInMonth y m) = true := by
      exact .refl true) : Date :=
  let h := of_decide_eq_true h
  ⟨y, m, d, h.1, h.2.1, h.2.2.1, h.2.2.2.1, h.2.2.2.2.1, h.2.2.2.2.2⟩

/-- The following day; `none` past 9999-12-31. -/
def next? (t : Date) : Option Date :=
  if t.day < daysInMonth t.year t.month then make? t.year t.month (t.day + 1)
  else if t.month < 12 then make? t.year (t.month + 1) 1
  else make? (t.year + 1) 1 1

/-- The preceding day; `none` before 0001-01-01. -/
def prev? (t : Date) : Option Date :=
  if 1 < t.day then make? t.year t.month (t.day - 1)
  else if 1 < t.month then
    make? t.year (t.month - 1) (daysInMonth t.year (t.month - 1))
  else make? (t.year - 1) 12 31

/-- Days before the first of a month in its year. -/
def daysBeforeMonth (y m : Nat) : Nat :=
  ((List.range (m - 1)).map fun i ↦ daysInMonth y (i + 1)).sum

/-- `date.toordinal()`: 1 for 0001-01-01. -/
def toOrdinal (t : Date) : Nat :=
  (t.year - 1) * 365 + (t.year - 1) / 4 - (t.year - 1) / 100 + (t.year - 1) / 400 +
    daysBeforeMonth t.year t.month + t.day

private theorem make?_eq_some {y m d : Nat} {t : Date} (h : make? y m d = some t) :
    t.year = y ∧ t.month = m ∧ t.day = d := by
  unfold make? at h
  split at h
  · cases h
    exact ⟨rfl, rfl, rfl⟩
  · cases h

/-- The days before a month are those before the preceding one and its own. -/
theorem daysBeforeMonth_succ (y m : Nat) (h : 1 ≤ m) :
    daysBeforeMonth y (m + 1) = daysBeforeMonth y m + daysInMonth y m := by
  have hm : m + 1 - 1 = (m - 1) + 1 := by omega
  rw [daysBeforeMonth, hm, List.range_succ, List.map_append, List.sum_append, daysBeforeMonth]
  simp only [List.map_cons, List.map_nil, List.sum_singleton]
  rw [Nat.sub_add_cancel h]

private theorem daysInMonth_december (y : Nat) : daysInMonth y 12 = 31 := rfl

theorem daysBeforeMonth_december (y : Nat) :
    daysBeforeMonth y 12 = if isLeap y then 335 else 334 := by
  simp only [daysBeforeMonth, daysInMonth]
  cases isLeap y <;> rfl

private theorem div_pred (k y : Nat) (hy : 1 ≤ y) :
    y / k = (y - 1) / k + if y % k = 0 then 1 else 0 := by
  obtain ⟨n, rfl⟩ : ∃ n, y = n + 1 := ⟨y - 1, by omega⟩
  rw [Nat.succ_div, Nat.add_sub_cancel]
  simp only [Nat.dvd_iff_mod_eq_zero]

/-- A year of the calendar has 365 or 366 days. -/
theorem leap_step (y : Nat) (h : 1 ≤ y) :
    y * 365 + y / 4 - y / 100 + y / 400 =
      (y - 1) * 365 + (y - 1) / 4 - (y - 1) / 100 + (y - 1) / 400 +
        (if isLeap y then 366 else 365) := by
  have hle : (y - 1) / 100 ≤ (y - 1) / 4 := Nat.div_le_div_left (by decide) (by decide)
  have h100 : y % 100 = 0 → y % 4 = 0 := by omega
  have h400 : y % 400 = 0 → y % 100 = 0 := by omega
  have hleap : isLeap y = true ↔ y % 4 = 0 ∧ (y % 100 ≠ 0 ∨ y % 400 = 0) := by
    simp [isLeap]
  rw [div_pred 4 y h, div_pred 100 y h, div_pred 400 y h]
  simp only [hleap]
  generalize (y - 1) / 4 = a, (y - 1) / 100 = b, (y - 1) / 400 = c at *
  split <;> split <;> split <;> split <;> omega

/-- The following day has the following ordinal. -/
theorem toOrdinal_next? {t u : Date} (h : t.next? = some u) : u.toOrdinal = t.toOrdinal + 1 := by
  have hy := t.year_pos
  have hm := t.month_pos
  have hd := t.day_le
  unfold next? at h
  split at h
  · obtain ⟨h1, h2, h3⟩ := make?_eq_some h
    simp only [toOrdinal, h1, h2, h3]
    omega
  · split at h
    · obtain ⟨h1, h2, h3⟩ := make?_eq_some h
      simp only [toOrdinal, h1, h2, h3, daysBeforeMonth_succ _ _ hm]
      omega
    · obtain ⟨h1, h2, h3⟩ := make?_eq_some h
      have h12 : t.month = 12 := by have := t.month_le; omega
      have hs := leap_step t.year hy
      have hb : daysBeforeMonth (t.year + 1) 1 = 0 := rfl
      have h31 : t.day = 31 := by
        rw [h12, daysInMonth_december] at hd
        rename_i hlt _
        rw [h12, daysInMonth_december] at hlt
        omega
      simp only [toOrdinal, h1, h2, h3, hb, h12, h31, daysBeforeMonth_december,
        Nat.add_sub_cancel, hs]
      cases isLeap t.year <;> simp only [Bool.false_eq_true, ↓reduceIte]

/-- The preceding day has the preceding ordinal. -/
theorem toOrdinal_prev? {t u : Date} (h : t.prev? = some u) : u.toOrdinal + 1 = t.toOrdinal := by
  have hd := t.day_pos
  have hm := t.month_pos
  unfold prev? at h
  split at h
  · obtain ⟨h1, h2, h3⟩ := make?_eq_some h
    simp only [toOrdinal, h1, h2, h3]
    omega
  · split at h
    · obtain ⟨h1, h2, h3⟩ := make?_eq_some h
      have hs := daysBeforeMonth_succ t.year (t.month - 1) (by omega)
      rw [Nat.sub_add_cancel hm] at hs
      simp only [toOrdinal, h1, h2, h3, hs]
      omega
    · obtain ⟨h1, h2, h3⟩ := make?_eq_some h
      have hu := u.year_pos
      have h1m : t.month = 1 := by omega
      have hs := leap_step u.year hu
      have hb : daysBeforeMonth t.year 1 = 0 := rfl
      have h1d : t.day = 1 := by omega
      simp only [toOrdinal, h2, h3, h1m, h1d, hb, daysBeforeMonth_december, ← h1, hs]
      cases isLeap u.year <;> simp only [Bool.false_eq_true, ↓reduceIte]

end Date

/-! ### UTC -/

namespace Datetime

/-- The instant a UTC value denotes, in microseconds of the proleptic calendar. -/
def instant (t : Datetime) : Int := (t.date.toOrdinal : Int) * microsPerDay + t.micros

end Datetime

namespace AwareDatetime

/-- A UTC value as an aware one. -/
def ofUtc (t : Datetime) : AwareDatetime := ⟨t, 0, by decide, by decide⟩

/-- `astimezone(UTC)`; `OverflowError` when the UTC date leaves the calendar. -/
def toUtc (t : AwareDatetime) : Except PyError Datetime :=
  let m := (t.local.micros : Int) - t.offset
  if h : m < 0 then
    match t.local.date.prev? with
    | some d => .ok ⟨d, (m + microsPerDay).toNat, by have := t.offset_lt; omega⟩
    | none => .error ⟨.overflowError, lit "date value out of range"⟩
  else if h' : m < microsPerDay then .ok ⟨t.local.date, m.toNat, by omega⟩
  else
    match t.local.date.next? with
    | some d => .ok ⟨d, (m - microsPerDay).toNat, by
        have := t.offset_gt; have := t.local.micros_lt; omega⟩
    | none => .error ⟨.overflowError, lit "date value out of range"⟩

/-- The instant an aware value denotes: comparison of aware values compares instants. -/
def instant (t : AwareDatetime) : Int := t.local.instant - t.offset

@[simp] theorem toUtc_ofUtc (t : Datetime) : (ofUtc t).toUtc = .ok t := by
  have := t.micros_lt
  simp only [toUtc, ofUtc, Int.sub_zero]
  rw [dif_neg (by omega), dif_pos (by omega)]
  rfl

@[simp] theorem instant_ofUtc (t : Datetime) : (ofUtc t).instant = t.instant := by
  simp [instant, ofUtc]

/-- Conversion to UTC keeps the instant. -/
theorem instant_toUtc {t : AwareDatetime} {u : Datetime} (h : t.toUtc = .ok u) :
    u.instant = t.instant := by
  unfold toUtc at h
  dsimp only at h
  split at h
  · split at h
    · next d hd =>
      have ho := Date.toOrdinal_prev? hd
      have hlt := t.offset_lt
      cases h
      simp only [Datetime.instant, instant, ← ho]
      push_cast
      rw [Int.toNat_of_nonneg (by omega)]
      simp only [microsPerDay] at *
      omega
    · cases h
  · split at h
    · cases h
      simp only [Datetime.instant, instant]
      rw [Int.toNat_of_nonneg (by omega)]
      omega
    · split at h
      · next d hd =>
        have ho := Date.toOrdinal_next? hd
        cases h
        simp only [Datetime.instant, instant, ho]
        push_cast
        rw [Int.toNat_of_nonneg (by omega)]
        simp only [microsPerDay] at *
        omega
      · cases h

/-- The same time in UTC, where the calendar has it. -/
def inUtc (t : AwareDatetime) : AwareDatetime :=
  match t.toUtc with
  | .ok u => .ofUtc u
  | .error _ => t

theorem inUtc_of_toUtc {t : AwareDatetime} {u : Datetime} (h : t.toUtc = .ok u) :
    t.inUtc = .ofUtc u := by
  rw [inUtc, h]

@[simp] theorem toUtc_inUtc (t : AwareDatetime) : t.inUtc.toUtc = t.toUtc := by
  cases h : t.toUtc with
  | ok u => rw [inUtc_of_toUtc h, toUtc_ofUtc]
  | error e =>
    rw [inUtc, h]
    exact h

@[simp] theorem instant_inUtc (t : AwareDatetime) : t.inUtc.instant = t.instant := by
  cases h : t.toUtc with
  | ok u => rw [inUtc_of_toUtc h, instant_ofUtc, instant_toUtc h]
  | error e => rw [inUtc, h]

end AwareDatetime

/-! ### ISO 8601 text -/

/-- `datetime.isoformat()` of a UTC value: `YYYY-MM-DDTHH:MM:SS[.ffffff]+00:00`. -/
def isoformatBody (t : Datetime) : Text :=
  let seconds := t.micros / 1000000
  padded 4 t.date.year ++ lit "-" ++ padded 2 t.date.month ++ lit "-" ++
    padded 2 t.date.day ++ lit "T" ++ padded 2 (seconds / 3600) ++ lit ":" ++
    padded 2 (seconds / 60 % 60) ++ lit ":" ++ padded 2 (seconds % 60) ++
    if t.micros % 1000000 = 0 then [] else lit "." ++ padded 6 (t.micros % 1000000)

/-- `datetime.isoformat()` of a UTC value. -/
def isoformat (t : Datetime) : Text := isoformatBody t ++ lit "+00:00"

/-- The optional fraction of a second, in microseconds: `.` or `,` and digits, of which
the first six count. -/
def parseFraction (s : Text) : Option (Nat × Text) :=
  match s with
  | c :: rest =>
    if [c] = lit "." ∨ [c] = lit "," then
      let digits := rest.takeWhile isDigit
      if digits.isEmpty then none
      else some (value ((digits ++ padded 6 0).take 6), rest.dropWhile isDigit)
    else some (0, s)
  | [] => some (0, s)

/-- The optional UTC offset, in microseconds: `Z` or `±HH:MM[:SS[.ffffff]]`. -/
def parseOffset (s : Text) : Option (Option Int) :=
  match s with
  | [] => some none
  | [c] => if [c] = lit "Z" then some (some 0) else none
  | sign :: h1 :: h0 :: sep :: m1 :: m0 :: rest => do
    let negative ← if [sign] = lit "-" then some true
      else if [sign] = lit "+" then some false else none
    let hours ← number? [h1, h0]
    let minutes ← number? [m1, m0]
    let (seconds, micros) ← match rest with
      | [] => some (0, 0)
      | sep' :: s1 :: s0 :: rest' => do
        let seconds ← number? [s1, s0]
        let (micros, rest'') ← parseFraction rest'
        if [sep'] = lit ":" ∧ seconds < 60 ∧ rest'' = [] then some (seconds, micros) else none
      | _ => none
    if [sep] = lit ":" ∧ minutes < 60 ∧ hours < 24 then
      let offset : Int := ((hours * 60 + minutes) * 60 + seconds) * 1000000 + micros
      some (some (if negative then -offset else offset))
    else none
  | _ => none

/-- `datetime.fromisoformat` on the extended form `isoformat` writes: a date, one
separator, a time to the second, an optional fraction and an optional offset. -/
def fromisoformat (s : Text) : Option (Datetime × Option Int) :=
  match s with
  | y3 :: y2 :: y1 :: y0 :: s1 :: o1 :: o0 :: s2 :: d1 :: d0 :: _ ::
      h1 :: h0 :: s3 :: m1 :: m0 :: s4 :: c1 :: c0 :: rest => do
    let year ← number? [y3, y2, y1, y0]
    let month ← number? [o1, o0]
    let day ← number? [d1, d0]
    let hour ← number? [h1, h0]
    let minute ← number? [m1, m0]
    let second ← number? [c1, c0]
    let date ← Date.make? year month day
    let (fraction, rest) ← parseFraction rest
    let offset ← parseOffset rest
    let micros := ((hour * 60 + minute) * 60 + second) * 1000000 + fraction
    if h : hour < 24 ∧ minute < 60 ∧ second < 60 ∧ micros < microsPerDay then
      if [s1] = lit "-" ∧ [s2] = lit "-" ∧ [s3] = lit ":" ∧ [s4] = lit ":" then
        some (⟨date, micros, h.2.2.2⟩, offset)
      else none
    else none
  | _ => none

/-- `fromisoformat` followed by the check that `tzinfo` is present, which raises `naive`. -/
def parseAware (s naive : Text) : Except PyError AwareDatetime := do
  let (t, tz) ← orRaise ⟨.valueError, lit "Invalid isoformat string"⟩ (fromisoformat s)
  let tz ← orRaise ⟨.valueError, naive⟩ tz
  if h : -(microsPerDay : Int) < tz ∧ tz < microsPerDay then .ok ⟨t, tz, h.1, h.2⟩
  else valueError (lit "offset must be strictly between -24h and 24h")

/-- `parse_datetime`, `utils/time.py:8–13`: an explicit offset is required and the value
is normalized to UTC. -/
def parseDatetime (s field : Text) : Except PyError Datetime := do
  let t ← parseAware s (field ++ lit " must be timezone-aware and include an offset.")
  t.toUtc

private theorem padded_two (n : Nat) : padded 2 n = [digit (n / 10), digit n] := rfl

private theorem padded_four (n : Nat) :
    padded 4 n = [digit (n / 10 / 10 / 10), digit (n / 10 / 10), digit (n / 10), digit n] := rfl

private theorem parseOffset_utc : parseOffset (lit "+00:00") = some (some 0) := by decide

private theorem parseFraction_none : parseFraction (lit "+00:00") = some (0, lit "+00:00") := by
  decide

private theorem takeWhile_padded (width n : Nat) (rest : Text)
    (h : rest.head?.all (fun c ↦ !isDigit c) = true) :
    (padded width n ++ rest).takeWhile isDigit = padded width n ∧
      (padded width n ++ rest).dropWhile isDigit = rest := by
  have hall : ∀ c ∈ padded width n, isDigit c = true := fun c hc ↦ isDigit_of_mem_padded hc
  have hrest : rest.takeWhile isDigit = [] ∧ rest.dropWhile isDigit = rest := by
    cases rest with
    | nil => exact ⟨rfl, rfl⟩
    | cons c rest => simp_all
  rw [List.takeWhile_append_of_pos hall, List.dropWhile_append_of_pos hall, hrest.1, hrest.2]
  exact ⟨List.append_nil _, rfl⟩

private theorem parseFraction_padded (n : Nat) (h : n < 1000000) :
    parseFraction (lit "." ++ (padded 6 n ++ lit "+00:00")) = some (n, lit "+00:00") := by
  obtain ⟨ht, hd⟩ := takeWhile_padded 6 n (lit "+00:00") (by decide)
  have hl : (padded 6 n).length = 6 := length_padded 6 n
  have hne : (padded 6 n).isEmpty = false := by
    cases hp : padded 6 n with
    | nil => simp [hp] at hl
    | cons c s => rfl
  have hv : value (padded 6 n) = n := by
    have := @number?_padded 6 (n) h
    unfold number? at this
    split at this
    · exact Option.some.inj this
    · cases this
  simp only [show lit "." = [46] from rfl, List.cons_append, List.nil_append, parseFraction,
    true_or, ↓reduceIte, ht, hd, hne, Bool.false_eq_true]
  rw [List.take_append_of_le_length (by omega), List.take_of_length_le (by omega), hv]

private theorem clock_fields (n : Nat) : (n / 3600 * 60 + n / 60 % 60) * 60 + n % 60 = n := by
  omega

/-- Reading a written UTC timestamp gives it back, with offset zero. -/
theorem fromisoformat_isoformat (t : Datetime) :
    fromisoformat (isoformat t) = some (t, some 0) := by
  have hm := t.micros_lt
  have hy := t.date.year_le
  have ho := t.date.month_le
  have hd := le_trans t.date.day_le (Date.daysInMonth_le _ _)
  have hy' := @number?_padded 4 (t.date.year) (by omega)
  have ho' := @number?_padded 2 (t.date.month) (by omega)
  have hd' := @number?_padded 2 (t.date.day) (by omega)
  simp only [microsPerDay] at hm
  have hh' := @number?_padded 2 (t.micros / 1000000 / 3600) (by omega)
  have hn' := @number?_padded 2 (t.micros / 1000000 / 60 % 60) (by omega)
  have hs' := @number?_padded 2 (t.micros / 1000000 % 60) (by omega)
  simp only [padded_two, padded_four] at hy' ho' hd' hh' hn' hs'
  have hf : parseFraction ((if t.micros % 1000000 = 0 then [] else
      lit "." ++ padded 6 (t.micros % 1000000)) ++ lit "+00:00") =
        some (t.micros % 1000000, lit "+00:00") := by
    split
    · next h => rw [h]; exact parseFraction_none
    · rw [List.append_assoc]
      exact parseFraction_padded _ (by omega)
  have hsum : ((t.micros / 1000000 / 3600 * 60 + t.micros / 1000000 / 60 % 60) * 60 +
      t.micros / 1000000 % 60) * 1000000 + t.micros % 1000000 = t.micros := by
    rw [clock_fields, Nat.mul_comm]
    exact Nat.div_add_mod _ _
  simp only [isoformat, isoformatBody, padded_two, padded_four, List.append_assoc,
    List.cons_append, List.nil_append]
  simp only [show lit "-" = [45] from rfl, show lit "T" = [84] from rfl,
    show lit ":" = [58] from rfl, List.cons_append, List.nil_append] at hf ⊢
  simp only [fromisoformat, hy', ho', hd', hh', hn', hs', Date.make?_self, hf, parseOffset_utc,
    Option.bind_eq_bind, Option.bind_some, hsum]
  rw [dif_pos ⟨by omega, by omega, by omega, t.micros_lt⟩, if_pos (by decide)]

/-- Parsing a written UTC timestamp gives it back. -/
@[simp] theorem parseAware_isoformat (t : Datetime) (naive : Text) :
    parseAware (isoformat t) naive = .ok (.ofUtc t) := by
  rw [parseAware, fromisoformat_isoformat, orRaise_some, ok_bind]
  dsimp only
  rw [orRaise_some, ok_bind, dif_pos ⟨(AwareDatetime.ofUtc t).offset_gt,
    (AwareDatetime.ofUtc t).offset_lt⟩]
  rfl

@[simp] theorem parseDatetime_isoformat (t : Datetime) (field : Text) :
    parseDatetime (isoformat t) field = .ok t := by
  rw [parseDatetime, parseAware_isoformat, ok_bind, AwareDatetime.toUtc_ofUtc]

/-- The characters of a written time but for its offset. -/
theorem mem_isoformatBody {t : Datetime} {c : CodePoint} (h : c ∈ isoformatBody t) :
    isDigit c = true ∨ c ∈ lit "-T:." := by
  have hlit : ∀ s, s ∈ ["-", "T", ":", "."] → c ∈ lit s → c ∈ lit "-T:." := by
    intro s hs hc
    simp only [List.mem_cons, List.not_mem_nil, or_false] at hs
    rcases hs with rfl | rfl | rfl | rfl <;> exact List.mem_of_elem_eq_true
      (by rw [List.mem_singleton.mp hc]; decide)
  simp only [isoformatBody, List.mem_append] at h
  rcases h with (((((((((((h | h) | h) | h) | h) | h) | h) | h) | h) | h) | h) | h)
  all_goals first
    | exact .inl (isDigit_of_mem_padded h)
    | exact .inr (hlit _ (by simp) h)
    | split at h
  · cases h
  · rcases List.mem_append.mp h with h | h
    · exact .inr (hlit _ (by simp) h)
    · exact .inl (isDigit_of_mem_padded h)

theorem surrogateFree_isoformat (t : Datetime) : SurrogateFree (isoformat t) := by
  intro c hc
  rcases List.mem_append.mp hc with hc | hc
  · rcases mem_isoformatBody hc with hd | hc
    · simp only [isDigit, Bool.and_eq_true, decide_eq_true_eq] at hd
      simp only [isSurrogate, Bool.and_eq_false_iff, decide_eq_false_iff_not]
      omega
    · exact surrogateFree_lit _ c hc
  · exact surrogateFree_lit _ c hc

/-! ### Times written in UTC -/

namespace AwareDatetime

/-- `value.astimezone(UTC).isoformat()`. -/
def utcText (t : AwareDatetime) : Except PyError Text := do
  let u ← t.toUtc
  pure (isoformat u)

variable {t : AwareDatetime} {s : Text}

@[simp] theorem utcText_inUtc (t : AwareDatetime) : t.inUtc.utcText = t.utcText := by
  rw [utcText, toUtc_inUtc, utcText]

@[simp] theorem utcText_ofUtc (u : Datetime) : (ofUtc u).utcText = .ok (isoformat u) := by
  rw [utcText, toUtc_ofUtc]
  rfl

private theorem exists_of_utcText (h : t.utcText = .ok s) :
    ∃ u, t.toUtc = .ok u ∧ isoformat u = s := by
  obtain ⟨u, hu, hs⟩ := bind_eq_ok.mp h
  exact ⟨u, hu, Except.ok.inj hs⟩

/-- A time written in UTC is read as the same time in UTC. -/
theorem parseAware_utcText (h : t.utcText = .ok s) (naive : Text) :
    parseAware s naive = .ok t.inUtc := by
  obtain ⟨u, hu, rfl⟩ := exists_of_utcText h
  rw [parseAware_isoformat, inUtc_of_toUtc hu]

theorem surrogateFree_utcText (h : t.utcText = .ok s) : SurrogateFree s := by
  obtain ⟨u, -, rfl⟩ := exists_of_utcText h
  exact surrogateFree_isoformat u

/-- Two times written alike are one instant. -/
theorem instant_eq_of_utcText {t' : AwareDatetime} (h : t.utcText = .ok s)
    (h' : t'.utcText = .ok s) : t.instant = t'.instant := by
  have hin := (parseAware_utcText h []).symm.trans (parseAware_utcText h' [])
  rw [← instant_inUtc t, Except.ok.inj hin, instant_inUtc]

end AwareDatetime

end StateWake.Base
