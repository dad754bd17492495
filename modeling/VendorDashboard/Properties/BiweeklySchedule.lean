import VendorDashboard.Finance.SettlementSchedule

/-!
# The dates of a biweekly schedule

A biweekly profile is due on its weekday in every even ISO week.  The parity of the week starts
again with each year: a year of 52 weeks ends on an even week and the next even one is two weeks
later, a year of 53 weeks puts two odd weeks in between (`weekOfYear_alternates`).

`getIsoWeekNumber` computes the week of the Thursday of the date, of a date moved by 1900 years for
the years 0 to 99 (`isoThursday`).  The weeks go on where the move starts and changes
(`alternates_start`); where it ends, the last due Friday is followed by a gap of four weeks
(`BEFORE_YEAR_100`).
-/

namespace VendorDashboard.Finance

open Calendar

/-! ## Weeks of a year -/

/-- The number of a week, by its Thursday. -/
def weekOfYear (thursday : ℤ) : ℤ := dayOfYear thursday / 7 + 1

/-- An even week is followed by an odd one and an even one, a week 52 before a week 53 by two odd
ones and an even one.  `week` gives the number of the week of a day. -/
def Alternates (week : ℤ → ℤ) (d : ℤ) : Prop :=
  week d % 2 = 0 → week (d + 7) % 2 = 1 ∧
    if week d = 52 ∧ week (d + 7) = 53 then week (d + 14) % 2 = 1 ∧ week (d + 21) % 2 = 0
    else week (d + 14) % 2 = 0

instance (week : ℤ → ℤ) (d : ℤ) : Decidable (Alternates week d) := by
  unfold Alternates
  infer_instance

/-- The weeks of a year count on, and start again at `1`. -/
lemma weekOfYear_alternates (t : ℤ) : Alternates weekOfYear t := by
  intro heven
  have hlen := yearLength_cases (isLeap (civil t).year)
  have hpos := dayOfYear_nonneg t
  have hlt := dayOfYear_lt t
  unfold weekOfYear at heven ⊢
  by_cases hone : dayOfYear t + 7 < yearLength (isLeap (civil t).year)
  · rw [dayOfYear_add (by omega) hone]
    by_cases htwo : dayOfYear t + 14 < yearLength (isLeap (civil t).year)
    · rw [dayOfYear_add (by omega) htwo, if_neg (by omega)]
      exact ⟨by omega, by omega⟩
    · -- the Thursday two weeks on is in the next year, so this one is in week 52
      rw [@dayOfYear_add_of_le t 14 (by omega) (by omega),
        @dayOfYear_add_of_le t 21 (by omega) (by omega), if_pos (by omega)]
      exact ⟨by omega, by omega, by omega⟩
  · rw [@dayOfYear_add_of_le t 7 (by omega) (by omega),
      @dayOfYear_add_of_le t 14 (by omega) (by omega), if_neg (by omega)]
    exact ⟨by omega, by omega⟩

/-! ## The Thursday of a date -/

/-- The day `getIsoWeekNumber` starts from. -/
def isoTarget (n : ℤ) : ℤ := dateUTC (civil n).year (civil n).month (civil n).day

/-- The days of the week from Monday, `1`, to Sunday, `7`. -/
def isoDay (n : ℤ) : ℤ := if getUTCDay n = 0 then 7 else getUTCDay n

def isoThursday (n : ℤ) : ℤ := isoTarget n + 4 - isoDay (isoTarget n)

lemma isoDay_eq (n : ℤ) : isoDay n = (n + 3) % 7 + 1 := by
  unfold isoDay getUTCDay
  split
  · omega
  · omega

lemma ceilDiv_add_one (x : ℤ) : ceilDiv (x + 1) 7 = x / 7 + 1 := by
  unfold ceilDiv
  omega

/-- The week is that of its Thursday, unless the year of the Thursday is moved. -/
lemma getIsoWeekNumber_eq {n : ℤ}
    (h : (civil (isoThursday n)).year < 0 ∨ 99 < (civil (isoThursday n)).year) :
    getIsoWeekNumber n = weekOfYear (isoThursday n) := by
  have hstart : dateUTC (civil (isoThursday n)).year 1 1 =
      monthStart (civil (isoThursday n)).year 1 := by
    rw [dateUTC, if_neg (by omega)]
    norm_num
  change ceilDiv (isoThursday n - dateUTC (civil (isoThursday n)).year 1 1 + 1) 7 = _
  rw [hstart, ceilDiv_add_one]
  rfl

/-- How far `Date.UTC` moves the days of a month. -/
lemma isoTarget_eq (n : ℤ) : isoTarget n = n +
    (monthStart (if 0 ≤ (civil n).year ∧ (civil n).year ≤ 99 then 1900 + (civil n).year
      else (civil n).year) (civil n).month - monthStart (civil n).year (civil n).month) := by
  have hn := toDays_civil n
  unfold CivilDate.toDays at hn
  unfold isoTarget dateUTC
  omega

lemma monthStart_zero_january : monthStart 0 1 = -719528 := by decide

lemma monthStart_zero_march : monthStart 0 3 = -719468 := by decide

lemma monthStart_hundred : monthStart 100 1 = -683003 := by decide

/-- Years outside 0 to 99 are read as they are. -/
lemma isoTarget_outside {n : ℤ} (h : n < monthStart 0 1 ∨ monthStart 100 1 ≤ n) :
    isoTarget n = n := by
  have hzero := @civil_year_lt_iff n 0
  have hhundred := @civil_year_lt_iff n 100
  rw [isoTarget_eq, if_neg (by omega)]
  omega

/-- The years 1 to 99 and 1901 to 1999 have the same leap years. -/
lemma monthStart_move {y : ℤ} (h₁ : 1 ≤ y) (h₂ : y ≤ 99) (m : ℕ) :
    monthStart (1900 + y) m = monthStart y m + 693960 := by
  have hleap : isLeap (1900 + y) = isLeap y := by
    unfold isLeap
    rw [Bool.eq_iff_iff]
    simp only [Bool.and_eq_true, Bool.or_eq_true, decide_eq_true_eq]
    omega
  unfold monthStart daysBeforeYear
  rw [hleap]
  omega

/-- The year 0 is a leap year, 1900 is not. -/
lemma monthStart_move_zero {m : ℕ} (h₁ : 1 ≤ m) (h₂ : m ≤ 12) :
    monthStart 1900 m = monthStart 0 m + if m < 3 then 693961 else 693960 := by
  interval_cases m <;> decide

/-- The days of the years 0 to 99 are moved by 1900 years. -/
lemma isoTarget_inside {n : ℤ} (h₁ : monthStart 0 1 ≤ n) (h₂ : n < monthStart 100 1) :
    isoTarget n = n + if n < monthStart 0 3 then 693961 else 693960 := by
  have hzero := @civil_year_lt_iff n 0
  have hone := @civil_year_lt_iff n 1
  have hhundred := @civil_year_lt_iff n 100
  have hmarch := monthStart_zero_march
  have hfirst : monthStart 1 1 = -719162 := by decide
  rw [isoTarget_eq, if_pos (by omega)]
  by_cases hyear : (civil n).year = 0
  · have hmonth := @civil_month_lt_iff n 3 (by omega) (by omega)
    have hmove := monthStart_move_zero (civil n).month_pos (civil n).month_le
    rw [hyear] at hmonth ⊢
    rw [add_zero, hmove]
    simp only [hmonth]
    omega
  · have hmove := @monthStart_move (civil n).year (by omega) (by omega) (civil n).month
    rw [hmove, if_neg (by omega)]
    omega

/-! ## The weeks of the dates -/

/-- The week of `n` is that of the day moved by `s`. -/
structure Moved (s n : ℤ) : Prop where
  target : isoTarget n = n + s
  thursday : isoThursday n < monthStart 0 1 ∨ monthStart 100 1 ≤ isoThursday n

lemma Moved.isoThursday {s n : ℤ} (h : Moved s n) :
    isoThursday n = n + s + 3 - (n + s + 3) % 7 := by
  unfold Finance.isoThursday
  rw [h.target, isoDay_eq]
  omega

lemma Moved.week {s n : ℤ} (h : Moved s n) :
    getIsoWeekNumber n = weekOfYear (n + s + 3 - (n + s + 3) % 7) := by
  have hzero := @civil_year_lt_iff (Finance.isoThursday n) 0
  have hhundred := @civil_year_lt_iff (Finance.isoThursday n) 100
  have hthursday := h.thursday
  rw [getIsoWeekNumber_eq (by omega), h.isoThursday]

/-- Where all days are moved by the same amount, the weeks are those of a calendar. -/
lemma alternates_of_moved {s d : ℤ} (h : ∀ n, d ≤ n → n ≤ d + 21 → Moved s n) :
    Alternates getIsoWeekNumber d := by
  have hweek : ∀ j : ℤ, 0 ≤ j → j ≤ 3 → getIsoWeekNumber (d + 7 * j) =
      weekOfYear (d + s + 3 - (d + s + 3) % 7 + 7 * j) := by
    intro j hj hj'
    rw [(h (d + 7 * j) (by omega) (by omega)).week]
    congr 1
    omega
  have hzero := hweek 0 (by omega) (by omega)
  have hone := hweek 1 (by omega) (by omega)
  have htwo := hweek 2 (by omega) (by omega)
  have hthree := hweek 3 (by omega) (by omega)
  norm_num at hzero hone htwo hthree
  have halternates := weekOfYear_alternates (d + s + 3 - (d + s + 3) % 7)
  unfold Alternates at halternates ⊢
  rw [hzero, hone, htwo, hthree]
  exact halternates

lemma moved_before {n : ℤ} (h : n < monthStart 0 1) : Moved 0 n := by
  have htarget : isoTarget n = n + 0 := by
    rw [isoTarget_outside (Or.inl h)]
    omega
  refine ⟨htarget, Or.inl ?_⟩
  have hstart := monthStart_zero_january
  unfold isoThursday
  rw [htarget, isoDay_eq]
  omega

lemma moved_inside {n : ℤ} (h₁ : monthStart 0 3 ≤ n) (h₂ : n < monthStart 100 1) :
    Moved 693960 n := by
  have hjanuary := monthStart_zero_january
  have hmarch := monthStart_zero_march
  have hend := monthStart_hundred
  have htarget : isoTarget n = n + 693960 := by
    rw [isoTarget_inside (by omega) h₂, if_neg (by omega)]
  refine ⟨htarget, Or.inr ?_⟩
  unfold isoThursday
  rw [htarget, isoDay_eq]
  omega

lemma moved_after {n : ℤ} (h : monthStart 100 1 + 3 ≤ n) : Moved 0 n := by
  have htarget : isoTarget n = n + 0 := by
    rw [isoTarget_outside (Or.inr (by omega))]
    omega
  refine ⟨htarget, Or.inr ?_⟩
  have hend := monthStart_hundred
  unfold isoThursday
  rw [htarget, isoDay_eq]
  omega

/-- Monday to Friday. -/
def IsWorkday (d : ℤ) : Prop := 1 ≤ getUTCDay d ∧ getUTCDay d ≤ 5

instance (d : ℤ) : Decidable (IsWorkday d) := by
  unfold IsWorkday
  infer_instance

/-- From three weeks before the year 0 to its leap day. -/
lemma alternates_start : ∀ i ∈ List.range 81, IsWorkday (-719549 + (i : ℤ)) →
    Alternates getIsoWeekNumber (-719549 + (i : ℤ)) := by
  decide +kernel

/-- Friday, 18 December 99.  The week of Friday, 1 January 100, is counted from 1 January 1999. -/
def BEFORE_YEAR_100 : ℤ := -683017

/-- The three weeks before the year 100. -/
lemma alternates_end : ∀ i ∈ List.range 24, IsWorkday (-683024 + (i : ℤ)) →
    -683024 + (i : ℤ) = BEFORE_YEAR_100 ∨ Alternates getIsoWeekNumber (-683024 + (i : ℤ)) := by
  decide +kernel

lemma getIsoWeekNumber_alternates {d : ℤ} (hd : IsWorkday d) (h : d ≠ BEFORE_YEAR_100) :
    Alternates getIsoWeekNumber d := by
  have hjanuary := monthStart_zero_january
  have hmarch := monthStart_zero_march
  have hend := monthStart_hundred
  by_cases hbefore : d + 21 < monthStart 0 1
  · exact alternates_of_moved fun n _ hn => moved_before (by omega)
  by_cases hstart : d < monthStart 0 3
  · have hi : (-719549 : ℤ) + ((d + 719549).toNat : ℕ) = d := by omega
    have halternates := alternates_start (d + 719549).toNat (List.mem_range.mpr (by omega))
    rw [hi] at halternates
    exact halternates hd
  by_cases hinside : d + 21 < monthStart 100 1
  · exact alternates_of_moved fun n hn hn' => moved_inside (by omega) (by omega)
  by_cases hlast : d < monthStart 100 1 + 3
  · have hi : (-683024 : ℤ) + ((d + 683024).toNat : ℕ) = d := by omega
    have halternates := alternates_end (d + 683024).toNat (List.mem_range.mpr (by omega))
    rw [hi] at halternates
    rcases halternates hd with heq | halternates
    · exact (h heq).elim
    · exact halternates
  · exact alternates_of_moved fun n hn _ => moved_after (by omega)

/-! ## Due dates -/

/-- The day of the week as `getUTCDay` counts it. -/
def SettlementWeekday.utcDay : SettlementWeekday → ℤ
  | .monday => 1
  | .tuesday => 2
  | .wednesday => 3
  | .thursday => 4
  | .friday => 5

lemma getSettlementWeekday_eq_some {d : ℤ} {w : SettlementWeekday} :
    getSettlementWeekday d = some w ↔ getUTCDay d = w.utcDay := by
  have hlow : 0 ≤ getUTCDay d := by
    unfold getUTCDay
    omega
  have hhigh : getUTCDay d < 7 := by
    unfold getUTCDay
    omega
  unfold getSettlementWeekday
  generalize getUTCDay d = k at hlow hhigh ⊢
  interval_cases k <;> cases w <;> decide

lemma SettlementWeekday.utcDay_bounds (w : SettlementWeekday) : 1 ≤ w.utcDay ∧ w.utcDay ≤ 5 := by
  cases w <;> decide

lemma biweekly_due_iff {profile : SettlementScheduleProfile}
    (hp : profile.settlementFrequencyType = .biweekly) {d : ℤ} :
    (evaluateSettlementScheduleDue profile d).due = true ↔
      getUTCDay d = profile.weeklySettlementDay.utcDay ∧ getIsoWeekNumber d % 2 = 0 := by
  rw [← getSettlementWeekday_eq_some]
  unfold evaluateSettlementScheduleDue
  by_cases hday : getSettlementWeekday d = some profile.weeklySettlementDay
  · simp only [hday, ne_eq, not_true_eq_false, if_false, hp, true_and]
    by_cases heven : getIsoWeekNumber d % 2 = 0
    · simp only [heven, if_true]
    · simp only [heven, if_false, Bool.false_eq_true]
  · simp only [hday, ne_eq, not_false_eq_true, if_true, false_and, iff_false]
    exact Bool.false_ne_true

/-- Two dates on which a profile is due, and none between them. -/
structure ConsecutiveDue (profile : SettlementScheduleProfile) (d d' : ℤ) : Prop where
  lt : d < d'
  first : (evaluateSettlementScheduleDue profile d).due = true
  second : (evaluateSettlementScheduleDue profile d').due = true
  between : ∀ n, d < n → n < d' → (evaluateSettlementScheduleDue profile n).due = false

lemma ConsecutiveDue.weeks {profile : SettlementScheduleProfile}
    (hp : profile.settlementFrequencyType = .biweekly) {d d' : ℤ}
    (h : ConsecutiveDue profile d d') :
    ∃ j : ℕ, d' = d + 7 * (j + 1) ∧ getIsoWeekNumber (d + 7 * (j + 1)) % 2 = 0 ∧
      ∀ i < j, getIsoWeekNumber (d + 7 * (i + 1)) % 2 = 1 := by
  obtain ⟨hfirst, -⟩ := (biweekly_due_iff hp).mp h.first
  obtain ⟨hsecond, heven⟩ := (biweekly_due_iff hp).mp h.second
  have hlt := h.lt
  unfold getUTCDay at hfirst hsecond
  have hd' : d' = d + 7 * ((((d' - d) / 7 - 1).toNat : ℕ) + 1) := by omega
  refine ⟨((d' - d) / 7 - 1).toNat, hd', ?_, ?_⟩
  · rwa [← hd']
  · intro i hi
    have hnot := h.between (d + 7 * (i + 1)) (by omega) (by omega)
    by_contra hne
    have hdue := (biweekly_due_iff hp (d := d + 7 * (i + 1))).mpr
      ⟨by unfold getUTCDay; omega, by omega⟩
    rw [hnot] at hdue
    exact Bool.false_ne_true hdue

/-- The next due date is in the first even week. -/
lemma ConsecutiveDue.gap {profile : SettlementScheduleProfile}
    (hp : profile.settlementFrequencyType = .biweekly) {d d' : ℤ}
    (h : ConsecutiveDue profile d d') {k : ℕ}
    (hodd : ∀ i < k, getIsoWeekNumber (d + 7 * (i + 1)) % 2 = 1)
    (heven : getIsoWeekNumber (d + 7 * (k + 1)) % 2 = 0) : d' - d = 7 * (k + 1) := by
  obtain ⟨j, rfl, hj, hbefore⟩ := h.weeks hp
  rcases lt_trichotomy j k with hlt | rfl | hlt
  · have := hodd j hlt
    omega
  · omega
  · have := hbefore k hlt
    omega

/-- **Dates of a biweekly schedule.**  Consecutive due dates are two weeks apart, three where the
even week 52 is followed by a week 53.  Of all dates, only the last due one of the year 99 is
followed by a gap of four weeks. -/
theorem biweekly_gap {profile : SettlementScheduleProfile}
    (hp : profile.settlementFrequencyType = .biweekly) {d d' : ℤ}
    (h : ConsecutiveDue profile d d') :
    d' - d = if d = BEFORE_YEAR_100 then 28
      else if getIsoWeekNumber d = 52 ∧ getIsoWeekNumber (d + 7) = 53 then 21 else 14 := by
  obtain ⟨hday, heven⟩ := (biweekly_due_iff hp).mp h.first
  by_cases hlast : d = BEFORE_YEAR_100
  · subst hlast
    rw [if_pos rfl]
    exact h.gap hp (k := 3) (by decide +kernel) (by decide +kernel)
  have hworkday : IsWorkday d := by
    unfold IsWorkday
    rw [hday]
    exact profile.weeklySettlementDay.utcDay_bounds
  obtain ⟨hone, hrest⟩ := getIsoWeekNumber_alternates hworkday hlast heven
  rw [if_neg hlast]
  by_cases hlong : getIsoWeekNumber d = 52 ∧ getIsoWeekNumber (d + 7) = 53
  · rw [if_pos hlong] at hrest ⊢
    refine h.gap hp (k := 2) (fun i hi => ?_) ?_
    · have hi' : i = 0 ∨ i = 1 := by omega
      rcases hi' with rfl | rfl
      · exact hone
      · exact hrest.1
    · exact hrest.2
  · rw [if_neg hlong] at hrest ⊢
    refine h.gap hp (k := 1) (fun i hi => ?_) ?_
    · have hi' : i = 0 := by omega
      subst hi'
      exact hone
    · exact hrest

/-- A profile that is due on Wednesdays of even weeks. -/
def wednesdays : SettlementScheduleProfile :=
  { settlementFrequencyType := .biweekly, weeklySettlementDay := .wednesday }

/-- From Wednesday, 23 December 2026, in week 52, to Wednesday, 13 January 2027, in week 2. -/
lemma wednesdays_2026 : ConsecutiveDue wednesdays 20810 20831 where
  lt := by decide
  first := by decide +kernel
  second := by decide +kernel
  between n hn hn' := by
    interval_cases n <;> decide +kernel

theorem biweekly_gap_2026 :
    (20831 : ℤ) - 20810 = if (20810 : ℤ) = BEFORE_YEAR_100 then 28
      else if getIsoWeekNumber 20810 = 52 ∧ getIsoWeekNumber (20810 + 7) = 53 then 21 else 14 :=
  @biweekly_gap wednesdays rfl 20810 20831 wednesdays_2026

/-- 2026 has 53 weeks. -/
theorem biweekly_not_fortnightly :
    ¬ ∀ profile : SettlementScheduleProfile, profile.settlementFrequencyType = .biweekly →
      ∀ d d' : ℤ, ConsecutiveDue profile d d' → d' - d = 14 := by
  intro hall
  have hgap := hall wednesdays rfl 20810 20831 wednesdays_2026
  omega

end VendorDashboard.Finance
