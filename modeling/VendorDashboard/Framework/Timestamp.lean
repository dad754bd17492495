import VendorDashboard.Framework.Calendar
import VendorDashboard.Framework.Decimal

/-!
# UTC timestamps as text

An instant, a number of milliseconds since the start of day `0`, is printed as a calendar date and
a time of day.  `printUtc d` keeps `d` digits of the second's fraction and drops the others.

A timestamp is read field by field.  `scan` recognises the form of the text, `newDate` computes
the instant that the fields stand for, and `scan_printUtc`, `newDate_printed` say that both undo
the printing, up to the digits it dropped.  Years of four digits are the years from `0` to `9999`.
-/

namespace VendorDashboard.Timestamp

open Calendar Decimal

/-! ## Decimal fields -/

/-- The last `w` decimal digits of a number. -/
def digits : ℕ → ℕ → List Char
  | 0, _ => []
  | w + 1, n => digits w (n / 10) ++ [digitChar n]

/-- Read `w` digits after the digits of `acc`. -/
def takeDigits : ℕ → ℕ → List Char → Option (ℕ × List Char)
  | 0, acc, s => some (acc, s)
  | _ + 1, _, [] => none
  | w + 1, acc, c :: s => (digitValue c).bind fun d => takeDigits w (10 * acc + d) s

def expect (c : Char) : List Char → Option (List Char)
  | [] => none
  | d :: s => if d = c then some s else none

lemma length_digits (w n : ℕ) : (digits w n).length = w := by
  induction w generalizing n with
  | zero => rfl
  | succ w ih => rw [digits, List.length_append, ih, List.length_singleton]

/-- The digits of a prefix of the number are read first. -/
lemma takeDigits_append (w n acc : ℕ) (s : List Char) (k : ℕ) :
    takeDigits (w + k) acc (digits w n ++ s) = takeDigits k (10 ^ w * acc + n % 10 ^ w) s := by
  induction w generalizing n s k with
  | zero => simp [digits, Nat.mod_one]
  | succ w ih =>
      have hmod : n % 10 ^ (w + 1) = 10 * (n / 10 % 10 ^ w) + n % 10 := by
        rw [pow_succ', Nat.mod_mul]
        omega
      have hpow : 10 ^ (w + 1) * acc = 10 * (10 ^ w * acc) := by rw [pow_succ', Nat.mul_assoc]
      rw [digits, List.append_assoc, Nat.add_right_comm, Nat.add_assoc, ih, List.singleton_append,
        takeDigits, digitValue_digitChar, Option.bind_some, hmod, hpow]
      congr 1
      omega

lemma takeDigits_digits {w n : ℕ} (hn : n < 10 ^ w) (s : List Char) :
    takeDigits w 0 (digits w n ++ s) = some (n, s) := by
  have h := takeDigits_append w n 0 s 0
  rw [Nat.add_zero, Nat.mul_zero, Nat.zero_add, Nat.mod_eq_of_lt hn] at h
  exact h

@[simp] lemma expect_cons (c : Char) (s : List Char) : expect c (c :: s) = some s := if_pos rfl

/-! ## Printing -/

/-- The fields of an instant. -/
structure TimeFields where
  year : ℤ
  month : ℕ
  day : ℕ
  hour : ℕ
  minute : ℕ
  second : ℕ
  millisecond : ℕ
  deriving DecidableEq

def timeFields (ms : ℤ) : TimeFields where
  year := (civil (dayOf ms)).year
  month := (civil (dayOf ms)).month
  day := (civil (dayOf ms)).day
  hour := (ms % MS_PER_DAY / 3600000).toNat
  minute := (ms % MS_PER_DAY / 60000 % 60).toNat
  second := (ms % MS_PER_DAY / 1000 % 60).toNat
  millisecond := (ms % MS_PER_DAY % 1000).toNat

/-- A year of four digits, and every other one with its sign and six digits. -/
def yearText (y : ℤ) : List Char :=
  if 0 ≤ y ∧ y ≤ 9999 then digits 4 y.toNat
  else (if y < 0 then '-' else '+') :: digits 6 y.natAbs

/-- The date and the time up to the second. -/
def secondText (f : TimeFields) : List Char :=
  yearText f.year ++ '-' :: digits 2 f.month ++ '-' :: digits 2 f.day ++
    'T' :: digits 2 f.hour ++ ':' :: digits 2 f.minute ++ ':' :: digits 2 f.second

def fractionText (fraction : List Char) : List Char :=
  if fraction = [] then [] else '.' :: fraction

/-- An instant with the first `d` digits of the fraction of its second. -/
def printUtc (d : ℕ) (ms : ℤ) : String :=
  String.ofList (secondText (timeFields ms) ++
    fractionText ((digits 3 (timeFields ms).millisecond).take d) ++ ['Z'])

/-- `toISOString`. -/
def toISOString (ms : ℤ) : String := printUtc 3 ms

/-! ## Reading -/

/-- The fields of a timestamp, its year of four digits and its fraction as it was written. -/
structure UtcText where
  year : ℕ
  month : ℕ
  day : ℕ
  hour : ℕ
  minute : ℕ
  second : ℕ
  fraction : List Char
  deriving DecidableEq

/-- `(?:\.\d{1,3})?Z$`, giving the digits. -/
def scanFraction : List Char → Option (List Char)
  | ['Z'] => some []
  | c :: s =>
      if c = '.' ∧ s.getLast? = some 'Z' ∧ s.dropLast ≠ [] ∧ s.dropLast.length ≤ 3 ∧
          s.dropLast.all (fun d => (digitValue d).isSome) = true then
        some s.dropLast
      else none
  | [] => none

/-- `/^\d{4}-\d{2}-\d{2}T\d{2}:\d{2}:\d{2}(?:\.\d{1,3})?Z$/`. -/
def scan (s : List Char) : Option UtcText := do
  let (year, s) ← takeDigits 4 0 s
  let s ← expect '-' s
  let (month, s) ← takeDigits 2 0 s
  let s ← expect '-' s
  let (day, s) ← takeDigits 2 0 s
  let s ← expect 'T' s
  let (hour, s) ← takeDigits 2 0 s
  let s ← expect ':' s
  let (minute, s) ← takeDigits 2 0 s
  let s ← expect ':' s
  let (second, s) ← takeDigits 2 0 s
  let fraction ← scanFraction s
  return { year, month, day, hour, minute, second, fraction }

/-- `padEnd(3, '0')`. -/
def padFraction (fraction : List Char) : List Char :=
  fraction ++ List.replicate (3 - fraction.length) '0'

/-- `new Date(text)` for a text of this form.  A day that its month does not have counts on into
the next month, and hour 24 is the end of the day. -/
def newDate (t : UtcText) : Option ℤ :=
  if 1 ≤ t.month ∧ t.month ≤ 12 ∧ 1 ≤ t.day ∧ t.day ≤ 31 ∧ t.hour ≤ 24 ∧ t.minute ≤ 59 ∧
      t.second ≤ 59 then
    (takeDigits 3 0 (padFraction t.fraction)).bind fun (ms, _) =>
      if t.hour = 24 ∧ (t.minute ≠ 0 ∨ t.second ≠ 0 ∨ ms ≠ 0) then none
      else some ((monthStart t.year t.month + (t.day - 1)) * MS_PER_DAY +
        (t.hour * 3600000 + t.minute * 60000 + t.second * 1000 + ms))
  else none

/-- The ISO form of the text, with three digits after the point. -/
def isoText (text : List Char) (t : UtcText) : String :=
  String.ofList (text.take 19 ++ '.' :: padFraction t.fraction ++ ['Z'])

/-! ## Reading what was printed -/

/-- The instant that is left when the fraction of its second keeps `d` digits. -/
def truncate (d : ℕ) (ms : ℤ) : ℤ := ms - ms % 10 ^ (3 - d)

@[simp] lemma truncate_three (ms : ℤ) : truncate 3 ms = ms := by
  unfold truncate
  omega

lemma truncate_le (d : ℕ) (ms : ℤ) : truncate d ms ≤ ms := by
  have := Int.emod_nonneg ms (b := 10 ^ (3 - d)) (by positivity)
  unfold truncate
  omega

lemma digitChar_zero {n : ℕ} (h : n % 10 = 0) : '0' = digitChar n :=
  digitChar_congr (m := 0) h.symm

/-- The first `d` digits of the fraction, and zeros. -/
lemma padFraction_take {d m : ℕ} (hd : d ≤ 3) :
    padFraction ((digits 3 m).take d) = digits 3 (m - m % 10 ^ (3 - d)) := by
  have hthree : ∀ n, digits 3 n = [digitChar (n / 10 / 10), digitChar (n / 10), digitChar n] :=
    fun n => rfl
  rw [hthree, hthree]
  interval_cases d <;> simp only [padFraction, List.take, List.length, List.replicate,
    List.nil_append, List.cons_append, List.cons.injEq, and_true]
  · exact ⟨digitChar_zero (by omega), digitChar_zero (by omega), digitChar_zero (by omega)⟩
  · exact ⟨digitChar_congr (by omega), digitChar_zero (by omega), digitChar_zero (by omega)⟩
  · exact ⟨digitChar_congr (by omega), digitChar_congr (by omega), digitChar_zero (by omega)⟩
  · exact ⟨digitChar_congr (by omega), digitChar_congr (by omega), digitChar_congr (by omega), rfl⟩

/-- An instant that is cut off stays in its second. -/
lemma timeFields_truncate {d : ℕ} (hd : d ≤ 3) (ms : ℤ) :
    timeFields (truncate d ms) = { timeFields ms with
      millisecond := (timeFields ms).millisecond - (timeFields ms).millisecond % 10 ^ (3 - d) } := by
  have hday : dayOf (truncate d ms) = dayOf ms := by
    unfold truncate dayOf MS_PER_DAY
    interval_cases d <;> omega
  unfold timeFields
  rw [hday]
  simp only [TimeFields.mk.injEq, true_and]
  unfold truncate MS_PER_DAY
  interval_cases d <;> omega

lemma truncate_second {d : ℕ} (hd : d ≤ 3) (ms : ℤ) : truncate d ms / 1000 = ms / 1000 := by
  unfold truncate
  interval_cases d <;> omega

lemma day_le (d : CivilDate) : d.day ≤ 31 := by
  have hmonth : daysInMonth (isLeap d.year) d.month ≤ 31 := by
    have h₁ := d.month_pos
    have h₂ := d.month_le
    generalize d.month = m at h₁ h₂
    generalize isLeap d.year = leap
    interval_cases m <;> cases leap <;> decide
  have := d.day_le
  omega

/-- The fields of an instant are within their bounds. -/
lemma timeFields_bounds (ms : ℤ) : 1 ≤ (timeFields ms).month ∧ (timeFields ms).month ≤ 12 ∧
    1 ≤ (timeFields ms).day ∧ (timeFields ms).day ≤ 31 ∧ (timeFields ms).hour < 24 ∧
    (timeFields ms).minute < 60 ∧ (timeFields ms).second < 60 ∧
    (timeFields ms).millisecond < 1000 := by
  refine ⟨(civil _).month_pos, (civil _).month_le, (civil _).day_pos, day_le _, ?_, ?_, ?_,
    ?_⟩ <;> unfold timeFields MS_PER_DAY <;> simp only <;> omega

lemma isSome_digitValue (n : ℕ) : (digitValue (digitChar n)).isSome := by
  rw [digitValue_digitChar]
  rfl

lemma scanFraction_print {d : ℕ} (hd : d ≤ 3) (m : ℕ) :
    scanFraction (fractionText ((digits 3 m).take d) ++ ['Z']) = some ((digits 3 m).take d) := by
  have hthree : digits 3 m = [digitChar (m / 10 / 10), digitChar (m / 10), digitChar m] := rfl
  rw [hthree]
  interval_cases d <;> simp [fractionText, scanFraction, isSome_digitValue]

/-- The fields that are read from a printed timestamp. -/
def printedFields (d : ℕ) (ms : ℤ) : UtcText where
  year := (timeFields ms).year.toNat
  month := (timeFields ms).month
  day := (timeFields ms).day
  hour := (timeFields ms).hour
  minute := (timeFields ms).minute
  second := (timeFields ms).second
  fraction := (digits 3 (timeFields ms).millisecond).take d

/-- The years that are printed with four digits. -/
def FourDigitYear (ms : ℤ) : Prop := 0 ≤ (timeFields ms).year ∧ (timeFields ms).year ≤ 9999

instance (ms : ℤ) : Decidable (FourDigitYear ms) := inferInstanceAs (Decidable (_ ∧ _))

lemma yearText_eq {ms : ℤ} (h : FourDigitYear ms) :
    yearText (timeFields ms).year = digits 4 (timeFields ms).year.toNat := if_pos h

/-- **Scanning undoes printing.** -/
theorem scan_printUtc {d : ℕ} (hd : d ≤ 3) {ms : ℤ} (hyear : FourDigitYear ms) :
    scan (printUtc d ms).toList = some (printedFields d ms) := by
  obtain ⟨-, hmonth, -, hday, hhour, hminute, hsecond, -⟩ := timeFields_bounds ms
  have hyear' : (timeFields ms).year.toNat < 10 ^ 4 := by
    obtain ⟨hlow, hhigh⟩ := hyear
    omega
  unfold scan printUtc secondText
  rw [String.toList_ofList, yearText_eq hyear]
  simp only [List.append_assoc, List.cons_append, takeDigits_digits hyear', Option.bind_eq_bind,
    Option.bind_some, expect_cons,
    takeDigits_digits (show (timeFields ms).month < 10 ^ 2 by omega),
    takeDigits_digits (show (timeFields ms).day < 10 ^ 2 by omega),
    takeDigits_digits (show (timeFields ms).hour < 10 ^ 2 by omega),
    takeDigits_digits (show (timeFields ms).minute < 10 ^ 2 by omega),
    takeDigits_digits (show (timeFields ms).second < 10 ^ 2 by omega), scanFraction_print hd]
  rfl

/-- A year that is printed with its sign is not read. -/
theorem scan_printUtc_of_not {d : ℕ} {ms : ℤ} (hyear : ¬ FourDigitYear ms) :
    scan (printUtc d ms).toList = none := by
  have htext : yearText (timeFields ms).year =
      (if (timeFields ms).year < 0 then '-' else '+') :: digits 6 (timeFields ms).year.natAbs :=
    if_neg hyear
  have hsign : digitValue (if (timeFields ms).year < 0 then '-' else '+') = none := by
    split <;> rfl
  unfold scan printUtc secondText
  rw [String.toList_ofList, htext]
  simp only [List.cons_append, takeDigits, hsign, Option.bind_eq_bind, Option.bind_none]

lemma civil_toDays_eq (ms : ℤ) : monthStart (timeFields ms).year (timeFields ms).month +
    ((timeFields ms).day - 1) = dayOf ms :=
  toDays_civil (dayOf ms)

/-- **The instant of a printed timestamp** is the one that was printed, cut off. -/
theorem newDate_printed {d : ℕ} (hd : d ≤ 3) {ms : ℤ} (hyear : FourDigitYear ms) :
    newDate (printedFields d ms) = some (truncate d ms) := by
  obtain ⟨hmonth, hmonth', hday, hday', hhour, hminute, hsecond, hms⟩ := timeFields_bounds ms
  have hfraction : takeDigits 3 0 (padFraction (printedFields d ms).fraction) =
      some ((timeFields ms).millisecond - (timeFields ms).millisecond % 10 ^ (3 - d), []) := by
    have h := takeDigits_digits (w := 3)
      (n := (timeFields ms).millisecond - (timeFields ms).millisecond % 10 ^ (3 - d)) (by omega) []
    rw [List.append_nil] at h
    exact (congrArg (takeDigits 3 0) (padFraction_take hd)).trans h
  unfold newDate
  rw [hfraction, Option.bind_some, if_pos ⟨hmonth, hmonth', hday, hday', hhour.le,
    Nat.le_of_lt_succ hminute, Nat.le_of_lt_succ hsecond⟩]
  have hnot : ¬ (timeFields ms).hour = 24 := by omega
  have hdays := civil_toDays_eq ms
  have hyear' : ((timeFields ms).year.toNat : ℤ) = (timeFields ms).year :=
    Int.toNat_of_nonneg hyear.1
  simp only [printedFields, hnot, false_and, if_false, hyear', hdays, Option.some.injEq]
  unfold truncate timeFields dayOf MS_PER_DAY
  simp only
  interval_cases d <;> omega

/-- **The ISO form** of a printed timestamp is that of the instant, cut off. -/
theorem isoText_printUtc {d : ℕ} (hd : d ≤ 3) {ms : ℤ} (hyear : FourDigitYear ms) :
    isoText (printUtc d ms).toList (printedFields d ms) = toISOString (truncate d ms) := by
  have hlength : (secondText (timeFields ms)).length = 19 := by
    unfold secondText
    simp only [yearText_eq hyear, List.length_append, List.length_cons, length_digits]
  have hsecond : secondText (timeFields (truncate d ms)) = secondText (timeFields ms) := by
    rw [timeFields_truncate hd]
    rfl
  have htake : (digits 3 (timeFields (truncate d ms)).millisecond).take 3 =
      padFraction ((digits 3 (timeFields ms).millisecond).take d) := by
    rw [padFraction_take hd, timeFields_truncate hd]
    exact List.take_of_length_le (length_digits 3 _).le
  have hne : padFraction ((digits 3 (timeFields ms).millisecond).take d) ≠ [] := by
    rw [padFraction_take hd]
    exact List.ne_nil_of_length_eq_add_one (length_digits 3 _)
  unfold isoText toISOString printUtc
  rw [String.toList_ofList, List.append_assoc (secondText (timeFields ms)),
    List.take_left' hlength, hsecond, htake]
  unfold fractionText
  rw [if_neg hne]
  simp [printedFields]

end VendorDashboard.Timestamp
