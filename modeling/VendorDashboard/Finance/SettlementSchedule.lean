import VendorDashboard.Framework.Calendar

/-!
# The settlement schedule

`evaluateSettlementScheduleDue` decides whether a vendor's draft settlement is made on a run date.
A run date is a day, counted from 1 January 1970: of an instant the code reads the date only.

`getIsoWeekNumber` builds its days with `dateUTC`, which reads the years 0 to 99 as 1900 to 1999.
-/

namespace VendorDashboard.Finance

open Calendar

inductive SettlementFrequencyType
  | weekly | biweekly
  deriving DecidableEq, Repr

inductive SettlementWeekday
  | monday | tuesday | wednesday | thursday | friday
  deriving DecidableEq, Repr

def SettlementWeekday.text : SettlementWeekday → String
  | .monday => "MONDAY"
  | .tuesday => "TUESDAY"
  | .wednesday => "WEDNESDAY"
  | .thursday => "THURSDAY"
  | .friday => "FRIDAY"

/-- `WEEKDAYS`, in the order of the source. -/
def WEEKDAYS : List SettlementWeekday := [.monday, .tuesday, .wednesday, .thursday, .friday]

/-- What the evaluation reads of a profile. -/
structure SettlementScheduleProfile where
  settlementFrequencyType : SettlementFrequencyType
  weeklySettlementDay : SettlementWeekday
  deriving DecidableEq, Repr

structure SettlementScheduleDue where
  due : Bool
  reason : String
  deriving DecidableEq, Repr

/-- The day of the week, from Sunday, `0`. -/
def getUTCDay (date : ℤ) : ℤ := (date + 4) % 7

/-- The day `Date.UTC` builds; months are counted from `1` here. -/
def dateUTC (year : ℤ) (month day : ℕ) : ℤ :=
  monthStart (if 0 ≤ year ∧ year ≤ 99 then 1900 + year else year) month + (day - 1)

/-- `null` on the weekend: the index of Sunday is `-1`. -/
def getSettlementWeekday (date : ℤ) : Option SettlementWeekday :=
  if getUTCDay date - 1 < 0 then none else WEEKDAYS[(getUTCDay date - 1).toNat]?

/-- `Math.ceil` of a quotient. -/
def ceilDiv (x y : ℤ) : ℤ := -(-x / y)

def getIsoWeekNumber (date : ℤ) : ℤ :=
  let target := dateUTC (civil date).year (civil date).month (civil date).day
  let dayNumber := if getUTCDay target = 0 then 7 else getUTCDay target
  let target := target + 4 - dayNumber
  let yearStart := dateUTC (civil target).year 1 1
  ceilDiv (target - yearStart + 1) 7

def evaluateSettlementScheduleDue (profile : SettlementScheduleProfile) (runDate : ℤ) :
    SettlementScheduleDue :=
  let runWeekday := getSettlementWeekday runDate
  if runWeekday ≠ some profile.weeklySettlementDay then
    { due := false
      reason := "Configured settlement weekday is " ++ profile.weeklySettlementDay.text ++
        "; run date is " ++ (runWeekday.map SettlementWeekday.text).getD "WEEKEND" ++ "." }
  else match profile.settlementFrequencyType with
    | .biweekly =>
        let isoWeek := getIsoWeekNumber runDate
        if isoWeek % 2 = 0 then
          { due := true
            reason := "Biweekly " ++ profile.weeklySettlementDay.text ++
              " run is due on ISO week " ++ toString isoWeek ++ "." }
        else
          { due := false
            reason := "Biweekly " ++ profile.weeklySettlementDay.text ++
              " run is skipped on ISO week " ++ toString isoWeek ++ "." }
    | .weekly =>
        { due := true
          reason := "Weekly " ++ profile.weeklySettlementDay.text ++ " run is due." }

end VendorDashboard.Finance
