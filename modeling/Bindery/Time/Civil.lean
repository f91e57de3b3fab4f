/-!
# Civil dates

Dates of the proleptic Gregorian calendar, counted in days from 1970-01-01. `daysFromCivil` and
`civilFromDays` convert between a year, month and day and that count; both work in eras of 400
years, which repeat exactly (146097 days each), so every year, negative ones included, is handled
by the same arithmetic. Months are numbered from 1, days of the month from 1, weekdays from 0 for
Sunday, and days of the year from 1.
-/

namespace Bindery.Time

def isLeap (y : Int) : Bool := (y % 4 == 0 && y % 100 != 0) || y % 400 == 0

def daysIn (month : Nat) (y : Int) : Nat :=
  match month with
  | 2 => if isLeap y then 29 else 28
  | 4 | 6 | 9 | 11 => 30
  | _ => 31

/-- The days of the year before the first of each month of a common year. -/
def daysBefore : List Nat := [0, 31, 59, 90, 120, 151, 181, 212, 243, 273, 304, 334, 365]

/-- The day count of a civil date: days from 1970-01-01. The year is shifted to start in March,
so that the leap day ends it. -/
def daysFromCivil (y : Int) (m d : Nat) : Int :=
  let y := if m ≤ 2 then y - 1 else y
  let era := y / 400
  let yoe := y - era * 400
  let mp : Int := if m > 2 then (m : Int) - 3 else (m : Int) + 9
  let doy := (153 * mp + 2) / 5 + (d : Int) - 1
  let doe := yoe * 365 + yoe / 4 - yoe / 100 + doy
  era * 146097 + doe - 719468

def civilFromDays (days : Int) : Int × Nat × Nat :=
  let z := days + 719468
  let era := z / 146097
  let doe := z - era * 146097
  let yoe := (doe - doe / 1460 + doe / 36524 - doe / 146096) / 365
  let doy := doe - (365 * yoe + yoe / 4 - yoe / 100)
  let mp := (5 * doy + 2) / 153
  let d := doy - (153 * mp + 2) / 5 + 1
  let m := if mp < 10 then mp + 3 else mp - 9
  let y := yoe + era * 400 + (if m ≤ 2 then 1 else 0)
  (y, m.toNat, d.toNat)

/-- The weekday of a day count, 0 for Sunday; 1970-01-01 was a Thursday. -/
def weekdayOf (days : Int) : Nat := ((days + 4) % 7).toNat

def yearDayOf (y : Int) (m d : Nat) : Nat :=
  daysBefore.getD (m - 1) 0 + d + (if m > 2 && isLeap y then 1 else 0)

def monthNames : List String :=
  ["January", "February", "March", "April", "May", "June", "July", "August", "September",
   "October", "November", "December"]

def weekdayNames : List String :=
  ["Sunday", "Monday", "Tuesday", "Wednesday", "Thursday", "Friday", "Saturday"]

end Bindery.Time
