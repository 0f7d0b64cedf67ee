import Rowwise.Calendar.Duration

/-!
# Dates

Dates of the Gregorian calendar, extended to all years from -262143 to 262142.  A date is its
year, month and day, and `Date.dayNumber` counts the days since 1 January of the year 1.
-/

namespace Rowwise

/-- The first and the last year with dates. -/
def firstYear : Int := -262143
def lastYear : Int := 262142

def isLeapYear (year : Int) : Bool :=
  year % 4 == 0 && (year % 100 != 0 || year % 400 == 0)

/-- The number of days of a month. -/
def daysInMonth (year : Int) (month : Nat) : Nat :=
  match month with
  | 2 => if isLeapYear year then 29 else 28
  | 4 | 6 | 9 | 11 => 30
  | _ => 31

/-- A date that exists in the calendar. -/
structure Date where
  year : Int
  month : Nat
  day : Nat
  valid : (firstYear ≤ year ∧ year ≤ lastYear) ∧ (1 ≤ month ∧ month ≤ 12) ∧
    (1 ≤ day ∧ day ≤ daysInMonth year month)
  deriving DecidableEq

namespace Date

@[ext] theorem ext {a b : Date} (hy : a.year = b.year) (hm : a.month = b.month)
    (hd : a.day = b.day) : a = b := by
  cases a; cases b; simp_all

/-- The date with these parts, if there is one. -/
def ofParts? (year : Int) (month day : Nat) : Option Date :=
  if h : (firstYear ≤ year ∧ year ≤ lastYear) ∧ (1 ≤ month ∧ month ≤ 12) ∧
      (1 ≤ day ∧ day ≤ daysInMonth year month) then
    some ⟨year, month, day, h⟩
  else none

/-- The parts of a date give the date. -/
theorem ofParts?_self (d : Date) : ofParts? d.year d.month d.day = some d := dif_pos d.valid

instance : Inhabited Date := ⟨⟨1970, 1, 1, by decide⟩⟩

instance : Ord Date :=
  ⟨fun a b => (compare a.year b.year).then ((compare a.month b.month).then (compare a.day b.day))⟩

/-- The days of the year `year` that come before its month `month`. -/
def daysBeforeMonth (year : Int) : (month : Nat) → Nat
  | 0 | 1 => 0
  | month + 1 => daysBeforeMonth year month + daysInMonth year month

/-- The days from 1 January of the year 1 to 1 January of another year. -/
def daysBeforeYear (year : Int) : Int :=
  let y := year - 1
  365 * y + y / 4 - y / 100 + y / 400

/-- The number of the day in its year, from 1. -/
def ordinal (d : Date) : Nat := daysBeforeMonth d.year d.month + d.day

/-- The days since 1 January of the year 1. -/
def dayNumber (d : Date) : Int := daysBeforeYear d.year + d.ordinal - 1

/-- The year that contains the day with number `n`. -/
def yearOfDay (n : Int) : Int :=
  let guess := n * 400 / 146097 + 1
  if n < daysBeforeYear guess then guess - 1
  else if daysBeforeYear (guess + 1) ≤ n then guess + 1
  else guess

/-- The month and the day of the day `ordinal` of a year, starting the search at `month`. -/
def monthDay (year : Int) (ordinal : Nat) : (fuel month : Nat) → Nat × Nat
  | 0, month => (month, ordinal)
  | fuel + 1, month =>
    if ordinal ≤ daysInMonth year month then (month, ordinal)
    else monthDay year (ordinal - daysInMonth year month) fuel (month + 1)

/-- The date of the day `ordinal` of a year, if the year has it. -/
def ofOrdinal? (year : Int) (ordinal : Nat) : Option Date :=
  let (month, day) := monthDay year ordinal 11 1
  ofParts? year month day

/-- The date of a day number, if it is in the calendar. -/
def ofDayNumber? (n : Int) : Option Date :=
  let year := yearOfDay n
  ofOrdinal? year (n - daysBeforeYear year + 1).toNat

/-- The date so many days later, if it is in the calendar. -/
def addDays? (d : Date) (n : Int) : Option Date := ofDayNumber? (d.dayNumber + n)

/-- Months since the year 0. -/
def monthNumber (d : Date) : Int := d.year * 12 + (d.month : Int) - 1

/-- The date so many months later, on the last day of its month if that has no such day. -/
def addMonths? (d : Date) (n : Int) : Option Date :=
  let total := d.monthNumber + n
  let year := total / 12
  let month := (total % 12).toNat + 1
  ofParts? year month (min d.day (daysInMonth year month))

/-- The day of the week, from 0 for Monday to 6 for Sunday. -/
def weekday (d : Date) : Nat := (d.dayNumber % 7).toNat

/-- The weeks of a year that contain a Thursday of it. -/
def isoWeeksOfYear (year : Int) : Nat :=
  let firstWeekday := (daysBeforeYear year % 7).toNat
  if firstWeekday = 3 ∨ (firstWeekday = 2 ∧ isLeapYear year) then 53 else 52

/-- The year and the number of the week of a date; a week belongs to the year of its Thursday. -/
def isoWeek (d : Date) : Int × Nat :=
  let week := (d.ordinal + 9 - d.weekday) / 7
  if week < 1 then (d.year - 1, isoWeeksOfYear (d.year - 1))
  else if week > isoWeeksOfYear d.year then (d.year + 1, 1)
  else (d.year, week)

/-- The date of a weekday in a numbered week, if there is one. -/
def ofIsoWeek? (year : Int) (week weekday : Nat) : Option Date :=
  if week = 0 ∨ week > isoWeeksOfYear year then none
  else
    let fourth := daysBeforeYear year + 3
    ofDayNumber? (fourth - fourth % 7 + 7 * (week - 1) + weekday)

/-- The time between the starts of two days. -/
def durationSince (a b : Date) : Int := (a.dayNumber - b.dayNumber) * 86400 * 1000000000

/-! ## Text -/

/-- The text of a year: four digits, or a sign and more digits outside of 0 to 9999. -/
def yearText (year : Int) : List Char :=
  if 0 ≤ year ∧ year ≤ 9999 then Decimal.zeroPadded 4 year.toNat
  else (if year < 0 then '-' else '+') :: Decimal.zeroPadded 4 year.natAbs

/-- The text of a date, such as `2024-01-31`. -/
def text (d : Date) : List Char :=
  yearText d.year ++ '-' :: Decimal.zeroPadded 2 d.month ++ '-' :: Decimal.zeroPadded 2 d.day

end Date

end Rowwise
