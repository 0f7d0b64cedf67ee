import Rowwise.Calendar.DateTime

/-!
# Calendar periods

A `Period` is an amount of years, months and days, kept apart: a month is not a number of days.
Adding one to a date moves the month first, to the last day of the new month if that has no such
day, and then the days.  `Period.between` is the distance of two dates in these terms.
-/

namespace Rowwise

/-- An amount of years, months and days. -/
structure Period where
  years : Int32
  months : Int32
  days : Int32
  deriving DecidableEq, Inhabited

namespace Period

def zero : Period := ⟨0, 0, 0⟩

/-- The sum, if its parts fit. -/
def add? (p q : Period) : Option Period := do
  pure ⟨← Word32.checkedAdd p.years q.years, ← Word32.checkedAdd p.months q.months,
    ← Word32.checkedAdd p.days q.days⟩

/-- The multiple, if its parts fit. -/
def scale? (p : Period) (n : Int32) : Option Period := do
  pure ⟨← Word32.checkedMul p.years n, ← Word32.checkedMul p.months n,
    ← Word32.checkedMul p.days n⟩

/-- The opposite period, if its parts fit. -/
def neg? (p : Period) : Option Period := p.scale? (-1)

/-- The difference, if its parts and those of the opposite of `q` fit. -/
def sub? (p q : Period) : Option Period := do p.add? (← q.neg?)

/-- Years and months in months. -/
def totalMonths (p : Period) : Int := p.years.toInt * 12 + p.months.toInt

/-- The date that much later, if it and the date after the months are in the calendar. -/
def addTo? (p : Period) (d : Date) : Option Date := do
  let moved ← d.addMonths? p.totalMonths
  moved.addDays? p.days.toInt

/-- The date that much earlier. -/
def subtractFrom? (p : Period) (d : Date) : Option Date := do (← p.neg?).addTo? d

/-- The date and time that much later; the time of day stays. -/
def addToDateTime? (p : Period) (t : LocalDateTime) : Option LocalDateTime :=
  (p.addTo? t.date).map (⟨·, t.time⟩)

/-- The zoned date-time that much later on the local clock. -/
def addToZoned? (p : Period) (z : ZonedDateTime) : Option ZonedDateTime := do
  ZonedDateTime.ofLocal? (← p.addToDateTime? z.wall) z.offset

/-- The months and days from `start` to `finish`, both with the sign of the distance.  If the day
of the month has not been reached yet, the last month is not counted and its days are. -/
def monthsAndDays (start finish : Date) : Int × Int :=
  let months := finish.monthNumber - start.monthNumber
  let days := (finish.day : Int) - start.day
  if months > 0 ∧ days < 0 then
    match start.addMonths? (months - 1) with
    | some anchor => (months - 1, finish.dayNumber - anchor.dayNumber)
    | none => (months - 1, days)
  else if months < 0 ∧ days > 0 then
    (months + 1, days - daysInMonth finish.year finish.month)
  else (months, days)

/-- The distance from `start` to `finish` in the calendar. -/
def between (start finish : Date) : Period :=
  let (months, days) := monthsAndDays start finish
  ⟨Int32.ofInt (months.tdiv 12), Int32.ofInt (months.tmod 12), Int32.ofInt days⟩

/-- The text of a period, such as `P1Y2M3D`; parts that are zero are left out. -/
def text (p : Period) : List Char :=
  if p = zero then "P0D".toList
  else
    let part := fun (n : Int32) (unit : Char) =>
      if n = 0 then [] else Decimal.intText n.toInt ++ [unit]
    'P' :: (part p.years 'Y' ++ part p.months 'M' ++ part p.days 'D')

end Period

end Rowwise
