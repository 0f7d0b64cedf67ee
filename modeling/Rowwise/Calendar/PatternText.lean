import Rowwise.Calendar.Pattern

/-!
# Writing dates and times by a pattern

What is written may have a date, a time and an offset, or only some of them.  A pattern that asks
for a part that is not there has no text.
-/

namespace Rowwise

/-- The parts of a date or time that a pattern can ask for. -/
structure TemporalParts where
  date : Option Date := none
  time : Option TimeOfDay := none
  offset : Option Offset := none

namespace TemporalParts

open Decimal

def ofDate (d : Date) : TemporalParts := { date := some d }
def ofTime (t : TimeOfDay) : TemporalParts := { time := some t }
def ofDateTime (t : LocalDateTime) : TemporalParts := { date := some t.date, time := some t.time }
def ofZoned (z : ZonedDateTime) : TemporalParts :=
  { date := some z.wall.date, time := some z.wall.time, offset := some z.offset }

/-- A number filled up to a width; with a sign that always shows, the width counts it. -/
def padded (width : Nat) (n : Int) (padding : Padding) (alwaysSign : Bool) : List Char :=
  let sign := if n < 0 then ['-'] else if alwaysSign then ['+'] else []
  let ds := digits n.natAbs
  let missing := (if alwaysSign then width + 1 else width) - (sign.length + ds.length)
  match padding with
  | .none => sign ++ ds
  | .zero => sign ++ List.replicate missing '0' ++ ds
  | .space => List.replicate missing ' ' ++ sign ++ ds

/-- A year: four digits, or a sign that always shows outside of 0 to 9999. -/
def yearText (year : Int) (padding : Padding) : List Char :=
  padded 4 year padding (year < 0 || year > 9999)

/-- A number of two digits.  Centuries are counted modulo 256, and a leading part above nine
takes the characters after the digits. -/
def twoDigits (n : Nat) (padding : Padding) : List Char :=
  let n := n % 256
  let last := Char.ofNat (n % 10 + 48)
  match n / 10, padding with
  | 0, .none => [last]
  | 0, .space => [' ', last]
  | tens, _ => [Char.ofNat (tens + 48), last]

/-- The hour on a clock of twelve hours. -/
def hour12 (t : TimeOfDay) : Nat := if t.hour % 12 = 0 then 12 else t.hour % 12

/-- The number of a field that the date has. -/
def dateNumber (d : Date) (padding : Padding) : NumberField → Option (List Char)
  | .year => some (yearText d.year padding)
  | .century => some (twoDigits (d.year / 100 % 256).toNat padding)
  | .yearOfCentury => some (twoDigits (d.year % 100).toNat padding)
  | .isoYear => some (yearText d.isoWeek.1 padding)
  | .isoYearOfCentury => some (twoDigits (d.isoWeek.1 % 100).toNat padding)
  | .quarter => some (digits d.quarter)
  | .month => some (twoDigits d.month padding)
  | .day => some (twoDigits d.day padding)
  | .weekFromSunday => some (twoDigits d.weekFromSunday padding)
  | .weekFromMonday => some (twoDigits d.weekFromMonday padding)
  | .isoWeek => some (twoDigits d.isoWeek.2 padding)
  | .weekdayFromSunday => some (digits d.weekdayFromSunday)
  | .weekdayFromMonday => some (digits (d.weekday + 1))
  | .ordinal => some (padded 3 d.ordinal padding false)
  | _ => none

/-- The number of a field that the time has.  A leap second is second 60. -/
def timeNumber (t : TimeOfDay) (padding : Padding) : NumberField → Option (List Char)
  | .hour => some (twoDigits t.hour padding)
  | .hour12 => some (twoDigits (hour12 t) padding)
  | .minute => some (twoDigits t.minute padding)
  | .second => some (twoDigits (t.secondOfMinute + t.nano / 1000000000) padding)
  | .nanosecond => some (padded 9 (t.nano % 1000000000 : Nat) padding false)
  | _ => none

/-- The seconds since 1 January 1970; without an offset the time counts as UTC. -/
def unixSeconds? (p : TemporalParts) : Option Int := do
  let d ← p.date
  let t ← p.time
  pure ((d.dayNumber - 719162) * 86400 + t.second - (p.offset.map Offset.seconds).getD 0)

/-- A fraction of a second with a point, in as many groups of three digits as it needs. -/
def fractionText (nano : Nat) : List Char :=
  if nano = 0 then [] else '.' :: TimeOfDay.fractionText nano

/-- An offset, rounded to minutes unless seconds are shown. -/
def offsetText (o : Offset) : OffsetForm → Option (List Char)
  | .plain => some (hoursMinutes [])
  | .colon => some (hoursMinutes [':'])
  | .doubleColon =>
    some (sign :: (zeroPadded 2 (n / 3600) ++ ':' :: zeroPadded 2 (n / 60 % 60) ++
      ':' :: zeroPadded 2 (n % 60)))
  | .hours => some (sign :: zeroPadded 2 (n / 3600))
  | .permissive => none
where
  n : Nat := o.seconds.natAbs
  sign : Char := if o.seconds < 0 then '-' else '+'
  hoursMinutes (separator : List Char) : List Char :=
    let minutes := (n + 30) / 60
    sign :: (zeroPadded 2 (minutes / 60) ++ separator ++ zeroPadded 2 (minutes % 60))

/-- A complete date and time with offset. -/
def timestampText (d : Date) (t : TimeOfDay) (o : Offset) : List Char :=
  d.text ++ 'T' :: (zeroPadded 2 t.hour ++ ':' :: zeroPadded 2 t.minute ++ ':' ::
    zeroPadded 2 (t.secondOfMinute + t.nano / 1000000000) ++ fractionText (t.nano % 1000000000) ++
    (offsetText o .colon).getD [])

/-- The text of one item, if the part that it asks for is there. -/
def itemText (p : TemporalParts) : PatternItem → Option (List Char)
  | .literal text | .blank text => some text
  | .number .timestamp padding => p.unixSeconds?.map fun n => padded 9 n padding false
  | .number field padding =>
    (p.date.bind fun d => dateNumber d padding field) <|>
      (p.time.bind fun t => timeNumber t padding field)
  | .shortMonth => p.date.map fun d => (monthName d).take 3
  | .longMonth => p.date.map monthName
  | .shortWeekday => p.date.map fun d => (weekdayName d).take 3
  | .longWeekday => p.date.map weekdayName
  | .lowerAmPm => p.time.map fun t => if t.hour < 12 then ['a', 'm'] else ['p', 'm']
  | .upperAmPm => p.time.map fun t => if t.hour < 12 then ['A', 'M'] else ['P', 'M']
  | .fraction => p.time.map fun t => fractionText (t.nano % 1000000000)
  | .fixedFraction count point =>
    p.time.map fun t =>
      (if point then ['.'] else []) ++ zeroPadded count (t.nano % 1000000000 / Nat.pow 10 (9 - count))
  | .zoneName => p.offset.map Offset.text
  | .offset form => p.offset.bind fun o => offsetText o form
  | .timestamp => do pure (timestampText (← p.date) (← p.time) (← p.offset))
  | .invalid => none
where
  monthName (d : Date) : List Char := (monthNames.getD (d.month - 1) "").toList
  weekdayName (d : Date) : List Char := (weekdayNames.getD d.weekday "").toList

/-- The text of a list of items, if every part that they ask for is there. -/
def text? (p : TemporalParts) (items : List PatternItem) : Option (List Char) :=
  (items.mapM p.itemText).map List.flatten

end TemporalParts

end Rowwise
