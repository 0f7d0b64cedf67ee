import Rowwise.Calendar.TimeOfDay

/-!
# Dates with a time, and instants

A `LocalDateTime` is a date and a time of day.  A `ZonedDateTime` is a local date and time
together with its offset from UTC; two of them are compared and subtracted as instants, and moved
by a duration along the line of instants.
-/

namespace Rowwise

/-- A date and a time of day. -/
structure LocalDateTime where
  date : Date
  time : TimeOfDay
  deriving DecidableEq, Inhabited

/-- An offset from UTC in seconds, less than a day either way. -/
structure Offset where
  seconds : Int
  bounded : -86400 < seconds ∧ seconds < 86400
  deriving DecidableEq

namespace Offset

def utc : Offset := ⟨0, by decide⟩

instance : Inhabited Offset := ⟨utc⟩

/-- The offset of so many seconds, if it is less than a day. -/
def ofSeconds? (n : Int) : Option Offset :=
  if h : -86400 < n ∧ n < 86400 then some ⟨n, h⟩ else none

/-- The text of an offset: a sign, hours and minutes, and seconds if there are any. -/
def text (o : Offset) : List Char :=
  let n := o.seconds.natAbs
  let sign := if o.seconds < 0 then '-' else '+'
  let clock := sign :: (Decimal.zeroPadded 2 (n / 3600) ++ ':' :: Decimal.zeroPadded 2 (n / 60 % 60))
  if n % 60 = 0 then clock else clock ++ ':' :: Decimal.zeroPadded 2 (n % 60)

end Offset

namespace LocalDateTime

instance : Ord LocalDateTime :=
  ⟨fun a b => (compare a.date b.date).then (compare a.time b.time)⟩

/-- The date and time so much later, if it is in the calendar. -/
def add? (t : LocalDateTime) (d : Duration) : Option LocalDateTime :=
  let (time, days) := t.time.add d
  (t.date.addDays? days).map (⟨·, time⟩)

/-- The date and time so much earlier, if it is in the calendar. -/
def sub? (t : LocalDateTime) (d : Duration) : Option LocalDateTime := t.add? d.neg

/-- The nanoseconds from `b` to `a`. -/
def nanosSince (a b : LocalDateTime) : Int :=
  a.date.durationSince b.date + a.time.nanosSince b.time

/-- The text of a date and time, such as `2024-01-31T10:30`. -/
def text (t : LocalDateTime) : List Char := t.date.text ++ 'T' :: t.time.text

end LocalDateTime

/-- A local date and time with its offset from UTC. -/
structure ZonedDateTime where
  wall : LocalDateTime
  offset : Offset
  deriving DecidableEq, Inhabited

namespace ZonedDateTime

/-- The time of day in UTC, and the number of its day. -/
def utcTime (z : ZonedDateTime) : TimeOfDay × Int :=
  let (time, days) := TimeOfDay.ofSeconds ((z.wall.time.second : Int) - z.offset.seconds)
    z.wall.time.nano z.wall.time.valid.2
  (time, z.wall.date.dayNumber + days)

/-- The instant that has the given local date and time at an offset.  Its UTC date has to be in
the calendar. -/
def ofLocal? (t : LocalDateTime) (offset : Offset) : Option ZonedDateTime :=
  let z : ZonedDateTime := ⟨t, offset⟩
  (Date.ofDayNumber? z.utcTime.2).map fun _ => z

/-- The local view, at an offset, of a day and time in UTC. -/
def ofUtc? (day : Int) (time : TimeOfDay) (offset : Offset) : Option ZonedDateTime := do
  let _ ← Date.ofDayNumber? day
  let (clock, days) := TimeOfDay.ofSeconds ((time.second : Int) + offset.seconds) time.nano
    time.valid.2
  let date ← Date.ofDayNumber? (day + days)
  pure ⟨⟨date, clock⟩, offset⟩

/-- Instants are ordered by their UTC date and time. -/
instance : Ord ZonedDateTime :=
  ⟨fun a b =>
    (compare a.utcTime.2 b.utcTime.2).then (compare a.utcTime.1 b.utcTime.1)⟩

/-- Two zoned date-times are equal if they are the same instant. -/
instance : BEq ZonedDateTime := ⟨fun a b => a.utcTime == b.utcTime⟩

/-- The instant so much later with the same offset, if it is in the calendar. -/
def add? (z : ZonedDateTime) (d : Duration) : Option ZonedDateTime :=
  let (time, day) := z.utcTime
  let (time, days) := time.add d
  ofUtc? (day + days) time z.offset

/-- The instant so much earlier with the same offset, if it is in the calendar. -/
def sub? (z : ZonedDateTime) (d : Duration) : Option ZonedDateTime := z.add? d.neg

/-- The nanoseconds from `b` to `a`. -/
def nanosSince (a b : ZonedDateTime) : Int :=
  (a.utcTime.2 - b.utcTime.2) * 86400 * 1000000000 + a.utcTime.1.nanosSince b.utcTime.1

/-- The seconds since 1 January 1970, UTC. -/
def unixSeconds (z : ZonedDateTime) : Int :=
  (z.utcTime.2 - 719162) * 86400 + z.utcTime.1.second

/-- The text of a zoned date-time: the local one and the offset, or `Z` in UTC. -/
def text (z : ZonedDateTime) : List Char :=
  z.wall.text ++ if z.offset.seconds = 0 then ['Z'] else z.offset.text

end ZonedDateTime

end Rowwise
