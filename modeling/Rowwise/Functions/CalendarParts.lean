import Rowwise.Functions.Builder
import Rowwise.Calendar.StandardForm

/-!
# Making dates and times, and taking them apart

Parts that do not fit together give MISSING and a warning; parts that are not even numbers of 32
bits are errors.
-/

namespace Rowwise

namespace Builder

/-- The dates of a computer whose values have one. -/
def dates : Computer → Except EvalError (Source Date)
  | .missing => .ok Source.missing
  | .of .localDate s => .ok s
  | .of .localDateTime s => .ok (s.map LocalDateTime.date)
  | .of .zonedDateTime s => .ok (s.map fun z => z.wall.date)
  | c => .error (.fault (.noPart c.base "date part"))

/-- The times of day of a computer whose values have one. -/
def times : Computer → Except EvalError (Source TimeOfDay)
  | .missing => .ok Source.missing
  | .of .localTime s => .ok s
  | .of .localDateTime s => .ok (s.map LocalDateTime.time)
  | .of .zonedDateTime s => .ok (s.map fun z => z.wall.time)
  | c => .error (.fault (.noPart c.base "time part"))

/-- The sources of several integer parameters that are always bound. -/
def integers (args : Arguments Computer) (names : List String) :
    Except EvalError (List (Source Int64)) :=
  names.mapM fun name => args.source name .integer

/-- The value of a parameter that may be missing or not be given; zero then. -/
def integerOrZero (s : Option (Source Int64)) : Eval Int64 := do
  pure ((← Source.optionalValue? s).getD 0)

/-- An integer as a word of 32 bits, or a failure. -/
def word (cause : RowFailure) (n : Int64) : Eval Int32 := Eval.orFail cause (Word32.ofInt? n.toInt)

end Builder

namespace Functions

def calendarIntegerParam (name : String) : Param := .required name (.kindOrMissing .integer)
def optionalIntegerParam (name : String) : Param := .optional name (.kindOrMissing .integer)

/-! ## Making -/

/-- Records that a part is out of its range, and gives no value. -/
def warnPart {α : Type} (part range : String) (value : Int) : Eval (Option α) := do
  Eval.warn ("Invalid value for " ++ part ++ " (valid values " ++ range ++ "): "
    ++ String.ofList (Decimal.intText value) ++ ".")
  pure none

/-- The text of a date that does not exist. -/
def dateText (year month day : Int) : String :=
  String.ofList (Decimal.intText year ++ '-' :: Decimal.zeroPadded 2 month.toNat ++
    '-' :: Decimal.zeroPadded 2 day.toNat)

/-- The date with these parts. -/
def makeDate (year month day : Int64) : Eval (Option Date) := do
  let year := (← Builder.word .dateOverflow year).toInt
  let month := (← Builder.word .dateOverflow month).toInt
  let day := (← Builder.word .dateOverflow day).toInt
  if month < 1 ∨ month > 12 then warnPart "month" "1 - 12" month
  else if day < 1 ∨ day > 31 then warnPart "day" "1 - 28/31" day
  else
    let date := Date.ofParts? year month.toNat day.toNat
    if date.isNone then Eval.warn ("Invalid date '" ++ dateText year month day ++ "'.")
    pure date

/-- The time of day with these parts. -/
def makeTime (hour minute second nano : Int64) : Eval (Option TimeOfDay) := do
  let hour := (← Builder.word .timeOverflow hour).toInt
  let minute := (← Builder.word .timeOverflow minute).toInt
  let second := (← Builder.word .timeOverflow second).toInt
  let nano := (← Builder.word .timeOverflow nano).toInt
  if hour < 0 ∨ hour > 23 then warnPart "hour" "0 - 23" hour
  else if minute < 0 ∨ minute > 59 then warnPart "minute" "0 - 59" minute
  else if second < 0 ∨ second > 59 then warnPart "second" "0 - 59" second
  else if nano < 0 ∨ nano > 999999999 then warnPart "nanosecond" "0 - 999999999" nano
  else pure (TimeOfDay.ofClock? hour.toNat minute.toNat second.toNat nano.toNat)

/-- The sum of hours, minutes, seconds and nanoseconds, added from left to right. -/
def sumOfParts (hours minutes seconds nanos : Int64) : Option Duration := do
  let d ← Duration.ofHours? hours.toInt
  let d ← d.add? (← Duration.ofMinutes? minutes.toInt)
  let d ← d.add? (← Duration.ofSeconds? seconds.toInt)
  d.add? (← Duration.ofNanos? nanos.toInt)

/-- The offset of a zone; an unknown zone is a warning. -/
def readZone (zone : String) : Eval (Option Offset) :=
  match ZoneReading.read zone.toList with
  | .offset o => pure (some o)
  | .unknown => do
    Eval.warn s!"Invalid zone id '{zone}'."
    pure none
  | .cutInsideCharacter => throw .aborted

def makeDateBuilder : Builder := fun args _ => do
  let year ← args.source "year" .integer
  let month ← args.source "month" .integer
  let day ← args.source "day" .integer
  pure (.of .localDate (Source.partialOver args.values do
    makeDate (← year.compute) (← month.compute) (← day.compute)))

/-- Seconds and nanoseconds are read before hours and minutes. -/
def makeTimeBuilder : Builder := fun args _ => do
  let inputs := [← args.required "hour", ← args.required "minute"]
  let hour ← args.source "hour" .integer
  let minute ← args.source "minute" .integer
  let second ← args.source? "second" .integer
  let nano ← args.source? "nanosecond" .integer
  pure (.of .localTime (Source.partialOver inputs do
    let second ← Builder.integerOrZero second
    let nano ← Builder.integerOrZero nano
    makeTime (← hour.compute) (← minute.compute) second nano))

def makeDateTimeBuilder : Builder := fun args _ => do
  let date ← args.source "date" .localDate
  let time ← args.source "time" .localTime
  pure (.of .localDateTime (Source.propagating args.values do
    pure ⟨← date.compute, ← time.compute⟩))

def makeZonedBuilder : Builder := fun args _ => do
  let wall ← args.source "datetime" .localDateTime
  let zone ← args.source "zone" .string
  pure (.of .zonedDateTime (Source.partialOver args.values do
    match ← readZone (← zone.compute) with
    | some offset => do pure (ZonedDateTime.ofLocal? (← wall.compute) offset)
    | none => pure none))

def makeDurationBuilder : Builder := fun args _ => do
  let hours ← args.source "hours" .integer
  let minutes ← args.source "minutes" .integer
  let seconds ← args.source? "seconds" .integer
  let nanos ← args.source? "nanoseconds" .integer
  pure (.of .timeDuration (Source.propagating args.values do
    let sum := sumOfParts (← hours.compute) (← minutes.compute) (← Builder.integerOrZero seconds)
      (← Builder.integerOrZero nanos)
    Eval.orFail .durationTooLarge sum))

def makePeriodBuilder : Builder := fun args _ => do
  let years ← args.source "years" .integer
  let months ← args.source "months" .integer
  let days ← args.source "days" .integer
  pure (.of .dateDuration (Source.propagating args.values do
    let years ← Builder.word .durationTooLarge (← years.compute)
    let months ← Builder.word .durationTooLarge (← months.compute)
    pure ⟨years, months, ← Builder.word .durationTooLarge (← days.compute)⟩))

/-- Functions that make dates, times and durations. -/
def making : List Function :=
  [ .simple "make_date" .temporal
      ("A LOCAL_DATE from `year`, `month` (1-12) and `day` (1-31). Invalid combinations give "
        ++ "MISSING with a warning.")
      ["create", "date", "local_date"]
      [calendarIntegerParam "year", calendarIntegerParam "month", calendarIntegerParam "day"]
      (.exactly (.optionalOf .localDate)) makeDateBuilder,
    .simple "make_time" .temporal
      ("A LOCAL_TIME from `hour`, `minute` and the optional `second` and `nanosecond`, which "
        ++ "default to 0. Out-of-range values give MISSING with a warning.")
      ["create", "time", "local_time"]
      [calendarIntegerParam "hour", calendarIntegerParam "minute", optionalIntegerParam "second",
        optionalIntegerParam "nanosecond"]
      (.exactly (.optionalOf .localTime)) makeTimeBuilder,
    .simple "make_datetime" .temporal "A LOCAL_DATE_TIME from a `date` and a `time`."
      ["create", "datetime", "combine"]
      [.required "date" (.kindOrMissing .localDate), .required "time" (.kindOrMissing .localTime)]
      (.propagate .localDateTime) makeDateTimeBuilder,
    .simple "make_zoned" .temporal
      ("A ZONED_DATE_TIME from a `datetime` and a fixed `zone` such as `Z`, `UTC` or `+01:00`. An "
        ++ "unknown zone gives MISSING with a warning.")
      ["create", "zone", "offset", "timezone"]
      [.required "datetime" (.kindOrMissing .localDateTime),
        .required "zone" (.kindOrMissing .string)]
      (.exactly (.optionalOf .zonedDateTime)) makeZonedBuilder,
    .simple "make_time_duration" .temporal
      "A TIME_DURATION of `hours`, `minutes` and the optional `seconds` and `nanoseconds`."
      ["create", "duration", "interval"]
      [calendarIntegerParam "hours", calendarIntegerParam "minutes",
        optionalIntegerParam "seconds", optionalIntegerParam "nanoseconds"]
      (.propagate .timeDuration) makeDurationBuilder,
    .simple "make_date_duration" .temporal "A DATE_DURATION of `years`, `months` and `days`."
      ["create", "period", "interval"]
      [calendarIntegerParam "years", calendarIntegerParam "months", calendarIntegerParam "days"]
      (.propagate .dateDuration) makePeriodBuilder ]

/-! ## The current time -/

/-- Functions of the moment at which the evaluation started. -/
def current : List Function :=
  [ .simple "now" .temporal "The moment the evaluation started, the same for every row."
      ["current", "time", "timestamp"] [] (.exactly (.required .zonedDateTime))
      fun _ _ => .ok (.of .zonedDateTime (Source.present do pure (← readThe Moment).start)),
    .simple "today" .temporal "The date on which the evaluation started, the same for every row."
      ["current", "date"] [] (.exactly (.required .localDate))
      fun _ _ => .ok (.of .localDate (Source.present do pure (← readThe Moment).start.wall.date)) ]

/-! ## Taking apart -/

/-- A number of the date of `temporal`. -/
def dateField (f : Date → Int) : Builder := fun args _ => do
  let s ← Builder.dates (← args.required "temporal")
  pure (.integer (s.map fun d => Int64.ofInt (f d)))

/-- A number of the time of `temporal`. -/
def timeField (f : TimeOfDay → Nat) : Builder := fun args _ => do
  let s ← Builder.times (← args.required "temporal")
  pure (.integer (s.map fun t => Int64.ofNat (f t)))

def dateFieldFunction (name description : String) (f : Date → Int) : Function :=
  .simple name .temporal description ["extract", "get", "part"]
    [.required "temporal" .datePartOrMissing] (.propagate .integer) (dateField f)

def timeFieldFunction (name description : String) (f : TimeOfDay → Nat) : Function :=
  .simple name .temporal description ["extract", "get", "part"]
    [.required "temporal" .timePartOrMissing] (.propagate .integer) (timeField f)

/-- A duration in seconds, the nanoseconds as a fraction. -/
def secondsOf (d : Duration) : Float :=
  Integer.toFloat (.ofInt d.wholeSeconds) + Integer.toFloat (.ofInt d.subsecondNanos) / 1e9

/-- A duration in units of so many seconds. -/
def unitFunction (name description : String) (unit : Float) : Function :=
  .simple name .temporal description ["convert", "duration"]
    [.required "duration" (.kindOrMissing .timeDuration)] (.propagate .float)
    fun args _ => do
      let d ← args.source "duration" .timeDuration
      pure (.float (d.map fun d => secondsOf d / unit))

/-- Functions that take parts of dates, times and durations. -/
def extraction : List Function :=
  [ dateFieldFunction "extract_year" "The year of a date or date-time." Date.year,
    dateFieldFunction "extract_month" "The month (1-12) of a date or date-time." fun d => d.month,
    dateFieldFunction "extract_day_of_month" "The day of the month (1-31) of a date or date-time."
      fun d => d.day,
    timeFieldFunction "extract_hour" "The hour (0-23) of a time or date-time." TimeOfDay.hour,
    timeFieldFunction "extract_minute" "The minute (0-59) of a time or date-time."
      TimeOfDay.minute,
    timeFieldFunction "extract_second" "The second (0-59) of a time or date-time."
      TimeOfDay.secondOfMinute,
    timeFieldFunction "extract_nanosecond" "The nanosecond of the second of a time or date-time."
      TimeOfDay.nano,
    .simple "extract_date" .temporal "The date part of a date-time." ["extract", "date"]
      [.required "temporal" .dateTimeOrMissing] (.propagate .localDate)
      fun args _ => do pure (.of .localDate (← Builder.dates (← args.required "temporal"))),
    .simple "extract_time" .temporal "The time part of a date-time." ["extract", "time"]
      [.required "temporal" .dateTimeOrMissing] (.propagate .localTime)
      fun args _ => do pure (.of .localTime (← Builder.times (← args.required "temporal"))),
    .simple "extract_datetime" .temporal
      ("The local date and time of a ZONED_DATE_TIME, dropping the zone without adjusting the wall "
        ++ "time.")
      ["extract", "remove zone"] [.required "temporal" (.kindOrMissing .zonedDateTime)]
      (.propagate .localDateTime)
      fun args _ => do
        let z ← args.source "temporal" .zonedDateTime
        pure (.of .localDateTime (z.map ZonedDateTime.wall)),
    unitFunction "to_hours" "`duration` in hours." 3600,
    unitFunction "to_minutes" "`duration` in minutes." 60,
    unitFunction "to_seconds" "`duration` in seconds." 1 ]

end Functions

end Rowwise
