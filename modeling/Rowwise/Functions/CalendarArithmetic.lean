import Rowwise.Functions.CalendarParts

/-!
# Distances in time, and moving dates and times
-/

namespace Rowwise.Functions

/-! ## Distances -/

/-- The type rule of distances: both ends have one base, which has the needed part. -/
def distanceType (k : Kind) (needed : String) (has : ValueType → Bool) : TypeRule := fun args =>
  match args.get? "start", args.get? "end" with
  | some first, some last =>
    if first.base ≠ last.base ∧ !first.isMissing ∧ !last.isMissing then
      .error (s!"Both arguments must be of the same base type, but one was {first.base.name}"
        ++ s!" and the other was {last.base.name}")
    else
      let known := if first.isMissing then last else first
      if !known.isMissing && !has known then
        .error s!"{known.base.name} does not have {needed} information"
      else .ok (.of k args.anyOptional)
  | _, _ => .error "Expected a start and an end argument."

/-- A value from the dates of both ends. -/
def dateDistance (k : Kind) (f : Date → Date → k.Carrier) : Builder := fun args _ => do
  let first ← Builder.dates (← args.required "start")
  let last ← Builder.dates (← args.required "end")
  pure (.of k (Source.propagating args.values do pure (f (← first.compute) (← last.compute))))

def dateDistanceParams : List Param :=
  [.required "start" .datePartOrMissing, .required "end" .datePartOrMissing]

def dateDistanceFunction (name description : String) (f : Date → Date → Int) : Function :=
  .simple name .temporal description ["difference", "interval", "between"] dateDistanceParams
    (distanceType .integer "date" ValueType.hasDatePart)
    (dateDistance .integer fun first last => Int64.ofInt (f first last))

/-- The complete months from one date to another. -/
def monthsBetween (first last : Date) : Int := (Period.between first last).totalMonths

/-- The duration of so many nanoseconds between two values, given the distance of their kind.
The end is read before the start. -/
def elapsedSource {α : Type} (nanosSince : α → α → Int) (first last : Source α) :
    Source Duration :=
  { isMissing := do if ← first.isMissing then pure true else last.isMissing
    compute := do
      let b ← last.compute
      let a ← first.compute
      Eval.inRange (some .timeDuration) (Duration.ofNanos? (nanosSince b a)) }

/-- The duration between two times or date-times of one kind. -/
def durationBetween : Computer → Computer → Source Duration
  | .of .localTime a, .of .localTime b => elapsedSource TimeOfDay.nanosSince a b
  | .of .localDateTime a, .of .localDateTime b => elapsedSource LocalDateTime.nanosSince a b
  | .of .zonedDateTime a, .of .zonedDateTime b => elapsedSource ZonedDateTime.nanosSince a b
  | _, _ => Source.missing

/-! ## Moving -/

/-- The type of the start, optional if one of the arguments is. -/
def startType : TypeRule := fun args =>
  match args.get? "start" with
  | some t => .ok (t.withOptional args.anyOptional)
  | none => .error "Missing required argument 'start'."

/-- Moves the values of a source; missing if one of the sources is. -/
def moveSource {α β γ : Type} (start : Source α) (amount : Source β) (f : α → β → Eval γ) :
    Source γ :=
  { isMissing := do if ← start.isMissing then pure true else amount.isMissing
    compute := do f (← start.compute) (← amount.compute) }

/-- Moves by a period, which is read before the start. -/
def moveByPeriod {α : Type} (start : Source α) (amount : Source Period)
    (add : Period → α → Option α) : Source α :=
  { isMissing := do if ← start.isMissing then pure true else amount.isMissing
    compute := do
      let p ← amount.compute
      Eval.orFail .dateTimeTooLarge (add p (← start.compute)) }

/-- Times wrap around midnight. -/
def addDurationBuilder : Builder := fun args _ => do
  let d ← args.source "duration" .timeDuration
  match ← args.required "start" with
  | .missing => pure .missing
  | .of .localTime t => pure (.of .localTime (moveSource t d fun t d => pure (t.add d).1))
  | .of .localDateTime t =>
    pure (.of .localDateTime (moveSource t d fun t d => Eval.orFail .dateTimeTooLarge (t.add? d)))
  | .of .zonedDateTime z =>
    pure (.of .zonedDateTime (moveSource z d fun z d => Eval.orFail .dateTimeTooLarge (z.add? d)))
  | c => throw (.fault (.noPart c.base "time part"))

def addPeriodBuilder : Builder := fun args _ => do
  let p ← args.source "duration" .dateDuration
  match ← args.required "start" with
  | .missing => pure .missing
  | .of .localDate d => pure (.of .localDate (moveByPeriod d p Period.addTo?))
  | .of .localDateTime t => pure (.of .localDateTime (moveByPeriod t p Period.addToDateTime?))
  | .of .zonedDateTime z =>
    pure (.of .zonedDateTime
      (moveSource z p fun z p => Eval.orFail .dateTimeTooLarge (p.addToZoned? z)))
  | c => throw (.fault (.noPart c.base "date part"))

/-- Functions on distances and moves. -/
def calendarArithmetic : List Function :=
  [ dateDistanceFunction "days_between"
      ("The number of days from `start` to `end`; negative if `end` is earlier. Times and zones "
        ++ "are ignored.")
      fun first last => last.dayNumber - first.dayNumber,
    dateDistanceFunction "months_between" "The number of complete months from `start` to `end`."
      monthsBetween,
    dateDistanceFunction "years_between" "The number of complete years from `start` to `end`."
      fun first last => (monthsBetween first last).tdiv 12,
    .simple "date_duration_between" .temporal
      "The DATE_DURATION from the date part of `start` to that of `end`."
      ["difference", "period", "between"] dateDistanceParams
      (distanceType .dateDuration "date" ValueType.hasDatePart)
      (dateDistance .dateDuration Period.between),
    .simple "time_duration_between" .temporal
      ("The TIME_DURATION from `start` to `end`, which must be the same kind of time or date-time. "
        ++ "ZONED_DATE_TIME values are compared as instants.")
      ["difference", "duration", "between"]
      [.required "start" .timePartOrMissing, .required "end" .timePartOrMissing]
      (distanceType .timeDuration "time" ValueType.hasTimePart)
      (fun args _ => do
        pure (.of .timeDuration
          (durationBetween (← args.required "start") (← args.required "end")))),
    .simple "add_time_duration" .temporal
      "`start` moved by `duration`. LOCAL_TIME values wrap around midnight." ["plus", "shift"]
      [.required "start" .timePartOrMissing, .required "duration" (.kindOrMissing .timeDuration)]
      startType addDurationBuilder,
    .simple "add_date_duration" .temporal
      ("`start` moved by a calendar `duration`; days that do not exist in the target month are "
        ++ "clamped to its last day.")
      ["plus", "shift"]
      [.required "start" .datePartOrMissing, .required "duration" (.kindOrMissing .dateDuration)]
      startType addPeriodBuilder ]

end Rowwise.Functions
