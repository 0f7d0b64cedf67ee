import Rowwise.Functions.CalendarParts
import Rowwise.Calendar.Designators
import Rowwise.Calendar.PatternText

/-!
# Reading and writing dates, times and durations

Texts are read in their standard form, or by a pattern; texts that do not fit give MISSING and a
warning.  Writing always needs a pattern.
-/

namespace Rowwise.Functions

/-! ## Reading -/

/-- How the values of a kind are read: in their standard form, and by a pattern.  `label` names
them in warnings. -/
structure TemporalReader (k : Kind) where
  label : String
  standard : List Char → Option k.Carrier
  byPattern : (text pattern : List Char) → Except ReadFailure k.Carrier

def dateReader : TemporalReader .localDate := ⟨"Date", StandardForm.readDate?, Pattern.readDate⟩
def timeReader : TemporalReader .localTime := ⟨"Time", StandardForm.readTime?, Pattern.readTime⟩
def dateTimeReader : TemporalReader .localDateTime :=
  ⟨"Date time", StandardForm.readDateTime?, Pattern.readDateTime⟩
def zonedReader : TemporalReader .zonedDateTime :=
  ⟨"Zoned date time", StandardForm.readZoned?, Pattern.readZoned⟩

/-- Records a warning, and gives no value. -/
def warnNone {α : Type} (message : String) : Eval (Option α) := do
  Eval.warn message
  pure none

/-- Reads a text, by a pattern if there is one. -/
def TemporalReader.read {k : Kind} (r : TemporalReader k) (text : String)
    (pattern : Option String) : Eval (Option k.Carrier) :=
  match pattern with
  | none =>
    match r.standard text.toList with
    | some v => pure (some v)
    | none => warnNone s!"{r.label} string '{text}' did not match default format."
  | some pattern =>
    match r.byPattern text.toList pattern.toList with
    | .ok v => pure (some v)
    | .error .notEnough => warnNone s!"Format '{pattern}' is underspecified for {k.name}."
    | .error _ => warnNone s!"{r.label} string '{text}' did not match format '{pattern}'."

def readBuilder {k : Kind} (r : TemporalReader k) : Builder := fun args _ => do
  let input ← args.required "string"
  let text ← args.source "string" .string
  let pattern ← args.source? "format" .string
  pure (.of k (Source.partialOver [input] do
    let pattern ← Source.optionalValue? pattern
    r.read (← text.compute) pattern))

def readFunction (name description : String) {k : Kind} (r : TemporalReader k) : Function :=
  .simple name .temporal description ["parse", "convert", "string"]
    [.required "string" (.kindOrMissing .string), .optional "format" (.kindOrMissing .string)]
    (.exactly (.optionalOf k)) (readBuilder r)

/-- Reads an amount of time. -/
def amountBuilder (k : Kind) (read : List Char → Option k.Carrier) : Builder := fun args _ => do
  let input ← args.required "string"
  let text ← args.source "string" .string
  pure (.of k (Source.partialOver [input] do
    let text ← text.compute
    match read text.toList with
    | some v => pure (some v)
    | none => warnNone s!"Invalid {k.name} string '{text}'."))

def amountFunction (name description : String) (k : Kind) (read : List Char → Option k.Carrier) :
    Function :=
  .simple name .temporal description ["parse", "duration", "ISO"]
    [.required "string" (.kindOrMissing .string)] (.exactly (.optionalOf k))
    (amountBuilder k read)

/-- Functions that read dates, times and durations. -/
def parsing : List Function :=
  [ readFunction "parse_date"
      ("Parses a LOCAL_DATE from `string`, by default `YYYY-MM-DD`, or with a chrono `format` such "
        ++ "as `%d.%m.%Y`.")
      dateReader,
    readFunction "parse_time"
      "Parses a LOCAL_TIME from `string`, by default `HH:MM[:SS[.fff]]`." timeReader,
    readFunction "parse_datetime"
      "Parses a LOCAL_DATE_TIME from `string`, by default `YYYY-MM-DDTHH:MM[:SS[.fff]]`."
      dateTimeReader,
    readFunction "parse_zoned_datetime"
      ("Parses a ZONED_DATE_TIME from `string`, by default an ISO date-time followed by `Z` or an "
        ++ "offset like `+01:00`.")
      zonedReader,
    amountFunction "parse_time_duration"
      "Parses a TIME_DURATION from an ISO-8601 string such as `PT1H30M`." .timeDuration
      Duration.read?,
    amountFunction "parse_date_duration"
      "Parses a DATE_DURATION from an ISO-8601 string such as `P1Y2M3D`." .dateDuration
      Period.read? ]

/-! ## Writing -/

/-- The parts of the values of a computer that a pattern can ask for. -/
def partsOf : Computer → Except EvalError (Source TemporalParts)
  | .missing => .ok Source.missing
  | .of .localDate s => .ok (s.map TemporalParts.ofDate)
  | .of .localTime s => .ok (s.map TemporalParts.ofTime)
  | .of .localDateTime s => .ok (s.map TemporalParts.ofDateTime)
  | .of .zonedDateTime s => .ok (s.map TemporalParts.ofZoned)
  | c => .error (.fault (.noPart c.base "format"))

/-- Writes a value of a base by a pattern. -/
def writeByPattern (base : Base) (pattern : String) (parts : TemporalParts) :
    Eval (Option String) :=
  let items := Pattern.items pattern.toList
  if items.contains .invalid then warnNone s!"Invalid format '{pattern}'."
  else
    match parts.text? items with
    | some text => pure (some (String.ofList text))
    | none => warnNone s!"Format '{pattern}' overspecified for {base.name}."

def writeBuilder : Builder := fun args _ => do
  let input ← args.required "temporal"
  let pattern ← args.source "format" .string
  let parts ← partsOf input
  pure (.string (Source.partialOver [input] do
    writeByPattern input.base (← pattern.compute) (← parts.compute)))

def writeFunction (name description : String) (m : Matcher) : Function :=
  .simple name .temporal description ["format", "string", "convert"]
    [.required "temporal" m, .required "format" (.kind .string)] (.exactly (.optionalOf .string))
    writeBuilder

/-- Functions that write dates and times. -/
def formatting : List Function :=
  [ writeFunction "format_date" "Formats a LOCAL_DATE with a chrono `format` such as `%d.%m.%Y`."
      (.kindOrMissing .localDate),
    writeFunction "format_time" "Formats a LOCAL_TIME with a chrono `format` such as `%H:%M`."
      (.kindOrMissing .localTime),
    writeFunction "format_datetime"
      "Formats a LOCAL_DATE_TIME or ZONED_DATE_TIME with a chrono `format`." .dateTimeOrMissing ]

end Rowwise.Functions
