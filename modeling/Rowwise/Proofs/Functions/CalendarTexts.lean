import Rowwise.Proofs.Calendar.ZonedText
import Rowwise.Proofs.Functions.Conversions

/-!
# Dates and times are decoded from their texts

The functions that read dates and times by their standard forms are applied to what `to_string`
writes.  What they find is `Kind.reread` of the value: all of a date, and all of a time that is not
in a leap second.  A date-time with an offset is only found if its text has the internet form or if
the offset is not too large.  `Kind.Faithful` collects the values that are their own `reread`.

The offset of a stored date-time has no seconds, and its moment lies in the calendar
(`Kind.Storable`); other date-times are not spelled by the forms that are read.
-/

namespace Rowwise

open Eval Functions

namespace Kind

/-- Whether a value may be stored: the offset of a date-time is one of hours and minutes, and its
moment is in the calendar. -/
def Storable : (k : Kind) → k.Carrier → Prop
  | .zonedDateTime, z => z.offset.Whole ∧ (Date.ofDayNumber? z.utcTime.2).isSome
  | _, _ => True

/-- What is read for the text of a date or time, if anything. -/
def reread : (k : Kind) → k.Carrier → Option k.Carrier
  | .localTime, t => some t.reread
  | .localDateTime, t => some t.reread
  | .zonedDateTime, z => if z.IsInternet ∨ z.offset.hours ≤ 18 then some z.reread else none
  | _, v => some v

/-- Whether the text of a value stands for the value: it is not in a leap second, and its form and
its offset suit one of the readers. -/
def Faithful : (k : Kind) → k.Carrier → Prop
  | .localTime, t => t.nano < 1000000000
  | .localDateTime, t => t.time.nano < 1000000000
  | .zonedDateTime, z => z.wall.time.nano < 1000000000 ∧ (z.IsInternet ∨ z.offset.hours ≤ 18)
  | _, _ => True

end Kind

/-- Only the nanoseconds of a leap second are changed. -/
theorem TimeOfDay.reread_eq_iff {t : TimeOfDay} : t.reread = t ↔ t.nano < 1000000000 := by
  constructor
  · intro same
    rw [← same]
    exact t.reread_nano_lt
  · intro regular
    have nano : rereadNano t.nano = t.nano := if_pos regular
    cases t
    simp only [reread, nano]

theorem LocalDateTime.reread_eq_iff {t : LocalDateTime} :
    t.reread = t ↔ t.time.nano < 1000000000 := by
  rw [← TimeOfDay.reread_eq_iff]
  exact ⟨congrArg LocalDateTime.time, fun same => congrArg (LocalDateTime.mk t.date) same⟩

theorem ZonedDateTime.reread_eq_iff {z : ZonedDateTime} :
    z.reread = z ↔ z.wall.time.nano < 1000000000 := by
  rw [← LocalDateTime.reread_eq_iff]
  exact ⟨congrArg ZonedDateTime.wall, fun same => congrArg (ZonedDateTime.mk · z.offset) same⟩

theorem Kind.reread_eq_iff {k : Kind} {v : k.Carrier} : k.reread v = some v ↔ k.Faithful v := by
  cases k with
  | localTime => exact Option.some_inj.trans TimeOfDay.reread_eq_iff
  | localDateTime => exact Option.some_inj.trans LocalDateTime.reread_eq_iff
  | zonedDateTime =>
      change (if ZonedDateTime.IsInternet v ∨ v.offset.hours ≤ 18 then some (ZonedDateTime.reread v)
        else none) = some v ↔ v.wall.time.nano < 1000000000 ∧ _
      by_cases h : ZonedDateTime.IsInternet v ∨ v.offset.hours ≤ 18
      · rw [if_pos h, Option.some_inj]
        exact ZonedDateTime.reread_eq_iff.trans (and_iff_left h).symm
      · rw [if_neg h]
        exact iff_of_false (Option.some_ne_none _).symm fun both => h both.2
  | _ => exact ⟨fun _ => trivial, fun _ => rfl⟩

namespace Functions

variable {k : Kind} {r : TemporalReader k} {name description : String}

/-! ## Calls without a pattern -/

theorem bindArguments_withoutPattern :
    bindArguments [.required "string" (.kindOrMissing .string),
        .optional "format" (.kindOrMissing .string)] [(none, .required .string)] =
      .ok ⟨[("string", [.argument 0])]⟩ := rfl

/-- From a computer that holds a text, one is built that holds what is read from the text. -/
theorem readBuilder_holds {m : Moment} {c : Computer} {text : String}
    (held : c.Holds m (.string text)) (t : ValueType) :
    ∃ d, readBuilder r ⟨[("string", [c])]⟩ t = .ok d ∧
      d.Holds m (.ofOption k (r.standard text.toList)) := by
  obtain ⟨s, rfl, holds⟩ := held.of_present
  refine ⟨_, rfl, .of (Source.partialOver_holds held rfl ?_)⟩
  refine (answers_pure none).bind (holds.compute.bind ?_)
  unfold TemporalReader.read
  dsimp only
  cases r.standard text.toList with
  | none => exact (answers_warn _).bind (answers_pure none)
  | some v => exact answers_pure (some v)

section Call

variable {ctx : TypingContext} {x : Expr} {s : ValueType}
  (found : ctx.functions.get? name = some (readFunction name description r))
include found

theorem typed_read (typed : (x.infer ctx).2 = .ok (.required .string)) (span : Span) :
    ((x.call1 span name).infer ctx).2 = .ok (.optionalOf k) := by
  rw [Expr.infer_call1_of_binds found rfl typed bindArguments_withoutPattern]

/-- What is read from the text of an argument. -/
theorem build_read (typed : (x.infer ctx).2 = .ok (.required .string)) (span : Span) {host : Host}
    {m : Moment} {c : Computer} {text : String} (built : (x.infer ctx).1.build host = .ok c)
    (held : c.Holds m (.string text)) :
    ∃ d, ((x.call1 span name).infer ctx).1.build host = .ok d ∧
      d.Holds m (.ofOption k (r.standard text.toList)) := by
  rw [Expr.build_call1_of_binds found rfl typed bindArguments_withoutPattern span built]
  exact readBuilder_holds held _

variable {encoder : Function} (foundEncoder : ctx.functions.get? "to_string" = some encoder)
  (encodes : encoder.overloads =
    [⟨[.required "value" .anything], .exactly (.required .string), toStringBuilder⟩])
include foundEncoder encodes

/-- What is read from the text of any argument. -/
theorem build_decoded (typed : (x.infer ctx).2 = .ok s) (inner outer : Span) {host : Host}
    {m : Moment} {c : Computer} {v : Value} (built : (x.infer ctx).1.build host = .ok c)
    (held : c.Holds m v) :
    ∃ d, (((x.call1 inner "to_string").call1 outer name).infer ctx).1.build host = .ok d ∧
      d.Holds m (.ofOption k (r.standard v.text.toList)) :=
  build_read found (Expr.typed_call1 foundEncoder encodes typed rfl inner) outer
    (Expr.build_call1 foundEncoder encodes typed rfl inner built)
    (.of (x := some _) (Operator.textSource_holds held))

end Call

/-! ## Readers of standard forms -/

/-- The kinds of dates and times, with the functions that read their standard forms. -/
def calendarDecoders : List (Kind × String) :=
  [(.localDate, "parse_date"), (.localTime, "parse_time"), (.localDateTime, "parse_datetime"),
    (.zonedDateTime, "parse_zoned_datetime")]

/-- A reader finds what is read for a stored value. -/
def TemporalReader.Rereads (r : TemporalReader k) : Prop :=
  ∀ v : k.Carrier, k.Storable v → r.standard (k.text v).toList = k.reread v

theorem dateReader_rereads : dateReader.Rereads := fun d _ => by
  rw [Kind.text, String.toList_ofList]
  exact StandardForm.readDate?_text d

theorem timeReader_rereads : timeReader.Rereads := fun t _ => by
  rw [Kind.text, String.toList_ofList]
  exact StandardForm.readTime?_text t

theorem dateTimeReader_rereads : dateTimeReader.Rereads := fun t _ => by
  rw [Kind.text, String.toList_ofList]
  exact StandardForm.readDateTime?_text t

theorem zonedReader_rereads : zonedReader.Rereads := fun z storable => by
  rw [Kind.text, String.toList_ofList]
  exact StandardForm.readZoned?_text storable.1 storable.2

/-- The library has such a reader under each of the names. -/
theorem exists_calendarDecoder {k : Kind} {name : String} (h : (k, name) ∈ calendarDecoders) :
    ∃ (description : String) (r : TemporalReader k),
      library.get? name = some (readFunction name description r) ∧ r.Rereads := by
  simp only [calendarDecoders, List.mem_cons, Prod.mk.injEq, List.not_mem_nil, or_false] at h
  obtain ⟨rfl, rfl⟩ | ⟨rfl, rfl⟩ | ⟨rfl, rfl⟩ | ⟨rfl, rfl⟩ := h
  · exact ⟨_, _, library_get?_of_find? rfl, dateReader_rereads⟩
  · exact ⟨_, _, library_get?_of_find? rfl, timeReader_rereads⟩
  · exact ⟨_, _, library_get?_of_find? rfl, dateTimeReader_rereads⟩
  · exact ⟨_, _, library_get?_of_find? rfl, zonedReader_rereads⟩

/-- `to_string` followed by the reader of its kind gives for every stored date or time, whatever
expression it comes from, what is read for it; that is the value itself if and only if its text
stands for it. -/
theorem decoded_calendarText {ctx : TypingContext} (functions : ctx.functions = library) {k : Kind}
    {name : String} (decoder : (k, name) ∈ calendarDecoders) {x : Expr} {s : ValueType}
    (typed : (x.infer ctx).2 = .ok s) (inner outer : Span) :
    (((x.call1 inner "to_string").call1 outer name).infer ctx).2 = .ok (.optionalOf k) ∧
      ∀ (host : Host) (m : Moment) (c : Computer) (v : k.Carrier),
        (x.infer ctx).1.build host = .ok c → c.Holds m (.of k v) → k.Storable v →
          (∃ d, (((x.call1 inner "to_string").call1 outer name).infer ctx).1.build host = .ok d ∧
            d.Holds m (.ofOption k (k.reread v))) ∧
          (k.reread v = some v ↔ k.Faithful v) := by
  obtain ⟨encoder, foundEncoder, encodes⟩ := exists_toString
  obtain ⟨description, r, found, rereads⟩ := exists_calendarDecoder decoder
  rw [← functions] at foundEncoder found
  have typedText := Expr.typed_call1 foundEncoder encodes typed rfl inner
  refine ⟨typed_read found typedText outer, fun host m c v built held storable => ⟨?_, ?_⟩⟩
  · rw [← rereads v storable]
    exact build_decoded found foundEncoder encodes typed inner outer built held
  · exact Kind.reread_eq_iff

end Functions

namespace Sample

/-- Half past ten in the morning, an hour ahead of UTC. -/
def meeting : ZonedDateTime := ⟨⟨⟨2024, 1, 1, by decide⟩, ⟨37800, 0, by decide⟩⟩, ⟨3600, by decide⟩⟩

/-- Flow variables that are date-times with an offset, and the built-in functions. -/
def moments : TypingContext :=
  { context with
    flowVariable := fun _ => .ok (.required .zonedDateTime)
    functions := Functions.library }

/-- A host that serves this date-time as every flow variable. -/
def momentHost : Host :=
  { Host.empty with flowVariable := fun _ => some (.constant (.of .zonedDateTime meeting)) }

/-- `$$at` -/
def atVariable : Expr := .flowVariable {} "at"

/-- `parse_zoned_datetime(to_string($$at))` -/
def atDecoded : Expr := (atVariable.call1 {} "to_string").call1 {} "parse_zoned_datetime"

theorem meeting_decoded :
    (atDecoded.infer moments).2 = .ok (.optionalOf .zonedDateTime) ∧
      ∃ d, (atDecoded.infer moments).1.build momentHost = .ok d ∧
        d.Holds ⟨0, default⟩ (.of .zonedDateTime meeting) := by
  have typed : (atVariable.infer moments).2 = .ok (.required .zonedDateTime) := rfl
  have built : (atVariable.infer moments).1.build momentHost =
      .ok (.constant (.of .zonedDateTime meeting)) := rfl
  have decoder : (.zonedDateTime, "parse_zoned_datetime") ∈ Functions.calendarDecoders := by decide
  have storable : Kind.Storable .zonedDateTime meeting :=
    ⟨show (3600 : Int) % 60 = 0 by decide, by decide +kernel⟩
  have faithful : Kind.Faithful .zonedDateTime meeting :=
    ⟨show 0 < 1000000000 by decide, .inr (show 1 ≤ 18 by decide)⟩
  have functions : moments.functions = Functions.library := rfl
  obtain ⟨type, computes⟩ := Functions.decoded_calendarText functions decoder typed {} {}
  obtain ⟨⟨d, decoded, holds⟩, same⟩ := computes _ _ _ _ built (Computer.constant_holds _) storable
  rw [same.mpr faithful] at holds
  exact ⟨type, d, decoded, holds⟩

/-- The leap second before midnight, and what is read for it. -/
def leapSecond : TimeOfDay := ⟨86399, 1000000000, by decide⟩
def leapSecondRead : TimeOfDay := ⟨86399, 100000000, by decide⟩

/-- A date-time twenty hours ahead of UTC. -/
def farAhead : ZonedDateTime :=
  ⟨⟨⟨2024, 1, 1, by decide⟩, ⟨37800, 0, by decide⟩⟩, ⟨72000, by decide⟩⟩

/-- The call of a function with a text. -/
def read (name text : String) : Expr := (Expr.constant {} (.string text)).call1 {} name

/-- Its result, read again from its own text. -/
def readAgain (name text : String) : Expr := ((read name text).call1 {} "to_string").call1 {} name

/-- The expression is built into a computer that holds the value. -/
def Gives (x : Expr) (v : Value) : Prop :=
  ∃ c, (x.infer moments).1.build momentHost = .ok c ∧ c.Holds ⟨0, default⟩ v

section ReadTwice

variable {k : Kind} {r : Functions.TemporalReader k} {name description text : String}
  (found : moments.functions.get? name = some (Functions.readFunction name description r))
  {v : k.Carrier} (reads : r.standard text.toList = some v)
include found reads

theorem read_gives : Gives (read name text) (.of k v) := by
  have given : ((Expr.constant {} (.string text)).infer moments).1.build momentHost =
      .ok (.constant (.string text)) := rfl
  obtain ⟨c, built, held⟩ :=
    Functions.build_read found rfl {} given (Computer.constant_holds (.string text))
  rw [reads] at held
  exact ⟨c, built, held⟩

theorem readAgain_gives :
    Gives (readAgain name text) (.ofOption k (r.standard (k.text v).toList)) := by
  obtain ⟨encoder, foundEncoder, encodes⟩ := Functions.exists_toString
  obtain ⟨c, built, held⟩ := read_gives found reads
  exact Functions.build_decoded found foundEncoder encodes
    (Functions.typed_read (x := .constant {} (.string text)) found rfl {}) {} {} built held

end ReadTwice

/-- Two values that are read from texts but not from their own: for the leap second another time is
found, and for the date-time nothing. -/
theorem calendarTexts_misread :
    (Gives (read "parse_time" "23:59:60") (.of .localTime leapSecond) ∧
      Gives (readAgain "parse_time" "23:59:60") (.of .localTime leapSecondRead) ∧
      leapSecondRead ≠ leapSecond) ∧
    Gives (read "parse_zoned_datetime" "2024-01-01T10:30:00+20:00") (.of .zonedDateTime farAhead) ∧
      Gives (readAgain "parse_zoned_datetime" "2024-01-01T10:30:00+20:00") .missing := by
  have times : moments.functions.get? "parse_time" =
      some (Functions.readFunction "parse_time" _ Functions.timeReader) :=
    Functions.library_get?_of_find? rfl
  have zoned : moments.functions.get? "parse_zoned_datetime" =
      some (Functions.readFunction "parse_zoned_datetime" _ Functions.zonedReader) :=
    Functions.library_get?_of_find? rfl
  have leap : Functions.timeReader.standard "23:59:60".toList = some leapSecond := by
    decide +kernel
  have far : Functions.zonedReader.standard "2024-01-01T10:30:00+20:00".toList = some farAhead := by
    decide +kernel
  have leapText : Functions.timeReader.standard (Kind.text .localTime leapSecond).toList =
      some leapSecondRead := by decide +kernel
  have farText : Functions.zonedReader.standard (Kind.text .zonedDateTime farAhead).toList =
      none := by decide +kernel
  have leapAgain := readAgain_gives times leap
  have farAgain := readAgain_gives zoned far
  rw [leapText] at leapAgain
  rw [farText] at farAgain
  exact ⟨⟨read_gives times leap, leapAgain, by decide⟩, read_gives zoned far, farAgain⟩

end Sample

end Rowwise
