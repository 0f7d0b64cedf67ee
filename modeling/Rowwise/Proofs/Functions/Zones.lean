import Rowwise.Proofs.Calendar.ZoneTexts
import Rowwise.Proofs.Evaluation.Warnings
import Rowwise.Proofs.Functions.CalendarTexts
import Rowwise.Proofs.Functions.Searches

/-!
# Date-times in a zone

`make_zoned` reads its zone row after row.  For a zone that is `ZoneReading.Written`, the result is
the date-time with that distance from universal time, if it lies in the calendar.  An unknown zone
gives MISSING and a warning that names it.

Two kinds of texts that are no zones are not refused like that.  A `Z` behind a name of universal
time is left out (`Sample.zone_named_twice`), and a text that begins with a character of several
bytes ends the evaluation as a whole instead of giving MISSING (`Sample.zone_begins_wide`).
-/

namespace Rowwise

open Eval Functions

variable {ctx : TypingContext} {host : Host} {m : Moment} {x y : Expr}

namespace Functions

section Zones

variable {wall : Source LocalDateTime} {zone : Source String} {t : LocalDateTime} {text : String}
  {o : Offset}

/-- The date-time in the zone that is read in a row. -/
def readInZone (wall : Source LocalDateTime) (zone : Source String) :
    Eval (Option ZonedDateTime) := do
  match ← readZone (← zone.compute) with
  | some offset => do pure (ZonedDateTime.ofLocal? (← wall.compute) offset)
  | none => pure none

/-- The source of a call, asked and computed with its arguments. -/
def zonedSource (wall : Source LocalDateTime) (zone : Source String) : Source ZonedDateTime :=
  Source.partialOver [.of .localDateTime wall, .of .string zone] (readInZone wall zone)

/-- What the warning says about an unknown zone. -/
def zoneWarning (zone : String) : String := s!"Invalid zone id '{zone}'."

theorem compiles_makeZoned (functions : ctx.functions = library) {o i : Bool}
    (hx : x.Compiles ctx host (.of .localDateTime o) (.of .localDateTime wall))
    (hy : y.Compiles ctx host (.of .string i) (.of .string zone)) (span : Span) :
    (Expr.callOf span "make_zoned" [x, y]).Compiles ctx host (.optionalOf .zonedDateTime)
      (.of .zonedDateTime (zonedSource wall zone)) := by
  have found : ctx.functions.get? "make_zoned" = some making[3] :=
    get?_of_mem_builtIns functions (f := making[3]) (by simp [builtIns, making])
  have only : making[3].overloads = [⟨[.required "datetime" (.kindOrMissing .localDateTime),
    .required "zone" (.kindOrMissing .string)] ++ [], .exactly (.optionalOf .zonedDateTime),
    makeZonedBuilder⟩] := rfl
  exact Expr.compiles_callOf found only (by decide) (List.forall_mem_nil _) (by decide)
    (.cons hx (.cons hy .nil))
    (.cons (accepts_kindOrMissing .localDateTime o) (.cons (accepts_kindOrMissing .string i) .nil))
    rfl rfl span

section Held

variable (wallHolds : wall.Holds m (some t)) (zoneHolds : zone.Holds m (some text))
include wallHolds zoneHolds

theorem zonedArguments_there :
    (Computer.anyMissing [.of .localDateTime wall, .of .string zone]).Answers m (.ok false) :=
  wallHolds.isMissing.bind (zoneHolds.isMissing.bind (answers_pure false))

/-- A zone that is read puts the date-time into it. -/
theorem zonedSource_holds (reads : ZoneReading.read text.toList = .offset o) :
    (zonedSource wall zone).Holds m (ZonedDateTime.ofLocal? t o) := by
  have offset : (readZone text).Answers m (.ok (some o)) := by
    unfold readZone
    rw [reads]
    exact answers_pure (some o)
  apply Source.partialOver_holds_of_asked (zonedArguments_there wallHolds zoneHolds)
  exact zoneHolds.compute.bind (offset.bind (wallHolds.compute.bind (answers_pure _)))

/-- An unknown zone is noted, and the result is MISSING. -/
theorem zonedSource_warns (reads : ZoneReading.read text.toList = .unknown) :
    (Computer.of .zonedDateTime (zonedSource wall zone)).value.Warns m (zoneWarning text)
      .missing := by
  have warned : (readZone text).Warns m (zoneWarning text) none := by
    unfold readZone
    rw [reads]
    exact (warns_warn _).bind rfl
  exact Source.partialOver_warns (zonedArguments_there wallHolds zoneHolds)
    (zoneHolds.compute.bind_warns (warned.bind rfl))

/-- A text that is cut inside of a character ends the evaluation. -/
theorem zonedSource_aborts (reads : ZoneReading.read text.toList = .cutInsideCharacter) :
    (Computer.of .zonedDateTime (zonedSource wall zone)).value.Answers m (.error .aborted) := by
  have cut : (readZone text).Answers m (.error .aborted) := by
    unfold readZone
    rw [reads]
    exact answers_throw _
  have asked : (zonedSource wall zone).isMissing.Answers m (.error .aborted) :=
    (zonedArguments_there wallHolds zoneHolds).bind
      ((zoneHolds.compute.bind (cut.bind_error _)).bind_error _)
  exact asked.bind_error _

end Held

/-- A date-time and a zone give the date-time with the distance that is written, if it lies in the
calendar, and an unknown zone gives MISSING and a warning.  But a `Z` behind a name of universal
time is not unknown, and what stands in the place of the sign must not take several bytes. -/
theorem zones_read (functions : ctx.functions = library)
    (hx : x.Yields ctx host m .localDateTime t) (hy : y.Yields ctx host m .string text)
    (span : Span) :
    ∃ c, (Expr.callOf span "make_zoned" [x, y]).Compiles ctx host (.optionalOf .zonedDateTime) c ∧
      (∀ n, ZoneReading.Written (ZoneReading.capitals text.toList) n →
        ∃ o : Offset, o.seconds = n ∧
          c.value.Answers m (.ok (.ofOption .zonedDateTime (ZonedDateTime.ofLocal? t o)))) ∧
      (ZoneReading.NamedTwice (ZoneReading.capitals text.toList) →
        c.value.Answers m (.ok (.ofOption .zonedDateTime (ZonedDateTime.ofLocal? t .utc)))) ∧
      (ZoneReading.BeginsWide (ZoneReading.capitals text.toList) →
        c.value.Answers m (.error .aborted)) ∧
      ((∀ n, ¬ ZoneReading.Written (ZoneReading.capitals text.toList) n) →
        ¬ ZoneReading.NamedTwice (ZoneReading.capitals text.toList) →
        ¬ ZoneReading.BeginsWide (ZoneReading.capitals text.toList) →
          c.value.Warns m (zoneWarning text) .missing) := by
  obtain ⟨o, wall, compiles, wallHolds⟩ := hx.exists_source
  obtain ⟨i, zone, compiles', zoneHolds⟩ := hy.exists_source
  have inside {o : Offset} (reads : ZoneReading.read text.toList = .offset o) :=
    (Computer.Holds.of (k := .zonedDateTime)
      (zonedSource_holds wallHolds zoneHolds reads)).value
  refine ⟨_, compiles_makeZoned functions compiles compiles' span, ?_, ?_, ?_, ?_⟩
  · intro n written
    obtain ⟨o, reads, seconds⟩ := written.read
    exact ⟨o, seconds, inside reads⟩
  · exact fun twice => inside twice.read
  · exact fun wide => zonedSource_aborts wallHolds zoneHolds wide.read
  · intro unwritten once narrow
    -- Any other text is the unknown one of the four cases of the reader.
    rcases ZoneReading.read_cases text.toList with ⟨n, written⟩ | twice | wide | unknown
    · exact absurd written (unwritten n)
    · exact absurd twice once
    · exact absurd wide narrow
    · exact zonedSource_warns wallHolds zoneHolds unknown

end Zones

end Functions

namespace Sample

/-- Ten in the morning. -/
def morning : LocalDateTime := ⟨⟨2024, 2, 1, by decide⟩, ⟨36000, 0, by decide⟩⟩

/-- Flow variables that are date-times, and the built-in functions. -/
def mornings : TypingContext :=
  { context with
    flowVariable := fun _ => .ok (.required .localDateTime)
    functions := Functions.library }

/-- A host that serves this date-time as every flow variable. -/
def morningHost : Host :=
  { Host.empty with flowVariable := fun _ => some (.constant (.of .localDateTime morning)) }

/-- `make_zoned($$start, …)` with a zone. -/
def zonedIn (zone : String) : Expr :=
  .callOf {} "make_zoned" [.flowVariable {} "start", .constant {} (.string zone)]

theorem start_yields :
    (Expr.flowVariable {} "start").Yields mornings morningHost ⟨0, default⟩ .localDateTime
      morning :=
  ⟨false, _, ⟨rfl, rfl⟩, Source.ends_ok_iff.mpr (Source.constant_holds morning)⟩

/-- Two hours east of universal time. -/
def eastern : Offset := ⟨7200, by decide⟩

/-- Behind a name of universal time, a distance of two hours is read.  Other time zones are not
known by their names. -/
theorem zones_distinguished :
    (∃ c, (zonedIn "utc+2").Compiles mornings morningHost (.optionalOf .zonedDateTime) c ∧
      c.value.Answers ⟨0, default⟩ (.ok (.of .zonedDateTime ⟨morning, eastern⟩))) ∧
    (∃ c, (zonedIn "CET").Compiles mornings morningHost (.optionalOf .zonedDateTime) c ∧
      c.value.Warns ⟨0, default⟩ "Invalid zone id 'CET'." .missing) := by
  have functions : mornings.functions = Functions.library := rfl
  constructor
  · obtain ⟨c, compiles, reads, -⟩ :=
      Functions.zones_read functions start_yields (Expr.yields_string "utc+2" {}) {}
    have clock : ZoneReading.Clock ['2'] 2 0 := .hours (h := ['2']) (.inl rfl)
    have distance : ZoneReading.Distance ['2'] 2 0 :=
      ⟨List.forall_mem_singleton.mpr rfl, clock, by decide, by decide⟩
    have written : ZoneReading.Written ("UTC".toList ++ '+' :: ['2']) 7200 :=
      .east (.tail _ (.head _)) distance
    obtain ⟨o, seconds, value⟩ := reads 7200 written
    obtain ⟨s, bounded⟩ := o
    obtain rfl : s = 7200 := seconds
    have inside : Value.ofOption .zonedDateTime (ZonedDateTime.ofLocal? morning eastern) =
        .of .zonedDateTime ⟨morning, eastern⟩ := congrArg (Value.ofOption .zonedDateTime)
      (show ZonedDateTime.ofLocal? morning eastern = some ⟨morning, eastern⟩ by decide +kernel)
    exact ⟨c, compiles, (congrArg Except.ok inside).subst value⟩
  · obtain ⟨c, compiles, -, -, -, refuses⟩ :=
      Functions.zones_read functions start_yields (Expr.yields_string "CET" {}) {}
    have unknown : ZoneReading.read "CET".toList = .unknown := by decide +kernel
    refine ⟨c, compiles, refuses (fun n written => ?_) (fun twice => ?_) fun wide => ?_⟩
    · obtain ⟨o, reads, -⟩ := written.read
      cases unknown.symm.trans reads
    · cases unknown.symm.trans twice.read
    · cases unknown.symm.trans wide.read

/-- A letter of two bytes is no zone, but instead of giving MISSING it ends the evaluation. -/
theorem zone_begins_wide :
    (∀ n, ¬ ZoneReading.Written (ZoneReading.capitals "é".toList) n) ∧
      ∃ c, (zonedIn "é").Compiles mornings morningHost (.optionalOf .zonedDateTime) c ∧
        c.value.Answers ⟨0, default⟩ (.error .aborted) := by
  have cut : ZoneReading.read "é".toList = .cutInsideCharacter := by decide +kernel
  have functions : mornings.functions = Functions.library := rfl
  obtain ⟨_, wall, compiles, wallHolds⟩ := start_yields.exists_source
  obtain ⟨_, zone, compiles', zoneHolds⟩ := Expr.Yields.exists_source (Expr.yields_string "é" {})
  refine ⟨fun n written => ?_, _, Functions.compiles_makeZoned functions compiles compiles' {},
    Functions.zonedSource_aborts wallHolds zoneHolds cut⟩
  obtain ⟨o, reads, -⟩ := written.read
  cases cut.symm.trans reads

/-- `UTCZ` is no zone either, but is read as universal time. -/
theorem zone_named_twice :
    (∀ n, ¬ ZoneReading.Written (ZoneReading.capitals "UTCZ".toList) n) ∧
      ∃ c, (zonedIn "UTCZ").Compiles mornings morningHost (.optionalOf .zonedDateTime) c ∧
        c.value.Answers ⟨0, default⟩ (.ok (.of .zonedDateTime ⟨morning, .utc⟩)) := by
  have reads : ZoneReading.read "UTCZ".toList = .offset .utc := by decide +kernel
  have functions : mornings.functions = Functions.library := rfl
  obtain ⟨_, wall, compiles, wallHolds⟩ := start_yields.exists_source
  obtain ⟨_, zone, compiles', zoneHolds⟩ := Expr.Yields.exists_source (Expr.yields_string "UTCZ" {})
  have held := Functions.zonedSource_holds wallHolds zoneHolds reads
  refine ⟨fun n written => ?_, _, Functions.compiles_makeZoned functions compiles compiles' {},
    (Computer.Holds.of (k := .zonedDateTime) held).value⟩
  have forms := written.forms
  revert forms
  decide

end Sample

end Rowwise
