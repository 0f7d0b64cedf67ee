import Rowwise.Proofs.Functions.Strings
import Rowwise.Functions.CalendarArithmetic
import Rowwise.Functions.CalendarText

/-!
# Functions of dates and times are sound

The functions that take dates and times apart view a computer of one of several kinds as a source
of one part; the views exist where the signature accepts the type.  The zone of a date-time may cut
an evaluation short, and a format is read without being asked whether it is missing, so that these
functions are sound in regimes that allow for that.
-/

namespace Rowwise

open Eval Functions

variable {R : Regime} {params : List Param} {m : Moment} {given : Arguments (Computer × ValueType)}
  {c : Computer} {t : ValueType}

/-! ## Views of a part -/

/-- A view exists for the computers of certain types, and keeps their optionality. -/
def Builder.ViewFits {α : Type} (R : Regime) (accepts : ValueType → Bool)
    (view : Computer → Except EvalError (Source α)) : Prop :=
  ∀ c t, c.Fits R t → accepts t = true →
    ∃ s, view c = .ok s ∧ s.Fits R t.isOptional ∧ s.isMissing = c.isMissing

namespace Matcher

/-- A matcher of types by their kind accepts optional types if it also accepts MISSING. -/
theorem kindSatisfies_accepts {description : String} {p : Kind → Bool}
    (h : (Matcher.mk description (ValueType.kindSatisfies p)).orMissing.accepts t = true) :
    t = .missing ∨ ∃ k o, t = .of k o ∧ p k = true := by
  obtain h | h := orMissing_accepts h
  · exact .inl h
  · cases t with
    | missing => cases h
    | of k o => exact .inr ⟨k, o, rfl, h⟩

theorem dateTimeOrMissing_accepts (h : dateTimeOrMissing.accepts t = true) :
    datePartOrMissing.accepts t = true ∧ timePartOrMissing.accepts t = true := by
  obtain rfl | h := orMissing_accepts h
  · exact ⟨rfl, rfl⟩
  · cases t with
    | missing => exact ⟨rfl, rfl⟩
    | of k o =>
        obtain ⟨date, time⟩ := (Bool.and_eq_true ..).mp h
        exact ⟨date, time⟩

end Matcher

namespace Builder

theorem as_view (k : Kind) : ViewFits R (Matcher.kindOrMissing k).accepts (Computer.as k) := by
  intro c t fits accepts
  obtain ⟨s, hs, reads⟩ := fits.as_ok (Matcher.kindOrMissing_accepts accepts)
  exact ⟨s, hs, reads, Computer.isMissing_of_as hs⟩

theorem dates_view : ViewFits R Matcher.datePartOrMissing.accepts dates := by
  intro c t fits accepts
  obtain rfl | ⟨k, o, rfl, date⟩ := Matcher.kindSatisfies_accepts accepts
  · cases fits
    exact ⟨_, rfl, Source.missing_fits, rfl⟩
  · cases fits with
    | of source =>
        cases k <;> cases date
        · exact ⟨_, rfl, source, rfl⟩
        · exact ⟨_, rfl, Source.map_fits source _, rfl⟩
        · exact ⟨_, rfl, Source.map_fits source _, rfl⟩

theorem times_view : ViewFits R Matcher.timePartOrMissing.accepts times := by
  intro c t fits accepts
  obtain rfl | ⟨k, o, rfl, time⟩ := Matcher.kindSatisfies_accepts accepts
  · cases fits
    exact ⟨_, rfl, Source.missing_fits, rfl⟩
  · cases fits with
    | of source =>
        cases k <;> cases time
        · exact ⟨_, rfl, source, rfl⟩
        · exact ⟨_, rfl, Source.map_fits source _, rfl⟩
        · exact ⟨_, rfl, Source.map_fits source _, rfl⟩

/-- A value that is made from one part of one argument. -/
theorem ofView_sound {α : Type} {name : String} {matcher : Matcher} {k : Kind}
    {view : Computer → Except EvalError (Source α)} {make : Source α → Source k.Carrier}
    {build : Builder} (hview : ViewFits R matcher.accepts view)
    (hmake : ∀ s o, s.Fits R o → (make s).Fits R o)
    (hbuild : ∀ (args : Arguments Computer) c s t, args.required name = .ok c → view c = .ok s →
      build args t = .ok (.of k (make s))) :
    build.Sound R [.required name matcher] (.propagate k) := by
  intro t given accepted rule
  cases rule
  obtain ⟨c, u, bound, fits, accepts⟩ := accepted.required name (.head _)
  obtain ⟨s, hs, reads, _⟩ := hview c u fits accepts
  refine ⟨_, hbuild _ c s _ (Arguments.required_of_get? bound) hs, .of ?_⟩
  refine (hmake s _ reads).weaken fun ho => ?_
  exact Arguments.anyOptional_of_mem_all (Arguments.mem_types_of_get? bound) ho

end Builder

namespace Arguments.Accepted

/-- A required parameter of a type that has a view is read by it. -/
theorem readsView {α : Type} (h : given.Accepted R params) (name : String) {matcher : Matcher}
    {view : Computer → Except EvalError (Source α)} (hp : .required name matcher ∈ params)
    (hview : Builder.ViewFits R matcher.accepts view) :
    ∃ c t s, (given.map (·.1)).required name = .ok c ∧ view c = .ok s ∧
      given.Reads R name c t s := by
  obtain ⟨c, t, bound, fits, accepts⟩ := h.required name hp
  obtain ⟨s, hs, reads, asked⟩ := hview c t fits accepts
  exact ⟨c, t, s, Arguments.required_of_get? bound, hs, bound, fits, reads, asked⟩

/-- Where all arguments are asked and there may be no value, the result is optional. -/
theorem partial_fits (h : given.Accepted R params) {k : Kind} {compute : Eval (Option k.Carrier)}
    (value : ∀ m, R.rows m → (∀ g ∈ given.values, g.1.Readable R m g.2) → compute.Regular R m) :
    (Computer.of k (Source.partialOver (given.map (·.1)).values compute)).Fits R
      (.optionalOf k) := by
  rw [Arguments.values_map]
  exact .of (Source.partialOver_fits_optional _ h.fits value)

end Arguments.Accepted

namespace Builder

theorem word_regular (cause : RowFailure) (n : Int64) : (word cause n).Regular R m :=
  regular_orFail _ _

theorem integerOrZero_regular {s? : Option (Source Int64)}
    (h : ∀ s, s? = some s → ∃ o, s.Fits R o) (hm : R.rows m) : (integerOrZero s?).Regular R m :=
  (Source.optionalValue?_regular h hm).andThen fun _ => regular_pure _

end Builder

namespace Functions

/-! ## Making -/

theorem warnNone_regular {α : Type} (message : String) :
    (warnNone message : Eval (Option α)).Regular R m :=
  (regular_warn _).andThen fun _ => regular_pure _

theorem warnPart_regular {α : Type} (part range : String) (value : Int) :
    (warnPart part range value : Eval (Option α)).Regular R m :=
  (regular_warn _).andThen fun _ => regular_pure _

theorem makeDate_regular (year month day : Int64) : (makeDate year month day).Regular R m := by
  refine (Builder.word_regular ..).andThen fun year => ?_
  refine (Builder.word_regular ..).andThen fun month => ?_
  refine (Builder.word_regular ..).andThen fun day => ?_
  refine Regular.ite (fun _ => warnPart_regular ..) fun _ => ?_
  refine Regular.ite (fun _ => warnPart_regular ..) fun _ => ?_
  exact Regular.ite (fun _ => (regular_warn _).andThen fun _ => regular_pure _) fun _ =>
    regular_pure _

theorem makeTime_regular (hour minute second nano : Int64) :
    (makeTime hour minute second nano).Regular R m := by
  refine (Builder.word_regular ..).andThen fun hour => ?_
  refine (Builder.word_regular ..).andThen fun minute => ?_
  refine (Builder.word_regular ..).andThen fun second => ?_
  refine (Builder.word_regular ..).andThen fun nano => ?_
  refine Regular.ite (fun _ => warnPart_regular ..) fun _ => ?_
  refine Regular.ite (fun _ => warnPart_regular ..) fun _ => ?_
  refine Regular.ite (fun _ => warnPart_regular ..) fun _ => ?_
  exact Regular.ite (fun _ => warnPart_regular ..) fun _ => regular_pure _

theorem readZone_regular (aborted : R.permits .aborted) (zone : String) :
    (readZone zone).Regular R m := by
  unfold readZone
  split
  · exact regular_pure _
  · exact (regular_warn _).andThen fun _ => regular_pure _
  · exact regular_throw aborted

theorem makeDateBuilder_sound :
    makeDateBuilder.Sound R
      [calendarIntegerParam "year", calendarIntegerParam "month", calendarIntegerParam "day"]
      (.exactly (.optionalOf .localDate)) := by
  intro t given accepted rule
  cases rule
  obtain ⟨c, u, year, hy, reads_y⟩ := accepted.reads "year" .integer (.head _)
  obtain ⟨d, v, month, hmo, reads_m⟩ := accepted.reads "month" .integer (.tail _ (.head _))
  obtain ⟨e, w, day, hd, reads_d⟩ := accepted.reads "day" .integer (.tail _ (.tail _ (.head _)))
  refine ⟨.of .localDate (Source.partialOver (given.map (·.1)).values do
    makeDate (← year.compute) (← month.compute) (← day.compute)), ?_,
    accepted.partial_fits fun m hm present => ?_⟩
  · rw [makeDateBuilder, reads_y.source hy, reads_m.source hmo, reads_d.source hd]
    rfl
  · refine (reads_y.compute_regular hm (present _ reads_y.mem_values)).andThen fun _ => ?_
    refine (reads_m.compute_regular hm (present _ reads_m.mem_values)).andThen fun _ => ?_
    exact (reads_d.compute_regular hm (present _ reads_d.mem_values)).andThen fun _ =>
      makeDate_regular ..

theorem makeTimeBuilder_sound :
    makeTimeBuilder.Sound R
      [calendarIntegerParam "hour", calendarIntegerParam "minute", optionalIntegerParam "second",
        optionalIntegerParam "nanosecond"]
      (.exactly (.optionalOf .localTime)) := by
  intro t given accepted rule
  cases rule
  obtain ⟨c, u, hour, hh, reads_h⟩ := accepted.reads "hour" .integer (.head _)
  obtain ⟨d, v, minute, hmi, reads_m⟩ := accepted.reads "minute" .integer (.tail _ (.head _))
  obtain ⟨second, hs, fits_s, _⟩ :=
    accepted.reads? "second" .integer (.tail _ (.tail _ (.head _)))
  obtain ⟨nano, hn, fits_n, _⟩ :=
    accepted.reads? "nanosecond" .integer (.tail _ (.tail _ (.tail _ (.head _))))
  refine ⟨.of .localTime (Source.partialOver [c, d] do
    let second ← Builder.integerOrZero second
    let nano ← Builder.integerOrZero nano
    makeTime (← hour.compute) (← minute.compute) second nano), ?_, ?_⟩
  · rw [makeTimeBuilder, reads_h.computer, reads_m.computer, reads_h.source hh,
      reads_m.source hmi, hs, hn]
    rfl
  · refine .of (Source.partialOver_fits_optional [(c, u), (d, v)]
      (by simpa using ⟨reads_h.fits, reads_m.fits⟩) fun m hm present => ?_)
    refine (Builder.integerOrZero_regular fits_s hm).andThen fun _ => ?_
    refine (Builder.integerOrZero_regular fits_n hm).andThen fun _ => ?_
    refine (reads_h.compute_regular hm (present _ (.head _))).andThen fun _ => ?_
    exact (reads_m.compute_regular hm (present _ (.tail _ (.head _)))).andThen fun _ =>
      makeTime_regular ..

theorem makeDateTimeBuilder_sound :
    makeDateTimeBuilder.Sound R
      [.required "date" (.kindOrMissing .localDate), .required "time" (.kindOrMissing .localTime)]
      (.propagate .localDateTime) := by
  intro t given accepted rule
  cases rule
  obtain ⟨c, u, date, hd, reads_d⟩ := accepted.reads "date" .localDate (.head _)
  obtain ⟨d, v, time, ht, reads_t⟩ := accepted.reads "time" .localTime (.tail _ (.head _))
  refine ⟨.of .localDateTime (Source.propagating (given.map (·.1)).values do
    pure ⟨← date.compute, ← time.compute⟩), ?_, accepted.propagating_fits fun m hm present => ?_⟩
  · rw [makeDateTimeBuilder, reads_d.source hd, reads_t.source ht]
    rfl
  · refine (reads_d.compute_regular hm (present _ reads_d.mem_values)).andThen fun _ => ?_
    exact (reads_t.compute_regular hm (present _ reads_t.mem_values)).andThen fun _ =>
      regular_pure _

theorem makeZonedBuilder_sound (aborted : R.permits .aborted) :
    makeZonedBuilder.Sound R
      [.required "datetime" (.kindOrMissing .localDateTime),
        .required "zone" (.kindOrMissing .string)]
      (.exactly (.optionalOf .zonedDateTime)) := by
  intro t given accepted rule
  cases rule
  obtain ⟨c, u, wall, hw, reads_w⟩ := accepted.reads "datetime" .localDateTime (.head _)
  obtain ⟨d, v, zone, hz, reads_z⟩ := accepted.reads "zone" .string (.tail _ (.head _))
  refine ⟨_, by
    rw [makeZonedBuilder, reads_w.source hw, reads_z.source hz]
    rfl, accepted.partial_fits fun m hm present => ?_⟩
  refine (reads_z.compute_regular hm (present _ reads_z.mem_values)).andThen fun text => ?_
  refine (readZone_regular aborted text).andThen fun offset => ?_
  cases offset with
  | none => exact regular_pure _
  | some offset =>
      exact (reads_w.compute_regular hm (present _ reads_w.mem_values)).andThen fun _ =>
        regular_pure _

theorem makeDurationBuilder_sound :
    makeDurationBuilder.Sound R
      [calendarIntegerParam "hours", calendarIntegerParam "minutes",
        optionalIntegerParam "seconds", optionalIntegerParam "nanoseconds"]
      (.propagate .timeDuration) := by
  intro t given accepted rule
  cases rule
  obtain ⟨c, u, hours, hh, reads_h⟩ := accepted.reads "hours" .integer (.head _)
  obtain ⟨d, v, minutes, hmi, reads_m⟩ := accepted.reads "minutes" .integer (.tail _ (.head _))
  obtain ⟨seconds, hs, fits_s, _⟩ :=
    accepted.reads? "seconds" .integer (.tail _ (.tail _ (.head _)))
  obtain ⟨nanos, hn, fits_n, _⟩ :=
    accepted.reads? "nanoseconds" .integer (.tail _ (.tail _ (.tail _ (.head _))))
  refine ⟨.of .timeDuration (Source.propagating (given.map (·.1)).values do
    let sum := sumOfParts (← hours.compute) (← minutes.compute) (← Builder.integerOrZero seconds)
      (← Builder.integerOrZero nanos)
    Eval.orFail .durationTooLarge sum), ?_, accepted.propagating_fits fun m hm present => ?_⟩
  · rw [makeDurationBuilder, reads_h.source hh, reads_m.source hmi, hs, hn]
    rfl
  · refine (reads_h.compute_regular hm (present _ reads_h.mem_values)).andThen fun _ => ?_
    refine (reads_m.compute_regular hm (present _ reads_m.mem_values)).andThen fun _ => ?_
    refine (Builder.integerOrZero_regular fits_s hm).andThen fun _ => ?_
    exact (Builder.integerOrZero_regular fits_n hm).andThen fun _ => regular_orFail _ _

theorem makePeriodBuilder_sound :
    makePeriodBuilder.Sound R
      [calendarIntegerParam "years", calendarIntegerParam "months", calendarIntegerParam "days"]
      (.propagate .dateDuration) := by
  intro t given accepted rule
  cases rule
  obtain ⟨c, u, years, hy, reads_y⟩ := accepted.reads "years" .integer (.head _)
  obtain ⟨d, v, months, hmo, reads_m⟩ := accepted.reads "months" .integer (.tail _ (.head _))
  obtain ⟨e, w, days, hd, reads_d⟩ := accepted.reads "days" .integer (.tail _ (.tail _ (.head _)))
  refine ⟨.of .dateDuration (Source.propagating (given.map (·.1)).values do
    let years ← Builder.word .durationTooLarge (← years.compute)
    let months ← Builder.word .durationTooLarge (← months.compute)
    pure ⟨years, months, ← Builder.word .durationTooLarge (← days.compute)⟩), ?_,
    accepted.propagating_fits fun m hm present => ?_⟩
  · rw [makePeriodBuilder, reads_y.source hy, reads_m.source hmo, reads_d.source hd]
    rfl
  · refine (reads_y.compute_regular hm (present _ reads_y.mem_values)).andThen fun _ => ?_
    refine (Builder.word_regular ..).andThen fun _ => ?_
    refine (reads_m.compute_regular hm (present _ reads_m.mem_values)).andThen fun _ => ?_
    refine (Builder.word_regular ..).andThen fun _ => ?_
    refine (reads_d.compute_regular hm (present _ reads_d.mem_values)).andThen fun _ => ?_
    exact (Builder.word_regular ..).andThen fun _ => regular_pure _

/-- Of the functions that make something, one may cut the evaluation short. -/
theorem making_sound {f : Function} (hf : f ∈ making)
    (aborted : f.name = "make_zoned" → R.permits .aborted) : AllSound R [f] := by
  simp only [making, List.mem_cons, List.not_mem_nil, or_false] at hf
  obtain rfl | rfl | rfl | rfl | rfl | rfl := hf
  · exact .cons (by decide) (Function.sound_simple (by decide) makeDateBuilder_sound) allSound_nil
  · exact .cons (by decide) (Function.sound_simple (by decide) makeTimeBuilder_sound) allSound_nil
  · exact .cons (by decide) (Function.sound_simple (by decide) makeDateTimeBuilder_sound)
      allSound_nil
  · exact .cons (by decide)
      (Function.sound_simple (by decide) (makeZonedBuilder_sound (aborted rfl))) allSound_nil
  · exact .cons (by decide) (Function.sound_simple (by decide) makeDurationBuilder_sound)
      allSound_nil
  · exact .cons (by decide) (Function.sound_simple (by decide) makePeriodBuilder_sound) allSound_nil

/-! ## The current time -/

/-- A function without parameters that has a value at every moment. -/
theorem ofMoment_sound {k : Kind} {compute : Eval k.Carrier}
    (h : ∀ m, R.rows m → compute.Regular R m) :
    Builder.Sound R [] (.exactly (.required k)) fun _ _ => .ok (.of k (Source.present compute)) := by
  intro t given _ rule
  cases rule
  exact ⟨_, rfl, .of (Source.present_fits h)⟩

theorem current_sound : AllSound R current := by
  refine .cons (by decide) (Function.sound_simple (by decide) (ofMoment_sound fun _ _ =>
    regular_moment.andThen fun _ => regular_pure _)) ?_
  exact .cons (by decide) (Function.sound_simple (by decide) (ofMoment_sound fun _ _ =>
    regular_moment.andThen fun _ => regular_pure _)) allSound_nil

/-! ## Taking apart -/

theorem dateFieldFunction_sound {name description : String} {f : Date → Int} :
    (dateFieldFunction name description f).Sound R := by
  refine Function.sound_simple (by simp) (Builder.ofView_sound Builder.dates_view
    (fun s o fits => Source.map_fits fits fun d => Int64.ofInt (f d)) fun args c s t hc hs => ?_)
  rw [dateField, hc]
  simp only [Except.ok_bind, hs]
  rfl

theorem timeFieldFunction_sound {name description : String} {f : TimeOfDay → Nat} :
    (timeFieldFunction name description f).Sound R := by
  refine Function.sound_simple (by simp) (Builder.ofView_sound Builder.times_view
    (fun s o fits => Source.map_fits fits fun d => Int64.ofNat (f d)) fun args c s t hc hs => ?_)
  rw [timeField, hc]
  simp only [Except.ok_bind, hs]
  rfl

theorem unitFunction_sound {name description : String} {unit : Float} :
    (unitFunction name description unit).Sound R := by
  refine Function.sound_simple (by simp) (Builder.ofView_sound (Builder.as_view .timeDuration)
    (fun s o fits => Source.map_fits fits fun d => secondsOf d / unit) fun args c s t hc hs => ?_)
  simp only [Arguments.source, hc, Except.ok_bind, hs]
  rfl

theorem extraction_sound : AllSound R extraction := by
  refine .cons (by decide) dateFieldFunction_sound ?_
  refine .cons (by decide) dateFieldFunction_sound ?_
  refine .cons (by decide) dateFieldFunction_sound ?_
  refine .cons (by decide) timeFieldFunction_sound ?_
  refine .cons (by decide) timeFieldFunction_sound ?_
  refine .cons (by decide) timeFieldFunction_sound ?_
  refine .cons (by decide) timeFieldFunction_sound ?_
  refine .cons (by decide)
    (Function.sound_simple (by decide) (Builder.ofView_sound (k := .localDate)
    (fun c t fits accepts =>
      Builder.dates_view c t fits (Matcher.dateTimeOrMissing_accepts accepts).1)
    (fun s o fits => fits) fun args c s t hc hs => ?_)) ?_
  · simp only [hc, Except.ok_bind, hs]
    rfl
  refine .cons (by decide)
    (Function.sound_simple (by decide) (Builder.ofView_sound (k := .localTime)
    (fun c t fits accepts =>
      Builder.times_view c t fits (Matcher.dateTimeOrMissing_accepts accepts).2)
    (fun s o fits => fits) fun args c s t hc hs => ?_)) ?_
  · simp only [hc, Except.ok_bind, hs]
    rfl
  refine .cons (by decide) (Function.sound_simple (by decide) (Builder.ofView_sound
    (Builder.as_view .zonedDateTime)
    (fun s o fits => Source.map_fits fits ZonedDateTime.wall) fun args c s t hc hs => ?_)) ?_
  · simp only [Arguments.source, hc, Except.ok_bind, hs]
    rfl
  refine .cons (by decide) unitFunction_sound ?_
  refine .cons (by decide) unitFunction_sound ?_
  exact .cons (by decide) unitFunction_sound allSound_nil

/-! ## Reading -/

theorem read_regular {k : Kind} (r : TemporalReader k) (text : String) (pattern : Option String) :
    (r.read text pattern).Regular R m := by
  unfold TemporalReader.read
  split
  · split
    · exact regular_pure _
    · exact warnNone_regular _
  · split
    · exact regular_pure _
    · exact warnNone_regular _
    · exact warnNone_regular _

theorem readBuilder_sound {k : Kind} (r : TemporalReader k) :
    (readBuilder r).Sound R
      [.required "string" (.kindOrMissing .string), .optional "format" (.kindOrMissing .string)]
      (.exactly (.optionalOf k)) := by
  intro t given accepted rule
  cases rule
  obtain ⟨c, u, text, htext, reads⟩ := accepted.reads "string" .string (.head _)
  obtain ⟨pattern, hp, fits, _⟩ := accepted.reads? "format" .string (.tail _ (.head _))
  refine ⟨.of k (Source.partialOver [c] do
    let pattern ← Source.optionalValue? pattern
    r.read (← text.compute) pattern), ?_, ?_⟩
  · rw [readBuilder, reads.computer, reads.source htext, hp]
    rfl
  · refine .of (Source.partialOver_fits_optional [(c, u)] (by simpa using reads.fits)
      fun m hm present => ?_)
    refine (Source.optionalValue?_regular fits hm).andThen fun _ => ?_
    exact (reads.compute_regular hm (present _ (.head _))).andThen fun _ => read_regular ..

theorem amountBuilder_sound (k : Kind) (read : List Char → Option k.Carrier) :
    (amountBuilder k read).Sound R [.required "string" (.kindOrMissing .string)]
      (.exactly (.optionalOf k)) := by
  intro t given accepted rule
  cases rule
  obtain ⟨c, u, text, htext, reads⟩ := accepted.reads "string" .string (.head _)
  refine ⟨_, by
    rw [amountBuilder, reads.computer, reads.source htext]
    rfl, ?_⟩
  refine .of (Source.partialOver_fits_optional [(c, u)] (by simpa using reads.fits)
    fun m hm present => ?_)
  refine (reads.compute_regular hm (present _ (.head _))).andThen fun text => ?_
  split
  · exact regular_pure _
  · exact warnNone_regular _

theorem readFunction_sound {name description : String} {k : Kind} {r : TemporalReader k} :
    (readFunction name description r).Sound R :=
  Function.sound_simple (by decide) (readBuilder_sound r)

theorem amountFunction_sound {name description : String} {k : Kind}
    {read : List Char → Option k.Carrier} : (amountFunction name description k read).Sound R :=
  Function.sound_simple (by decide) (amountBuilder_sound k read)

theorem parsing_sound : AllSound R parsing := by
  refine .cons (by decide) readFunction_sound ?_
  refine .cons (by decide) readFunction_sound ?_
  refine .cons (by decide) readFunction_sound ?_
  refine .cons (by decide) readFunction_sound ?_
  refine .cons (by decide) amountFunction_sound ?_
  exact .cons (by decide) amountFunction_sound allSound_nil

/-! ## Writing -/

theorem partsOf_view (p : Kind → Bool) (h : ∀ k, p k = true → k.hasDatePart || k.hasTimePart)
    {accepts : ValueType → Bool}
    (kinds : ∀ t, accepts t = true → t = .missing ∨ ∃ k o, t = .of k o ∧ p k = true) :
    Builder.ViewFits R accepts partsOf := by
  intro c t fits accepted
  obtain rfl | ⟨k, o, rfl, hk⟩ := kinds t accepted
  · cases fits
    exact ⟨_, rfl, Source.missing_fits, rfl⟩
  · have parts := h k hk
    cases fits with
    | of source => cases k <;> cases parts <;> exact ⟨_, rfl, Source.map_fits source _, rfl⟩

theorem writeByPattern_regular (base : Base) (pattern : String) (parts : TemporalParts) :
    (writeByPattern base pattern parts).Regular R m := by
  refine Regular.ite (fun _ => warnNone_regular _) fun _ => ?_
  split
  · exact regular_pure _
  · exact warnNone_regular _

/-- The format is required, and read without being asked whether it is missing. -/
theorem writeBuilder_sound (unasked : R.unasked) {matcher : Matcher}
    (hview : Builder.ViewFits R matcher.accepts partsOf) :
    writeBuilder.Sound R [.required "temporal" matcher, .required "format" (.kind .string)]
      (.exactly (.optionalOf .string)) := by
  intro t given accepted rule
  cases rule
  obtain ⟨c, u, parts, hc, hparts, reads⟩ := accepted.readsView "temporal" (.head _) hview
  obtain ⟨d, v, bound, fits, accepts⟩ := accepted.required "format" (.tail _ (.head _))
  obtain rfl := Matcher.kind_accepts accepts
  obtain ⟨pattern, hp, reads_p⟩ := fits.as_ok (.inl rfl)
  refine ⟨.string (Source.partialOver [c] do
    writeByPattern c.base (← pattern.compute) (← parts.compute)), ?_, ?_⟩
  · rw [writeBuilder, hc, Arguments.source, Arguments.required_of_get? bound]
    simp only [Except.ok_bind, hp, hparts]
    rfl
  · refine .of (Source.partialOver_fits_optional [(c, u)] (by simpa using reads.fits)
      fun m hm present => ?_)
    refine ((reads_p m hm).compute_unasked unasked rfl).andThen fun _ => ?_
    exact (reads.compute_regular hm (present _ (.head _))).andThen fun _ =>
      writeByPattern_regular ..

theorem kindOrMissing_kinds (k : Kind) (t : ValueType)
    (h : (Matcher.kindOrMissing k).accepts t = true) :
    t = .missing ∨ ∃ l o, t = .of l o ∧ (l == k) = true := by
  obtain h | h := Matcher.kindOrMissing_accepts h
  · cases t with
    | missing => exact .inl rfl
    | of l o => exact .inr ⟨l, o, rfl, by simpa [ValueType.base] using h⟩
  · exact .inl h

theorem formatting_sound (unasked : R.unasked) : AllSound R formatting := by
  refine .cons (by decide) (Function.sound_simple (by decide) (writeBuilder_sound unasked
    (partsOf_view (· == .localDate) (by simp [Kind.hasDatePart]) (kindOrMissing_kinds _)))) ?_
  refine .cons (by decide) (Function.sound_simple (by decide) (writeBuilder_sound unasked
    (partsOf_view (· == .localTime) (by simp [Kind.hasTimePart]) (kindOrMissing_kinds _)))) ?_
  refine .cons (by decide) (Function.sound_simple (by decide) (writeBuilder_sound unasked
    (partsOf_view Kind.hasDatePart (fun k h => by simp [h]) fun t h => ?_))) allSound_nil
  exact Matcher.kindSatisfies_accepts (Matcher.dateTimeOrMissing_accepts h).1

/-! ## Distances -/

/-- Where the rule of distances gives a type, both ends are of one base or one of them is the bare
MISSING. -/
theorem distanceType_ok {k : Kind} {needed : String} {has : ValueType → Bool}
    {types : Arguments ValueType} {a b : ValueType} (ha : types.get? "start" = some a)
    (hb : types.get? "end" = some b) (h : distanceType k needed has types = .ok t) :
    t = .of k types.anyOptional ∧ (a = .missing ∨ b = .missing ∨ a.base = b.base) := by
  rw [distanceType, ha, hb] at h
  simp only at h
  split at h
  · cases h
  · next one =>
      have one : a = .missing ∨ b = .missing ∨ a.base = b.base := by
        cases a with
        | missing => exact .inl rfl
        | of =>
            cases b with
            | missing => exact .inr (.inl rfl)
            | of => exact .inr (.inr (by simpa [ValueType.isMissing] using one))
      split at h <;> split at h <;> cases h
      all_goals exact ⟨rfl, one⟩

theorem dateDistance_sound (k : Kind) (f : Date → Date → k.Carrier) :
    (dateDistance k f).Sound R dateDistanceParams
      (distanceType k "date" ValueType.hasDatePart) := by
  intro t given accepted rule
  obtain ⟨c, u, first, hc, hfirst, reads_f⟩ :=
    accepted.readsView "start" (.head _) Builder.dates_view
  obtain ⟨d, v, last, hd, hlast, reads_l⟩ :=
    accepted.readsView "end" (.tail _ (.head _)) Builder.dates_view
  obtain ⟨rfl, _⟩ := distanceType_ok (a := u) (b := v) (by rw [Arguments.get?_map, reads_f.bound]; rfl)
    (by rw [Arguments.get?_map, reads_l.bound]; rfl) rule
  refine ⟨.of k (Source.propagating (given.map (·.1)).values do
    pure (f (← first.compute) (← last.compute))), ?_,
    accepted.propagating_fits fun m hm present => ?_⟩
  · rw [dateDistance, hc, hd]
    simp only [Except.ok_bind, hfirst, hlast]
    rfl
  · refine (reads_f.compute_regular hm (present _ reads_f.mem_values)).andThen fun _ => ?_
    exact (reads_l.compute_regular hm (present _ reads_l.mem_values)).andThen fun _ =>
      regular_pure _

theorem elapsedSource_fits {α : Type} {nanosSince : α → α → Int} {first last : Source α}
    {o₁ o₂ : Bool} (hf : first.Fits R o₁) (hl : last.Fits R o₂) :
    (elapsedSource nanosSince first last).Fits R (o₁ || o₂) := by
  intro m hm
  refine (hf m hm).both (hl m hm) rfl fun vf vl => ?_
  exact vl.andThen fun _ => vf.andThen fun _ => regular_inRange _ _

/-- The duration between two ends that have a time of day, and one base or the bare MISSING. -/
theorem durationBetween_fits {d : Computer} {a b : ValueType} (hc : c.Fits R a) (hd : d.Fits R b)
    (ha : Matcher.timePartOrMissing.accepts a = true)
    (hb : Matcher.timePartOrMissing.accepts b = true)
    (one : a = .missing ∨ b = .missing ∨ a.base = b.base) :
    (durationBetween c d).Fits R (a.isOptional || b.isOptional) := by
  cases hc with
  | missing => exact Source.missing_fits
  | @of k s o first =>
      cases hd with
      | missing =>
          rw [ValueType.isOptional, ValueType.isOptional, Bool.or_true]
          cases k <;> exact Source.missing_fits
      | of last =>
          obtain h | h | h := one
          · cases h
          · cases h
          · cases h
            obtain h | ⟨_, _, h, time⟩ := Matcher.kindSatisfies_accepts ha
            · cases h
            · cases h
              cases k <;> cases time
              · exact elapsedSource_fits first last
              · exact elapsedSource_fits first last
              · exact elapsedSource_fits first last

/-! ## Moving -/

theorem moveSource_fits {α β γ : Type} {start : Source α} {amount : Source β}
    {f : α → β → Eval γ} {o₁ o₂ : Bool} (hs : start.Fits R o₁) (ha : amount.Fits R o₂)
    (hf : ∀ m x y, (f x y).Regular R m) : (moveSource start amount f).Fits R (o₁ || o₂) := by
  intro m hm
  refine (hs m hm).both (ha m hm) rfl fun vs va => ?_
  exact vs.andThen fun x => va.andThen fun y => hf m x y

theorem moveByPeriod_fits {α : Type} {start : Source α} {amount : Source Period}
    {add : Period → α → Option α} {o₁ o₂ : Bool} (hs : start.Fits R o₁)
    (ha : amount.Fits R o₂) : (moveByPeriod start amount add).Fits R (o₁ || o₂) := by
  intro m hm
  refine (hs m hm).both (ha m hm) rfl fun vs va => ?_
  exact va.andThen fun _ => vs.andThen fun _ => regular_orFail _ _

/-- The type of a start that is moved. -/
theorem startType_ok {types : Arguments ValueType} {a : ValueType}
    (ha : types.get? "start" = some a) : startType types = .ok (a.withOptional types.anyOptional) := by
  rw [startType, ha]

/-- Both operands of a move count for whether its result is optional. -/
theorem anyOptional_of_move {a b : Computer × ValueType} (ha : a ∈ given.values)
    (hb : b ∈ given.values) (h : (a.2.isOptional || b.2.isOptional) = true) :
    (given.map (·.2)).anyOptional = true := by
  have mem {g : Computer × ValueType} (hg : g ∈ given.values) : g.2 ∈ (given.map (·.2)).values := by
    rw [Arguments.values_map]
    exact List.mem_map_of_mem hg
  obtain h | h := (Bool.or_eq_true ..).mp h
  · exact Arguments.anyOptional_of_mem (mem ha) h
  · exact Arguments.anyOptional_of_mem (mem hb) h

theorem addDurationBuilder_sound :
    addDurationBuilder.Sound R
      [.required "start" .timePartOrMissing, .required "duration" (.kindOrMissing .timeDuration)]
      startType := by
  intro t given accepted rule
  obtain ⟨c, u, bound, fits, accepts⟩ := accepted.required "start" (.head _)
  obtain ⟨d, v, amount, hd, reads⟩ :=
    accepted.reads "duration" .timeDuration (.tail _ (.head _))
  rw [startType_ok (by rw [Arguments.get?_map, bound]; rfl)] at rule
  cases rule
  rw [addDurationBuilder, reads.source hd]
  simp only [Except.ok_bind, Arguments.required_of_get? bound]
  obtain rfl | ⟨k, o, rfl, time⟩ := Matcher.kindSatisfies_accepts accepts
  · cases fits
    exact ⟨_, rfl, .missing⟩
  · have optional (h : (o || v.isOptional) = true) :=
      anyOptional_of_move (Arguments.mem_values_of_get? bound) reads.mem_values h
    cases fits with
    | of start =>
        -- A time wraps around, while the other two kinds may leave their range.
        cases k <;> cases time
        · exact ⟨_, rfl, .of ((moveSource_fits start reads.reads fun _ _ _ =>
            regular_pure _).weaken optional)⟩
        · exact ⟨_, rfl, .of ((moveSource_fits start reads.reads fun _ _ _ =>
            regular_orFail _ _).weaken optional)⟩
        · exact ⟨_, rfl, .of ((moveSource_fits start reads.reads fun _ _ _ =>
            regular_orFail _ _).weaken optional)⟩

theorem addPeriodBuilder_sound :
    addPeriodBuilder.Sound R
      [.required "start" .datePartOrMissing, .required "duration" (.kindOrMissing .dateDuration)]
      startType := by
  intro t given accepted rule
  obtain ⟨c, u, bound, fits, accepts⟩ := accepted.required "start" (.head _)
  obtain ⟨d, v, amount, hd, reads⟩ :=
    accepted.reads "duration" .dateDuration (.tail _ (.head _))
  rw [startType_ok (by rw [Arguments.get?_map, bound]; rfl)] at rule
  cases rule
  rw [addPeriodBuilder, reads.source hd]
  simp only [Except.ok_bind, Arguments.required_of_get? bound]
  obtain rfl | ⟨k, o, rfl, date⟩ := Matcher.kindSatisfies_accepts accepts
  · cases fits
    exact ⟨_, rfl, .missing⟩
  · have optional (h : (o || v.isOptional) = true) :=
      anyOptional_of_move (Arguments.mem_values_of_get? bound) reads.mem_values h
    cases fits with
    | of start =>
        cases k <;> cases date
        · exact ⟨_, rfl, .of ((moveByPeriod_fits start reads.reads).weaken optional)⟩
        · exact ⟨_, rfl, .of ((moveByPeriod_fits start reads.reads).weaken optional)⟩
        · exact ⟨_, rfl, .of ((moveSource_fits start reads.reads fun _ _ _ =>
            regular_orFail _ _).weaken optional)⟩

theorem durationBetweenBuilder_sound :
    Builder.Sound R [.required "start" .timePartOrMissing, .required "end" .timePartOrMissing]
      (distanceType .timeDuration "time" ValueType.hasTimePart)
      (fun args _ => do
        pure (.of .timeDuration
          (durationBetween (← args.required "start") (← args.required "end")))) := by
  intro t given accepted rule
  obtain ⟨c, u, bound_c, fits_c, accepts_c⟩ := accepted.required "start" (.head _)
  obtain ⟨d, v, bound_d, fits_d, accepts_d⟩ := accepted.required "end" (.tail _ (.head _))
  obtain ⟨rfl, one⟩ := distanceType_ok (a := u) (b := v) (by rw [Arguments.get?_map, bound_c]; rfl)
    (by rw [Arguments.get?_map, bound_d]; rfl) rule
  refine ⟨.of .timeDuration (durationBetween c d), ?_, .of ?_⟩
  · simp only [Arguments.required_of_get? bound_c, Arguments.required_of_get? bound_d]
    rfl
  · refine (durationBetween_fits fits_c fits_d accepts_c accepts_d one).weaken ?_
    exact anyOptional_of_move (Arguments.mem_values_of_get? bound_c)
      (Arguments.mem_values_of_get? bound_d)

theorem dateDistanceFunction_sound {name description : String} {f : Date → Date → Int} :
    (dateDistanceFunction name description f).Sound R :=
  Function.sound_simple (by decide) (dateDistance_sound _ _)

theorem calendarArithmetic_sound : AllSound R calendarArithmetic := by
  refine .cons (by decide) dateDistanceFunction_sound ?_
  refine .cons (by decide) dateDistanceFunction_sound ?_
  refine .cons (by decide) dateDistanceFunction_sound ?_
  refine .cons (by decide) (Function.sound_simple (by decide) (dateDistance_sound _ _)) ?_
  refine .cons (by decide) (Function.sound_simple (by decide) durationBetweenBuilder_sound) ?_
  refine .cons (by decide) (Function.sound_simple (by decide) addDurationBuilder_sound) ?_
  exact .cons (by decide) (Function.sound_simple (by decide) addPeriodBuilder_sound) allSound_nil

end Functions

end Rowwise
