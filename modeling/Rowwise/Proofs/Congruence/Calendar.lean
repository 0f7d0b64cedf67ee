import Rowwise.Functions.CalendarArithmetic
import Rowwise.Functions.CalendarText
import Rowwise.Proofs.Congruence.Builders

/-!
# Functions of dates and times keep computers related

The current time is that at which the evaluation started, which is all that they know of the moment.
-/

namespace Rowwise

open Eval Functions

variable {α β γ : Type} {R : Congruence}

/-! ## Parts of computers -/

namespace Builder

variable {c c' : Computer} {args args' : Arguments Computer}

theorem agree_dates (h : c.Related R c') :
    Except.Agree (Source.Related R) (dates c) (dates c') := by
  cases h with
  | missing => exact .ok Source.missing_related
  | @of k s s' hs =>
      cases k with
      | localDate => exact .ok hs
      | localDateTime => exact .ok (hs.map _)
      | zonedDateTime => exact .ok (hs.map _)
      | _ => exact .error _

theorem agree_times (h : c.Related R c') :
    Except.Agree (Source.Related R) (times c) (times c') := by
  cases h with
  | missing => exact .ok Source.missing_related
  | @of k s s' hs =>
      cases k with
      | localTime => exact .ok hs
      | localDateTime => exact .ok (hs.map _)
      | zonedDateTime => exact .ok (hs.map _)
      | _ => exact .error _

theorem related_integerOrZero {s s' : Option (Source Int64)}
    (h : Option.Rel (Source.Related R) s s') :
    (integerOrZero s).Related R (integerOrZero s') :=
  (Source.related_optionalValue? h).bind fun _ => proper_pure _

theorem word_proper (cause : RowFailure) (n : Int64) : (word cause n).Proper R := proper_orFail _ _

end Builder

namespace Functions

/-! ## Making -/

theorem warnPart_proper (part range : String) (value : Int) :
    (warnPart part range value : Eval (Option α)).Proper R := proper_warned ..

theorem makeDate_proper (year month day : Int64) : (makeDate year month day).Proper R := by
  refine (Builder.word_proper _ _).bind fun year => (Builder.word_proper _ _).bind fun month => ?_
  refine (Builder.word_proper _ _).bind fun day => .ite (warnPart_proper ..) ?_
  refine .ite (warnPart_proper ..) (.ite (proper_warned ..) (proper_pure _))

theorem makeTime_proper (hour minute second nano : Int64) :
    (makeTime hour minute second nano).Proper R := by
  refine (Builder.word_proper _ _).bind fun hour => (Builder.word_proper _ _).bind fun minute => ?_
  refine (Builder.word_proper _ _).bind fun second => (Builder.word_proper _ _).bind fun nano => ?_
  refine .ite (warnPart_proper ..) (.ite (warnPart_proper ..) (.ite (warnPart_proper ..) ?_))
  exact .ite (warnPart_proper ..) (proper_pure _)

theorem readZone_proper (zone : String) : (readZone zone).Proper R := by
  unfold readZone
  cases ZoneReading.read zone.toList with
  | offset o => exact proper_pure _
  | unknown => exact proper_warned ..
  | cutInsideCharacter => exact proper_throw _

theorem makeDateBuilder_proper : Builder.Proper R makeDateBuilder := by
  intro args args' type h
  refine (h.source "year" .integer).bind fun year year' hyear => ?_
  refine (h.source "month" .integer).bind fun month month' hmonth => ?_
  refine (h.source "day" .integer).bind fun day day' hday => .ok (.of ?_)
  refine Source.related_partialOver h.values (hyear.compute.bind fun a => ?_)
  exact hmonth.compute.bind fun b => hday.compute.bind fun c => makeDate_proper a b c

theorem makeTimeBuilder_proper : Builder.Proper R makeTimeBuilder := by
  intro args args' type h
  refine (h.required "hour").bind fun first first' hfirst => ?_
  refine (h.required "minute").bind fun last last' hlast => ?_
  refine (h.source "hour" .integer).bind fun hour hour' hhour => ?_
  refine (h.source "minute" .integer).bind fun minute minute' hminute => ?_
  refine (h.source? "second" .integer).bind fun second second' hsecond => ?_
  refine (h.source? "nanosecond" .integer).bind fun nano nano' hnano => .ok (.of ?_)
  refine Source.related_partialOver (.cons hfirst (.cons hlast .nil)) ?_
  refine (Builder.related_integerOrZero hsecond).bind fun c => ?_
  refine (Builder.related_integerOrZero hnano).bind fun d => hhour.compute.bind fun a => ?_
  exact hminute.compute.bind fun b => makeTime_proper a b c d

theorem makeDateTimeBuilder_proper : Builder.Proper R makeDateTimeBuilder := by
  intro args args' type h
  refine (h.source "date" .localDate).bind fun date date' hdate => ?_
  refine (h.source "time" .localTime).bind fun time time' htime => .ok (.of ?_)
  exact Source.related_propagating h.values
    (hdate.compute.bind fun _ => htime.compute.bind fun _ => proper_pure _)

theorem makeZonedBuilder_proper : Builder.Proper R makeZonedBuilder := by
  intro args args' type h
  refine (h.source "datetime" .localDateTime).bind fun wall wall' hwall => ?_
  refine (h.source "zone" .string).bind fun zone zone' hzone => .ok (.of ?_)
  refine Source.related_partialOver h.values (hzone.compute.bind fun name => ?_)
  refine (readZone_proper name).bind fun found => ?_
  cases found with
  | none => exact proper_pure none
  | some offset => exact hwall.compute.bind fun _ => proper_pure _

theorem makeDurationBuilder_proper : Builder.Proper R makeDurationBuilder := by
  intro args args' type h
  refine (h.source "hours" .integer).bind fun hours hours' hhours => ?_
  refine (h.source "minutes" .integer).bind fun minutes minutes' hminutes => ?_
  refine (h.source? "seconds" .integer).bind fun seconds seconds' hseconds => ?_
  refine (h.source? "nanoseconds" .integer).bind fun nanos nanos' hnanos => .ok (.of ?_)
  refine Source.related_propagating h.values (hhours.compute.bind fun _ => ?_)
  refine hminutes.compute.bind fun _ => (Builder.related_integerOrZero hseconds).bind fun _ => ?_
  exact (Builder.related_integerOrZero hnanos).bind fun _ => proper_orFail _ _

theorem makePeriodBuilder_proper : Builder.Proper R makePeriodBuilder := by
  intro args args' type h
  refine (h.source "years" .integer).bind fun years years' hyears => ?_
  refine (h.source "months" .integer).bind fun months months' hmonths => ?_
  refine (h.source "days" .integer).bind fun days days' hdays => .ok (.of ?_)
  refine Source.related_propagating h.values (hyears.compute.bind fun _ => ?_)
  refine (Builder.word_proper _ _).bind fun _ => hmonths.compute.bind fun _ => ?_
  refine (Builder.word_proper _ _).bind fun _ => hdays.compute.bind fun _ => ?_
  exact (Builder.word_proper _ _).bind fun _ => proper_pure _

theorem making_proper : AllProper R making := by
  refine .cons (Function.proper_simple makeDateBuilder_proper) ?_
  refine .cons (Function.proper_simple makeTimeBuilder_proper) ?_
  refine .cons (Function.proper_simple makeDateTimeBuilder_proper) ?_
  refine .cons (Function.proper_simple makeZonedBuilder_proper) ?_
  refine .cons (Function.proper_simple makeDurationBuilder_proper) ?_
  exact .cons (Function.proper_simple makePeriodBuilder_proper) .nil

/-! ## The current time -/

theorem current_proper : AllProper R current := by
  refine .cons (Function.proper_simple fun _ _ _ _ => .ok (.of (Source.present_related ?_))) ?_
  · exact proper_start fun start => start
  refine .cons (Function.proper_simple fun _ _ _ _ => .ok (.of (Source.present_related ?_))) .nil
  exact proper_start fun start => start.wall.date

/-! ## Taking apart -/

theorem dateFieldFunction_proper {name description : String} (f : Date → Int) :
    (dateFieldFunction name description f).Proper R := by
  refine Function.proper_simple fun args args' type h => ?_
  refine (h.required "temporal").bind fun c c' related => ?_
  exact (Builder.agree_dates related).bind fun s s' hs => .ok (.of (hs.map _))

theorem timeFieldFunction_proper {name description : String} (f : TimeOfDay → Nat) :
    (timeFieldFunction name description f).Proper R := by
  refine Function.proper_simple fun args args' type h => ?_
  refine (h.required "temporal").bind fun c c' related => ?_
  exact (Builder.agree_times related).bind fun s s' hs => .ok (.of (hs.map _))

theorem unitFunction_proper {name description : String} (unit : Float) :
    (unitFunction name description unit).Proper R := by
  refine Function.proper_simple fun args args' type h => ?_
  exact (h.source "duration" .timeDuration).bind fun d d' hd => .ok (.of (hd.map _))

theorem extraction_proper : AllProper R extraction := by
  refine .cons (dateFieldFunction_proper _) (.cons (dateFieldFunction_proper _) ?_)
  refine .cons (dateFieldFunction_proper _) (.cons (timeFieldFunction_proper _) ?_)
  refine .cons (timeFieldFunction_proper _) (.cons (timeFieldFunction_proper _) ?_)
  refine .cons (timeFieldFunction_proper _) ?_
  refine .cons (Function.proper_simple fun args args' type h => ?_) ?_
  · refine (h.required "temporal").bind fun c c' related => ?_
    exact (Builder.agree_dates related).bind fun s s' hs => .ok (.of hs)
  refine .cons (Function.proper_simple fun args args' type h => ?_) ?_
  · refine (h.required "temporal").bind fun c c' related => ?_
    exact (Builder.agree_times related).bind fun s s' hs => .ok (.of hs)
  refine .cons (Function.proper_simple fun args args' type h => ?_) ?_
  · exact (h.source "temporal" .zonedDateTime).bind fun z z' hz => .ok (.of (hz.map _))
  exact .cons (unitFunction_proper _)
    (.cons (unitFunction_proper _) (.cons (unitFunction_proper _) .nil))

/-! ## Reading -/

theorem warnNone_proper (message : String) : (warnNone message : Eval (Option α)).Proper R :=
  proper_warned ..

theorem read_proper {k : Kind} (r : TemporalReader k) (text : String) (pattern : Option String) :
    (r.read text pattern).Proper R := by
  cases pattern with
  | none =>
      unfold TemporalReader.read
      cases r.standard text.toList with
      | none => exact warnNone_proper _
      | some v => exact proper_pure _
  | some pattern =>
      unfold TemporalReader.read
      dsimp only
      split
      · exact proper_pure _
      · exact warnNone_proper _
      · exact warnNone_proper _

theorem readFunction_proper {name description : String} {k : Kind} (r : TemporalReader k) :
    (readFunction name description r).Proper R := by
  refine Function.proper_simple fun args args' type h => ?_
  refine (h.required "string").bind fun input input' related => ?_
  refine (h.source "string" .string).bind fun text text' htext => ?_
  refine (h.source? "format" .string).bind fun pattern pattern' hpattern => .ok (.of ?_)
  refine Source.related_partialOver (.cons related .nil) ?_
  refine (Source.related_optionalValue? hpattern).bind fun pattern => ?_
  exact htext.compute.bind fun text => read_proper r text pattern

theorem amountFunction_proper {name description : String} (k : Kind)
    (read : List Char → Option k.Carrier) : (amountFunction name description k read).Proper R := by
  refine Function.proper_simple fun args args' type h => ?_
  refine (h.required "string").bind fun input input' related => ?_
  refine (h.source "string" .string).bind fun text text' htext => .ok (.of ?_)
  refine Source.related_partialOver (.cons related .nil) (htext.compute.bind fun text => ?_)
  cases read text.toList with
  | none => exact warnNone_proper _
  | some v => exact proper_pure _

theorem parsing_proper : AllProper R parsing := by
  refine .cons (readFunction_proper _) (.cons (readFunction_proper _) ?_)
  refine .cons (readFunction_proper _) (.cons (readFunction_proper _) ?_)
  exact .cons (amountFunction_proper _ _) (.cons (amountFunction_proper _ _) .nil)

/-! ## Writing -/

theorem agree_partsOf {c c' : Computer} (h : c.Related R c') :
    Except.Agree (Source.Related R) (partsOf c) (partsOf c') := by
  cases h with
  | missing => exact .ok Source.missing_related
  | @of k s s' hs =>
      cases k with
      | localDate => exact .ok (hs.map _)
      | localTime => exact .ok (hs.map _)
      | localDateTime => exact .ok (hs.map _)
      | zonedDateTime => exact .ok (hs.map _)
      | _ => exact .error _

theorem writeByPattern_proper (base : Base) (pattern : String) (parts : TemporalParts) :
    (writeByPattern base pattern parts).Proper R := by
  refine .ite (warnNone_proper _) ?_
  cases parts.text? (Pattern.items pattern.toList) with
  | none => exact warnNone_proper _
  | some text => exact proper_pure _

theorem writeFunction_proper {name description : String} (m : Matcher) :
    (writeFunction name description m).Proper R := by
  refine Function.proper_simple fun args args' type h => ?_
  refine (h.required "temporal").bind fun input input' related => ?_
  refine (h.source "format" .string).bind fun pattern pattern' hpattern => ?_
  refine (agree_partsOf related).bind fun parts parts' hparts => .ok (.of ?_)
  rw [related.base_eq]
  refine Source.related_partialOver (.cons related .nil) (hpattern.compute.bind fun pattern => ?_)
  exact hparts.compute.bind fun parts => writeByPattern_proper _ pattern parts

theorem formatting_proper : AllProper R formatting :=
  .cons (writeFunction_proper _)
    (.cons (writeFunction_proper _) (.cons (writeFunction_proper _) .nil))

/-! ## Distances -/

theorem dateDistance_proper (k : Kind) (f : Date → Date → k.Carrier) :
    Builder.Proper R (dateDistance k f) := by
  intro args args' type h
  refine (h.required "start").bind fun c c' hc => ?_
  refine (Builder.agree_dates hc).bind fun first first' hfirst => ?_
  refine (h.required "end").bind fun d d' hd => ?_
  refine (Builder.agree_dates hd).bind fun last last' hlast => .ok (.of ?_)
  exact Source.related_propagating h.values
    (hfirst.compute.bind fun _ => hlast.compute.bind fun _ => proper_pure _)

theorem related_elapsedSource (nanosSince : α → α → Int) {first first' last last' : Source α}
    (hfirst : first.Related R first') (hlast : last.Related R last') :
    (elapsedSource nanosSince first last).Related R (elapsedSource nanosSince first' last') where
  isMissing := hfirst.isMissing.bind fun _ => .ite (proper_pure true) hlast.isMissing
  compute := hlast.compute.bind fun _ => hfirst.compute.bind fun _ => proper_inRange _ _

theorem related_durationBetween {c c' d d' : Computer} (hc : c.Related R c') (hd : d.Related R d') :
    (durationBetween c d).Related R (durationBetween c' d') := by
  cases hc with
  | missing => exact Source.missing_related
  | @of k s s' hs =>
      cases hd with
      | missing => cases k <;> exact Source.missing_related
      | @of l t t' ht =>
          -- Only two times or date-times of one kind have a distance.
          by_cases same : k = l
          · subst same
            cases k with
            | localTime => exact related_elapsedSource _ hs ht
            | localDateTime => exact related_elapsedSource _ hs ht
            | zonedDateTime => exact related_elapsedSource _ hs ht
            | _ => exact Source.missing_related
          · cases k <;> cases l <;> first | exact absurd rfl same | exact Source.missing_related

/-! ## Moving -/

theorem related_moveSource {start start' : Source α} {amount amount' : Source β}
    (hs : start.Related R start') (ha : amount.Related R amount') {f : α → β → Eval γ}
    (hf : ∀ x y, (f x y).Proper R) :
    (moveSource start amount f).Related R (moveSource start' amount' f) where
  isMissing := hs.isMissing.bind fun _ => .ite (proper_pure true) ha.isMissing
  compute := hs.compute.bind fun x => ha.compute.bind (hf x)

theorem related_moveByPeriod {start start' : Source α} {amount amount' : Source Period}
    (hs : start.Related R start') (ha : amount.Related R amount') (add : Period → α → Option α) :
    (moveByPeriod start amount add).Related R (moveByPeriod start' amount' add) where
  isMissing := hs.isMissing.bind fun _ => .ite (proper_pure true) ha.isMissing
  compute := ha.compute.bind fun _ => hs.compute.bind fun _ => proper_orFail _ _

theorem addDurationBuilder_proper : Builder.Proper R addDurationBuilder := by
  intro args args' type h
  refine (h.source "duration" .timeDuration).bind fun d d' hd => ?_
  refine (h.required "start").bind fun c c' hc => ?_
  cases hc with
  | missing => exact .ok .missing
  | @of k s s' hs =>
      cases k with
      | localTime => exact .ok (.of (related_moveSource hs hd fun _ _ => proper_pure _))
      | localDateTime => exact .ok (.of (related_moveSource hs hd fun _ _ => proper_orFail _ _))
      | zonedDateTime => exact .ok (.of (related_moveSource hs hd fun _ _ => proper_orFail _ _))
      | _ => exact .error _

theorem addPeriodBuilder_proper : Builder.Proper R addPeriodBuilder := by
  intro args args' type h
  refine (h.source "duration" .dateDuration).bind fun p p' hp => ?_
  refine (h.required "start").bind fun c c' hc => ?_
  cases hc with
  | missing => exact .ok .missing
  | @of k s s' hs =>
      cases k with
      | localDate => exact .ok (.of (related_moveByPeriod hs hp _))
      | localDateTime => exact .ok (.of (related_moveByPeriod hs hp _))
      | zonedDateTime => exact .ok (.of (related_moveSource hs hp fun _ _ => proper_orFail _ _))
      | _ => exact .error _

theorem calendarArithmetic_proper : AllProper R calendarArithmetic := by
  refine .cons (Function.proper_simple (dateDistance_proper _ _)) ?_
  refine .cons (Function.proper_simple (dateDistance_proper _ _)) ?_
  refine .cons (Function.proper_simple (dateDistance_proper _ _)) ?_
  refine .cons (Function.proper_simple (dateDistance_proper _ _)) ?_
  refine .cons (Function.proper_simple fun args args' type h => ?_) ?_
  · refine (h.required "start").bind fun c c' hc => ?_
    exact (h.required "end").bind fun d d' hd => .ok (.of (related_durationBetween hc hd))
  refine .cons (Function.proper_simple addDurationBuilder_proper) ?_
  exact .cons (Function.proper_simple addPeriodBuilder_proper) .nil

end Functions

end Rowwise
