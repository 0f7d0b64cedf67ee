import Rowwise.Functions.BuiltIn
import Rowwise.Proofs.Evaluation.Absence
import Rowwise.Proofs.Typing.Binding

/-!
# Functions that find out without computing whether their result is missing

Most functions are missing where one of some of their arguments is, or never, and so are settled
where their arguments are, whatever they compute.  A builder is shown to be so by following how it
reads its parameters up to the source of the result, of which the computation does not matter.

The other functions may have no result although their arguments are there, or choose one of their
arguments by others.  They have to compute to find out, and `Functions.decidingNames` lists them.
-/

namespace Rowwise

open Eval

variable {m : Moment}

/-! ## Arguments -/

namespace Arguments

variable {args : Arguments Computer} (h : ∀ c ∈ args.values, c.Settled m)
include h

theorem ensures_required (name : String) :
    Except.Ensures (Computer.Settled m) (args.required name) := by
  unfold Arguments.required
  split
  · next c found => exact .ok (h c (mem_values_of_mem_all (List.mem_of_head? found)))
  · exact .error _

theorem ensures_source (name : String) (k : Kind) :
    Except.Ensures (Source.Settled m) (args.source name k) :=
  (ensures_required h name).bind fun _ hc => hc.as k

theorem ensures_floatSource (name : String) :
    Except.Ensures (Source.Settled m) (args.floatSource name) :=
  (ensures_required h name).bind fun _ hc => hc.asFloat

theorem ensures_inputs (names : List String) :
    Except.Ensures (fun inputs => ∀ c ∈ inputs, c.Settled m) (Builder.inputs args names) :=
  .mapM fun name _ => ensures_required h name

theorem ensures_chars (name : String) :
    Except.Ensures (Source.Settled m) (Builder.chars args name) :=
  (ensures_source h name .string).bind fun _ hs => .ok (hs.map _)

end Arguments

/-! ## Shapes of builders -/

namespace Builder

open Arguments

theorem ofNumber_settles (f : Float → Eval Float) : (ofNumber f).Settles m := by
  intro args type h
  exact (ensures_floatSource h "x").bind fun x hx => .ok (.of (hx.tryMap f))

theorem ofNumbers_settles (first second : String) (f : Float → Float → Eval Float) :
    (ofNumbers first second f).Settles m := by
  intro args type h
  refine .after _ fun a => .after _ fun b => ?_
  exact .ok (.of (Source.propagating_settled h _))

theorem arithmetic_settles (onIntegers : Eval Int64 → Eval Int64 → Eval Int64)
    (onFloats : Eval Float → Eval Float → Eval Float) :
    (arithmetic onIntegers onFloats).Settles m := by
  intro args type h
  unfold arithmetic
  split
  all_goals
    refine .after _ fun x => .after _ fun y => ?_
    exact .ok (.of (Source.propagating_settled h _))

theorem reduceFloats_settles (k : Kind) (f : List Float → k.Carrier) :
    (reduceFloats k f).Settles m := by
  intro args type h
  exact .after _ fun floats => .ok (.of (Source.propagating_settled h _))

theorem reduceNumbers_settles (onIntegers : List Int64 → Int64) (onFloats : List Float → Float) :
    (reduceNumbers onIntegers onFloats).Settles m := by
  intro args type h
  unfold reduceNumbers
  split
  · exact .after _ fun integers => .ok (.of (Source.propagating_settled h _))
  · exact reduceFloats_settles .float onFloats args type h

theorem ofText_settles (f : List Char → List Char) : (ofText f).Settles m := by
  intro args type h
  exact (ensures_chars h "string").bind fun s hs => .ok (.of (hs.map _))

theorem ensures_dates {c : Computer} (h : c.Settled m) :
    Except.Ensures (Source.Settled m) (dates c) := by
  unfold dates
  split
  · exact .ok Source.missing_settled
  · exact .ok h
  · exact .ok h
  · exact .ok h
  · exact .error _

theorem ensures_times {c : Computer} (h : c.Settled m) :
    Except.Ensures (Source.Settled m) (times c) := by
  unfold times
  split
  · exact .ok Source.missing_settled
  · exact .ok h
  · exact .ok h
  · exact .ok h
  · exact .error _

end Builder

theorem Function.settles_simple {name description : String} {category : Category}
    {keywords : List String} {params : List Param} {rule : TypeRule} {build : Builder}
    (h : build.Settles m) :
    (Function.simple name category description keywords params rule build).Settles m := by
  intro o ho
  obtain rfl := List.mem_singleton.mp ho
  exact h

/-! ## The functions -/

namespace Functions

open Arguments

/-- The functions that compute to find out whether their result is missing: those that choose
between their arguments, and those that have no result for some values. -/
def decidingNames : List String :=
  ["if", "switch", "sign", "nan_to_missing", "round", "roundhalfup", "roundhalfdown", "truncate",
    "ceil", "floor", "empty_to_missing", "parse_bool", "parse_float", "parse_int", "like",
    "regex_match", "regex_extract", "regex_replace", "make_date", "make_time", "make_zoned",
    "parse_date", "parse_time", "parse_datetime", "parse_zoned_datetime", "parse_time_duration",
    "parse_date_duration", "format_date", "format_time", "format_datetime"]

/-- All functions of a list keep computers settled, but for those that compute to find out. -/
def AllSettle (m : Moment) (functions : List Function) : Prop :=
  ∀ f ∈ functions, f.name ∉ decidingNames → f.Settles m

namespace AllSettle

theorem nil : AllSettle m [] := fun _ h => absurd h List.not_mem_nil

theorem cons {f : Function} {rest : List Function} (hf : f.Settles m)
    (hrest : AllSettle m rest) : AllSettle m (f :: rest) :=
  List.forall_mem_cons.mpr ⟨fun _ => hf, hrest⟩

theorem deciding {f : Function} {rest : List Function} (hf : f.name ∈ decidingNames)
    (hrest : AllSettle m rest) : AllSettle m (f :: rest) :=
  List.forall_mem_cons.mpr ⟨fun other => absurd hf other, hrest⟩

theorem append {fs gs : List Function} (hf : AllSettle m fs) (hg : AllSettle m gs) :
    AllSettle m (fs ++ gs) := fun f h => (List.mem_append.mp h).elim (hf f) (hg f)

/-- A list of functions that all compute to find out. -/
theorem of_deciding {fs : List Function} (h : ∀ f ∈ fs, f.name ∈ decidingNames) :
    AllSettle m fs := fun f hf other => absurd (h f hf) other

end AllSettle

/-! ### Numbers -/

theorem absoluteBuilder_settles : Builder.Settles m absoluteBuilder := by
  intro args type h
  refine (ensures_required h "x").bind fun c hc => ?_
  split
  · exact .ok Computer.missing_settled
  · exact .ok hc
  · exact hc.asFloat.bind fun x hx => .ok (.of (hx.map _))

theorem isNaNBuilder_settles : Builder.Settles m isNaNBuilder := by
  intro args type h
  exact .after _ fun x => .ok (.of (Source.present_settled _))

theorem floatFunction_settles {name description : String} {category : Category}
    {keywords : List String} (f : Float → Eval Float) :
    (floatFunction name category description keywords f).Settles m :=
  Function.settles_simple (Builder.ofNumber_settles f)

theorem arithmetic_settle : AllSettle m arithmetic := by
  refine .cons (Function.settles_simple (Builder.arithmetic_settles _ _)) ?_
  refine .cons (floatFunction_settles _) ?_
  refine .cons (Function.settles_simple (Builder.arithmetic_settles _ _)) ?_
  refine .cons (Function.settles_simple absoluteBuilder_settles) ?_
  refine .deciding (by decide) ?_
  refine .cons (floatFunction_settles _) (.cons (floatFunction_settles _) ?_)
  refine .cons (floatFunction_settles _) (.cons (floatFunction_settles _) ?_)
  refine .cons (Function.settles_simple (Builder.ofNumbers_settles _ _ _)) ?_
  refine .cons (floatFunction_settles _) ?_
  refine .cons (Function.settles_simple isNaNBuilder_settles) ?_
  exact .deciding (by decide) .nil

theorem summaries_settle : AllSettle m summaries := by
  have numbers {name description : String} {keywords : List String}
      (onIntegers : List Int64 → Int64) (onFloats : List Float → Float) :
      (summaryFunction name description keywords .integerIfAll
        (Builder.reduceNumbers onIntegers onFloats)).Settles m :=
    Function.settles_simple (Builder.reduceNumbers_settles onIntegers onFloats)
  have floats {name description : String} {keywords : List String} (k : Kind)
      (f : List Float → k.Carrier) :
      (summaryFunction name description keywords (.propagate k)
        (Builder.reduceFloats k f)).Settles m :=
    Function.settles_simple (Builder.reduceFloats_settles k f)
  refine .cons (numbers _ _) (.cons (numbers _ _) ?_)
  refine .cons (floats _ _) (.cons (floats _ _) (.cons (floats _ _) (.cons (floats _ _) ?_)))
  exact .cons (numbers _ _) (.cons (floats _ _) (.cons (floats _ _) .nil))

theorem trigonometry_settle : AllSettle m trigonometry := by
  have float {name description : String} (f : Float → Eval Float) :
      (angleFunction name description f).Settles m := floatFunction_settles f
  refine .cons (float _) (.cons (float _) (.cons (float _) (.cons (float _) (.cons (float _) ?_))))
  refine .cons (float _) (.cons (float _) (.cons (float _) ?_))
  refine .cons (Function.settles_simple (Builder.ofNumbers_settles _ _ _)) ?_
  refine .cons (float _) (.cons (float _) (.cons (float _) (.cons (float _) ?_)))
  exact .cons (float _) (.cons (float _) .nil)

theorem binomialBuilder_settles : Builder.Settles m binomialBuilder := by
  intro args type h
  refine .after _ fun n => .after _ fun r => ?_
  exact .ok (.of (Source.propagating_settled h _))

theorem distributionBuilder_settles (name : String) (deviation : Float)
    (density : Float → Float → Float → Float) :
    Builder.Settles m (distributionBuilder name deviation density) := by
  intro args type h
  refine (ensures_required h "x").bind fun input hinput => .after _ fun x => ?_
  refine .after _ fun mean => .after _ fun s => .ok (.of ?_)
  exact Source.propagating_settled (List.forall_mem_singleton.mpr hinput) _

theorem distributions_settle : AllSettle m distributions := by
  refine .cons (Function.settles_simple binomialBuilder_settles) ?_
  refine .cons (Function.settles_simple (distributionBuilder_settles _ _ _)) ?_
  exact .cons (Function.settles_simple (distributionBuilder_settles _ _ _)) .nil

/-! ### Strings -/

theorem padBuilder_settles (name : String) (side : Side) :
    Builder.Settles m (padBuilder name side) := by
  intro args type h
  refine (ensures_inputs h _).bind fun inputs hinputs => .after _ fun s => ?_
  refine .after _ fun length => .after _ fun fill => ?_
  exact .ok (.of (Source.propagating_settled hinputs _))

theorem joinBuilder_settles : Builder.Settles m joinBuilder := by
  intro args type h
  exact .after _ fun strings => .ok (.of (Source.propagating_settled h _))

theorem missingToEmptyBuilder_settles : Builder.Settles m missingToEmptyBuilder := by
  intro args type h
  exact .after _ fun s => .ok (.of (Source.present_settled _))

theorem toStringBuilder_settles : Builder.Settles m toStringBuilder := by
  intro args type h
  exact .after _ fun c => .ok (.of (Source.present_settled _))

theorem layout_settle : AllSettle m layout := by
  have text {name description : String} {keywords : List String} (f : List Char → List Char) :
      (textFunction name description keywords f).Settles m :=
    Function.settles_simple (Builder.ofText_settles f)
  refine .cons (text _) (.cons (text _) (.cons (text _) ?_))
  refine .cons (Function.settles_simple (padBuilder_settles _ _)) ?_
  refine .cons (Function.settles_simple (padBuilder_settles _ _)) ?_
  refine .cons (Function.settles_simple joinBuilder_settles) ?_
  exact .cons (text _) (.cons (text _) (.cons (text _) (.cons (text _) (.cons (text _) .nil))))

theorem conversions_settle : AllSettle m conversions := by
  refine .deciding (by decide) ?_
  refine .cons (Function.settles_simple missingToEmptyBuilder_settles) ?_
  refine .cons (Function.settles_simple toStringBuilder_settles) ?_
  exact .of_deciding (by decide)

theorem searchBuilder_settles (k : Kind)
    (f : List Char → List Char → Eval Text.Modifiers → Eval k.Carrier) :
    Builder.Settles m (searchBuilder k f) := by
  intro args type h
  refine (ensures_inputs h _).bind fun inputs hinputs => .after _ fun s => ?_
  refine .after _ fun search => .after _ fun modifiers => ?_
  exact .ok (.of (Source.propagating_settled hinputs _))

theorem compareBuilder_settles : Builder.Settles m compareBuilder := by
  intro args type h
  refine (ensures_inputs h _).bind fun inputs hinputs => ?_
  refine .after _ fun a => .after _ fun b => ?_
  exact .ok (.of (Source.propagating_settled hinputs _))

theorem matching_settle : AllSettle m matching := by
  have test {name description : String} (plain : List Char → List Char → Bool)
      (modified : Text.Modifiers → List Char → List Char → Bool) :
      (testFunction name description plain modified).Settles m :=
    Function.settles_simple (searchBuilder_settles _ _)
  refine .cons (test _ _) (.cons (test _ _) (.cons (test _ _) ?_))
  refine .cons (Function.settles_simple compareBuilder_settles) ?_
  exact .of_deciding (by decide)

theorem substringBuilder_settles : Builder.Settles m substringBuilder := by
  intro args type h
  refine (ensures_inputs h _).bind fun inputs hinputs => .after _ fun s => ?_
  refine .after _ fun start => .after _ fun length => ?_
  exact .ok (.of (Source.propagating_settled hinputs _))

theorem partFunction_settles {name description : String} (part : List Char → Nat → List Char) :
    (partFunction name description part).Settles m := by
  refine Function.settles_simple fun args type h => ?_
  refine (ensures_inputs h _).bind fun inputs hinputs => .after _ fun s => .after _ fun n => ?_
  exact .ok (.of (Source.propagating_settled hinputs _))

theorem lengthBuilder_settles : Builder.Settles m lengthBuilder := by
  intro args type h
  exact (ensures_source h "string" .string).bind fun s hs => .ok (.of (hs.map _))

theorem slicing_settle : AllSettle m slicing := by
  refine .cons (Function.settles_simple substringBuilder_settles) ?_
  refine .cons (partFunction_settles _) (.cons (partFunction_settles _) ?_)
  refine .cons (Function.settles_simple (searchBuilder_settles _ _)) ?_
  refine .cons (Function.settles_simple (searchBuilder_settles _ _)) ?_
  exact .cons (Function.settles_simple lengthBuilder_settles) .nil

theorem replaceBuilder_settles : Builder.Settles m replaceBuilder := by
  intro args type h
  refine (ensures_inputs h _).bind fun inputs hinputs => .after _ fun s => ?_
  refine .after _ fun search => .after _ fun replacement => .after _ fun modifiers => ?_
  exact .ok (.of (Source.propagating_settled hinputs _))

theorem replaceCharsBuilder_settles (replacement : Option String) :
    Builder.Settles m (replaceCharsBuilder replacement) := by
  intro args type h
  refine (ensures_inputs h _).bind fun inputs hinputs => .after _ fun s => ?_
  refine .after _ fun chars => .after _ fun partners => .after _ fun modifiers => ?_
  exact .ok (.of (Source.propagating_settled hinputs _))

theorem editing_settle : AllSettle m editing := by
  refine .cons (Function.settles_simple replaceBuilder_settles) ?_
  refine .cons (Function.settles_simple (replaceCharsBuilder_settles _)) ?_
  exact .cons (Function.settles_simple (replaceCharsBuilder_settles _)) .nil

/-! ### Dates, times and durations -/

theorem makeDateTimeBuilder_settles : Builder.Settles m makeDateTimeBuilder := by
  intro args type h
  refine .after _ fun date => .after _ fun time => ?_
  exact .ok (.of (Source.propagating_settled h _))

theorem makeDurationBuilder_settles : Builder.Settles m makeDurationBuilder := by
  intro args type h
  refine .after _ fun hours => .after _ fun minutes => ?_
  refine .after _ fun seconds => .after _ fun nanos => ?_
  exact .ok (.of (Source.propagating_settled h _))

theorem makePeriodBuilder_settles : Builder.Settles m makePeriodBuilder := by
  intro args type h
  refine .after _ fun years => .after _ fun months => .after _ fun days => ?_
  exact .ok (.of (Source.propagating_settled h _))

theorem making_settle : AllSettle m making := by
  refine .deciding (by decide) (.deciding (by decide) ?_)
  refine .cons (Function.settles_simple makeDateTimeBuilder_settles) ?_
  refine .deciding (by decide) ?_
  refine .cons (Function.settles_simple makeDurationBuilder_settles) ?_
  exact .cons (Function.settles_simple makePeriodBuilder_settles) .nil

theorem current_settle : AllSettle m current := by
  refine .cons (Function.settles_simple fun _ _ _ => .ok (.of (Source.present_settled _))) ?_
  exact .cons (Function.settles_simple fun _ _ _ => .ok (.of (Source.present_settled _))) .nil

theorem dateFieldFunction_settles {name description : String} (f : Date → Int) :
    (dateFieldFunction name description f).Settles m := by
  refine Function.settles_simple fun args type h => ?_
  refine (ensures_required h "temporal").bind fun c hc => ?_
  exact (Builder.ensures_dates hc).bind fun s hs => .ok (.of (hs.map _))

theorem timeFieldFunction_settles {name description : String} (f : TimeOfDay → Nat) :
    (timeFieldFunction name description f).Settles m := by
  refine Function.settles_simple fun args type h => ?_
  refine (ensures_required h "temporal").bind fun c hc => ?_
  exact (Builder.ensures_times hc).bind fun s hs => .ok (.of (hs.map _))

theorem unitFunction_settles {name description : String} (unit : Float) :
    (unitFunction name description unit).Settles m := by
  refine Function.settles_simple fun args type h => ?_
  exact (ensures_source h "duration" .timeDuration).bind fun d hd => .ok (.of (hd.map _))

theorem extraction_settle : AllSettle m extraction := by
  refine .cons (dateFieldFunction_settles _) (.cons (dateFieldFunction_settles _) ?_)
  refine .cons (dateFieldFunction_settles _) (.cons (timeFieldFunction_settles _) ?_)
  refine .cons (timeFieldFunction_settles _) (.cons (timeFieldFunction_settles _) ?_)
  refine .cons (timeFieldFunction_settles _) ?_
  refine .cons (Function.settles_simple fun args type h => ?_) ?_
  · refine (ensures_required h "temporal").bind fun c hc => ?_
    exact (Builder.ensures_dates hc).bind fun s hs => .ok (.of hs)
  refine .cons (Function.settles_simple fun args type h => ?_) ?_
  · refine (ensures_required h "temporal").bind fun c hc => ?_
    exact (Builder.ensures_times hc).bind fun s hs => .ok (.of hs)
  refine .cons (Function.settles_simple fun args type h => ?_) ?_
  · exact (ensures_source h "temporal" .zonedDateTime).bind fun z hz => .ok (.of (hz.map _))
  refine .cons (unitFunction_settles _) (.cons (unitFunction_settles _) ?_)
  exact .cons (unitFunction_settles _) .nil

theorem dateDistance_settles (k : Kind) (f : Date → Date → k.Carrier) :
    Builder.Settles m (dateDistance k f) := by
  intro args type h
  refine .after _ fun c => .after _ fun first => .after _ fun d => .after _ fun last => ?_
  exact .ok (.of (Source.propagating_settled h _))

theorem durationBetween_settled {c d : Computer} (hc : c.Settled m) (hd : d.Settled m) :
    (durationBetween c d).Settled m := by
  unfold durationBetween
  split
  · exact Source.Settled.either hc hd rfl
  · exact Source.Settled.either hc hd rfl
  · exact Source.Settled.either hc hd rfl
  · exact Source.missing_settled

theorem addDurationBuilder_settles : Builder.Settles m addDurationBuilder := by
  intro args type h
  refine (ensures_source h "duration" .timeDuration).bind fun d hd => ?_
  refine (ensures_required h "start").bind fun c hc => ?_
  split
  · exact .ok Computer.missing_settled
  · exact .ok (.of (Source.Settled.either hc hd rfl))
  · exact .ok (.of (Source.Settled.either hc hd rfl))
  · exact .ok (.of (Source.Settled.either hc hd rfl))
  · exact .error _

theorem addPeriodBuilder_settles : Builder.Settles m addPeriodBuilder := by
  intro args type h
  refine (ensures_source h "duration" .dateDuration).bind fun p hp => ?_
  refine (ensures_required h "start").bind fun c hc => ?_
  split
  · exact .ok Computer.missing_settled
  · exact .ok (.of (Source.Settled.either hc hp rfl))
  · exact .ok (.of (Source.Settled.either hc hp rfl))
  · exact .ok (.of (Source.Settled.either hc hp rfl))
  · exact .error _

theorem calendarArithmetic_settle : AllSettle m calendarArithmetic := by
  refine .cons (Function.settles_simple (dateDistance_settles _ _)) ?_
  refine .cons (Function.settles_simple (dateDistance_settles _ _)) ?_
  refine .cons (Function.settles_simple (dateDistance_settles _ _)) ?_
  refine .cons (Function.settles_simple (dateDistance_settles _ _)) ?_
  refine .cons (Function.settles_simple fun args type h => ?_) ?_
  · refine (ensures_required h "start").bind fun c hc => ?_
    exact (ensures_required h "end").bind fun d hd => .ok (.of (durationBetween_settled hc hd))
  refine .cons (Function.settles_simple addDurationBuilder_settles) ?_
  exact .cons (Function.settles_simple addPeriodBuilder_settles) .nil

/-! ### The library -/

/-- A built-in function is settled where its arguments are, unless it is one of those that compute
to find out. -/
theorem builtIn_settles {f : Function} (hf : f ∈ builtIns) (other : f.name ∉ decidingNames) :
    f.Settles m := by
  have decides (fs : List Function) (h : ∀ f ∈ fs, f.name ∈ decidingNames) : AllSettle m fs :=
    .of_deciding h
  have numbers : AllSettle m
      (control ++ arithmetic ++ rounding ++ summaries ++ trigonometry ++ distributions) :=
    .append (.append (.append (.append (.append (decides control (by decide)) arithmetic_settle)
      (decides rounding (by decide))) summaries_settle) trigonometry_settle) distributions_settle
  have strings : AllSettle m (layout ++ conversions ++ matching ++ slicing ++ editing) :=
    .append (.append (.append (.append layout_settle conversions_settle) matching_settle)
      slicing_settle) editing_settle
  have calendar : AllSettle m
      (making ++ current ++ extraction ++ parsing ++ formatting ++ calendarArithmetic) :=
    .append (.append (.append (.append (.append making_settle current_settle) extraction_settle)
      (decides parsing (by decide))) (decides formatting (by decide))) calendarArithmetic_settle
  have all : AllSettle m builtIns := by
    simpa only [builtIns, List.append_assoc] using (numbers.append strings).append calendar
  exact all f hf other

end Functions

end Rowwise
