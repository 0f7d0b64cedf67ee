import Rowwise.Proofs.Calendar.DurationArithmetic
import Rowwise.Proofs.Functions.Outcomes

/-!
# Arithmetic of durations in expressions

Sums, differences and opposites of durations are exact or out of range.  Products and durations that
are made of parts are so as well, except that what is computed on the way has to be in range too
(`Duration.product`, `Functions.sumOutcome`).  So `1 ns * n` has a limit which lies below that of
durations, and hours that are too many on their own are refused together with minutes that take some
of them back.
-/

namespace Rowwise

open Eval Duration Functions

/-! ## Operators -/

section Operators

variable {ctx : TypingContext} {host : Host} {m : Moment} {x y : Expr} {d e : Duration} {n : Int64}

/-- The failure of operators whose result is too large. -/
abbrev durationOutOfRange : RowFailure := .outOfRange (some .timeDuration)

theorem Expr.ends_addDuration (hx : x.Yields ctx host m .timeDuration d)
    (hy : y.Yields ctx host m .timeDuration e) (span : Span) :
    (Expr.binary { span } x .plus y).Ends ctx host m .timeDuration
      (exact durationOutOfRange (d.nanos + e.nanos)) :=
  hx.binary hy (fun _ _ => rfl)
    (fun _ _ hf hg => ⟨_, rfl, hf.ends_combine hg (answers_ofNanos? _ _)⟩) span

theorem Expr.ends_subDuration (hx : x.Yields ctx host m .timeDuration d)
    (hy : y.Yields ctx host m .timeDuration e) (span : Span) :
    (Expr.binary { span } x .minus y).Ends ctx host m .timeDuration
      (exact durationOutOfRange (d.nanos - e.nanos)) :=
  hx.binary hy (fun _ _ => rfl)
    (fun _ _ hf hg => ⟨_, rfl, hf.ends_combine hg (answers_ofNanos? _ _)⟩) span

theorem Expr.yields_negDuration (hx : x.Yields ctx host m .timeDuration d) (span : Span) :
    (Expr.unary { span } .minus x).Yields ctx host m .timeDuration d.neg :=
  hx.unary (fun _ => rfl) (fun _ hf => ⟨_, rfl, hf.ends_map Duration.neg⟩) span

theorem Expr.ends_mulDuration (hx : x.Yields ctx host m .timeDuration d)
    (hn : y.Yields ctx host m .integer n) (span : Span) :
    (Expr.binary { span } x .multiply y).Ends ctx host m .timeDuration
      (d.product n durationOutOfRange) :=
  hx.binary hn (fun _ _ => rfl)
    (fun _ _ hf hg => ⟨_, rfl, hf.ends_combine hg (answers_scale? d n _)⟩) span

/-- The factor may stand first. -/
theorem Expr.ends_mulDuration' (hx : x.Yields ctx host m .timeDuration d)
    (hn : y.Yields ctx host m .integer n) (span : Span) :
    (Expr.binary { span } y .multiply x).Ends ctx host m .timeDuration
      (d.product n durationOutOfRange) :=
  hn.binary hx (fun _ _ => rfl)
    (fun _ _ hg hf => ⟨_, rfl, hf.ends_combine hg (answers_scale? d n _)⟩) span

end Operators

/-! ## Durations of parts -/

namespace Functions

/-- The parameters of durations that are made of parts. -/
abbrev durationParams : List Param :=
  [calendarIntegerParam "hours", calendarIntegerParam "minutes", optionalIntegerParam "seconds",
    optionalIntegerParam "nanoseconds"]

theorem exists_makeTimeDuration : ∃ f, library.get? "make_time_duration" = some f ∧
    f.overloads = [⟨durationParams, .propagate .timeDuration, makeDurationBuilder⟩] :=
  ⟨_, library_get? (f := making[4]) (by simp [builtIns, making]), rfl⟩

section Parts

variable {ctx : TypingContext} {host : Host} {m : Moment} {args : List Expr} {values : List Int64}

/-- INTEGER arguments have sources that hold their values. -/
theorem exists_integerSources
    (yields : List.Forall₂ (fun e n => e.Yields ctx host m .integer n) args values) :
    ∃ (optionals : List Bool) (sources : List (Source Int64)),
      Expr.CompileAll ctx host args (optionals.map (.of .integer)) (sources.map .integer) ∧
        List.Forall₂ (fun s n => s.Holds m (some n)) sources values := by
  induction yields with
  | nil => exact ⟨[], [], .nil, .nil⟩
  | cons first _ ih =>
      obtain ⟨o, s, compiles, holds⟩ := first.exists_source
      obtain ⟨optionals, sources, all, each⟩ := ih
      exact ⟨o :: optionals, s :: sources, all.cons compiles, .cons holds each⟩

theorem isMissing_of_holds {sources : List (Source Int64)}
    (each : List.Forall₂ (fun s n => s.Holds m (some n)) sources values) :
    ∀ c ∈ sources.map Computer.integer, c.isMissing.Answers m (.ok false) := by
  induction each with
  | nil => exact fun _ h => absurd h List.not_mem_nil
  | cons first _ ih => exact List.forall_mem_cons.mpr ⟨first.isMissing, ih⟩

/-- A call with an INTEGER for each of the first parameters. -/
theorem compiles_makeTimeDuration (functions : ctx.functions = library) {given left : List Param}
    (split : durationParams = given ++ left) (optional : ∀ p ∈ left, p.arity = .optional none)
    {optionals : List Bool} {cs : List Computer} {s : Source Duration}
    (all : Expr.CompileAll ctx host args (optionals.map (.of .integer)) cs)
    (length : given.length = optionals.length)
    (built : ∀ t, makeDurationBuilder (.each (given.map Param.name) cs) t =
      .ok (.of .timeDuration s)) (span : Span) :
    ∃ o, (Expr.callOf span "make_time_duration" args).Compiles ctx host (.of .timeDuration o)
      (.of .timeDuration s) := by
  obtain ⟨f, found, only⟩ := exists_makeTimeDuration
  rw [← functions] at found
  rw [split] at only
  have members : ∀ p ∈ given, p ∈ durationParams := fun p hp =>
    split ▸ List.mem_append_left left hp
  have integers : ∀ p ∈ durationParams, p.isVariadic = false ∧
      p.matcher = .kindOrMissing .integer := by
    simp [durationParams, calendarIntegerParam, optionalIntegerParam, Param.required,
      Param.optional, Param.isVariadic]
  have distinct : (given.map Param.name).Nodup := by
    have all : (durationParams.map Param.name).Nodup := by decide
    rw [split, List.map_append] at all
    exact all.of_append_left
  refine ⟨_, Expr.compiles_callOf found only (fun p hp => (integers p (members p hp)).1) optional
    distinct all ?_ rfl (built _) span⟩
  refine List.forall₂_iff_get.mpr ⟨by rw [length, List.length_map], fun i hi _ => ?_⟩
  rw [(integers _ (members _ (List.get_mem given ⟨i, hi⟩))).2, List.get_eq_getElem,
    List.getElem_map]
  rfl

theorem answers_integerOrZero {s : Source Int64} {n : Int64} (h : s.Holds m (some n)) :
    (Builder.integerOrZero (some s)).Answers m (.ok n) := h.value?.bind (answers_pure n)

/-- A call with two to four arguments sums their values; what is not given is zero. -/
theorem ends_makeTimeDuration (functions : ctx.functions = library)
    (yields : List.Forall₂ (fun e n => e.Yields ctx host m .integer n) args values)
    (least : 2 ≤ args.length) (most : args.length ≤ 4) (span : Span) :
    (Expr.callOf span "make_time_duration" args).Ends ctx host m .timeDuration
      (sumOutcome (values.getD 0 0) (values.getD 1 0) (values.getD 2 0) (values.getD 3 0)) := by
  obtain ⟨optionals, sources, all, each⟩ := exists_integerSources yields
  have there := isMissing_of_holds each
  have length := yields.length_eq
  have count : optionals.length = args.length := by
    simpa using (congrArg List.length all.typed).symm
  rw [length] at least most count
  have optional : ∀ p ∈ durationParams.drop 2, p.arity = .optional none := by
    simp [durationParams, optionalIntegerParam, Param.optional]
  have split (k : ℕ) : durationParams = durationParams.take k ++ durationParams.drop k :=
    (List.take_append_drop k durationParams).symm
  -- The bounds leave two, three and four arguments.
  rcases each with _ | ⟨hours, _ | ⟨minutes, _ | ⟨seconds, _ | ⟨nanos, _ | _⟩⟩⟩⟩
  case cons.cons.nil =>
    obtain ⟨o, compiles⟩ := compiles_makeTimeDuration functions (split 2) optional all count.symm
      (fun _ => rfl) span
    refine ⟨o, _, compiles,
      Source.ends_propagating there (hours.compute.bind (minutes.compute.bind ?_))⟩
    exact (answers_pure 0).bind ((answers_pure 0).bind (answers_sumOfParts _ _ 0 0))
  case cons.cons.cons.nil =>
    obtain ⟨o, compiles⟩ := compiles_makeTimeDuration functions (split 3)
      (fun p hp => optional p (List.mem_of_mem_drop (i := 1) hp)) all count.symm (fun _ => rfl) span
    refine ⟨o, _, compiles,
      Source.ends_propagating there (hours.compute.bind (minutes.compute.bind ?_))⟩
    exact (answers_integerOrZero seconds).bind
      ((answers_pure 0).bind (answers_sumOfParts _ _ _ 0))
  case cons.cons.cons.cons.nil =>
    obtain ⟨o, compiles⟩ := compiles_makeTimeDuration functions (split 4)
      (fun p hp => absurd hp List.not_mem_nil) all count.symm (fun _ => rfl) span
    refine ⟨o, _, compiles,
      Source.ends_propagating there (hours.compute.bind (minutes.compute.bind ?_))⟩
    exact (answers_integerOrZero seconds).bind
      ((answers_integerOrZero nanos).bind (answers_sumOfParts _ _ _ _))
  all_goals
    simp only [List.length_nil, List.length_cons] at least most
    omega

end Parts

/-- Sums, differences and opposites of durations are exact or out of range.  Products and durations
of parts may also be refused for what is computed on the way; this does not happen if the factor is
not very large, and if all parts have one sign. -/
theorem durations_exact_or_refused {ctx : TypingContext} (functions : ctx.functions = library)
    (host : Host) (m : Moment) (span : Span) :
    (∀ x y d e, x.Yields ctx host m .timeDuration d → y.Yields ctx host m .timeDuration e →
      (Expr.binary { span } x .plus y).Ends ctx host m .timeDuration
          (exact durationOutOfRange (d.nanos + e.nanos)) ∧
        (Expr.binary { span } x .minus y).Ends ctx host m .timeDuration
          (exact durationOutOfRange (d.nanos - e.nanos)) ∧
        (Expr.unary { span } .minus x).Ends ctx host m .timeDuration
          (exact durationOutOfRange (-d.nanos))) ∧
      (∀ x y d n, x.Yields ctx host m .timeDuration d → y.Yields ctx host m .integer n →
        (Expr.binary { span } x .multiply y).Ends ctx host m .timeDuration
            (d.product n durationOutOfRange) ∧
          (Expr.binary { span } y .multiply x).Ends ctx host m .timeDuration
            (d.product n durationOutOfRange)) ∧
      (∀ (d : Duration) (n : Int64), n.toInt.natAbs ≤ 9223372036 →
        d.product n durationOutOfRange = exact durationOutOfRange (d.nanos * n.toInt)) ∧
      (∀ args values,
        List.Forall₂ (fun e n => Expr.Yields ctx host m e .integer n) args values →
        2 ≤ args.length → args.length ≤ 4 →
          (Expr.callOf span "make_time_duration" args).Ends ctx host m .timeDuration
            (sumOutcome (values.getD 0 0) (values.getD 1 0) (values.getD 2 0) (values.getD 3 0))) ∧
      ∀ hours minutes seconds nanos : Int64, SameSign hours minutes seconds nanos →
        sumOutcome hours minutes seconds nanos =
          exact .durationTooLarge (nanosOfParts hours minutes seconds nanos) := by
  refine ⟨fun x y d e hx hy => ?_, fun x y d n hx hn => ?_, fun d n small => ?_,
    fun args values yields least most => ?_, fun _ _ _ _ sign => sumOutcome_of_sign sign⟩
  · have opposite : exact durationOutOfRange (-d.nanos) = .ok d.neg :=
      exact_of_within d.neg.bounded
    rw [opposite]
    exact ⟨Expr.ends_addDuration hx hy span, Expr.ends_subDuration hx hy span,
      Expr.yields_negDuration hx span⟩
  · exact ⟨Expr.ends_mulDuration hx hn span, Expr.ends_mulDuration' hx hn span⟩
  · exact d.product_of_small small _
  · exact ends_makeTimeDuration functions yields least most span

end Functions

namespace Sample

theorem agoVariable_yields : agoVariable.Yields amounts amountHost ⟨0, default⟩ .timeDuration ago :=
  ⟨false, _, ⟨rfl, rfl⟩, Source.ends_ok_iff.mpr (Source.constant_holds ago)⟩

/-- Literals for the parts of a duration. -/
def literals (parts : List Int64) : List Expr := parts.map fun n => .constant {} (.integer n)

/-- `make_time_duration` of literals. -/
def durationOf (parts : List Int64) : Expr := .callOf {} "make_time_duration" (literals parts)

theorem yields_literals (parts : List Int64) :
    List.Forall₂ (fun e n => Expr.Yields amounts amountHost ⟨0, default⟩ e .integer n)
      (literals parts) parts := by
  induction parts with
  | nil => exact .nil
  | cons n parts ih => exact .cons (Expr.yields_integer n {}) ih

/-- Twice and three times a minute and a half, and an hour and a half. -/
theorem durations_computed :
    (Expr.binary {} agoVariable .plus agoVariable).Yields amounts amountHost ⟨0, default⟩
        .timeDuration ⟨-180_000_000_000, by decide⟩ ∧
      (Expr.binary {} agoVariable .multiply (.constant {} (.integer 3))).Yields amounts amountHost
        ⟨0, default⟩ .timeDuration ⟨-270_000_000_000, by decide⟩ ∧
      (durationOf [1, 30]).Yields amounts amountHost ⟨0, default⟩ .timeDuration
        ⟨5_400_000_000_000, by decide⟩ := by
  have functions : amounts.functions = Functions.library := rfl
  obtain ⟨sums, products, small, parts, sign⟩ :=
    Functions.durations_exact_or_refused functions amountHost ⟨0, default⟩ {}
  obtain ⟨sum, _, _⟩ := sums _ _ _ _ agoVariable_yields agoVariable_yields
  obtain ⟨product, _⟩ := products _ _ _ 3 agoVariable_yields (Expr.yields_integer 3 {})
  have made := parts _ _ (yields_literals [1, 30]) (by decide) (by decide)
  rw [small _ _ (by decide), exact_of_within (by decide)] at product
  rw [sign _ _ _ _ (.inl (by decide)), exact_of_within (by decide)] at made
  rw [exact_of_within (by decide)] at sum
  exact ⟨sum, product, made⟩

/-- A multiple and a sum that are durations, and yet are refused. -/
theorem durations_refused :
    (∃ d : Duration, d.nanos = 999_999_999 * 10_000_000_000 ∧
      (Expr.binary {} (durationOf [0, 0, 0, 999_999_999]) .multiply
        (.constant {} (.integer 10_000_000_000))).Ends amounts amountHost ⟨0, default⟩ .timeDuration
          (.error (.failure durationOutOfRange))) ∧
      ∃ d : Duration, d.nanos = Functions.nanosOfParts 2_562_047_788_016 (-60) 0 0 ∧
        (durationOf [2_562_047_788_016, -60]).Ends amounts amountHost ⟨0, default⟩ .timeDuration
          (.error (.failure .durationTooLarge)) := by
  have functions : amounts.functions = Functions.library := rfl
  refine ⟨⟨⟨_, by decide⟩, rfl, ?_⟩, ⟨_, by decide⟩, rfl, ?_⟩
  · have made : (durationOf [0, 0, 0, 999_999_999]).Yields amounts amountHost ⟨0, default⟩
        .timeDuration ⟨999_999_999, by decide⟩ := by
      have ends := Functions.ends_makeTimeDuration functions
        (yields_literals [0, 0, 0, 999_999_999]) (by decide) (by decide) {}
      rwa [Functions.sumOutcome_of_sign (.inl (by decide)), exact_of_within (by decide)] at ends
    have ends := Expr.ends_mulDuration made (Expr.yields_integer 10_000_000_000 {}) {}
    rwa [product, if_neg (by decide)] at ends
  · have ends := Functions.ends_makeTimeDuration functions
      (yields_literals [2_562_047_788_016, -60]) (by decide) (by decide) {}
    rwa [Functions.sumOutcome, if_neg (by decide)] at ends

end Sample

end Rowwise
