import Rowwise.Proofs.Functions.Arguments
import Rowwise.Functions.Rounding
import Rowwise.Functions.Summary
import Rowwise.Functions.Trigonometry
import Rowwise.Functions.Distribution

/-!
# Functions of numbers are sound

Each shape of builder is sound for the signatures and type rules that it is used with, whatever
the operation computes, provided that the operation ends with a value or a failure that lies in
the row.  The functions of the library are instances.

Rounding is the exception.  A function that finds no whole number near NaN is sound where its
argument is not NaN: `Builder.ofNumber?_sound`.
-/

namespace Rowwise

open Eval Functions

variable {R : Regime} {params : List Param} {m : Moment}

/-- On the rows of the regime, no number that the computer gives as a float is NaN. -/
def Computer.AvoidsNaN (R : Regime) (c : Computer) : Prop :=
  ∀ s, c.asFloat = .ok s → ∀ m, R.rows m → ∀ x, s.compute.Answers m (.ok x) → x.isNaN = false

/-- At the moment, the computer has a number, and that is NaN. -/
def Computer.IsNaN (m : Moment) (c : Computer) : Prop :=
  c.isMissing.Answers m (.ok false) ∧
    ∃ s x, c.asFloat = .ok s ∧ s.compute.Answers m (.ok x) ∧ x.isNaN = true

/-- The function is sound where its argument `x` is not NaN, or its result need not be there.  The
result is not there where it should be an INTEGER and `x` is NaN. -/
structure Function.SoundOnNumbers (R : Regime) (f : Function) : Prop where
  sound : ∀ o ∈ f.overloads, ∀ args t given, o.Applied R args t given →
    (t = .required .integer → ∀ c u, given.get? "x" = some (c, u) → c.AvoidsNaN R) →
    ∃ c, o.build (given.map (·.1)) t = .ok c ∧ c.Fits R t
  misses : ∀ o ∈ f.overloads, ∀ args given, o.Applied R args (.required .integer) given →
    ∀ m c u, given.get? "x" = some (c, u) → c.IsNaN m →
    ∃ d, o.build (given.map (·.1)) (.required .integer) = .ok d ∧ d.value.Answers m (.ok .missing)

/-- From accepted arguments that are not NaN, a builder gets to a computer of the type that the
rule gives, and from NaN to no INTEGER. -/
structure Builder.SoundOnNumbers (R : Regime) (params : List Param) (rule : TypeRule)
    (build : Builder) : Prop where
  sound : ∀ t (given : Arguments (Computer × ValueType)), given.Accepted R params →
    rule (given.map (·.2)) = .ok t →
    (t = .required .integer → ∀ c u, given.get? "x" = some (c, u) → c.AvoidsNaN R) →
    ∃ c, build (given.map (·.1)) t = .ok c ∧ c.Fits R t
  misses : ∀ (given : Arguments (Computer × ValueType)), given.Accepted R params →
    rule (given.map (·.2)) = .ok (.required .integer) →
    ∀ m c u, given.get? "x" = some (c, u) → c.IsNaN m →
    ∃ d, build (given.map (·.1)) (.required .integer) = .ok d ∧ d.value.Answers m (.ok .missing)

/-- A function with one overload is sound on numbers if its builder is. -/
theorem Function.soundOnNumbers_simple {name description : String} {category : Category}
    {keywords : List String} {params : List Param} {rule : TypeRule} {build : Builder}
    (distinct : (params.map (·.name)).Nodup) (h : build.SoundOnNumbers R params rule) :
    (Function.simple name category description keywords params rule build).SoundOnNumbers R where
  sound o ho args t given applied number := by
    obtain rfl := List.mem_singleton.mp ho
    obtain ⟨accepted, hrule⟩ := applied.accepted distinct
    exact h.sound t given accepted hrule number
  misses o ho args given applied m c u bound nan := by
    obtain rfl := List.mem_singleton.mp ho
    obtain ⟨accepted, hrule⟩ := applied.accepted distinct
    exact h.misses given accepted hrule m c u bound nan

namespace Builder

/-! ## Shapes -/

theorem ofNumber_sound {f : Float → Eval Float} (hx : numberParam "x" ∈ params)
    (hf : ∀ m x, (f x).Regular R m) : (ofNumber f).Sound R params (.propagate .float) := by
  intro t given accepted rule
  cases rule
  obtain ⟨c, u, s, hs, reads⟩ := accepted.readsFloat "x" hx
  refine ⟨.float (s.tryMap f), ?_, .of ((Source.tryMap_fits reads.reads hf).weaken ?_)⟩
  · rw [ofNumber, reads.floatSource hs]
    rfl
  · exact Arguments.anyOptional_of_mem_all (Arguments.mem_types_of_get? reads.bound)

theorem ofNumbers_sound {first second : String} {f : Float → Float → Eval Float}
    (h₁ : numberParam first ∈ params) (h₂ : numberParam second ∈ params)
    (hf : ∀ m x y, (f x y).Regular R m) :
    (ofNumbers first second f).Sound R params (.propagate .float) := by
  intro t given accepted rule
  cases rule
  obtain ⟨c, u, a, ha, reads_a⟩ := accepted.readsFloat first h₁
  obtain ⟨d, v, b, hb, reads_b⟩ := accepted.readsFloat second h₂
  refine ⟨.float (Source.propagating (given.map (·.1)).values do f (← a.compute) (← b.compute)),
    ?_, accepted.propagating_fits fun m hm present => ?_⟩
  · rw [ofNumbers, reads_a.floatSource ha, reads_b.floatSource hb]
    rfl
  · refine (reads_a.compute_regular hm (present _ reads_a.mem_values)).andThen fun x => ?_
    exact (reads_b.compute_regular hm (present _ reads_b.mem_values)).andThen fun y => hf m x y

/-- Whether all arguments are integers. -/
theorem isInteger_of_all {types : Arguments ValueType} (h : types.allInteger = true) :
    ∀ t ∈ types.values, t.base = some .integer := by
  simpa [Arguments.allInteger] using h

theorem arithmetic_sound {onIntegers : Eval Int64 → Eval Int64 → Eval Int64}
    {onFloats : Eval Float → Eval Float → Eval Float}
    (hx : numberParam "x" ∈ params) (hy : numberParam "y" ∈ params)
    (hi : ∀ m x y, x.Regular R m → y.Regular R m → (onIntegers x y).Regular R m)
    (hf : ∀ m x y, x.Regular R m → y.Regular R m → (onFloats x y).Regular R m) :
    (arithmetic onIntegers onFloats).Sound R params .integerIfAll := by
  intro t given accepted rule
  cases rule
  by_cases all : (given.map (·.2)).allInteger = true
  · have integer : ∀ {name c u}, given.get? name = some (c, u) → u.base = some .integer := by
      intro name c u bound
      exact isInteger_of_all all u (Arguments.mem_values_of_mem_all (Arguments.mem_types_of_get? bound))
    obtain ⟨c, u, bound_x, fits_x, _⟩ := accepted.required "x" hx
    obtain ⟨d, v, bound_y, fits_y, _⟩ := accepted.required "y" hy
    obtain ⟨x, hx', fx⟩ := fits_x.as_ok (.inl (integer bound_x))
    obtain ⟨y, hy', fy⟩ := fits_y.as_ok (.inl (integer bound_y))
    have reads_x : given.Reads R "x" c u x := ⟨bound_x, fits_x, fx, Computer.isMissing_of_as hx'⟩
    have reads_y : given.Reads R "y" d v y := ⟨bound_y, fits_y, fy, Computer.isMissing_of_as hy'⟩
    rw [if_pos all]
    refine ⟨.integer (Source.propagating (given.map (·.1)).values (onIntegers x.compute y.compute)),
      ?_, accepted.propagating_fits fun m hm present => ?_⟩
    · rw [arithmetic, reads_x.source hx', reads_y.source hy']
      rfl
    · exact hi m _ _ (reads_x.compute_regular hm (present _ reads_x.mem_values))
        (reads_y.compute_regular hm (present _ reads_y.mem_values))
  · obtain ⟨c, u, x, hx', reads_x⟩ := accepted.readsFloat "x" hx
    obtain ⟨d, v, y, hy', reads_y⟩ := accepted.readsFloat "y" hy
    rw [if_neg all]
    refine ⟨.float (Source.propagating (given.map (·.1)).values (onFloats x.compute y.compute)),
      ?_, accepted.propagating_fits fun m hm present => ?_⟩
    · rw [arithmetic, reads_x.floatSource hx', reads_y.floatSource hy']
      rfl
    · exact hf m _ _ (reads_x.compute_regular hm (present _ reads_x.mem_values))
        (reads_y.compute_regular hm (present _ reads_y.mem_values))

theorem reduceFloats_sound {k : Kind} {f : List Float → k.Carrier}
    (numeric : ∀ p ∈ params, ∀ t, p.Admits t → t.isNumeric = true ∨ t = .missing) :
    (reduceFloats k f).Sound R params (.propagate k) := by
  intro t given accepted rule
  cases rule
  have views : ∀ g ∈ given.values, ∃ s, g.1.asFloat = .ok s ∧ s.Fits R g.2.isOptional ∧
      s.isMissing = g.1.isMissing := by
    intro g hg
    obtain ⟨p, hp, admits⟩ := accepted.admits hg
    obtain ⟨s, hs, reads⟩ := (accepted.fits g hg).asFloat_ok (numeric p hp _ admits)
    exact ⟨s, hs, reads, Computer.isMissing_of_asFloat hs⟩
  obtain ⟨sources, hsources, computes⟩ := Source.views_ok views
  refine ⟨.of k (Source.propagating (given.map (·.1)).values do pure (f (← computeAll sources))),
    ?_, accepted.propagating_fits fun m hm present => ?_⟩
  · rw [reduceFloats, Arguments.values_map, hsources]
    rfl
  · exact (computes m hm present).andThen fun _ => regular_pure _

theorem reduceNumbers_sound {onIntegers : List Int64 → Int64} {onFloats : List Float → Float}
    (numeric : ∀ p ∈ params, ∀ t, p.Admits t → t.isNumeric = true ∨ t = .missing) :
    (reduceNumbers onIntegers onFloats).Sound R params .integerIfAll := by
  intro t given accepted rule
  cases rule
  by_cases all : (given.map (·.2)).allInteger = true
  · have views : ∀ g ∈ given.values, ∃ s, g.1.as .integer = .ok s ∧ s.Fits R g.2.isOptional ∧
        s.isMissing = g.1.isMissing := by
      intro g hg
      have integer := isInteger_of_all all g.2 (by
        rw [Arguments.values_map]
        exact List.mem_map_of_mem hg)
      obtain ⟨s, hs, reads⟩ := (accepted.fits g hg).as_ok (.inl integer)
      exact ⟨s, hs, reads, Computer.isMissing_of_as hs⟩
    obtain ⟨sources, hsources, computes⟩ := Source.views_ok views
    rw [if_pos all]
    refine ⟨.integer (Source.propagating (given.map (·.1)).values do
      pure (onIntegers (← computeAll sources))), ?_, accepted.propagating_fits fun m hm present => ?_⟩
    · rw [reduceNumbers, Arguments.values_map, hsources]
      rfl
    · exact (computes m hm present).andThen fun _ => regular_pure _
  · rw [if_neg all]
    obtain ⟨c, hc, fits⟩ := reduceFloats_sound (k := .float) (f := onFloats) numeric _ given accepted rfl
    refine ⟨c, ?_, fits⟩
    rw [← hc]
    rfl

/-! ## Whole numbers -/

/-- A function that finds a whole number for every number but NaN is sound for an optional type, and
for a required one where its argument is not NaN. -/
theorem ofNumber?_sound {f : Float → Eval (Option Int64)} {o : Bool} (t : ValueType)
    {given : Arguments (Computer × ValueType)} (accepted : given.Accepted R params)
    (hx : numberParam "x" ∈ params) (hf : ∀ m x, (f x).Regular R m)
    (found : ∀ m x, (f x).Answers m (.ok none) → x.isNaN = true)
    (optional : ∀ u ∈ (given.map (·.2)).all "x", u.isOptional = true → o = true)
    (number : o = false → ∀ c u, given.get? "x" = some (c, u) → c.AvoidsNaN R) :
    ∃ c, ofNumber? f (given.map (·.1)) t = .ok c ∧ c.Fits R (.of .integer o) := by
  obtain ⟨c, u, s, hs, reads⟩ := accepted.readsFloat "x" hx
  refine ⟨.integer (Source.partialOver [c] do f (← s.compute)), ?_, ?_⟩
  · rw [ofNumber?, reads.computer]
    simp only [Except.ok_bind, hs]
    rfl
  · refine .of (Source.partialOver_fits [(c, u)] (by simpa using reads.fits)
      (by simpa using optional u (Arguments.mem_types_of_get? reads.bound)) fun m hm present => ?_)
    have computed := reads.compute_regular hm (present _ (.head _))
    refine ⟨computed.andThen fun x => hf m x, ?_⟩
    cases o with
    | true => exact .inl rfl
    | false =>
        refine .inr fun nothing => ?_
        obtain ⟨x, hx⟩ | ⟨e, _, he⟩ := computed
        · have none : (f x).Answers m (.ok none) := by
            obtain ⟨r, hr⟩ | ⟨e, _, he⟩ := hf m x
            · cases (hx.bind hr).unique nothing
              exact hr
            · exact absurd ((hx.bind he).unique nothing) (by simp)
          have := number rfl c u reads.bound s hs m hm x hx
          rw [found m x none] at this
          cases this
        · exact absurd ((he.bind_error _).unique nothing) (by simp)

/-- A function that finds no whole number near NaN is missing where its argument is NaN. -/
theorem ofNumber?_misses {f : Float → Eval (Option Int64)} (t : ValueType)
    {given : Arguments (Computer × ValueType)} {c : Computer} {u : ValueType}
    (hf : ∀ m x, x.isNaN = true → (f x).Answers m (.ok none))
    (bound : given.get? "x" = some (c, u)) (nan : c.IsNaN m) :
    ∃ d, ofNumber? f (given.map (·.1)) t = .ok d ∧ d.value.Answers m (.ok .missing) := by
  obtain ⟨there, s, x, hs, hx, isNaN⟩ := nan
  refine ⟨.integer (Source.partialOver [c] do f (← s.compute)), ?_, ?_⟩
  · rw [ofNumber?, Arguments.required_of_get? bound]
    simp only [Except.ok_bind, hs]
    rfl
  · have asked : (Computer.anyMissing [c]).Answers m (.ok false) := there.bind (answers_pure false)
    have nothing : (do f (← s.compute)).Answers m (.ok none) := hx.bind (hf m x isNaN)
    have gone : (Source.partialOver [c] do f (← s.compute)).isMissing.Answers m (.ok true) :=
      asked.bind (nothing.bind (answers_pure true))
    exact gone.bind (answers_pure _)

end Builder

namespace Functions

/-! ## Operations that end with a value or a failure -/

theorem integerPower_regular (x y : Int64) : (integerPower x y).Regular R m := by
  unfold integerPower
  refine Regular.ite (fun _ => (regular_warn _).andThen fun _ => regular_pure _) fun _ => ?_
  refine Regular.ite (fun _ => regular_pure _) fun _ => ?_
  refine Regular.ite (fun _ => regular_pure _) fun _ => ?_
  exact Regular.ite (fun _ => regular_pure _) fun _ => regular_fail _

theorem floatPower_regular (x y : Float) : (floatPower x y).Regular R m := by
  unfold floatPower
  exact Regular.ite (fun _ => (regular_warn _).andThen fun _ => regular_pure _) fun _ =>
    regular_pure _

theorem integerModulo_regular {x y : Eval Int64} (hx : x.Regular R m) (hy : y.Regular R m) :
    (integerModulo x y).Regular R m := by
  refine hy.andThen fun b => ?_
  exact Regular.ite (fun _ => (regular_warn _).andThen fun _ => regular_pure _) fun _ =>
    hx.andThen fun _ => regular_pure _

theorem floatModulo_regular {x y : Eval Float} (hx : x.Regular R m) (hy : y.Regular R m) :
    (floatModulo x y).Regular R m := by
  refine hy.andThen fun b => ?_
  exact Regular.ite (fun _ => (regular_warn _).andThen fun _ => regular_pure _) fun _ =>
    hx.andThen fun _ => regular_pure _

theorem squareRoot_regular (x : Float) : (squareRoot x).Regular R m := by
  unfold squareRoot
  exact Regular.ite (fun _ => (regular_warnResult ..).andThen fun _ => regular_pure _) fun _ =>
    regular_pure _

theorem logarithm_regular (name : String) (log : Float → Float) (x : Float) :
    (logarithm name log x).Regular R m := by
  unfold logarithm
  refine Regular.ite (fun _ => (regular_warnResult ..).andThen fun _ => regular_pure _) fun _ => ?_
  exact Regular.ite (fun _ => (regular_warnResult ..).andThen fun _ => regular_pure _) fun _ =>
    regular_pure _

theorem logarithmTo_regular (x base : Float) : (logarithmTo x base).Regular R m := by
  unfold logarithmTo
  split
  · exact (regular_warnResult ..).andThen fun _ => regular_pure _
  · exact Regular.ite (fun _ => (regular_warnResult ..).andThen fun _ => regular_pure _) fun _ =>
      regular_pure _

theorem logarithmOfSuccessor_regular (x : Float) : (logarithmOfSuccessor x).Regular R m := by
  unfold logarithmOfSuccessor
  refine Regular.ite (fun _ => (regular_warnResult ..).andThen fun _ => regular_pure _) fun _ => ?_
  exact Regular.ite (fun _ => (regular_warnResult ..).andThen fun _ => regular_pure _) fun _ =>
    regular_pure _

theorem arcus_regular (name reason : String) (f : Float → Float) (x : Float) :
    (arcus name reason f x).Regular R m := by
  unfold arcus
  exact Regular.ite (fun _ => (regular_warnResult ..).andThen fun _ => regular_pure _) fun _ =>
    regular_pure _

theorem angle_regular (y x : Float) : (angle y x).Regular R m := by
  unfold angle
  exact Regular.ite (fun _ => (regular_warn _).andThen fun _ => regular_pure _) fun _ =>
    regular_pure _

theorem hyperbolicArccosine_regular (x : Float) : (hyperbolicArccosine x).Regular R m := by
  unfold hyperbolicArccosine
  exact Regular.ite (fun _ => (regular_warnResult ..).andThen fun _ => regular_pure _) fun _ =>
    regular_pure _

theorem hyperbolicArctangent_regular (x : Float) : (hyperbolicArctangent x).Regular R m := by
  unfold hyperbolicArctangent
  refine Regular.ite (fun _ => (regular_warnResult ..).andThen fun _ => regular_pure _) fun _ => ?_
  exact Regular.ite (fun _ => (regular_warnResult ..).andThen fun _ => regular_pure _) fun _ =>
    regular_pure _

theorem binomial_regular (n r : Int64) : (binomial n r).Regular R m := by
  unfold binomial
  split
  · exact (regular_warnResult ..).andThen fun _ => regular_pure _
  · exact regular_pure _

theorem signOf_regular (x : Float) : (signOf x).Regular R m := by
  unfold signOf
  exact Regular.ite (fun _ => (regular_warnResult ..).andThen fun _ => regular_pure _) fun _ =>
    regular_pure _

theorem toWhole_regular (name : String) (f : Float → Float) (x : Float) :
    (toWhole name f x).Regular R m := by
  unfold toWhole
  exact Regular.ite (fun _ => (regular_warnResult ..).andThen fun _ => regular_pure _) fun _ =>
    regular_pure _

/-- Only NaN has no sign. -/
theorem isNaN_of_signOf {x : Float} (h : (signOf x).Answers m (.ok none)) : x.isNaN = true := by
  by_cases hx : x.isNaN = true
  · exact hx
  · unfold signOf at h
    rw [if_neg hx] at h
    cases (answers_pure _).unique h

/-- Only NaN has no whole number near it. -/
theorem isNaN_of_toWhole {name : String} {f : Float → Float} {x : Float}
    (h : (toWhole name f x).Answers m (.ok none)) : x.isNaN = true := by
  by_cases hx : x.isNaN = true
  · exact hx
  · unfold toWhole at h
    rw [if_neg hx] at h
    cases (answers_pure _).unique h

theorem signOf_answers_none (m : Moment) {x : Float} (h : x.isNaN = true) :
    (signOf x).Answers m (.ok none) := by
  unfold signOf
  rw [if_pos h]
  exact (answers_warn _).bind (answers_pure _)

theorem toWhole_answers_none (name : String) (f : Float → Float) (m : Moment) {x : Float}
    (h : x.isNaN = true) : (toWhole name f x).Answers m (.ok none) := by
  unfold toWhole
  rw [if_pos h]
  exact (answers_warn _).bind (answers_pure _)

/-! ## Single functions -/

theorem absoluteBuilder_sound : absoluteBuilder.Sound R [numberParam "x"] typeOfX := by
  intro t given accepted rule
  obtain ⟨c, u, bound, fits, accepts⟩ := accepted.required "x" (.head _)
  unfold typeOfX at rule
  rw [Arguments.get?_map, bound] at rule
  cases rule
  have computer := Arguments.required_of_get? bound
  unfold absoluteBuilder
  rw [computer]
  cases fits with
  | missing => exact ⟨_, rfl, .missing⟩
  | @of k s o source =>
      obtain h | h := Matcher.numericOrMissing_accepts accepts
      · cases k <;> simp [ValueType.isNumeric, ValueType.kindSatisfies, Kind.isNumeric] at h
        · exact ⟨_, rfl, .of (Source.map_fits source _)⟩
        · exact ⟨_, rfl, .of (Source.map_fits source _)⟩
      · cases h

theorem isNaNBuilder_sound :
    isNaNBuilder.Sound R [.required "x" (.kindOrMissing .float)] (.exactly (.required .boolean)) := by
  intro t given accepted rule
  cases rule
  obtain ⟨c, u, s, hs, reads⟩ := accepted.readsFloatOnly "x" (.head _)
  refine ⟨.boolean (Source.present do
    if ← s.isMissing then pure false else do pure (← s.compute).isNaN), ?_, ?_⟩
  · rw [isNaNBuilder, reads.floatSource hs]
    rfl
  · refine .of (Source.present_fits fun m hm => ?_)
    refine (reads.reads m hm).isMissing_regular.bind fun gone hgone => ?_
    cases gone with
    | true => exact regular_pure _
    | false => exact ((reads.reads m hm).compute_regular hgone).andThen fun _ => regular_pure _

theorem nanToMissingBuilder_sound :
    nanToMissingBuilder.Sound R [.required "x" (.kindOrMissing .float)]
      (.exactly (.optionalOf .float)) := by
  intro t given accepted rule
  cases rule
  obtain ⟨c, u, s, hs, reads⟩ := accepted.readsFloatOnly "x" (.head _)
  refine ⟨.float (Source.partialOver [c] do
    let x ← s.compute
    pure (if x.isNaN then none else some x)), ?_, ?_⟩
  · rw [nanToMissingBuilder, reads.computer]
    simp only [Except.ok_bind, hs]
    rfl
  · refine .of (Source.partialOver_fits_optional [(c, u)] (by simpa using reads.fits)
      fun m hm present => ?_)
    exact (reads.compute_regular hm (present _ (.head _))).andThen fun _ => regular_pure _

theorem binomialBuilder_sound :
    binomialBuilder.Sound R
      [.required "n" (.kindOrMissing .integer), .required "r" (.kindOrMissing .integer)]
      (.propagate .integer) := by
  intro t given accepted rule
  cases rule
  obtain ⟨c, u, n, hn, reads_n⟩ := accepted.reads "n" .integer (by simp)
  obtain ⟨d, v, r, hr, reads_r⟩ := accepted.reads "r" .integer (by simp)
  refine ⟨.integer (Source.propagating (given.map (·.1)).values do
    binomial (← n.compute) (← r.compute)), ?_, accepted.propagating_fits fun m hm present => ?_⟩
  · rw [binomialBuilder, reads_n.source hn, reads_r.source hr]
    rfl
  · refine (reads_n.compute_regular hm (present _ reads_n.mem_values)).andThen fun n => ?_
    refine (reads_r.compute_regular hm (present _ reads_r.mem_values)).andThen fun r => ?_
    exact binomial_regular n r

theorem distributionBuilder_sound (name : String) (deviation : Float)
    (density : Float → Float → Float → Float) :
    (distributionBuilder name deviation density).Sound R
      [numberParam "x", .optional "mean" .numericOrMissing,
        .optional "standard_deviation" .numericOrMissing]
      (.propagateFrom .float ["x"]) := by
  intro t given accepted rule
  cases rule
  obtain ⟨c, u, x, hx, reads⟩ := accepted.readsFloat "x" (.head _)
  obtain ⟨mean?, hmean, mean_fits⟩ := accepted.readsFloat? "mean" (by simp)
  obtain ⟨deviation?, hdev, dev_fits⟩ :=
    accepted.readsFloat? "standard_deviation" (by simp)
  refine ⟨_, by
    unfold distributionBuilder
    rw [reads.computer]
    simp only [Except.ok_bind, hx, hmean, hdev]
    rfl, ?_⟩
  refine .of (Source.propagating_fits [(c, u)] (by simpa using reads.fits) ?_
    fun m hm present => ?_)
  · intro g hg ho
    obtain rfl := List.mem_singleton.mp hg
    exact Arguments.any_isOptional_of_mem (.head _) (Arguments.mem_types_of_get? reads.bound) ho
  · refine (reads.compute_regular hm (present _ (.head _))).andThen fun x => ?_
    refine (Source.optionalValue?_regular mean_fits hm).andThen fun mean => ?_
    refine (Source.optionalValue?_regular dev_fits hm).andThen fun s => ?_
    cases s with
    | none => exact regular_pure _
    | some s =>
        exact Regular.ite (fun _ => (regular_warnResult ..).andThen fun _ => regular_pure _)
          fun _ => regular_pure _

/-! ## Rounding -/

/-- A function that finds a whole number for every number but NaN. -/
theorem wholeBuilder_sound {f : Float → Eval (Option Int64)} (hf : ∀ m x, (f x).Regular R m)
    (found : ∀ m x, (f x).Answers m (.ok none) → x.isNaN = true)
    (nothing : ∀ m x, x.isNaN = true → (f x).Answers m (.ok none)) :
    (Builder.ofNumber? f).SoundOnNumbers R [numberParam "x"] (.propagate .integer) where
  sound t given accepted rule number := by
    cases rule
    refine Builder.ofNumber?_sound _ accepted (.head _) hf found
      (fun u hu ho => Arguments.anyOptional_of_mem_all hu ho) ?_
    exact fun ho => number (congrArg _ ho)
  misses _ _ _ _ _ _ bound nan := Builder.ofNumber?_misses _ nothing bound nan

theorem wholeFunction_sound (name description : String) (keywords : List String)
    (f : Float → Float) : (wholeFunction name description keywords f).SoundOnNumbers R :=
  Function.soundOnNumbers_simple (by decide) (wholeBuilder_sound (fun _ _ => toWhole_regular ..)
    (fun _ _ => isNaN_of_toWhole) fun m _ => toWhole_answers_none name f m)

theorem roundTo_regular {name : String} {tie : Decimal.Tie} {precision : Source Int64}
    {x : Source Float} {o : Bool} (hm : R.rows m) (hp : precision.Fits R o)
    (hx : x.compute.Regular R m) : (roundTo name tie precision x).Regular R m := by
  refine (hp m hm).value?_regular.andThen fun places => ?_
  refine Regular.ite (fun _ => (regular_fail _).andThen fun _ => ?_) fun _ => ?_
  all_goals
    refine hx.andThen fun x => ?_
    exact Regular.ite (fun _ => (regular_warnResult ..).andThen fun _ => regular_pure _) fun _ =>
      regular_pure _

theorem roundBuilder_sound (name : String) (tie : Decimal.Tie) :
    (roundBuilder name tie).SoundOnNumbers R
      [numberParam "x", .optional "precision" (.kindOrMissing .integer)] roundType where
  sound t given accepted rule number := by
    have optional : ∀ u ∈ (given.map (·.2)).all "x", u.isOptional = true →
        ((given.map (·.2)).all "x").any (·.isOptional) = true := fun u hu ho =>
      List.any_eq_true.mpr ⟨u, hu, ho⟩
    obtain ⟨precision?, hp, fits, has⟩ := accepted.reads? "precision" .integer (by simp)
    cases rule
    unfold roundBuilder
    rw [has] at number ⊢
    rw [hp]
    cases precision? with
    | none =>
        simp only [Option.isSome_none, Bool.false_eq_true, if_false] at number ⊢
        exact Builder.ofNumber?_sound .missing accepted (.head _) (fun _ _ => toWhole_regular ..)
          (fun _ _ => isNaN_of_toWhole) optional fun ho => number (congrArg _ ho)
    | some precision =>
        obtain ⟨c, u, x, hx, reads⟩ := accepted.readsFloat "x" (.head _)
        obtain ⟨o, fits⟩ := fits precision rfl
        refine ⟨.float (Source.propagating [c] (roundTo name tie precision x)), ?_, ?_⟩
        · rw [reads.computer]
          simp only [Except.ok_bind, hx]
          rfl
        · refine .of (Source.propagating_fits [(c, u)] (by simpa using reads.fits)
            (by simpa using optional u (Arguments.mem_types_of_get? reads.bound))
            fun m hm present => ?_)
          exact roundTo_regular hm fits (reads.compute_regular hm (present _ (.head _)))
  misses given accepted rule m c u bound nan := by
    obtain ⟨precision?, hp, _, has⟩ := accepted.reads? "precision" .integer (by simp)
    unfold roundType at rule
    rw [has] at rule
    unfold roundBuilder
    rw [hp]
    cases precision? with
    | none =>
        refine Builder.ofNumber?_misses .missing ?_ bound nan
        exact fun m _ => toWhole_answers_none name (Decimal.roundFloat tie 0) m
    | some precision => cases rule

theorem roundFunction_sound (name description : String) (keywords : List String)
    (tie : Decimal.Tie) : (roundFunction name description keywords tie).SoundOnNumbers R :=
  Function.soundOnNumbers_simple (by decide) (roundBuilder_sound name tie)

/-! ## The lists -/

/-- The functions that find no whole number near NaN. -/
def roundingNames : List String :=
  ["sign", "round", "roundhalfup", "roundhalfdown", "truncate", "ceil", "floor"]

theorem floatFunction_sound (name : String) (category : Category) (description : String)
    (keywords : List String) {f : Float → Eval Float} (hf : ∀ m x, (f x).Regular R m) :
    (floatFunction name category description keywords f).Sound R :=
  Function.sound_simple (by simp) (Builder.ofNumber_sound (.head _) hf)

/-- The functions of a list are sound, and those that find no whole number near NaN where they are
not given it. -/
def AllSound (R : Regime) (functions : List Function) : Prop :=
  ∀ f ∈ functions, f.name ∉ roundingNames ∧ f.Sound R ∨
    f.name ∈ roundingNames ∧ f.SoundOnNumbers R

theorem allSound_nil : AllSound R [] := fun _ h => absurd h List.not_mem_nil

theorem AllSound.cons {f : Function} {rest : List Function} (name : f.name ∉ roundingNames)
    (hf : f.Sound R) (hrest : AllSound R rest) : AllSound R (f :: rest) := fun g hg => by
  obtain rfl | hg := List.mem_cons.mp hg
  · exact .inl ⟨name, hf⟩
  · exact hrest g hg

theorem AllSound.consRounding {f : Function} {rest : List Function}
    (name : f.name ∈ roundingNames) (hf : f.SoundOnNumbers R) (hrest : AllSound R rest) :
    AllSound R (f :: rest) := fun g hg => by
  obtain rfl | hg := List.mem_cons.mp hg
  · exact .inr ⟨name, hf⟩
  · exact hrest g hg

theorem AllSound.append {a b : List Function} (ha : AllSound R a) (hb : AllSound R b) :
    AllSound R (a ++ b) := fun f hf => (List.mem_append.mp hf).elim (ha f) (hb f)

theorem arithmetic_sound : AllSound R arithmetic := by
  refine .cons (by decide)
    (Function.sound_simple (by decide) (Builder.arithmetic_sound (.head _) (by simp)
    (fun m x y hx hy => hx.andThen fun _ => hy.andThen fun _ => integerPower_regular ..)
    fun m x y hx hy => hx.andThen fun _ => hy.andThen fun _ => floatPower_regular ..)) ?_
  refine .cons (by decide) (floatFunction_sound _ _ _ _ fun _ => squareRoot_regular) ?_
  refine .cons (by decide)
    (Function.sound_simple (by decide) (Builder.arithmetic_sound (.head _) (by simp)
    (fun m x y hx hy => integerModulo_regular hx hy)
    fun m x y hx hy => floatModulo_regular hx hy)) ?_
  refine .cons (by decide) (Function.sound_simple (by decide) absoluteBuilder_sound) ?_
  refine .consRounding (by decide) (Function.soundOnNumbers_simple (by decide)
    (wholeBuilder_sound (fun _ => signOf_regular) (fun _ _ => isNaN_of_signOf)
      fun m _ => signOf_answers_none m)) ?_
  refine .cons (by decide) (floatFunction_sound _ _ _ _ fun _ _ => regular_pure _) ?_
  refine .cons (by decide) (floatFunction_sound _ _ _ _ fun _ _ => logarithm_regular ..) ?_
  refine .cons (by decide) (floatFunction_sound _ _ _ _ fun _ _ => logarithm_regular ..) ?_
  refine .cons (by decide) (floatFunction_sound _ _ _ _ fun _ _ => logarithm_regular ..) ?_
  refine .cons (by decide)
    (Function.sound_simple (by decide) (Builder.ofNumbers_sound (.head _) (by simp)
    fun _ => logarithmTo_regular)) ?_
  refine .cons (by decide) (floatFunction_sound _ _ _ _ fun _ => logarithmOfSuccessor_regular) ?_
  refine .cons (by decide) (Function.sound_simple (by decide) isNaNBuilder_sound) ?_
  exact .cons (by decide) (Function.sound_simple (by decide) nanToMissingBuilder_sound) allSound_nil

theorem rounding_sound : AllSound R rounding := by
  refine .consRounding (by decide) (roundFunction_sound _ _ _ _) ?_
  refine .consRounding (by decide) (roundFunction_sound _ _ _ _) ?_
  refine .consRounding (by decide) (roundFunction_sound _ _ _ _) ?_
  refine .consRounding (by decide) (wholeFunction_sound _ _ _ _) ?_
  refine .consRounding (by decide) (wholeFunction_sound _ _ _ _) ?_
  exact .consRounding (by decide) (wholeFunction_sound _ _ _ _) allSound_nil

theorem summaryParams_numeric : ∀ p ∈ summaryParams, ∀ t, p.Admits t →
    t.isNumeric = true ∨ t = .missing := by
  intro p hp t admits
  simp only [summaryParams, numberParam, List.mem_cons, List.not_mem_nil, or_false] at hp
  obtain rfl | rfl | rfl := hp
  · exact Matcher.numericOrMissing_accepts ((Param.admits_required ..).mp admits)
  · exact Matcher.numericOrMissing_accepts ((Param.admits_required ..).mp admits)
  · exact Matcher.numericOrMissing_accepts ((Param.admits_variadic ..).mp admits)

theorem reducing_sound {name description : String} {keywords : List String} {k : Kind}
    {f : List Float → k.Carrier} :
    (summaryFunction name description keywords (.propagate k) (Builder.reduceFloats k f)).Sound R :=
  Function.sound_simple (by decide) (Builder.reduceFloats_sound summaryParams_numeric)

theorem reducingNumbers_sound {name description : String} {keywords : List String}
    {onIntegers : List Int64 → Int64} {onFloats : List Float → Float} :
    (summaryFunction name description keywords .integerIfAll
      (Builder.reduceNumbers onIntegers onFloats)).Sound R :=
  Function.sound_simple (by decide) (Builder.reduceNumbers_sound summaryParams_numeric)

theorem summaries_sound : AllSound R summaries := by
  refine .cons (by decide) reducingNumbers_sound ?_
  refine .cons (by decide) reducingNumbers_sound ?_
  refine .cons (by decide) reducing_sound ?_
  refine .cons (by decide) reducing_sound ?_
  refine .cons (by decide) reducing_sound ?_
  refine .cons (by decide) reducing_sound ?_
  refine .cons (by decide) reducingNumbers_sound ?_
  refine .cons (by decide) reducing_sound ?_
  exact .cons (by decide) reducing_sound allSound_nil

theorem trigonometry_sound : AllSound R trigonometry := by
  refine .cons (by decide) (floatFunction_sound _ _ _ _ fun _ _ => regular_pure _) ?_
  refine .cons (by decide) (floatFunction_sound _ _ _ _ fun _ _ => regular_pure _) ?_
  refine .cons (by decide) (floatFunction_sound _ _ _ _ fun _ _ => regular_pure _) ?_
  refine .cons (by decide) (floatFunction_sound _ _ _ _ fun _ _ => regular_pure _) ?_
  refine .cons (by decide) (floatFunction_sound _ _ _ _ fun _ _ => regular_pure _) ?_
  refine .cons (by decide) (floatFunction_sound _ _ _ _ fun _ _ => arcus_regular ..) ?_
  refine .cons (by decide) (floatFunction_sound _ _ _ _ fun _ _ => arcus_regular ..) ?_
  refine .cons (by decide) (floatFunction_sound _ _ _ _ fun _ _ => regular_pure _) ?_
  refine .cons (by decide)
    (Function.sound_simple (by decide) (Builder.ofNumbers_sound (.head _) (by simp)
    fun _ => angle_regular)) ?_
  refine .cons (by decide) (floatFunction_sound _ _ _ _ fun _ _ => regular_pure _) ?_
  refine .cons (by decide) (floatFunction_sound _ _ _ _ fun _ _ => regular_pure _) ?_
  refine .cons (by decide) (floatFunction_sound _ _ _ _ fun _ _ => regular_pure _) ?_
  refine .cons (by decide) (floatFunction_sound _ _ _ _ fun _ _ => regular_pure _) ?_
  refine .cons (by decide) (floatFunction_sound _ _ _ _ fun _ => hyperbolicArccosine_regular) ?_
  exact .cons (by decide) (floatFunction_sound _ _ _ _ fun _ => hyperbolicArctangent_regular)
    allSound_nil

theorem distributions_sound : AllSound R distributions := by
  refine .cons (by decide) (Function.sound_simple (by decide) binomialBuilder_sound) ?_
  refine .cons (by decide) (Function.sound_simple (by decide) (distributionBuilder_sound _ _ _)) ?_
  exact .cons (by decide)
    (Function.sound_simple (by decide) (distributionBuilder_sound _ _ _)) allSound_nil

end Functions

end Rowwise
