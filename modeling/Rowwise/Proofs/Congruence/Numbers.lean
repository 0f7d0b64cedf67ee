import Rowwise.Functions.Distribution
import Rowwise.Functions.Rounding
import Rowwise.Functions.Summary
import Rowwise.Functions.Trigonometry
import Rowwise.Proofs.Congruence.Builders

/-!
# Functions of numbers keep computers related

The operations on numbers never look at the row: they warn, fail and answer by their arguments
alone.  With the shapes of builders being proper, so are the functions.
-/

namespace Rowwise

open Eval Functions

variable {R : Congruence}

namespace Functions

/-! ## Powers, remainders, logarithms and signs -/

theorem integerPower_proper (x y : Int64) : (integerPower x y).Proper R := by
  unfold integerPower
  refine .ite (proper_warned ..) (.ite (proper_pure _) ?_)
  exact .ite (proper_pure _) (.ite (proper_pure _) (proper_fail _))

theorem floatPower_proper (x y : Float) : (floatPower x y).Proper R :=
  .ite (proper_warned ..) (proper_pure _)

/-- Whether the dividend is read depends on the divisor, which is the same on both sides. -/
theorem integerModulo_related {x x' y y' : Eval Int64} (hx : x.Related R x') (hy : y.Related R y') :
    (integerModulo x y).Related R (integerModulo x' y') := by
  refine hy.bind fun divisor => .ite ?_ ?_
  · exact proper_warned ..
  · exact hx.bind fun _ => proper_pure _

theorem floatModulo_related {x x' y y' : Eval Float} (hx : x.Related R x') (hy : y.Related R y') :
    (floatModulo x y).Related R (floatModulo x' y') := by
  refine hy.bind fun divisor => .ite ?_ ?_
  · exact proper_warned ..
  · exact hx.bind fun _ => proper_pure _

theorem squareRoot_proper (x : Float) : (squareRoot x).Proper R :=
  .ite (proper_warned ..) (proper_pure _)

theorem logarithm_proper (name : String) (log : Float → Float) (x : Float) :
    (logarithm name log x).Proper R := by
  refine .ite (proper_warned ..) ?_
  exact .ite (proper_warned ..) (proper_pure _)

theorem logarithmTo_proper (x base : Float) : (logarithmTo x base).Proper R := by
  unfold logarithmTo
  cases noLogarithm? x base with
  | some reason => exact proper_warned ..
  | none => exact .ite (proper_warned ..) (proper_pure _)

theorem logarithmOfSuccessor_proper (x : Float) : (logarithmOfSuccessor x).Proper R := by
  refine .ite (proper_warned ..) ?_
  exact .ite (proper_warned ..) (proper_pure _)

theorem signOf_proper (x : Float) : (signOf x).Proper R :=
  .ite (proper_warned ..) (proper_pure _)

theorem absoluteBuilder_proper : Builder.Proper R absoluteBuilder := by
  intro args args' type h
  refine (h.required "x").bind fun x x' hx => ?_
  cases hx with
  | missing => exact .ok .missing
  | @of k s s' hs =>
      cases k with
      | integer => exact .ok (.of (hs.map _))
      | _ => exact (Computer.Related.of hs).asFloat.bind fun a a' ha => .ok (.of (ha.map _))

theorem isNaNBuilder_proper : Builder.Proper R isNaNBuilder := by
  intro args args' type h
  refine (h.floatSource "x").bind fun x x' hx => .ok (.of (Source.present_related ?_))
  exact hx.isMissing.bind fun _ => .ite (proper_pure false) (hx.compute.bind fun _ => proper_pure _)

theorem nanToMissingBuilder_proper : Builder.Proper R nanToMissingBuilder := by
  intro args args' type h
  refine (h.required "x").bind fun input input' related => ?_
  refine related.asFloat.bind fun x x' hx => .ok (.of ?_)
  exact Source.related_partialOver (.cons related .nil) (hx.compute.bind fun _ => proper_pure _)

theorem floatFunction_proper {name description : String} {category : Category}
    {keywords : List String} {f : Float → Eval Float} (hf : ∀ x, (f x).Proper R) :
    (floatFunction name category description keywords f).Proper R :=
  Function.proper_simple (Builder.ofNumber_proper hf)

theorem arithmetic_proper : AllProper R arithmetic := by
  refine .cons (Function.proper_simple (Builder.arithmetic_proper ?_ ?_)) ?_
  · exact fun x x' y y' hx hy => hx.bind fun a => hy.bind fun b => integerPower_proper a b
  · exact fun x x' y y' hx hy => hx.bind fun a => hy.bind fun b => floatPower_proper a b
  refine .cons (floatFunction_proper squareRoot_proper) ?_
  refine .cons (Function.proper_simple (Builder.arithmetic_proper
    (fun _ _ _ _ => integerModulo_related) fun _ _ _ _ => floatModulo_related)) ?_
  refine .cons (Function.proper_simple absoluteBuilder_proper) ?_
  refine .cons (Function.proper_simple (Builder.ofNumber?_proper signOf_proper)) ?_
  refine .cons (floatFunction_proper fun _ => proper_pure _) ?_
  refine .cons (floatFunction_proper (logarithm_proper _ _)) ?_
  refine .cons (floatFunction_proper (logarithm_proper _ _)) ?_
  refine .cons (floatFunction_proper (logarithm_proper _ _)) ?_
  refine .cons (Function.proper_simple (Builder.ofNumbers_proper logarithmTo_proper)) ?_
  refine .cons (floatFunction_proper logarithmOfSuccessor_proper) ?_
  refine .cons (Function.proper_simple isNaNBuilder_proper) ?_
  exact .cons (Function.proper_simple nanToMissingBuilder_proper) .nil

/-! ## Rounding -/

theorem toWhole_proper (name : String) (f : Float → Float) (x : Float) :
    (toWhole name f x).Proper R :=
  .ite (proper_warned ..) (proper_pure _)

theorem related_roundTo (name : String) (tie : Decimal.Tie) {precision precision' : Source Int64}
    {x x' : Source Float} (hp : precision.Related R precision') (hx : x.Related R x') :
    (roundTo name tie precision x).Related R (roundTo name tie precision' x') := by
  -- A precision that is too large ends the computation before `x` is read.
  refine hp.value?.bind fun places => .ite ((proper_fail _).bind fun _ => ?_) ?_
  all_goals exact hx.compute.bind fun _ => .ite (proper_warned ..) (proper_pure _)

theorem roundBuilder_proper (name : String) (tie : Decimal.Tie) :
    Builder.Proper R (roundBuilder name tie) := by
  intro args args' type h
  refine (h.source? "precision" .integer).bind fun precision precision' given => ?_
  cases given with
  | none => exact Builder.ofNumber?_proper (toWhole_proper _ _) args args' type h
  | some hp =>
      refine (h.required "x").bind fun input input' related => ?_
      refine related.asFloat.bind fun x x' hx => .ok (.of ?_)
      exact Source.related_propagating (.cons related .nil) (related_roundTo name tie hp hx)

theorem wholeFunction_proper {name description : String} {keywords : List String}
    {f : Float → Float} : (wholeFunction name description keywords f).Proper R :=
  Function.proper_simple (Builder.ofNumber?_proper (toWhole_proper _ _))

theorem rounding_proper : AllProper R rounding := by
  refine .cons (Function.proper_simple (roundBuilder_proper _ _)) ?_
  refine .cons (Function.proper_simple (roundBuilder_proper _ _)) ?_
  refine .cons (Function.proper_simple (roundBuilder_proper _ _)) ?_
  exact .cons wholeFunction_proper (.cons wholeFunction_proper (.cons wholeFunction_proper .nil))

/-! ## Summaries -/

theorem summaries_proper : AllProper R summaries := by
  have numbers {name description : String} {keywords : List String}
      (onIntegers : List Int64 → Int64) (onFloats : List Float → Float) :
      (summaryFunction name description keywords .integerIfAll
        (Builder.reduceNumbers onIntegers onFloats)).Proper R :=
    Function.proper_simple (Builder.reduceNumbers_proper onIntegers onFloats)
  have floats {name description : String} {keywords : List String} (k : Kind)
      (f : List Float → k.Carrier) :
      (summaryFunction name description keywords (.propagate k)
        (Builder.reduceFloats k f)).Proper R :=
    Function.proper_simple (Builder.reduceFloats_proper k f)
  refine .cons (numbers _ _) (.cons (numbers _ _) ?_)
  refine .cons (floats _ _) (.cons (floats _ _) (.cons (floats _ _) (.cons (floats _ _) ?_)))
  exact .cons (numbers _ _) (.cons (floats _ _) (.cons (floats _ _) .nil))

/-! ## Trigonometry -/

theorem arcus_proper (name reason : String) (f : Float → Float) (x : Float) :
    (arcus name reason f x).Proper R :=
  .ite (proper_warned ..) (proper_pure _)

theorem angle_proper (y x : Float) : (angle y x).Proper R :=
  .ite (proper_warned ..) (proper_pure _)

theorem hyperbolicArccosine_proper (x : Float) : (hyperbolicArccosine x).Proper R :=
  .ite (proper_warned ..) (proper_pure _)

theorem hyperbolicArctangent_proper (x : Float) : (hyperbolicArctangent x).Proper R := by
  refine .ite (proper_warned ..) ?_
  exact .ite (proper_warned ..) (proper_pure _)

theorem trigonometry_proper : AllProper R trigonometry := by
  have plain {name description : String} (f : Float → Float) :
      (angleFunction name description fun x => pure (f x)).Proper R :=
    floatFunction_proper fun _ => proper_pure _
  have warned {name description : String} {f : Float → Eval Float} (hf : ∀ x, (f x).Proper R) :
      (angleFunction name description f).Proper R := floatFunction_proper hf
  refine .cons (plain _) (.cons (plain _) (.cons (plain _) (.cons (plain _) (.cons (plain _) ?_))))
  refine .cons (warned (arcus_proper _ _ _)) (.cons (warned (arcus_proper _ _ _)) ?_)
  refine .cons (plain _) ?_
  refine .cons (Function.proper_simple (Builder.ofNumbers_proper angle_proper)) ?_
  refine .cons (plain _) (.cons (plain _) (.cons (plain _) (.cons (plain _) ?_)))
  refine .cons (warned hyperbolicArccosine_proper) ?_
  exact .cons (warned hyperbolicArctangent_proper) .nil

/-! ## Distributions -/

theorem binomial_proper (n r : Int64) : (binomial n r).Proper R := by
  unfold binomial
  cases noBinomial? n r with
  | some reason => exact proper_warned ..
  | none => exact proper_pure _

theorem binomialBuilder_proper : Builder.Proper R binomialBuilder := by
  intro args args' type h
  refine (h.source "n" .integer).bind fun n n' hn => ?_
  refine (h.source "r" .integer).bind fun r r' hr => .ok (.of ?_)
  exact Source.related_propagating h.values
    (hn.compute.bind fun a => hr.compute.bind fun b => binomial_proper a b)

theorem distributionBuilder_proper (name : String) (deviation : Float)
    (density : Float → Float → Float → Float) :
    Builder.Proper R (distributionBuilder name deviation density) := by
  intro args args' type h
  refine (h.required "x").bind fun input input' related => ?_
  refine related.asFloat.bind fun x x' hx => ?_
  refine (h.floatSource? "mean").bind fun mean mean' hmean => ?_
  refine (h.floatSource? "standard_deviation").bind fun s s' hs => .ok (.of ?_)
  refine Source.related_propagating (.cons related .nil) (hx.compute.bind fun x => ?_)
  refine (Source.related_optionalValue? hmean).bind fun mean => ?_
  refine (Source.related_optionalValue? hs).bind fun given => ?_
  cases given with
  | none => exact proper_pure _
  | some s => exact .ite (proper_warned ..) (proper_pure _)

theorem distributions_proper : AllProper R distributions := by
  refine .cons (Function.proper_simple binomialBuilder_proper) ?_
  refine .cons (Function.proper_simple (distributionBuilder_proper _ _ _)) ?_
  exact .cons (Function.proper_simple (distributionBuilder_proper _ _ _)) .nil

end Functions

end Rowwise
