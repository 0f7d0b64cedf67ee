import Rowwise.Functions.Arithmetic

/-!
# Trigonometric and hyperbolic functions
-/

namespace Rowwise.Functions

/-- An inverse function that is only defined between -1 and 1. -/
def arcus (name reason : String) (f : Float → Float) (x : Float) : Eval Float := do
  if x.abs > 1 then Eval.warnResult name "NaN" reason
  pure (f x)

/-- The angle of a point, which the origin has none of. -/
def angle (y x : Float) : Eval Float := do
  if FloatMath.isNearZero x && FloatMath.isNearZero y then
    Eval.warn "atan2 returned NaN because both inputs are zero."
    pure FloatMath.nan
  else pure (y.atan2 x)

def hyperbolicArccosine (x : Float) : Eval Float := do
  if x < 1 then
    Eval.warnResult "acosh" "NaN" "argument is less than 1"
    pure FloatMath.nan
  else pure (FloatMath.arcosh x)

/-- The hyperbolic arctangent, infinite close to -1 and 1. -/
def hyperbolicArctangent (x : Float) : Eval Float := do
  if FloatMath.isNearZero (x.abs - 1) then
    let result := FloatMath.withSign FloatMath.infinity x
    let argument := if x > 0 then "1" else "-1"
    Eval.warnResult "atanh" (FloatText.renderShouting result) s!"argument is {argument}"
    pure result
  else if x.abs > 1 then
    Eval.warnResult "atanh" "NaN" "argument is outside the range [-1, 1]"
    pure FloatMath.nan
  else pure (FloatMath.artanh x)

def angleFunction (name description : String) (f : Float → Eval Float) : Function :=
  floatFunction name .mathTrigonometry description [] f

/-- The trigonometric and hyperbolic functions. -/
def trigonometry : List Function :=
  [ angleFunction "degrees" "`x` radians converted to degrees." fun x =>
      pure (x * (180 / FloatMath.pi)),
    angleFunction "radians" "`x` degrees converted to radians." fun x =>
      pure (x * (FloatMath.pi / 180)),
    angleFunction "sin" "The sine of `x` radians." fun x => pure x.sin,
    angleFunction "cos" "The cosine of `x` radians." fun x => pure x.cos,
    angleFunction "tan" "The tangent of `x` radians." fun x => pure x.tan,
    angleFunction "asin" "The arcsine of `x`, in radians."
      (arcus "asin" "argument is outside the range [-1, 1]" Float.asin),
    angleFunction "acos" "The arccosine of `x`, in radians."
      (arcus "acos" "argument is greater than 1" Float.acos),
    angleFunction "atan" "The arctangent of `x`, in radians." fun x => pure x.atan,
    .simple "atan2" .mathTrigonometry
      "The angle in radians of the point (`x`, `y`). NaN with a warning at the origin." []
      [numberParam "y", numberParam "x"] (.propagate .float) (Builder.ofNumbers "y" "x" angle),
    angleFunction "sinh" "The hyperbolic sine of `x`." fun x => pure x.sinh,
    angleFunction "cosh" "The hyperbolic cosine of `x`." fun x => pure x.cosh,
    angleFunction "tanh" "The hyperbolic tangent of `x`." fun x => pure x.tanh,
    angleFunction "asinh" "The hyperbolic arcsine of `x`." fun x => pure (FloatMath.arsinh x),
    angleFunction "acosh" "The hyperbolic arccosine of `x`." hyperbolicArccosine,
    angleFunction "atanh" "The hyperbolic arctangent of `x`." hyperbolicArctangent ]

end Rowwise.Functions
