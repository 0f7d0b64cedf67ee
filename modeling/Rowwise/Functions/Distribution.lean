import Rowwise.Functions.Arithmetic

/-!
# Binomial coefficients and the normal distribution
-/

namespace Rowwise.Functions

/-! ## Binomial coefficients -/

/-- Multiplies by `n`, `n - 1`, … and divides by 1, 2, … in turn, `r` times, in wrapping
arithmetic. -/
def fallingQuotient (n : Int64) (r : Nat) : Int64 :=
  Nat.fold r (fun i _ result => result * (n - Int64.ofNat i) / Int64.ofNat (i + 1)) 1

/-- Why there is no binomial coefficient. -/
def noBinomial? (n r : Int64) : Option String :=
  if n = 0 ∧ r = 0 then none
  else if r > n then some "r > n"
  else if r < 0 then some "r < 0"
  else if n < 0 then some "n < 0"
  else none

/-- The number of ways to choose `r` of `n` things. -/
def binomial (n r : Int64) : Eval Int64 := do
  match noBinomial? n r with
  | some reason => do
    Eval.warnResult "binomial" "zero" reason
    pure 0
  | none => pure (fallingQuotient n (min r (n - r)).toInt.toNat)

/-! ## The normal distribution -/

/-- The coefficients of the polynomial in `errorFunction`, from the constant one on. -/
def errorCoefficients : List Float :=
  [-1.26551223, 1.00002368, 0.37409196, 0.09678418, -0.18628806, 0.27886807, -1.13520398,
    1.48851587, -0.82215223, 0.17087277]

/-- The complementary error function of a number with magnitude `a`, with fractional error below
1.2e-7. -/
def errorTail (a x : Float) : Float :=
  let t := 1 / (1 + 0.5 * a)
  let polynomial := errorCoefficients.foldr (fun c acc => acc * t + c) 0
  t * (-x * x + polynomial).exp

/-- The error function. -/
def errorFunction (x : Float) : Float :=
  if x ≥ 0 then 1 - errorTail x.abs x else errorTail x.abs (-x) - 1

/-- The density of the normal distribution at `x`. -/
def normalDensity (x mean deviation : Float) : Float :=
  let d := x - mean
  (-(d * d) / (2 * deviation * deviation)).exp / (deviation * (2 * FloatMath.pi).sqrt)

/-- The error function, shifted and scaled. -/
def scaledErrorFunction (x mean deviation : Float) : Float :=
  errorFunction ((x - mean) / (deviation * FloatMath.sqrtTwo))

/-- Reads `x`, the mean and the deviation, of which the last two may be missing. -/
def distributionBuilder (name : String) (deviation : Float)
    (density : Float → Float → Float → Float) : Builder := fun args _ => do
  let input ← args.required "x"
  let x ← input.asFloat
  let mean? ← args.floatSource? "mean"
  let deviation? ← args.floatSource? "standard_deviation"
  pure (.float (Source.propagating [input] do
    let x ← x.compute
    let mean := (← Source.optionalValue? mean?).getD 0
    match ← Source.optionalValue? deviation? with
    | none => pure (density x mean deviation)
    | some s =>
      if FloatMath.isNearZero s || s < 0 then
        Eval.warnResult name "NaN" "standard deviation <= 0"
        pure FloatMath.nan
      else pure (density x mean s)))

def distributionFunction (name description : String) (deviation : Float)
    (density : Float → Float → Float → Float) : Function :=
  .simple name .mathDistributions description ["gaussian", "distribution", "probability"]
    [numberParam "x", .optional "mean" .numericOrMissing,
      .optional "standard_deviation" .numericOrMissing]
    (.propagateFrom .float ["x"]) (distributionBuilder name deviation density)

def binomialBuilder : Builder := fun args _ => do
  let n ← args.source "n" .integer
  let r ← args.source "r" .integer
  pure (.integer (Source.propagating args.values do binomial (← n.compute) (← r.compute)))

/-- The functions on distributions. -/
def distributions : List Function :=
  [ .simple "binomial" .mathDistributions
      "The binomial coefficient `n` choose `r`. Invalid inputs return 0 with a warning."
      ["choose", "permutations"]
      [.required "n" (.kindOrMissing .integer), .required "r" (.kindOrMissing .integer)]
      (.propagate .integer) binomialBuilder,
    distributionFunction "normal"
      ("The probability density of the normal distribution at `x`. `mean` defaults to 0 and "
        ++ "`standard_deviation` to 1.")
      1 normalDensity,
    distributionFunction "error_function"
      ("The error function at `x`, scaled by `mean` (default 0) and `standard_deviation` "
        ++ "(default 1/sqrt(2)).")
      (1 / FloatMath.sqrtTwo) scaledErrorFunction ]

end Rowwise.Functions
