import Rowwise.Functions.Builder

/-!
# Powers, remainders, logarithms and signs

Arguments outside of the domain of a function give 0, NaN, an infinity or MISSING, and a warning
that tells why.
-/

namespace Rowwise.Functions

/-- The parameter `x` of most numeric functions. -/
def numberParam (name : String) : Param := .required name .numericOrMissing

/-! ## Powers and remainders -/

/-- A power of integers in wrapping arithmetic; zero if the exact power is a fraction. -/
def integerPower (x y : Int64) : Eval Int64 := do
  if x = 0 ∧ y ≤ 0 then
    Eval.warn "INTEGER pow returned 0 because base is zero and exponent is non-positive."
    pure 0
  else if x = 1 then pure 1
  else if y < 0 then pure 0
  else if y.toInt < 4294967296 then pure (Integer.wrappingPow x y.toInt.toNat)
  else Eval.fail .exponentTooLarge

/-- A power of floats. -/
def floatPower (x y : Float) : Eval Float := do
  if FloatMath.isNearZero x && (FloatMath.isNearZero y || y < 0) then
    Eval.warn "FLOAT pow returned NaN because base is zero and exponent is non-positive."
    pure FloatMath.nan
  else pure (x.pow y)

/-- The remainder of integers; the dividend is only read if the divisor is not zero. -/
def integerModulo (dividend divisor : Eval Int64) : Eval Int64 := do
  let y ← divisor
  if y = 0 then
    Eval.warn "INTEGER mod returned 0 because divisor is zero."
    pure 0
  else do pure ((← dividend) % y)

/-- The remainder of floats; the dividend is only read if the divisor is not zero. -/
def floatModulo (dividend divisor : Eval Float) : Eval Float := do
  let y ← divisor
  if FloatMath.isNearZero y then
    Eval.warn "FLOAT mod returned NaN because divisor is zero."
    pure FloatMath.nan
  else do pure (FloatMath.remainder (← dividend) y)

def squareRoot (x : Float) : Eval Float := do
  if x < 0 then Eval.warnResult "sqrt" "NaN" "argument is negative"
  pure x.sqrt

/-! ## Logarithms -/

/-- A logarithm to a fixed base. -/
def logarithm (name : String) (log : Float → Float) (x : Float) : Eval Float := do
  if x == 0 then Eval.warnResult name "-INFINITY" "argument is 0"
  else if x < 0 then Eval.warnResult name "NaN" "argument is less than 0"
  pure (log x)

/-- Why a logarithm is no number. -/
def noLogarithm? (x base : Float) : Option String :=
  if x == 0 && base == 0 then some "both arguments are 0"
  else if base == 0 then some "base is 0"
  else if x < 0 then some "first argument is less than 0"
  else if base < 0 && x != 0 then some "base is less than 0"
  else if base == 1 && x != 0 then some "base is 1"
  else none

/-- The logarithm of `x` to a given base.  That of zero is negative infinity for any base but
zero. -/
def logarithmTo (x base : Float) : Eval Float := do
  match noLogarithm? x base with
  | some reason => do
    Eval.warnResult "log" "NaN" reason
    pure FloatMath.nan
  | none =>
    if x == 0 then
      Eval.warnResult "log" "-INFINITY" "first argument is 0"
      pure (-FloatMath.infinity)
    else pure (x.log / base.log)

/-- The natural logarithm of `1 + x`. -/
def logarithmOfSuccessor (x : Float) : Eval Float := do
  if x == -1 then Eval.warnResult "log1p" "-INFINITY" "argument is -1"
  else if x < -1 then Eval.warnResult "log1p" "NaN" "argument is less than -1"
  pure (FloatMath.log1p x)

/-! ## Signs and NaN -/

/-- The sign of a number, if it is one. -/
def signOf (x : Float) : Eval (Option Int64) := do
  if x.isNaN then
    Eval.warnResult "sign" "MISSING" "argument is NaN"
    pure none
  else pure (some (if x > 0 then 1 else if x < 0 then -1 else 0))

/-- The type of `x` itself. -/
def typeOfX : TypeRule := fun args =>
  match args.get? "x" with
  | some t => .ok t
  | none => .error "Missing required argument 'x'."

/-- The magnitude of a number; the least INTEGER has none and stays as it is. -/
def absoluteBuilder : Builder := fun args _ => do
  match ← args.required "x" with
  | .missing => pure .missing
  | .of .integer x => pure (.integer (x.map fun n => if n < 0 then -n else n))
  | c => do pure (.float ((← c.asFloat).map Float.abs))

def isNaNBuilder : Builder := fun args _ => do
  let x ← args.floatSource "x"
  pure (.boolean (Source.present do
    if ← x.isMissing then pure false else do pure (← x.compute).isNaN))

def nanToMissingBuilder : Builder := fun args _ => do
  let input ← args.required "x"
  let x ← input.asFloat
  pure (.float (Source.partialOver [input] do
    let x ← x.compute
    pure (if x.isNaN then none else some x)))

/-! ## The list -/

/-- A function of one number that gives a FLOAT. -/
def floatFunction (name : String) (category : Category) (description : String)
    (keywords : List String) (f : Float → Eval Float) : Function :=
  .simple name category description keywords [numberParam "x"] (.propagate .float)
    (Builder.ofNumber f)

/-- General functions of numbers. -/
def arithmetic : List Function :=
  [ .simple "pow" .mathGeneral
      ("`x` raised to the power of `y`. INTEGER if both arguments are integers. A zero base with "
        ++ "a non-positive exponent returns 0 (INTEGER) or NaN (FLOAT) with a warning.")
      ["power", "exponent"] [numberParam "x", numberParam "y"] .integerIfAll
      (Builder.arithmetic (fun x y => do integerPower (← x) (← y))
        (fun x y => do floatPower (← x) (← y))),
    floatFunction "sqrt" .mathGeneral
      "The square root of `x`. Negative arguments return NaN with a warning." ["root"] squareRoot,
    .simple "mod" .mathGeneral
      ("The remainder of `x` divided by `y`, with the sign of `x`. A zero divisor returns 0 "
        ++ "(INTEGER) or NaN (FLOAT) with a warning.")
      ["modulo", "remainder"] [numberParam "x", numberParam "y"] .integerIfAll
      (Builder.arithmetic integerModulo floatModulo),
    .simple "abs" .mathGeneral "The absolute value of `x`." ["absolute"] [numberParam "x"]
      typeOfX absoluteBuilder,
    .simple "sign" .mathGeneral
      "-1, 0 or 1 depending on the sign of `x`. NaN gives MISSING with a warning." []
      [numberParam "x"] (.propagate .integer) (Builder.ofNumber? signOf),
    floatFunction "exp" .mathGeneral "Euler's number raised to the power of `x`."
      ["exponential"] fun x => pure x.exp,
    floatFunction "ln" .mathGeneral "The natural logarithm of `x`." ["logarithm", "natural"]
      (logarithm "ln" Float.log),
    floatFunction "log10" .mathGeneral "The base-10 logarithm of `x`." ["logarithm"]
      (logarithm "log10" Float.log10),
    floatFunction "log2" .mathGeneral "The base-2 logarithm of `x`." ["logarithm"]
      (logarithm "log2" Float.log2),
    .simple "log" .mathGeneral "The logarithm of `x` to the given `base`." ["logarithm"]
      [numberParam "x", numberParam "base"] (.propagate .float)
      (Builder.ofNumbers "x" "base" logarithmTo),
    floatFunction "log1p" .mathGeneral
      "The natural logarithm of `1 + x`, accurate for small `x`." ["logarithm"]
      logarithmOfSuccessor,
    .simple "is_nan" .mathGeneral
      "TRUE if `x` is NaN. Never MISSING: a MISSING argument gives FALSE." ["NaN"]
      [.required "x" (.kindOrMissing .float)] (.exactly (.required .boolean)) isNaNBuilder,
    .simple "nan_to_missing" .mathGeneral "MISSING if `x` is NaN, otherwise `x`." ["NaN"]
      [.required "x" (.kindOrMissing .float)] (.exactly (.optionalOf .float))
      nanToMissingBuilder ]

end Rowwise.Functions
