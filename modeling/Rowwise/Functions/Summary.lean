import Rowwise.Functions.Arithmetic

/-!
# Functions that summarise their arguments

These take two or more numbers and are missing if one of them is.
-/

namespace Rowwise.Functions

def summaryParams : List Param :=
  [numberParam "input_1", numberParam "input_2", .variadic "more" .numericOrMissing]

/-- The largest integer. -/
def largestInteger (xs : List Int64) : Int64 := xs.max?.getD Int64.minValue

/-- The smallest integer. -/
def smallestInteger (xs : List Int64) : Int64 := xs.min?.getD Int64.maxValue

/-- The largest float, NaN if one is. -/
def largestFloat (xs : List Float) : Float :=
  if xs.any Float.isNaN then FloatMath.nan else xs.foldl FloatMath.max (-FloatMath.infinity)

/-- The smallest float, NaN if one is. -/
def smallestFloat (xs : List Float) : Float :=
  if xs.any Float.isNaN then FloatMath.nan else xs.foldl FloatMath.min FloatMath.infinity

/-- Looks through numbers at positions from `position` for a better one than the best so far;
the first NaN ends the search. -/
def searchExtreme (better : Float → Float → Bool) (best : Float) (bestAt : Nat) :
    Nat → List Float → Nat
  | _, [] => bestAt
  | position, x :: rest =>
    if x.isNaN then position
    else if better x best then searchExtreme better x position (position + 1) rest
    else searchExtreme better best bestAt (position + 1) rest

/-- The position, from 1, of the first number that no other one is better than, or of the first
NaN. -/
def positionOfExtreme (better : Float → Float → Bool) (xs : List Float) : Int64 :=
  match xs with
  | [] => 1
  | x :: rest => Int64.ofNat (searchExtreme better x 1 1 (x :: rest))

/-- The sum of integers in wrapping arithmetic. -/
def sumOfIntegers (xs : List Int64) : Int64 := xs.foldl (· + ·) 0

def summaryFunction (name description : String) (keywords : List String) (typeRule : TypeRule)
    (builder : Builder) : Function :=
  .simple name .mathAggregate description keywords summaryParams typeRule builder

/-- The functions that summarise their arguments. -/
def summaries : List Function :=
  [ summaryFunction "max"
      ("The largest of the arguments. INTEGER if all arguments are integers. NaN if any argument "
        ++ "is NaN.")
      ["maximum"] .integerIfAll (Builder.reduceNumbers largestInteger largestFloat),
    summaryFunction "min"
      ("The smallest of the arguments. INTEGER if all arguments are integers. NaN if any argument "
        ++ "is NaN.")
      ["minimum"] .integerIfAll (Builder.reduceNumbers smallestInteger smallestFloat),
    summaryFunction "argmax" "The 1-based position of the largest argument; the first one on ties."
      [] (.propagate .integer)
      (Builder.reduceFloats .integer (positionOfExtreme fun a b => a > b)),
    summaryFunction "argmin" "The 1-based position of the smallest argument; the first one on ties."
      [] (.propagate .integer)
      (Builder.reduceFloats .integer (positionOfExtreme fun a b => a < b)),
    summaryFunction "average" "The mean of the arguments." ["mean"] (.propagate .float)
      (Builder.reduceFloats .float FloatMath.mean),
    summaryFunction "median" "The median of the arguments." [] (.propagate .float)
      (Builder.reduceFloats .float FloatMath.median),
    summaryFunction "sum" "The sum of the arguments. INTEGER if all arguments are integers."
      ["total"] .integerIfAll (Builder.reduceNumbers sumOfIntegers FloatMath.sum),
    summaryFunction "variance" "The population variance of the arguments." [] (.propagate .float)
      (Builder.reduceFloats .float FloatMath.variance),
    summaryFunction "stddev" "The population standard deviation of the arguments."
      ["standard deviation"] (.propagate .float)
      (Builder.reduceFloats .float FloatMath.deviation) ]

end Rowwise.Functions
