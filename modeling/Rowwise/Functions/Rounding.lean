import Rowwise.Functions.Arithmetic
import Rowwise.Decimal.Rounding

/-!
# Rounding functions

The three functions that round to decimal places differ in half-way cases only.  Without a
`precision` they give an INTEGER.
-/

namespace Rowwise.Functions

open Decimal

/-- A whole number from `x`, if it is a number, limited to the range of INTEGER. -/
def toWhole (name : String) (f : Float → Float) (x : Float) : Eval (Option Int64) := do
  if x.isNaN then
    Eval.warnResult name "MISSING" "argument is NaN"
    pure none
  else pure (some (FloatMath.toInteger (f x)))

/-- FLOAT with a precision and INTEGER without, optional if `x` is. -/
def roundType : TypeRule := fun args =>
  let optional := (args.all "x").any (·.isOptional)
  .ok (.of (if args.has "precision" then .float else .integer) optional)

/-- Rounds `x` to a precision, which is zero if it is missing. -/
def roundTo (name : String) (tie : Tie) (precision : Source Int64) (x : Source Float) :
    Eval Float := do
  let places := (← precision.value?).getD 0
  if (Word32.ofInt? places.toInt).isNone then Eval.fail .precisionTooLarge
  let x ← x.compute
  if x.isNaN then
    Eval.warnResult name "NaN" "argument is NaN"
    pure FloatMath.nan
  else pure (roundFloat tie places.toInt x)

def roundBuilder (name : String) (tie : Tie) : Builder := fun args type => do
  match ← args.source? "precision" .integer with
  | none => Builder.ofNumber? (toWhole name (roundFloat tie 0)) args type
  | some precision =>
    let input ← args.required "x"
    let x ← input.asFloat
    pure (.float (Source.propagating [input] (roundTo name tie precision x)))

def roundFunction (name description : String) (keywords : List String) (tie : Tie) : Function :=
  .simple name .mathRound description (["round", "decimal"] ++ keywords)
    [numberParam "x", .optional "precision" (.kindOrMissing .integer)] roundType
    (roundBuilder name tie)

def wholeFunction (name description : String) (keywords : List String) (f : Float → Float) :
    Function :=
  .simple name .mathRound description keywords [numberParam "x"] (.propagate .integer)
    (Builder.ofNumber? (toWhole name f))

/-- The functions that round. -/
def rounding : List Function :=
  [ roundFunction "round"
      ("Rounds `x` to `precision` decimal places, halfway cases to the even neighbour. INTEGER "
        ++ "without `precision`, FLOAT with it.")
      ["roundhalfeven"] .toEven,
    roundFunction "roundhalfup"
      "Rounds `x` to `precision` decimal places, halfway cases away from zero." [] .awayFromZero,
    roundFunction "roundhalfdown"
      "Rounds `x` to `precision` decimal places, halfway cases towards zero." [] .towardZero,
    wholeFunction "truncate" "`x` rounded towards zero." ["round down"] FloatMath.truncate,
    wholeFunction "ceil" "The smallest integer not less than `x`." ["round up", "ceiling"]
      Float.ceil,
    wholeFunction "floor" "The largest integer not greater than `x`." ["round down"]
      Float.floor ]

end Rowwise.Functions
