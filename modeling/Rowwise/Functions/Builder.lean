import Rowwise.Function
import Rowwise.FloatMath

/-!
# Shapes of builders

Most functions compute their result from the present values of all their arguments.  The shapes
here read those values from the parameters and say how a missing argument is treated.
-/

namespace Rowwise.Builder

/-- A result for every present value of the numeric parameter `x`. -/
def ofNumber (f : Float → Eval Float) : Builder := fun args _ => do
  pure (.float ((← args.floatSource "x").tryMap f))

/-- An INTEGER for some of the present values of the numeric parameter `x`. -/
def ofNumber? (f : Float → Eval (Option Int64)) : Builder := fun args _ => do
  let input ← args.required "x"
  let x ← input.asFloat
  pure (.integer (Source.partialOver [input] do f (← x.compute)))

/-- A FLOAT from two numeric parameters, which are read from left to right. -/
def ofNumbers (first second : String) (f : Float → Float → Eval Float) : Builder := fun args _ => do
  let a ← args.floatSource first
  let b ← args.floatSource second
  pure (.float (Source.propagating args.values do f (← a.compute) (← b.compute)))

/-- An INTEGER from integers and a FLOAT from other numbers, for the parameters `x` and `y`. -/
def arithmetic (onIntegers : Eval Int64 → Eval Int64 → Eval Int64)
    (onFloats : Eval Float → Eval Float → Eval Float) : Builder := fun args type => do
  if type.base = some .integer then
    let x ← args.source "x" .integer
    let y ← args.source "y" .integer
    pure (.integer (Source.propagating args.values (onIntegers x.compute y.compute)))
  else
    let x ← args.floatSource "x"
    let y ← args.floatSource "y"
    pure (.float (Source.propagating args.values (onFloats x.compute y.compute)))

/-- The values of all sources, read from left to right. -/
def computeAll {α : Type} (sources : List (Source α)) : Eval (List α) := sources.mapM Source.compute

/-- A result from all arguments as floats. -/
def reduceFloats (k : Kind) (f : List Float → k.Carrier) : Builder := fun args _ => do
  let floats ← args.values.mapM Computer.asFloat
  pure (.of k (Source.propagating args.values do pure (f (← computeAll floats))))

/-- An INTEGER from all arguments if they are integers, and a FLOAT from other numbers. -/
def reduceNumbers (onIntegers : List Int64 → Int64) (onFloats : List Float → Float) : Builder :=
  fun args type => do
    if type.base = some .integer then
      let integers ← args.values.mapM (Computer.as .integer)
      pure (.integer (Source.propagating args.values do
        pure (onIntegers (← computeAll integers))))
    else reduceFloats .float onFloats args type

end Rowwise.Builder
