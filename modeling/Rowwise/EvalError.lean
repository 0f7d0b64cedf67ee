import Rowwise.Integer
import Rowwise.Regex.Pattern
import Rowwise.ValueType

/-!
# Evaluation errors

Evaluating an expression can fail for a reason that lies in the values of a row, because the host
does not serve a name, or because the parts of the evaluator were put together wrongly.  The last
kind cannot happen to an expression that has been typed.
-/

namespace Rowwise

/-- What can fail on a row, as documented by an operator or function. -/
inductive RowFailure where
  | outOfRange (base : Base)
  | exponentTooLarge
  | precisionTooLarge
  | lengthTooLarge (length : Int64) (function : String)
  | dateOverflow
  | timeOverflow
  | durationTooLarge
  | dateTimeTooLarge
  | searchTooLarge
  deriving DecidableEq

/-- How the parts of the evaluator can fail to fit together. -/
inductive Fault where
  | computedMissing
  | cellKind
  | expectedKind (expected : Base) (got : Base)
  | mismatchedKinds (left right : Base)
  | notComparable (left right : Base)
  | unaryOperand (operator : String) (operand : Base)
  | operatorOutput (operator : String) (output : Base)
  | operatorOperands (operator : String) (left right : Base)
  | untyped (expression : String)
  | unresolvedFunction (name : String)
  | noSuchArgument (index : Nat) (function : String)
  | noSuchOverload (index : Nat) (function : String)
  | unboundArgument (name : String)
  | ifWithoutArguments
  | unpairedCondition
  | noPart (base : Base) (part : String)
  deriving DecidableEq

/-- An error of building or running an evaluation. -/
inductive EvalError where
  | failure (cause : RowFailure)
  | unresolvedColumn (column : String)
  | unresolvedFlowVariable (name : String)
  | unresolvedAggregation (name : String)
  | fault (cause : Fault)
  /-- The evaluation as a whole was cut short inside of a character. -/
  | aborted
  deriving DecidableEq

def RowFailure.message : RowFailure → String
  | outOfRange base => s!"Result was outside the range of values representable by `{base.name}`"
  | exponentTooLarge => "Exponent argument was too large."
  | precisionTooLarge => "precision arg was too large."
  | lengthTooLarge length function =>
    "The target length " ++ Integer.text length ++ s!" is too large for {function}."
  | dateOverflow => "Numerical overflow encountered while creating date value."
  | timeOverflow => "Numerical overflow encountered while creating time value."
  | durationTooLarge => "Duration values are too large."
  | dateTimeTooLarge => "Resulting date-time is too large to be represented."
  | searchTooLarge => Regex.tooLargeMessage

def Fault.message : Fault → String
  | computedMissing => "compute called on a missing value"
  | cellKind => "cell value has the wrong kind"
  | expectedKind expected got => s!"expected a {expected.name} computer, got {got.name}"
  | mismatchedKinds left right => s!"mismatched computer kinds {left.name} and {right.name}"
  | notComparable left right => s!"{left.name} and {right.name} are not comparable"
  | unaryOperand operator operand =>
    s!"operator '{operator}' cannot be applied to a {operand.name} computer"
  | operatorOutput operator output => s!"output of operator '{operator}' cannot be {output.name}"
  | operatorOperands operator left right =>
    s!"operator '{operator}' is not defined for {left.name} and {right.name}"
  | untyped expression => s!"expression `{expression}` was evaluated before typing"
  | unresolvedFunction name => s!"function '{name}' was not resolved"
  | noSuchArgument index function => s!"argument {index} of '{function}' does not exist"
  | noSuchOverload index function => s!"overload {index} of '{function}' does not exist"
  | unboundArgument name => s!"argument '{name}' is not bound"
  | ifWithoutArguments => "'if' called without arguments"
  | unpairedCondition => "'if' called with an unpaired condition"
  | noPart base part => s!"{base.name} computer has no {part}"

def EvalError.message : EvalError → String
  | failure cause => cause.message
  | unresolvedColumn column => s!"No computer is available for column {column}."
  | unresolvedFlowVariable name => s!"No computer is available for flow variable '{name}'."
  | unresolvedAggregation name => s!"The aggregation '{name}' is not implemented."
  | fault cause => cause.message ++ " (this is an implementation error)"
  | aborted => "evaluation aborted"

end Rowwise
