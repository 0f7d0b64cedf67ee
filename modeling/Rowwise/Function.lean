import Rowwise.Computer
import Rowwise.Named
import Rowwise.Signature
import Rowwise.Text.Similarity
import Rowwise.Text.Case

/-!
# Functions and libraries of them

A function has one or more overloads, each with a signature, a rule for the type of its result,
and a way to build the computer of the result from those of the arguments.  A call is bound to
the first overload whose signature accepts the arguments and whose type rule succeeds.

A `Library` is a list of callables with distinct names; `Library.suggest` lists the names that
look like a wrong one.
-/

namespace Rowwise

/-- What functions are listed under. -/
inductive Category where
  | control
  | mathGeneral
  | mathRound
  | mathAggregate
  | mathTrigonometry
  | mathDistributions
  | string
  | temporal
  | aggregation
  deriving DecidableEq, Repr

def Category.name : Category → String
  | control => "Control"
  | mathGeneral => "Math: General"
  | mathRound => "Math: Round"
  | mathAggregate => "Math: Aggregate"
  | mathTrigonometry => "Math: Trigonometry"
  | mathDistributions => "Math: Distributions"
  | string => "String"
  | temporal => "Temporal"
  | aggregation => "Column Aggregations"

/-- The rule for the type of a result: the type, or the reason why there is none. -/
abbrev TypeRule := Arguments ValueType → Except String ValueType

/-- Builds the computer of a result of the given type from the computers of the arguments. -/
abbrev Builder := Arguments Computer → ValueType → Except EvalError Computer

structure Overload where
  params : List Param
  typeRule : TypeRule
  build : Builder

/-- A function.  The number of the library that it belongs to tells functions of one name
apart. -/
structure Function where
  name : String
  category : Category
  description : String
  keywords : List String
  overloads : List Overload
  library : Nat := 0

namespace Function

/-- One line for each overload. -/
def signatures (f : Function) : List String :=
  f.overloads.map fun o => f.name ++ Param.describeAll o.params

/-- Whether two functions are the same one. -/
def isSame (f g : Function) : Bool := f.library == g.library && f.name == g.name

/-- A function with one overload. -/
def simple (name : String) (category : Category) (description : String) (keywords : List String)
    (params : List Param) (typeRule : TypeRule) (build : Builder) : Function :=
  { name, category, description, keywords, overloads := [⟨params, typeRule, build⟩] }

end Function

/-! ## Libraries -/

/-- Callables with distinct names, in order. -/
abbrev Library (α : Type) := Named α

namespace Library

variable {α : Type}

/-- The library of a list of callables; of two with one name the later one takes the place of the
earlier one. -/
def ofList (name : α → String) (items : List α) : Library α :=
  items.foldl (fun l a => l.insert (name a) a) .empty

/-- How similar two names are without regard to case, if they are close at all. -/
def closeness? (wanted name : String) : Option Float :=
  let a := Text.lower wanted.toList
  let b := Text.lower name.toList
  let similarity := Text.jaroWinkler a b
  if Text.editDistance a b ≤ 3 || similarity > 0.8 then some similarity else none

/-- The three names that look most like the wanted one, the closest first. -/
def suggest (l : Library α) (wanted : String) : List String :=
  let scored := l.names.filterMap fun name => (closeness? wanted name).map (·, name)
  ((scored.mergeSort fun a b => a.1 ≥ b.1).take 3).map (·.2)

end Library

/-! ## Parts of type rules and builders -/

namespace Arguments

def anyOptional (args : Arguments ValueType) : Bool := args.values.any (·.isOptional)

def allInteger (args : Arguments ValueType) : Bool := args.values.all (·.base == some .integer)

/-- The computer of a parameter that is always bound. -/
def required (args : Arguments Computer) (name : String) : Except EvalError Computer :=
  match args.get? name with
  | some c => .ok c
  | none => .error (.fault (.unboundArgument name))

/-- The source of a parameter of kind `k` that is always bound. -/
def source (args : Arguments Computer) (name : String) (k : Kind) :
    Except EvalError (Source k.Carrier) := do
  (← args.required name).as k

/-- The source of a numeric parameter that is always bound, as floats. -/
def floatSource (args : Arguments Computer) (name : String) : Except EvalError (Source Float) := do
  (← args.required name).asFloat

/-- The source of a parameter of kind `k`, if it is bound. -/
def source? (args : Arguments Computer) (name : String) (k : Kind) :
    Except EvalError (Option (Source k.Carrier)) :=
  match args.get? name with
  | some c => some <$> c.as k
  | none => .ok none

/-- The source of a numeric parameter as floats, if it is bound. -/
def floatSource? (args : Arguments Computer) (name : String) :
    Except EvalError (Option (Source Float)) :=
  match args.get? name with
  | some c => some <$> c.asFloat
  | none => .ok none

end Arguments

namespace TypeRule

/-- The kind, optional if an argument is. -/
def propagate (k : Kind) : TypeRule := fun args => .ok (.of k args.anyOptional)

/-- The kind, optional if one of the named arguments is. -/
def propagateFrom (k : Kind) (names : List String) : TypeRule := fun args =>
  .ok (.of k ((names.flatMap args.all).any (·.isOptional)))

/-- One type for all arguments. -/
def exactly (t : ValueType) : TypeRule := fun _ => .ok t

/-- INTEGER if all arguments are, otherwise FLOAT. -/
def integerIfAll : TypeRule := fun args =>
  .ok (.of (if args.allInteger then .integer else .float) args.anyOptional)

end TypeRule

namespace Source

variable {α : Type}

/-- Missing if one of the inputs is, otherwise computed. -/
def propagating (inputs : List Computer) (compute : Eval α) : Source α :=
  ⟨Computer.anyMissing inputs, compute⟩

/-- Missing if one of the inputs is, or if the computation finds no value. -/
def partialOver (inputs : List Computer) (compute : Eval (Option α)) : Source α :=
  { isMissing := do
      if ← Computer.anyMissing inputs then pure true else pure (← compute).isNone
    compute := do
      match ← compute with
      | some a => pure a
      | none => throw (.fault .computedMissing) }

end Source

end Rowwise
