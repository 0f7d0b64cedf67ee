import Rowwise.Function
import Rowwise.FloatMath

/-!
# Column aggregations

An aggregation reduces a whole column to one value.  Its arguments are literals: the name of the
column and a flag.  `Accumulator` folds the cells of a column one after the other, and
`Accumulator.result` gives the computer of the outcome, which may also be a warning or an error
on every row.
-/

namespace Rowwise

/-- What an aggregation computes. -/
inductive Statistic where
  | max
  | min
  | average
  | median
  | sum
  | variance
  | deviation
  | count
  deriving DecidableEq, Repr

structure Aggregation where
  name : String
  statistic : Statistic
  description : String
  keywords : List String

namespace Aggregation

/-- The parameters: the column, and whether NaN or MISSING cells are left out. -/
def params (a : Aggregation) : List Param :=
  let flag := if a.statistic = .count then "ignore_missing" else "ignore_nan"
  [.required "column" (.kind .string), .withDefault flag (.kind .boolean) (.boolean false)]

def signature (a : Aggregation) : String := a.name ++ Param.describeAll a.params

/-- The column that the bound arguments name. -/
def columnName? (args : Arguments Value) : Option String :=
  (args.get? "column").bind (·.as? .string)

/-- The type of the result for a column of some type, or the reason why there is none. -/
def returnType (a : Aggregation) (column : ValueType) : Except String ValueType :=
  match a.statistic, column with
  | .count, _ => .ok (.required .integer)
  | .max, .of .integer _ | .min, .of .integer _ | .sum, .of .integer _ =>
    .ok (.optionalOf .integer)
  | _, .of .integer _ | _, .of .float _ => .ok (.optionalOf .float)
  | _, t =>
    .error (s!"{a.name} requires an INTEGER or FLOAT column, but the column is " ++
      s!"{t.requiredForm.name}.")

/-- The aggregations, in the order in which they are listed. -/
def builtIns : List Aggregation :=
  [ { name := "COLUMN_MAX", statistic := .max
      description := "The largest value of a numeric column. MISSING cells are skipped; NaN wins "
        ++ "unless `ignore_nan` is TRUE."
      keywords := ["maximum", "largest", "top"] },
    { name := "COLUMN_MIN", statistic := .min
      description := "The smallest value of a numeric column."
      keywords := ["minimum", "smallest", "bottom"] },
    { name := "COLUMN_AVERAGE", statistic := .average
      description := "The arithmetic mean of a numeric column."
      keywords := ["mean", "avg"] },
    { name := "COLUMN_MEDIAN", statistic := .median
      description := "The median of a numeric column; the mean of the two middle values for an "
        ++ "even number of values."
      keywords := ["middle", "percentile"] },
    { name := "COLUMN_SUM", statistic := .sum
      description := "The sum of a numeric column."
      keywords := ["total", "add"] },
    { name := "COLUMN_VARIANCE", statistic := .variance
      description := "The population variance of a numeric column."
      keywords := ["spread", "dispersion"] },
    { name := "COLUMN_STD_DEV", statistic := .deviation
      description := "The population standard deviation of a numeric column."
      keywords := ["standard deviation", "spread", "sigma"] },
    { name := "COLUMN_COUNT", statistic := .count
      description := "The number of rows, or of non-MISSING cells of the column if "
        ++ "`ignore_missing` is TRUE."
      keywords := ["rows", "size", "length"] } ]

def library : Library Aggregation := Library.ofList Aggregation.name builtIns

end Aggregation

/-! ## Accumulators -/

/-- The largest or smallest number so far. -/
structure Extreme where
  name : String
  isFloat : Bool
  ignoreNaN : Bool
  largest : Bool
  integer : Option Int64 := none
  float : Option Float := none
  seen : Bool := false
  sawNaN : Bool := false

/-- The sum so far; that of integers is lost once it does not fit. -/
structure RunningSum where
  isFloat : Bool
  ignoreNaN : Bool
  integer : Option Int64 := some 0
  float : Float := 0
  seen : Bool := false
  allNaN : Bool := true

/-- The numbers of a column, to be reduced at the end. -/
structure Collected where
  name : String
  ignoreNaN : Bool
  reduce : List Float → Float
  /-- The numbers, the last one first. -/
  values : List Float := []
  seen : Bool := false

/-- The state of an aggregation over the cells of a column. -/
inductive Accumulator where
  | extreme (e : Extreme)
  | sum (s : RunningSum)
  | collected (c : Collected)
  | count (ignoreMissing : Bool) (n : Int64)

namespace Extreme

/-- The better one of two integers. -/
def better (e : Extreme) (a b : Int64) : Int64 := if e.largest then max a b else min a b

/-- The better one of two floats that are not NaN. -/
def betterFloat (e : Extreme) (a b : Float) : Float :=
  if e.largest then FloatMath.max a b else FloatMath.min a b

def add (e : Extreme) : Value → Extreme
  | .of .integer n =>
    { e with seen := true, integer := some ((e.integer.map fun best => e.better best n).getD n) }
  | .of .float x =>
    if x.isNaN then { e with seen := true, sawNaN := true }
    else
      { e with seen := true, float := some ((e.float.map fun best => e.betterFloat best x).getD x) }
  | _ => e

end Extreme

namespace RunningSum

def add (s : RunningSum) : Value → RunningSum
  | .of .integer n =>
    { s with seen := true, integer := s.integer.bind fun sum => Integer.checkedAdd sum n }
  | .of .float x =>
    { s with
      seen := true
      allNaN := s.allNaN && x.isNaN
      float := if s.ignoreNaN && x.isNaN then s.float else s.float + x }
  | _ => s

end RunningSum

namespace Collected

def add (c : Collected) (v : Value) : Collected :=
  match v.asFloat? with
  | none => c
  | some x =>
    { c with seen := true, values := if c.ignoreNaN && x.isNaN then c.values else x :: c.values }

end Collected

namespace Accumulator

/-- Takes the next cell into account. -/
def add (a : Accumulator) (v : Value) : Accumulator :=
  match a with
  | extreme e => extreme (e.add v)
  | sum s => sum (s.add v)
  | collected c => collected (c.add v)
  | count ignoreMissing n =>
    if ignoreMissing && v.isMissing then a else count ignoreMissing (n + 1)

/-- A source that is missing on every row and warns each time it is asked. -/
def warnMissing {α : Type} (warning : String) : Source α :=
  { isMissing := do Eval.warn warning; pure true
    compute := throw (.fault .computedMissing) }

/-- A computer for a column without a result. -/
def missingResult (isFloat : Bool) (warning : String) : Computer :=
  if isFloat then .float (warnMissing warning) else .integer (warnMissing warning)

def allMissing (name : String) : String :=
  s!"{name} returned MISSING because all values were MISSING."

def allMissingOrNaN (name : String) : String :=
  s!"{name} returned MISSING because all values were either MISSING or NaN."

/-- The computer of the result after the cells so far. -/
def result : Accumulator → Computer
  | extreme e =>
    if !e.seen then missingResult e.isFloat (allMissing e.name)
    else
      match e.integer with
      | some n => .constant (.integer n)
      | none =>
        if e.sawNaN && !e.ignoreNaN then .constant (.float FloatMath.nan)
        else
          match e.float with
          | some x => .constant (.float x)
          | none => missingResult e.isFloat (allMissingOrNaN e.name)
  | sum s =>
    if !s.seen then missingResult s.isFloat (allMissing "COLUMN_SUM")
    else if !s.isFloat then
      match s.integer with
      | some n => .constant (.integer n)
      | none => .integer (Source.present (Eval.fail (.outOfRange (some .integer))))
    else if s.ignoreNaN && s.allNaN then
      .float (Source.present do
        Eval.warn "COLUMN_SUM returned 0 because all values were NaN."
        pure 0)
    else .constant (.float s.float)
  | collected c =>
    if !c.seen then missingResult true (allMissing c.name)
    else if c.values.isEmpty then missingResult true (allMissingOrNaN c.name)
    else .constant (.float (c.reduce c.values.reverse))
  | count _ n => .constant (.integer n)

end Accumulator

namespace Aggregation

/-- An accumulator that has seen no cell, for a column of some base. -/
def accumulator (a : Aggregation) (args : Arguments Value) (base : Base) : Accumulator :=
  let flag := fun name => ((args.get? name).bind (·.as? .boolean)).getD false
  let ignoreNaN := flag "ignore_nan"
  let isFloat := base != some .integer
  let collect := fun reduce => Accumulator.collected { name := a.name, ignoreNaN, reduce }
  match a.statistic with
  | .max => .extreme { name := a.name, isFloat, ignoreNaN, largest := true }
  | .min => .extreme { name := a.name, isFloat, ignoreNaN, largest := false }
  | .sum => .sum { isFloat, ignoreNaN }
  | .average => collect FloatMath.mean
  | .median => collect FloatMath.median
  | .variance => collect FloatMath.variance
  | .deviation => collect FloatMath.deviation
  | .count => .count (flag "ignore_missing") 0

end Aggregation

end Rowwise
