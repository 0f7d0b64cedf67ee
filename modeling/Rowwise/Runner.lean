import Rowwise.Functions.BuiltIn
import Rowwise.Table

/-!
# Running expressions over a table

A runner holds expressions under the names of the columns or flow variables that they produce.
It runs them one after the other, and later ones see what earlier ones produced.  Every
expression starts with an empty log of warnings, of which the first one is kept.
-/

namespace Rowwise

/-- Why a run stopped.  Expressions are numbered from 1. -/
inductive RunError where
  | compile (index : Nat) (errors : List CompileError)
  | evaluation (index : Nat) (cause : EvalError)
  | invalidResult (index : Nat) (reason : String)
  | unknownColumn (index : Nat) (name : String)
  | columnExists (index : Nat) (name : String)
  | table (cause : TableError)

def RunError.message : RunError → String
  | compile index errors => s!"Expression {index}: {CompileError.messageOf errors}"
  | evaluation index cause => s!"Expression {index}: {cause.message}"
  | invalidResult index reason => s!"Expression {index}: {reason}"
  | unknownColumn index name =>
    s!"Expression {index} replaces the column '{name}', which does not exist."
  | columnExists index name =>
    s!"Expression {index} appends the column '{name}', which already exists."
  | table cause => cause.message

/-- What an expression does with its column. -/
inductive InsertionMode where
  | append
  | replace
  deriving DecidableEq, Repr, Inhabited

structure Output where
  source : String
  mode : InsertionMode := .append
  deriving Inhabited

/-- Expressions in order, under the names of what they produce. -/
abbrev Runner := Named Output

/-- A result with the first warning of every expression. -/
structure WithWarnings (α : Type) where
  result : α
  warnings : List (Option String)

namespace Runner

def mustNotBeMissing : String := "The full expression must not evaluate to MISSING."

/-- The names that an expression over a table can use. -/
def rowContext (t : Table) (vars : FlowVariables) : TypingContext :=
  { column := t.columnType, flowVariable := vars.typeOf
    functions := Functions.library, aggregations := Aggregation.library }

/-- The names that an expression over flow variables can use. -/
def variableContext (vars : FlowVariables) : TypingContext :=
  { column := TypingContext.noRows, flowVariable := vars.typeOf
    functions := Functions.library, aggregations := Aggregation.library }

/-- Compiles the expression with number `index`. -/
def compileAt (index : Nat) (source : String) (ctx : TypingContext) :
    Except RunError (Expr × ValueType) :=
  (compile source ctx).mapError (.compile index)

/-- The values of a computer on the rows from 0 to `count - 1`, read in order. -/
def valuesOf (c : Computer) (start : ZonedDateTime) (count : Nat) :
    ExceptT EvalError (StateM WarningLog) (List Value) :=
  (List.range count).mapM fun row => c.value ⟨row, start⟩

/-- The values of an expression on all rows, and its warnings. -/
def evaluateRows (index : Nat) (e : Expr) (type : ValueType) (t : Table) (vars : FlowVariables)
    (start : ZonedDateTime) : Except RunError (List Value × List String) := do
  let c ← ((e.build (t.host vars)).bind (·.coerce type.base)).mapError (.evaluation index)
  let (values, log) := (valuesOf c start t.rowCount).run {}
  pure (← values.mapError (.evaluation index), log.messages)

/-- Refuses to append a column that is there, or to replace one that is not. -/
def checkMode (index : Nat) (name : String) (mode : InsertionMode) (t : Table) :
    Except RunError Unit :=
  match mode, t.hasColumn name with
  | .replace, false => .error (.unknownColumn index name)
  | .append, true => .error (.columnExists index name)
  | _, _ => .ok ()

/-- Runs one expression over a table. -/
def runOne (index : Nat) (name : String) (o : Output) (vars : FlowVariables)
    (start : ZonedDateTime) (t : Table) : Except RunError (Table × Option String) := do
  checkMode index name o.mode t
  let (e, type) ← compileAt index o.source (rowContext t vars)
  if type.isMissing then throw (.invalidResult index mustNotBeMissing)
  let (values, warnings) ← evaluateRows index e type t vars start
  let t ← (t.setColumn name type values).mapError .table
  pure (t, warnings.head?)

/-- Runs steps in order, numbered from `index`, and collects the warnings. -/
def inOrder {α : Type} (step : Nat → String → Output → α → Except RunError (α × Option String)) :
    (index : Nat) → List (String × Output) → α → Except RunError (WithWarnings α)
  | _, [], a => .ok ⟨a, []⟩
  | index, (name, o) :: rest, a => do
    let (a, warning) ← step index name o a
    let done ← inOrder step (index + 1) rest a
    pure { done with warnings := warning :: done.warnings }

/-- Computes every column in order. -/
def run (r : Runner) (t : Table) (vars : FlowVariables) (start : ZonedDateTime) :
    Except RunError (WithWarnings Table) :=
  inOrder (fun index name o => runOne index name o vars start) 1 r.entries t

/-- Computes one flow variable. -/
def setOne (start : ZonedDateTime) (index : Nat) (name : String) (o : Output)
    (vars : FlowVariables) : Except RunError (FlowVariables × Option String) := do
  let (e, type) ← compileAt index o.source (variableContext vars)
  if type.isOptional then throw (.invalidResult index mustNotBeMissing)
  let host : Host := { Host.empty with flowVariable := vars.computer }
  let c ← ((e.build host).bind (·.coerce type.base)).mapError (.evaluation index)
  let (value, log) := c.value.at_ ⟨0, start⟩ {}
  let vars ← (vars.set name (← value.mapError (.evaluation index))).mapError .table
  pure (vars, log.messages.head?)

/-- Computes every flow variable in order. -/
def runVariables (r : Runner) (vars : FlowVariables) (start : ZonedDateTime) :
    Except RunError (WithWarnings FlowVariables) :=
  inOrder (setOne start) 1 r.entries vars

/-- Keeps the rows on which an expression is present and true. -/
def filterRows (source : String) (t : Table) (vars : FlowVariables) (start : ZonedDateTime) :
    Except RunError (WithWarnings Table) := do
  let (e, type) ← compileAt 1 source (rowContext t vars)
  if type.base ≠ some .boolean then
    throw (.invalidResult 1
      s!"A row filter must evaluate to BOOLEAN, but it evaluates to {type.name}.")
  let (values, warnings) ← evaluateRows 1 e type t vars start
  let keep := values.map fun v => v.same (.boolean true)
  pure ⟨t.filter keep, [warnings.head?]⟩

end Runner

end Rowwise
