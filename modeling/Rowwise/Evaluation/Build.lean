import Rowwise.Evaluation.Operators
import Rowwise.Expr.Printer

/-!
# Computers of expressions

`Expr.build` turns a typed expression into a computer, given those that the host has for columns,
flow variables and aggregations.  Building reads no rows; it fails at the first name that the
host does not serve.
-/

namespace Rowwise

/-- The computers that a host serves. -/
structure Host where
  column : ColumnRef → Option Computer
  flowVariable : String → Option Computer
  /-- The computer of a call of an aggregation. -/
  aggregation : Expr → Option Computer

namespace Host

/-- A host that serves nothing. -/
def empty : Host := ⟨fun _ => none, fun _ => none, fun _ => none⟩

end Host

namespace Evaluation

/-- The type of a node that has been typed. -/
def typeOf (e : Expr) : Except EvalError ValueType :=
  match e.type? with
  | some t => .ok t
  | none => .error (.fault (.untyped e.print))

/-- The computer of an overload's result, given those of all arguments of the call. -/
def buildCall (name : String) (resolution : Option Resolution)
    (args : List (Except EvalError Computer)) (type : Except EvalError ValueType) :
    Except EvalError Computer :=
  match resolution with
  | some (.function f index bound) => do
    let bound ← bound.mapExcept fun
      | .argument i =>
        match args[i]? with
        | some c => c
        | none => .error (.fault (.noSuchArgument i name))
      | .default v => .ok (.constant v)
    match f.overloads[index]? with
    | some o => o.build bound (← type)
    | none => .error (.fault (.noSuchOverload index name))
  | _ => .error (.fault (.unresolvedFunction name))

end Evaluation

open Evaluation in
mutual

/-- The computer of a typed expression. -/
def Expr.build (host : Host) : Expr → Except EvalError Computer
  | .constant _ c => .ok (.constant c.toValue)
  | .column _ ref =>
    match host.column ref with
    | some c => .ok c
    | none => .error (.unresolvedColumn (Printer.column ref))
  | .flowVariable _ name =>
    match host.flowVariable name with
    | some c => .ok c
    | none => .error (.unresolvedFlowVariable name)
  | .unary _ op arg => do Operator.unary op (← arg.build host)
  | e@(.binary _ left op right) => do
    let type ← typeOf e
    let l ← left.build host
    let r ← right.build host
    Operator.binary op type.base l r
  | e@(.conditional _ condition yes no) => do
    let base := (← typeOf e).base
    let condition ← (← condition.build host).as .boolean
    let yes ← (← yes.build host).coerce base
    let no ← (← no.build host).coerce base
    Computer.zip (Source.select condition) yes no
  | e@(.call _ .function name args resolution) =>
    buildCall name resolution (args.build host) (typeOf e)
  | e@(.call _ .aggregation name _ _) =>
    match host.aggregation e with
    | some c => .ok c
    | none => .error (.unresolvedAggregation name)

/-- The computers of the arguments of a call. -/
def Args.build (host : Host) : Args → List (Except EvalError Computer)
  | .nil => []
  | .cons _ value rest => value.build host :: rest.build host

end

end Rowwise
