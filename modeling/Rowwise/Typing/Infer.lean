import Rowwise.Expr.Parser
import Rowwise.Typing.Operators

/-!
# Type inference

`Expr.infer` types a tree from the leaves to the root, notes the type of every node and binds
every call to an overload.  Errors are collected; a node whose children have errors adds none of
its own, so that one mistake is reported once.

Notes are written once.  Inference over a tree that has been typed before keeps the notes that
agree, and reports the nodes whose notes do not.
-/

namespace Rowwise

inductive CompileErrorKind where
  | syntaxError
  | missingColumn
  | missingFlowVariable
  | unsupportedType
  | typeMismatch
  | unknownFunction
  | unknownAggregation
  | argumentMismatch
  | literalRequired
  | alreadyTyped
  deriving DecidableEq, Repr

/-- The name of a kind of mistake. -/
def CompileErrorKind.name : CompileErrorKind → String
  | syntaxError => "SYNTAX"
  | missingColumn => "MISSING_COLUMN"
  | missingFlowVariable => "MISSING_FLOW_VARIABLE"
  | unsupportedType => "UNSUPPORTED_TYPE"
  | typeMismatch => "TYPE_MISMATCH"
  | unknownFunction => "UNKNOWN_FUNCTION"
  | unknownAggregation => "UNKNOWN_AGGREGATION"
  | argumentMismatch => "ARGUMENT_MISMATCH"
  | literalRequired => "LITERAL_REQUIRED"
  | alreadyTyped => "ALREADY_TYPED"

/-- A mistake in an expression, with the part of the source that it is about. -/
structure CompileError where
  kind : CompileErrorKind
  message : String
  span : Span
  deriving DecidableEq

/-- A syntax error as a mistake in its source. -/
def CompileError.ofSyntaxError (e : SyntaxError) (source : String) : CompileError :=
  ⟨.syntaxError, e.message, e.span source⟩

/-- The text of one or more mistakes. -/
def CompileError.messageOf : List CompileError → String
  | [e] => e.message
  | es => s!"{es.length} errors:" ++ String.join (es.map fun e => "\n  " ++ e.message)

/-- Why a name has no type. -/
inductive Unresolved where
  /-- Nothing has that name. -/
  | absent (message : String)
  /-- What has that name cannot be used in expressions. -/
  | unsupported (message : String)
  deriving DecidableEq

/-- What names mean while an expression is typed. -/
structure TypingContext where
  column : ColumnRef → Except Unresolved ValueType
  flowVariable : String → Except Unresolved ValueType
  functions : Library Function
  aggregations : Library Aggregation

/-- The types of the properties that every row has. -/
def ColumnRef.rowType? : ColumnRef → Option ValueType
  | .rowId => some (.required .string)
  | .rowIndex | .rowNumber => some (.required .integer)
  | .named .. => none

namespace TypingContext

def noColumn (name : String) : Unresolved :=
  .absent s!"No column with the name '{name}' is available."

def noFlowVariable (name : String) : Unresolved :=
  .absent s!"No flow variable with the name '{name}' is available."

/-- Rows without named columns. -/
def onlyRows (ref : ColumnRef) : Except Unresolved ValueType :=
  match ref.rowType? with
  | some t => .ok t
  | none => .error (noColumn (ref.name?.getD ""))

/-- No rows, as for expressions over flow variables. -/
def noRows : ColumnRef → Except Unresolved ValueType
  | .named .. =>
    .error (.absent "No row values are available. Use '$$' to access flow variables.")
  | _ => .error (.absent "No rows are available.")

/-- No flow variables. -/
def noFlowVariables (name : String) : Except Unresolved ValueType :=
  .error (noFlowVariable name)

end TypingContext

/-- The outcome of typing a node. -/
abbrev Inferred := Except (List CompileError) ValueType

namespace Typing

def fault (kind : CompileErrorKind) (message : String) (span : Span) : Inferred :=
  .error [⟨kind, message, span⟩]

def mismatched (span : Span) : Except String ValueType → Inferred
  | .ok t => .ok t
  | .error message => fault .typeMismatch message span

/-- The error of a name without a type; `kind` is that of a name that nothing has. -/
def resolved (kind : CompileErrorKind) (span : Span) : Except Unresolved ValueType → Inferred
  | .ok t => .ok t
  | .error (.absent message) => fault kind message span
  | .error (.unsupported message) => fault .unsupportedType message span

/-- The error of a note that does not agree with what was noted before. -/
def disagreement (what : String) (span : Span) : Inferred :=
  fault .alreadyTyped
    (what ++ ". Parse the expression again to type it in another context.") span

/-- The types of all children, or all of their errors. -/
def allTypes (results : List Inferred) : Except (List CompileError) (List ValueType) :=
  let errors := results.flatMap fun
    | .ok _ => []
    | .error es => es
  if errors.isEmpty then
    .ok (results.filterMap fun
      | .ok t => some t
      | .error _ => none)
  else .error errors

/-- Notes the type of a node, unless another one is noted already. -/
def settle (e : Expr) : Inferred → Expr × Inferred
  | .error es => (e, .error es)
  | .ok t =>
    match e.type? with
    | none => (e.withNote { e.note with type := some t }, .ok t)
    | some s =>
      if s = t then (e, .ok t)
      else
        (e, disagreement s!"The expression is already typed as {s.name}, not {t.name}" e.span)

/-- Binds a call, unless it is bound to another target already. -/
def bindCall (name : String) (span : Span) (old : Option Resolution) (new : Resolution)
    (t : ValueType) : Option Resolution × Inferred :=
  match old with
  | none => (some new, .ok t)
  | some r =>
    if r.sameTarget new then (old, .ok t)
    else
      (old, disagreement s!"The call to '{name}' is already bound to another signature" span)

/-- The error of an unknown name, with the names that look like it. -/
def unknownName (ctx : TypingContext) (kind : CompileErrorKind) (what name : String)
    (span : Span) : CompileError :=
  let suggestions := ctx.functions.suggest name ++ ctx.aggregations.suggest name
  let hint :=
    if suggestions.isEmpty then ""
    else
      let quoted := suggestions.map fun s => s!"'{s}'"
      " Did you mean " ++ " or ".intercalate quoted ++ "?"
  ⟨kind, s!"Unknown {what} '{name}'." ++ hint, span⟩

/-! ## Calls of functions -/

/-- The outcome of trying one overload: its bound arguments and result type, or the reason why it
does not apply. -/
def tryOverload (o : Overload) (args : List ArgumentType) :
    Except String (Arguments Binding × ValueType) :=
  match bindArguments o.params args with
  | .error failure => .error failure.message
  | .ok bound =>
    let types := bound.map fun
      | .argument i => ((args[i]?).map (·.2)).getD .missing
      | .default v => v.valueType
    (o.typeRule types).map (bound, ·)

/-- The first overload that applies, or the reasons why none does. -/
def chooseOverload (args : List ArgumentType) :
    (index : Nat) → List Overload →
      Except (List String) (Nat × Arguments Binding × ValueType)
  | _, [] => .error []
  | index, o :: os =>
    match tryOverload o args with
    | .ok (bound, t) => .ok (index, bound, t)
    | .error reason =>
      match chooseOverload args (index + 1) os with
      | .ok found => .ok found
      | .error reasons => .error (reason :: reasons)

/-- Why a call fits no overload: the reason of the only one, or all signatures. -/
def overloadMismatch (f : Function) (name : String) (types : List ValueType) :
    List String → String
  | [reason] => s!"In function '{name}': {reason}"
  | _ =>
    s!"In function '{name}': No signature accepts the arguments (" ++
      ", ".intercalate (types.map ValueType.name) ++ "). Expected " ++
      " or ".intercalate f.signatures ++ "."

/-- Types a call of a function, given the results of its arguments. -/
def inferCall (ctx : TypingContext) (name : String) (span : Span)
    (names : List (Option String)) (results : List Inferred) (old : Option Resolution) :
    Option Resolution × Inferred :=
  let types := allTypes results
  match ctx.functions.get? name with
  | none =>
    let errors := match types with
      | .ok _ => []
      | .error es => es
    (old, .error (errors ++ [unknownName ctx .unknownFunction "function" name span]))
  | some f =>
    match types with
    | .error es => (old, .error es)
    | .ok types =>
      match chooseOverload (names.zip types) 0 f.overloads with
      | .ok (index, bound, t) => bindCall name span old (.function f index bound) t
      | .error reasons =>
        (old, fault .argumentMismatch (overloadMismatch f name types reasons) span)

/-! ## Calls of aggregations -/

/-- How an argument is called in messages. -/
def argumentLabel (position : Nat) : Option String → String
  | some name => s!"Argument '{name}'"
  | none => s!"Argument {position + 1}"

/-- The literals of the arguments of an aggregation, or an error for each that is none. -/
def literals (name : String) :
    (position : Nat) → List (Option String × Expr) → List (Except CompileError Value)
  | _, [] => []
  | position, (label, value) :: rest =>
    let here : Except CompileError Value :=
      match value with
      | .constant _ c => .ok c.toValue
      | e =>
        .error ⟨.literalRequired,
          s!"In aggregation '{name}': {argumentLabel position label} must be a literal value.",
          e.span⟩
    here :: literals name (position + 1) rest

/-- Types a call of an aggregation. -/
def inferAggregation (ctx : TypingContext) (a : Aggregation) (name : String) (span : Span)
    (args : List (Option String × Expr)) (old : Option Resolution) :
    Option Resolution × Inferred :=
  let fail := fun (kind : CompileErrorKind) (message : String) =>
    (old, fault kind s!"In aggregation '{name}': {message}" span)
  let found := literals name 0 args
  let errors := found.filterMap fun
    | .ok _ => none
    | .error e => some e
  let values := found.filterMap fun
    | .ok v => some v
    | .error _ => none
  if !errors.isEmpty then (old, .error errors)
  else
    match bindArguments a.params ((args.map (·.1)).zip (values.map Value.valueType)) with
    | .error failure => fail .argumentMismatch failure.message
    | .ok bound =>
      let bound := bound.map fun
        | .argument i => values.getD i .missing
        | .default v => v
      match Aggregation.columnName? bound with
      | none => fail .argumentMismatch "No column given."
      | some column =>
        match ctx.column (.named column 0) with
        | .error (.absent message) => fail .missingColumn message
        | .error (.unsupported message) => fail .unsupportedType message
        | .ok columnType =>
          match a.returnType columnType with
          | .error reason => fail .argumentMismatch reason
          | .ok t => bindCall name span old (.aggregation a columnType bound) t

end Typing

/-- Notes the types of the literals among the arguments of an aggregation. -/
def Args.noteLiterals : Args → Args
  | .nil => .nil
  | .cons name value rest =>
    let value :=
      match value with
      | .constant note c => .constant { note with type := some (note.type.getD c.valueType) } c
      | e => e
    .cons name value rest.noteLiterals

open Typing in
mutual

/-- Types an expression: the tree with its notes, and the type or the errors. -/
def Expr.infer (ctx : TypingContext) : Expr → Expr × Inferred
  | .constant note c => settle (.constant note c) (.ok c.valueType)
  | .column note ref =>
    settle (.column note ref) (resolved .missingColumn note.span (ctx.column ref))
  | .flowVariable note name =>
    settle (.flowVariable note name)
      (resolved .missingFlowVariable note.span (ctx.flowVariable name))
  | .unary note op arg =>
    let (arg, result) := arg.infer ctx
    settle (.unary note op arg) (result.bind fun t => mismatched note.span (unaryType op t))
  | .binary note left op right =>
    let (left, l) := left.infer ctx
    let (right, r) := right.infer ctx
    let result := (allTypes [l, r]).bind fun types =>
      mismatched note.span (binaryType op (types.getD 0 .missing) (types.getD 1 .missing))
    settle (.binary note left op right) result
  | .conditional note condition yes no =>
    let (condition, c) := condition.infer ctx
    let (yes, y) := yes.infer ctx
    let (no, n) := no.infer ctx
    let result := (allTypes [c, y, n]).bind fun types =>
      mismatched note.span (conditionalType (types.getD 0 .missing) (types.getD 1 .missing)
        (types.getD 2 .missing))
    settle (.conditional note condition yes no) result
  | .call note .function name args resolution =>
    let (args, results) := args.infer ctx
    let (resolution, result) :=
      inferCall ctx name note.span (args.toList.map (·.1)) results resolution
    settle (.call note .function name args resolution) result
  | .call note .aggregation name args resolution =>
    match ctx.aggregations.get? name with
    | none =>
      (.call note .aggregation name args resolution,
        .error [unknownName ctx .unknownAggregation "aggregation" name note.span])
    | some a =>
      let args := args.noteLiterals
      let (resolution, result) :=
        inferAggregation ctx a name note.span args.toList resolution
      settle (.call note .aggregation name args resolution) result

/-- Types the arguments of a call. -/
def Args.infer (ctx : TypingContext) : Args → Args × List Inferred
  | .nil => (.nil, [])
  | .cons name value rest =>
    let (value, result) := value.infer ctx
    let (rest, results) := rest.infer ctx
    (.cons name value rest, result :: results)

end

/-- Parses and types a source text. -/
def compile (source : String) (ctx : TypingContext) :
    Except (List CompileError) (Expr × ValueType) :=
  match parse source with
  | .error e => .error [CompileError.ofSyntaxError e source]
  | .ok e =>
    match e.infer ctx with
    | (e, .ok t) => .ok (e, t)
    | (_, .error es) => .error es

end Rowwise
