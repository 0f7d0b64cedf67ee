import Rowwise.Runner

/-!
# Diagnostics for an editor

The expressions of a list are checked without being run.  Beyond the mistakes of each expression
this finds the ones between them: reading what only a later expression produces, and reading what
an expression with mistakes was to produce.
-/

namespace Rowwise

inductive Severity where
  | error
  | warning
  deriving DecidableEq, Repr

/-- One remark on an expression. -/
structure Diagnostic where
  message : String
  shortMessage : String
  severity : Severity
  span : Option Span
  deriving DecidableEq

namespace Diagnostic

def error (message : String) (span : Option Span) : Diagnostic :=
  ⟨message, message, .error, span⟩

def warning (message : String) : Diagnostic := ⟨message, message, .warning, none⟩

/-- A mistake as a remark; for one of syntax there is a short form. -/
def ofCompileError (e : CompileError) : Diagnostic :=
  let d := error e.message (some e.span)
  if e.kind = .syntaxError then { d with shortMessage := "The expression has a syntax error." }
  else d

def ofSyntaxError (e : SyntaxError) (source : String) : Diagnostic :=
  ofCompileError (.ofSyntaxError e source)

end Diagnostic

namespace Diagnostics

def noInputTable : String := "No input table available. Connect a node first."

def mustBeBoolean : String :=
  "The full expression must return the value type BOOLEAN in order to filter out rows for which "
    ++ "the filter expression evaluates to false."

def unknownType : String := "UNKNOWN"

/-! ## Between expressions -/

/-- The outputs that are not there before the first expression runs. -/
def appended (outputs : List String) (isThere : String → Bool) : List (Option String) :=
  outputs.map fun name => if isThere name then none else some name

/-- What reading the output of an expression with mistakes is answered with. -/
def invalidOutput (index : Nat) (what name : String) : String :=
  s!"Expression {index + 1} that outputs {what} '{name}' has errors. Fix Expression {index + 1}."

/-- What nodes of an expression read. -/
structure Access where
  what : String
  read? : Expr → Option String

def columnAccess : Access where
  what := "column"
  read?
    | .column _ ref => ref.name?
    | _ => none

def variableAccess : Access where
  what := "flow variable"
  read?
    | .flowVariable _ name => some name
    | _ => none

/-- Remarks on the nodes of expression `index` that read what only it or a later one appends. -/
def premature (access : Access) (index : Nat) (appended : List (Option String)) (e : Expr) :
    List Diagnostic :=
  e.nodes.filterMap fun node => do
    let name ← access.read? node
    let owner ← appended.findIdx? (· == some name)
    if (appended.take index).contains (some name) then none
    else
      some (.error
        (s!"The {access.what} '{name}' was used before it was appended by Expression {owner + 1}. "
          ++ "Try reordering your expressions.")
        (some node.span))

/-! ## Expressions that compute columns -/

/-- The remarks on an expression, and the name of the base of its type. -/
structure MapperReport where
  diagnostics : List Diagnostic
  inferredType : String

/-- The columns that an expression sees: what expressions with mistakes were to produce cannot be
read. -/
abbrev Overlay := Named (Except String ColumnType)

def overlayType (columns : Overlay) (ref : ColumnRef) : Except Unresolved ValueType :=
  match ref.name?.bind columns.get? with
  | some (.error message) => .error (.absent message)
  | some (.ok t) => ref.accessType (some t)
  | none => ref.accessType none

/-- Checks one expression, given its number from 0 and the columns that it sees: the report, and
what becomes of its output. -/
def mapperStep (vars : FlowVariables) (appended : List (Option String)) (index : Nat)
    (source output : String) (columns : Overlay) : MapperReport × Except String ColumnType :=
  let invalid := .error (invalidOutput index "column" output)
  match parse source with
  | .error e => (⟨[.ofSyntaxError e source], unknownType⟩, invalid)
  | .ok e =>
    match premature columnAccess index appended e with
    | d :: ds => (⟨d :: ds, unknownType⟩, invalid)
    | [] =>
      let ctx := { Runner.rowContext default vars with column := overlayType columns }
      match (e.infer ctx).2 with
      | .error errors => (⟨errors.map .ofCompileError, unknownType⟩, invalid)
      | .ok t =>
        let remarks :=
          if t.isMissing then [Diagnostic.error Runner.mustNotBeMissing (some e.span)] else []
        (⟨remarks, t.base.name⟩, .ok (.supported t))

/-- Checks expressions one after the other, numbered from `index`.  Outputs without a name have
the empty one. -/
def checkInOrder {α β : Type} (step : Nat → String → String → Named α → β × α) :
    (index : Nat) → (expressions outputs : List String) → Named α → List β
  | _, [], _, _ => []
  | index, source :: rest, outputs, seen =>
    let output := outputs.headD ""
    let (report, outcome) := step index source output seen
    report :: checkInOrder step (index + 1) rest outputs.tail (seen.insert output outcome)

/-- Checks expressions that append or replace columns in order. -/
def rowMapper (table : Option Table) (vars : FlowVariables) (expressions outputs : List String) :
    List MapperReport :=
  match table with
  | none => expressions.map fun _ => ⟨[.error noInputTable none], unknownType⟩
  | some t =>
    checkInOrder (mapperStep vars (appended outputs t.hasColumn)) 0 expressions outputs
      (t.schema.map .ok)

/-! ## Expressions that filter rows -/

/-- Why an expression of some type cannot filter rows. -/
def filterRemark (t : ValueType) (span : Span) : List Diagnostic :=
  if t = .required .boolean then []
  else if t.base = some .boolean then
    [.error (mustBeBoolean ++ " The expression evaluates to a type that can be MISSING. Use the "
      ++ "missing coalescing operator '??' to define a default value.") (some span)]
  else [.error (mustBeBoolean ++ s!" The expression evaluates to {t.name}.") (some span)]

/-- Checks an expression that filters rows. -/
def rowFilter (table : Option Table) (vars : FlowVariables) (source : String) : List Diagnostic :=
  match table with
  | none => [.error noInputTable none]
  | some t =>
    match compile source (Runner.rowContext t vars) with
    | .error errors => errors.map .ofCompileError
    | .ok (e, type) => filterRemark type e.span

/-! ## Expressions that compute flow variables -/

/-- The flow variables that an expression sees. -/
abbrev VariableOverlay := Named (Except Unresolved ValueType)

def overlayVariable (vars : VariableOverlay) (name : String) : Except Unresolved ValueType :=
  (vars.get? name).getD (.error (TypingContext.noFlowVariable name))

/-- Checks one expression, given its number from 0 and the flow variables that it sees. -/
def variableStep (appended : List (Option String)) (index : Nat) (source output : String)
    (vars : VariableOverlay) : List Diagnostic × Except Unresolved ValueType :=
  let invalid := .error (.absent (invalidOutput index "flow variable" output))
  match parse source with
  | .error e => ([.ofSyntaxError e source], invalid)
  | .ok e =>
    match premature variableAccess index appended e with
    | d :: ds => (d :: ds, invalid)
    | [] =>
      let ctx := { Runner.variableContext .empty with flowVariable := overlayVariable vars }
      match (e.infer ctx).2 with
      | .error errors => (errors.map .ofCompileError, invalid)
      | .ok t =>
        if t.isOptional then ([.error Runner.mustNotBeMissing (some e.span)], invalid)
        else ([], .ok t)

/-- Checks expressions that compute flow variables in order. -/
def flowVariables (vars : FlowVariables) (expressions outputs : List String) :
    List (List Diagnostic) :=
  let seen : VariableOverlay := ⟨vars.names.map fun name => (name, vars.typeOf name)⟩
  checkInOrder (variableStep (appended outputs vars.contains)) 0 expressions outputs seen

end Diagnostics

end Rowwise
