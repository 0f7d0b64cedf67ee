import Rowwise.Evaluation.Build
import Rowwise.Typing.Infer

/-!
# Tables and flow variables

A table has an id for every row and named columns of that many cells.  A column has a type, or a
type of the host that expressions cannot read.  Flow variables are named values shared by all rows.

Both give types to names while an expression is typed, and computers while it is evaluated.
-/

namespace Rowwise

/-- Why a column or a flow variable cannot be stored. -/
inductive TableError where
  | lengthMismatch (name : String) (expected got : Nat)
  | typeMismatch (name : String) (declared : ValueType) (row : Nat) (found : ValueType)
  | duplicateColumn (name : String)
  | unsupportedFlowVariable (type : ValueType)
  deriving DecidableEq

def TableError.message : TableError → String
  | lengthMismatch name expected got =>
    s!"Column '{name}' has {got} values, but the table has {expected} rows."
  | typeMismatch name declared row found =>
    s!"Column '{name}' is {declared.name}, but row {row} holds a {found.name} value."
  | duplicateColumn name => s!"A column with the name '{name}' already exists."
  | unsupportedFlowVariable type =>
    s!"Flow variables of the type '{type.name}' are not supported."

/-- The type of a column as the host sees it. -/
inductive ColumnType where
  | supported (type : ValueType)
  /-- A type of the host that expressions cannot read, by its name. -/
  | unsupported (hostType : String)
  deriving DecidableEq, Inhabited

def ColumnType.valueType? : ColumnType → Option ValueType
  | supported t => some t
  | unsupported _ => none

structure Column where
  type : ColumnType
  cells : Array Value
  deriving Inhabited

/-- The type of an access to a column, given the type of the column if there is one.  Away from
the current row there may be no cell. -/
def ColumnRef.accessType (column : Option ColumnType) (ref : ColumnRef) :
    Except Unresolved ValueType :=
  match ref.rowType? with
  | some t => .ok t
  | none =>
    let (name, offset) :=
      match ref with
      | .named name offset => (name, offset)
      | _ => ("", 0)
    match column with
    | some (.supported t) => .ok (if offset = 0 then t else t.optionalForm)
    | some (.unsupported hostType) =>
      .error (.unsupported
        s!"Columns of the type '{hostType}' are not supported in expressions.")
    | none => .error (TypingContext.noColumn name)

structure Table where
  rowIds : Array String
  columns : Named Column := .empty
  deriving Inhabited

namespace Table

/-- A table without columns and with so many rows. -/
def ofSize (n : Nat) : Table := { rowIds := (Array.range n).map fun i => s!"Row{i}" }

def rowCount (t : Table) : Nat := t.rowIds.size

/-- Whether a cell may hold a value, in a column of some type. -/
def fits (type : ValueType) (v : Value) : Bool :=
  if v.isMissing then type.isOptional else v.kind? == type.base

/-- The first cell from `row` on that does not fit, and the type of its value. -/
def firstMisfit (type : ValueType) : (row : Nat) → List Value → Option (Nat × ValueType)
  | _, [] => none
  | row, v :: rest =>
    if fits type v then firstMisfit type (row + 1) rest else some (row, v.valueType)

/-- Replaces a column in its place, or adds one at the end. -/
def setColumn (t : Table) (name : String) (type : ValueType) (cells : List Value) :
    Except TableError Table :=
  if cells.length ≠ t.rowCount then .error (.lengthMismatch name t.rowCount cells.length)
  else
    match firstMisfit type 0 cells with
    | some (row, found) => .error (.typeMismatch name type row found)
    | none => .ok { t with columns := t.columns.insert name ⟨.supported type, cells.toArray⟩ }

/-- Adds a new column. -/
def withColumn (t : Table) (name : String) (type : ValueType) (cells : List Value) :
    Except TableError Table :=
  if t.columns.contains name then .error (.duplicateColumn name) else t.setColumn name type cells

/-- Puts in a column of a type that expressions cannot read. -/
def withUnsupportedColumn (t : Table) (name hostType : String) : Table :=
  let cells := Array.replicate t.rowCount Value.missing
  { t with columns := t.columns.insert name ⟨.unsupported hostType, cells⟩ }

def hasColumn (t : Table) (name : String) : Bool := t.columns.contains name

/-- The type of a column that expressions can read. -/
def columnValueType? (t : Table) (name : String) : Option ValueType :=
  (t.columns.get? name).bind (·.type.valueType?)

def value? (t : Table) (name : String) (row : Nat) : Option Value :=
  (t.columns.get? name).bind (·.cells[row]?)

def rowId? (t : Table) (row : Nat) : Option String := t.rowIds[row]?

/-- The types of the columns. -/
def schema (t : Table) : Named ColumnType := t.columns.map Column.type

/-- The type of an access to the table. -/
def columnType (t : Table) (ref : ColumnRef) : Except Unresolved ValueType :=
  ref.accessType ((ref.name?.bind t.columns.get?).map Column.type)

/-- The cell so many rows away from a row; there is none beyond the ends of the column. -/
def cellAt (cells : Array Value) (offset : Int64) (row : Nat) : Value :=
  match Integer.checkedAdd (Int64.ofNat row) offset with
  | some position => if position < 0 then .missing else cells.getD position.toInt.toNat .missing
  | none => .missing

/-- The computer of an access to the table. -/
def computer (t : Table) : ColumnRef → Option Computer
  | .rowId =>
    some (.ofCells (some .string) fun row => ((t.rowId? row).map Value.string).getD .missing)
  | .rowIndex => some (.ofCells (some .integer) fun row => .integer (Int64.ofNat row))
  | .rowNumber => some (.ofCells (some .integer) fun row => .integer (Int64.ofNat row + 1))
  | .named name offset => do
    let column ← t.columns.get? name
    let type ← column.type.valueType?
    pure (.ofCells type.base (cellAt column.cells offset))

/-- The elements that are marked.  Elements without a mark are left out. -/
def keepMarked {α : Type} (keep : List Bool) (xs : List α) : List α :=
  (xs.zip keep).filterMap fun (x, marked) => if marked then some x else none

/-- The rows that are marked. -/
def filter (t : Table) (keep : List Bool) : Table :=
  { rowIds := (keepMarked keep t.rowIds.toList).toArray
    columns := t.columns.map fun c => { c with cells := (keepMarked keep c.cells.toList).toArray } }

end Table

/-! ## Flow variables -/

inductive FlowVariable where
  | value (v : Value)
  /-- A type of the host that expressions cannot read, by its name. -/
  | unsupported (hostType : String)
  deriving Inhabited

abbrev FlowVariables := Named FlowVariable

namespace FlowVariables

/-- The kinds that flow variables can have. -/
def allowed : List Kind := [.boolean, .integer, .float, .string]

/-- Sets a variable. -/
def set (vars : FlowVariables) (name : String) (v : Value) : Except TableError FlowVariables :=
  if v.kind?.any allowed.contains then .ok (vars.insert name (.value v))
  else .error (.unsupportedFlowVariable v.valueType)

def setUnsupported (vars : FlowVariables) (name hostType : String) : FlowVariables :=
  vars.insert name (.unsupported hostType)

/-- The value of a variable that expressions can read. -/
def value? (vars : FlowVariables) (name : String) : Option Value :=
  match vars.get? name with
  | some (.value v) => some v
  | _ => none

/-- The type of an access to a variable. -/
def typeOf (vars : FlowVariables) (name : String) : Except Unresolved ValueType :=
  match vars.get? name with
  | some (.value v) => .ok v.valueType
  | some (.unsupported hostType) =>
    .error (.unsupported s!"Flow variables of the type '{hostType}' are not supported.")
  | none => .error (TypingContext.noFlowVariable name)

def computer (vars : FlowVariables) (name : String) : Option Computer :=
  (vars.value? name).map Computer.constant

end FlowVariables

/-! ## Aggregating columns -/

namespace Table

/-- The computer of a call of an aggregation over a column of the table. -/
def aggregation (t : Table) : Expr → Option Computer
  | .call _ .aggregation _ _ (some (.aggregation a type bound)) => do
    let column ← t.columns.get? (← Aggregation.columnName? bound)
    pure (column.cells.foldl Accumulator.add (a.accumulator bound type.base)).result
  | _ => none

/-- What a table and flow variables serve to an evaluation. -/
def host (t : Table) (vars : FlowVariables) : Host :=
  { column := t.computer, flowVariable := vars.computer, aggregation := t.aggregation }

end Table

end Rowwise
