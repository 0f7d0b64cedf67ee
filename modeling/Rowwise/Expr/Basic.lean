import Rowwise.Aggregation

/-!
# Expression trees

An expression is a tree whose nodes carry the part of the source text that they stand for and,
once they have been typed, their type.  A call also carries what it was bound to.  The structure
of a tree is everything except these notes.
-/

namespace Rowwise

/-- A part of the source text, in bytes. -/
structure Span where
  offset : Nat := 0
  length : Nat := 0
  deriving DecidableEq, Repr, Inhabited

namespace Span

def finish (s : Span) : Nat := s.offset + s.length

/-- The part from one offset to another. -/
def between (start finish : Nat) : Span := ⟨start, finish - start⟩

end Span

/-- A literal. -/
inductive Constant where
  | missing
  | boolean (b : Bool)
  | integer (n : Int64)
  | float (x : Float)
  | string (s : String)
  deriving Inhabited

namespace Constant

def toValue : Constant → Value
  | missing => .missing
  | boolean b => .boolean b
  | integer n => .integer n
  | float x => .float x
  | string s => .string s

def valueType (c : Constant) : ValueType := c.toValue.valueType

/-- The literal of a value, if its kind has literals. -/
def ofValue? : Value → Option Constant
  | .missing => some missing
  | .of .boolean b => some (boolean b)
  | .of .integer n => some (integer n)
  | .of .float x => some (float x)
  | .of .string s => some (string s)
  | _ => none

@[simp] theorem ofValue?_toValue (c : Constant) : ofValue? c.toValue = some c := by
  cases c <;> rfl

/-- Equality of literals; floats compare as numbers. -/
def same (c d : Constant) : Bool := c.toValue.same d.toValue

end Constant

/-- What a column access reads: a column, some rows away from the current one, or a property of
the row itself. -/
inductive ColumnRef where
  | named (name : String) (offset : Int64)
  | rowId
  /-- The position of the row, from 0. -/
  | rowIndex
  /-- The position of the row, from 1. -/
  | rowNumber
  deriving DecidableEq, Inhabited

namespace ColumnRef

def name? : ColumnRef → Option String
  | named name _ => some name
  | _ => none

end ColumnRef

inductive UnaryOp where
  | minus
  | not
  deriving DecidableEq, Repr, Inhabited

inductive BinaryOp where
  | plus
  | minus
  | multiply
  | divide
  | floorDivide
  | remainder
  | exponent
  | lessThan
  | lessThanEqual
  | greaterThan
  | greaterThanEqual
  | equal
  | notEqual
  | and
  | or
  | missingFallback
  deriving DecidableEq, Repr, Inhabited

def UnaryOp.symbol : UnaryOp → String
  | minus => "-"
  | not => "not"

/-- The operator that is written with a symbol. -/
def UnaryOp.ofSymbol? (symbol : String) : Option UnaryOp :=
  [minus, not].find? fun op => op.symbol == symbol

namespace BinaryOp

def all : List BinaryOp :=
  [plus, minus, multiply, divide, floorDivide, remainder, exponent, lessThan, lessThanEqual,
    greaterThan, greaterThanEqual, equal, notEqual, and, or, missingFallback]

def symbol : BinaryOp → String
  | plus => "+"
  | minus => "-"
  | multiply => "*"
  | divide => "/"
  | floorDivide => "//"
  | remainder => "%"
  | exponent => "**"
  | lessThan => "<"
  | lessThanEqual => "<="
  | greaterThan => ">"
  | greaterThanEqual => ">="
  | equal => "=="
  | notEqual => "!="
  | and => "and"
  | or => "or"
  | missingFallback => "??"

/-- The operator that is written with a symbol. -/
def ofSymbol? (symbol : String) : Option BinaryOp := all.find? fun op => op.symbol == symbol

theorem ofSymbol?_symbol (op : BinaryOp) : ofSymbol? op.symbol = some op := by
  cases op <;> decide

def isArithmetic : BinaryOp → Bool
  | plus | minus | multiply | divide | floorDivide | remainder | exponent => true
  | _ => false

def isOrdering : BinaryOp → Bool
  | lessThan | lessThanEqual | greaterThan | greaterThanEqual => true
  | _ => false

def isEquality : BinaryOp → Bool
  | equal | notEqual => true
  | _ => false

def isLogical : BinaryOp → Bool
  | and | or => true
  | _ => false

end BinaryOp

/-- What a call was bound to. -/
inductive Resolution where
  | function (f : Function) (overload : Nat) (bound : Arguments Binding)
  | aggregation (a : Aggregation) (column : ValueType) (bound : Arguments Value)

/-- Whether two resolutions choose the same overload, or the same aggregation over a column of the
same type. -/
def Resolution.sameTarget : Resolution → Resolution → Bool
  | function f i _, function g j _ => f.isSame g && i == j
  | aggregation a s _, aggregation b t _ => a.name == b.name && s == t
  | _, _ => false

/-- The notes of a node: where it stands and, once it is typed, its type. -/
structure Note where
  span : Span := {}
  type : Option ValueType := none
  deriving DecidableEq, Inhabited

/-- Whether a call is one of a function or of an aggregation. -/
inductive Callee where
  | function
  | aggregation
  deriving DecidableEq, Repr

mutual

/-- An expression. -/
inductive Expr where
  | constant (note : Note) (c : Constant)
  | column (note : Note) (ref : ColumnRef)
  | flowVariable (note : Note) (name : String)
  | unary (note : Note) (op : UnaryOp) (arg : Expr)
  | binary (note : Note) (left : Expr) (op : BinaryOp) (right : Expr)
  | conditional (note : Note) (condition yes no : Expr)
  | call (note : Note) (callee : Callee) (name : String) (args : Args)
      (resolution : Option Resolution)

/-- The arguments of a call in the order of the source, each with its name if it has one. -/
inductive Args where
  | nil
  | cons (name : Option String) (value : Expr) (rest : Args)

end

instance : Inhabited Expr := ⟨.constant {} .missing⟩
instance : Inhabited Args := ⟨.nil⟩

namespace Args

def toList : Args → List (Option String × Expr)
  | nil => []
  | cons name value rest => (name, value) :: rest.toList

def ofList : List (Option String × Expr) → Args
  | [] => nil
  | (name, value) :: rest => cons name value (ofList rest)

@[simp] theorem toList_ofList (l : List (Option String × Expr)) : (ofList l).toList = l := by
  induction l with
  | nil => rfl
  | cons a l ih => simp [ofList, toList, ih]

end Args

namespace Expr

def note : Expr → Note
  | constant note _ | column note _ | flowVariable note _ | unary note .. | binary note ..
  | conditional note .. | call note .. => note

def withNote (note : Note) : Expr → Expr
  | constant _ c => constant note c
  | column _ ref => column note ref
  | flowVariable _ name => flowVariable note name
  | unary _ op arg => unary note op arg
  | binary _ left op right => binary note left op right
  | conditional _ condition yes no => conditional note condition yes no
  | call _ callee name args resolution => call note callee name args resolution

def span (e : Expr) : Span := e.note.span

/-- The type of a node that has been typed. -/
def type? (e : Expr) : Option ValueType := e.note.type

def withSpan (span : Span) (e : Expr) : Expr := e.withNote { e.note with span }

end Expr

mutual

/-- Equality of structure; spans, types and bindings do not count. -/
def Expr.same : Expr → Expr → Bool
  | .constant _ c, .constant _ d => c.same d
  | .column _ r, .column _ s => r == s
  | .flowVariable _ n, .flowVariable _ m => n == m
  | .unary _ p a, .unary _ q b => p == q && a.same b
  | .binary _ a p b, .binary _ c q d => p == q && a.same c && b.same d
  | .conditional _ a b c, .conditional _ d e f => a.same d && b.same e && c.same f
  | .call _ k n args _, .call _ l m others _ => k == l && n == m && args.same others
  | _, _ => false

def Args.same : Args → Args → Bool
  | .nil, .nil => true
  | .cons n e rest, .cons m f others => n == m && e.same f && rest.same others
  | _, _ => false

end

/-! ## Walking a tree -/

mutual

/-- The node and its descendants, parents first and from left to right. -/
def Expr.nodes : Expr → List Expr
  | e@(.constant ..) => [e]
  | e@(.column ..) => [e]
  | e@(.flowVariable ..) => [e]
  | e@(.unary _ _ arg) => e :: arg.nodes
  | e@(.binary _ left _ right) => e :: (left.nodes ++ right.nodes)
  | e@(.conditional _ condition yes no) => e :: (condition.nodes ++ yes.nodes ++ no.nodes)
  | e@(.call _ _ _ args _) => e :: args.nodes

def Args.nodes : Args → List Expr
  | .nil => []
  | .cons _ value rest => value.nodes ++ rest.nodes

end

namespace Expr

/-- The column that a node itself names: that of an access, or the literal first argument of an
aggregation. -/
def ownColumn? : Expr → Option String
  | column _ ref => ref.name?
  | call _ .aggregation _ (.cons _ (constant _ (.string s)) _) _ => some s
  | _ => none

/-- The flow variable that a node itself names. -/
def ownFlowVariable? : Expr → Option String
  | flowVariable _ name => some name
  | _ => none

/-- The columns that a tree names, in the order of the nodes. -/
def columnNames (e : Expr) : List String := e.nodes.filterMap ownColumn?

/-- The flow variables that a tree names, in the order of the nodes. -/
def flowVariableNames (e : Expr) : List String := e.nodes.filterMap ownFlowVariable?

/-- Whether a tree reads rows. -/
def accessesColumns (e : Expr) : Bool :=
  e.nodes.any fun
    | column .. => true
    | call _ .aggregation .. => true
    | _ => false

end Expr

end Rowwise
