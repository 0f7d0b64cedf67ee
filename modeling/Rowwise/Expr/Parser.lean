import Rowwise.Expr.Printer
import Rowwise.Expr.Reader

/-!
# Parsing expressions

The grammar, from the loosest to the tightest operators: `or`, `and`, prefix `not`, comparisons,
`+ -`, `* / // %`, prefix `-`, `**`, `??`, and primary expressions.  Comparisons do not chain;
`**` and `??` group to the right; the other binary operators group to the left.

Expressions nest, so that their readers need each other.  `Grammar` holds the readers that are
needed below the level at which they are defined, and `grammar` builds them level by level; each
nesting takes at least one character, so that as many levels as characters are enough.
-/

namespace Rowwise

namespace Grammar

open Reader

/-! ## Blanks, names and literals -/

def isBlank (c : Char) : Bool := c == ' ' || c == '\t' || c == '\r' || c == '\n'

/-- A comment up to the end of its line.  A carriage return has to belong to a line end. -/
def comment : Reader Unit := do
  let _ ← character '#'
  let _ ← run fun c => c != '\r' && c != '\n'
  notAhead do
    let _ ← character '\r'
    notAhead (character '\n')

/-- Blanks and comments, possibly none. -/
def blanks : Reader Unit := do
  let _ ← many (orElse (do let _ ← run1 isBlank) comment)

/-- A plain name. -/
def name : Reader String := do
  let c ← satisfying isNameStart
  let cs ← run isNameChar
  pure (String.ofList (c :: cs))

/-- A given word, not as a part of a longer one. -/
def keyword (word : String) : Reader Unit := do
  literal word
  notAhead (satisfying isNameChar)

/-- The constants that have names. -/
def namedConstant? : String → Option Constant
  | "TRUE" => some (.boolean true)
  | "FALSE" => some (.boolean false)
  | "MISSING" => some .missing
  | "PI" => some (.float FloatMath.pi)
  | "E" => some (.float FloatMath.euler)
  | "INFINITY" => some (.float FloatMath.infinity)
  | "NaN" => some (.float FloatMath.nan)
  | "MIN_INTEGER" => some (.integer Int64.minValue)
  | "MAX_INTEGER" => some (.integer Int64.maxValue)
  | "MIN_FLOAT" => some (.float (-1.7976931348623157e308))
  | "MAX_FLOAT" => some (.float 1.7976931348623157e308)
  | "TINY_FLOAT" => some (.float 2.2250738585072014e-308)
  | _ => none

/-- A named constant.  A name that is none cannot be anything else either. -/
def namedConstant : Reader Constant := do
  let _ ← ahead name
  required (converted
    (fun name =>
      match namedConstant? name with
      | some c => .ok c
      | none => .error s!"unknown identifier '{name}'")
    name)

/-- Why digits are not an integer. -/
def integerOfDigits (digits : List Char) : Except String Int64 :=
  match Integer.read? digits with
  | some n => .ok n
  | none =>
    if digits.any Char.isDigit then
      if digits.head? == some '-' then .error "number too small to fit in target type"
      else .error "number too large to fit in target type"
    else .error "cannot parse integer from empty string"

/-- An integer literal; its digits may be grouped by underscores. -/
def integerLiteral : Reader Int64 := do
  let _ ← ahead (satisfying Char.isDigit)
  required (expecting (.malformed "integer literal") (converted
    (fun text => integerOfDigits (text.filter (· != '_')))
    (run1 fun c => c.isDigit || c == '_')))

/-- The exponent of a float literal. -/
def exponent : Reader (List Char) := do
  let e ← satisfying fun c => c == 'e' || c == 'E'
  let sign ← optional (satisfying fun c => c == '+' || c == '-')
  let digits ← run1 Char.isDigit
  pure (e :: sign.toList ++ digits)

/-- A float literal: digits with a point, an exponent, or both. -/
def floatLiteral : Reader Float :=
  converted
    (fun text =>
      match FloatText.read? text with
      | some x => .ok x
      | none => .error "invalid float literal")
    (choice
      [ do
          let whole ← run1 Char.isDigit
          let point ← character '.'
          let fraction ← optional (run1 Char.isDigit)
          let e ← optional exponent
          pure (whole ++ point :: fraction.getD [] ++ e.getD []),
        do
          let point ← character '.'
          let fraction ← run1 Char.isDigit
          let e ← optional exponent
          pure (point :: fraction ++ e.getD []),
        do
          let whole ← run1 Char.isDigit
          let e ← exponent
          pure (whole ++ e) ])

/-- The character after a backslash in a string literal. -/
def unescape : Char → Char
  | 'n' => '\n'
  | 't' => '\t'
  | 'r' => '\r'
  | '0' => '\x00'
  | c => c

/-- A character inside of a string literal. -/
def stringChar (quote : Char) : Reader Char :=
  orElse (satisfying fun c => c != '\\' && c != quote) do
    let _ ← character '\\'
    let c ← required (satisfying fun _ => true)
    pure (unescape c)

/-- A string literal in one kind of quotes. -/
def quotedBy (quote : Char) : Reader String := do
  let _ ← character quote
  let cs ← many (stringChar quote)
  let _ ← expecting (.character quote) (required (character quote))
  pure (String.ofList cs)

def stringLiteral : Reader String := orElse (quotedBy '"') (quotedBy '\'')

/-! ## Accesses -/

/-- A row offset: digits with an optional sign. -/
def rowOffset : Reader Int64 :=
  converted integerOfDigits do
    let sign ← optional (satisfying fun c => c == '+' || c == '-')
    let digits ← run1 Char.isDigit
    pure (sign.toList ++ digits)

/-- What stands between the brackets of a column access. -/
def columnSelector : Reader ColumnRef :=
  choice
    [ do keyword "ROW_ID"; pure .rowId,
      do keyword "ROW_INDEX"; pure .rowIndex,
      do keyword "ROW_NUMBER"; pure .rowNumber,
      do
        let name ← stringLiteral
        let offset ← optional do
          blanks
          let _ ← character ','
          blanks
          required rowOffset
        pure (.named name (offset.getD 0)) ]

/-- Something in brackets. -/
def bracketed {α : Type} (r : Reader α) : Reader α := do
  let _ ← character '['
  blanks
  let a ← r
  blanks
  let _ ← character ']'
  pure a

/-- A flow variable: `$$name` or `$$["name"]`. -/
def flowVariableAccess : Reader Expr := do
  literal "$$"
  let n ← required (orElse name (bracketed stringLiteral))
  pure (.flowVariable {} n)

/-- A column: `$name`, or a selector in brackets after the dollar sign. -/
def columnAccess : Reader Expr := do
  let _ ← character '$'
  let ref ← required (orElse (do pure (.named (← name) 0)) (bracketed columnSelector))
  pure (.column {} ref)

/-! ## Compound expressions -/

def unaryNode (op : UnaryOp) (start : Nat) (arg : Expr) : Expr :=
  .unary { span := Span.between start arg.span.finish } op arg

def binaryNode (left : Expr) (op : BinaryOp) (right : Expr) : Expr :=
  .binary { span := Span.between left.span.offset right.span.finish } left op right

/-- Operands joined by operators that group to the left. -/
def leftGrouped (operand : Reader Expr) (operator : Reader BinaryOp) : Reader Expr := do
  let first ← operand
  let rest ← many do
    blanks
    let op ← operator
    let right ← required operand
    pure (op, right)
  pure (rest.foldl (fun left (op, right) => binaryNode left op right) first)

/-- One of several operators, the first one that fits. -/
def operator (symbols : List (String × BinaryOp)) : Reader BinaryOp :=
  choice (symbols.map fun (symbol, op) => do literal symbol; pure op)

def comparison : Reader BinaryOp :=
  operator [("==", .equal), ("!=", .notEqual), ("<>", .notEqual), ("<=", .lessThanEqual),
    (">=", .greaterThanEqual), ("<", .lessThan), (">", .greaterThan), ("=", .equal)]

def additive : Reader BinaryOp := operator [("+", .plus), ("-", .minus)]

/-- A multiplicative operator; a single asterisk is not the beginning of two. -/
def multiplicative : Reader BinaryOp :=
  choice
    [ do literal "//"; pure .floorDivide,
      do literal "/"; pure .divide,
      do
        literal "*"
        notAhead (character '*')
        pure .multiply,
      do literal "%"; pure .remainder ]

/-- The readers that occur inside of expressions. -/
structure Nested where
  expr : Reader Expr
  notLevel : Reader Expr
  unaryLevel : Reader Expr
  fallbackLevel : Reader Expr

/-- Whether a call of this name is one of an aggregation: a capital letter, and otherwise capital
letters, digits and underscores. -/
def isAggregationName (name : String) : Bool :=
  name.toList.any Char.isUpper && name.toList.all fun c => c.isUpper || c.isDigit || c == '_'

namespace Nested

variable (g : Nested)

/-- `if (condition) { yes } else { no }` -/
def ifBlock : Reader Expr := do
  keyword "if"
  blanks
  let _ ← character '('
  let condition ← g.expr
  blanks
  let _ ← character ')'
  blanks
  let _ ← character '\x7b'
  required do
    let yes ← g.expr
    blanks
    let _ ← character '\x7d'
    blanks
    keyword "else"
    blanks
    let _ ← character '\x7b'
    let no ← g.expr
    blanks
    let _ ← character '\x7d'
    pure (.conditional {} condition yes no)

/-- An argument of a call: `name=value`, or just a value. -/
def argument : Reader (Option String × Expr) :=
  orElse
    (do
      blanks
      let n ← name
      blanks
      let _ ← character '='
      notAhead (character '=')
      let value ← required g.expr
      pure (some n, value))
    (do pure (none, ← g.expr))

/-- The arguments of a call, with an optional comma after the last one. -/
def arguments : Reader (List (Option String × Expr)) := do
  let args ← separatedBy (do blanks; character ',') g.argument
  let _ ← optional do blanks; character ','
  pure args

/-- A call of a function or of an aggregation. -/
def call : Reader Expr := do
  let n ← name
  blanks
  let _ ← character '('
  let args ← required do
    let args ← g.arguments
    blanks
    let _ ← character ')'
    pure args
  let callee := if isAggregationName n then Callee.aggregation else .function
  pure (.call {} callee n (Args.ofList args) none)

/-- An expression without operators and outer parentheses. -/
def atom : Reader Expr :=
  choice
    [ g.ifBlock, g.call, flowVariableAccess, columnAccess,
      do pure (.constant {} (.float (← floatLiteral))),
      do pure (.constant {} (.integer (← integerLiteral))),
      do pure (.constant {} (.string (← stringLiteral))),
      do pure (.constant {} (← namedConstant)) ]

/-- An atom that knows where it stands. -/
def locatedAtom : Reader Expr := do
  let start ← offset
  let e ← g.atom
  let finish ← offset
  pure (e.withSpan (Span.between start finish))

/-- An expression in parentheses. -/
def parenthesized : Reader Expr := do
  let _ ← character '('
  let e ← required g.expr
  required do
    blanks
    let _ ← character ')'
  pure e

def primary : Reader Expr :=
  expecting (.described "an expression") do
    blanks
    orElse g.parenthesized g.locatedAtom

/-- A minus sign and its operand. -/
def negation : Reader Expr := do
  blanks
  let start ← offset
  let _ ← character '-'
  let arg ← required g.unaryLevel
  pure (unaryNode .minus start arg)

/-- `a ?? b`, whose right side may be negated or another fallback. -/
def fallback : Reader Expr := do
  let left ← g.primary
  let right ← optional do
    blanks
    literal "??"
    required (orElse g.negation g.fallbackLevel)
  pure <|
    match right with
    | some right => binaryNode left .missingFallback right
    | none => left

/-- `a ** b`, whose exponent may be negated or another power. -/
def power : Reader Expr := do
  let base ← g.fallback
  let exponent ← optional do
    blanks
    literal "**"
    required g.unaryLevel
  pure <|
    match exponent with
    | some exponent => binaryNode base .exponent exponent
    | none => base

def unary : Reader Expr := orElse g.negation g.power
def product : Reader Expr := leftGrouped g.unary multiplicative
def sum : Reader Expr := leftGrouped g.product additive

/-- A comparison of two sums, or just one sum. -/
def compared : Reader Expr := do
  let left ← g.sum
  let rest ← optional do
    blanks
    let op ← comparison
    let right ← required g.sum
    pure (op, right)
  pure <|
    match rest with
    | some (op, right) => binaryNode left op right
    | none => left

/-- Any number of `not` in front of a comparison. -/
def negated : Reader Expr := do
  let start ← optional do
    blanks
    let start ← offset
    keyword "not"
    pure start
  match start with
  | some start => do
    let arg ← required g.notLevel
    pure (unaryNode .not start arg)
  | none => g.compared

def conjunction : Reader Expr := leftGrouped g.negated do keyword "and"; pure .and
def disjunction : Reader Expr := leftGrouped g.conjunction do keyword "or"; pure .or

end Nested

/-- The readers for expressions with at most so many levels of nesting. -/
def grammar : (depth : Nat) → Nested
  | 0 => ⟨failed, failed, failed, failed⟩
  | depth + 1 =>
    let g := grammar depth
    ⟨g.disjunction, g.negated, g.unary, g.fallback⟩

/-- A whole expression, with nothing after it but blanks. -/
def whole (depth : Nat) : Reader Expr := do
  let e ← (grammar depth).expr
  blanks
  expecting (.described "end of expression") atEnd
  pure e

end Grammar

/-! ## Syntax errors -/

/-- Where and why a source text is not an expression.  Lines and columns count from 1, columns in
characters. -/
structure SyntaxError where
  message : String
  offset : Nat
  line : Nat
  column : Nat
  deriving DecidableEq, Repr

namespace ReadIssue

/-- How an expectation is named. -/
def expectationText : Expectation → String
  | .described d => d
  | .character c => s!"`{c}`"
  | .malformed thing => thing

/-- The message of a failed reading: what was malformed, what was expected, and the cause. -/
def message (issue : ReadIssue) : String :=
  let malformed := issue.expected.findSome? fun
    | .malformed thing => some s!"invalid {thing}"
    | _ => none
  let expected := issue.expected.filterMap fun
    | .malformed _ => none
    | e => some (expectationText e)
  let expected :=
    if expected.isEmpty then none else some ("expected " ++ ", ".intercalate expected)
  let parts := [malformed, expected, issue.cause].filterMap id
  if parts.isEmpty then "unexpected input" else "; ".intercalate parts

end ReadIssue

namespace SyntaxError

/-- The line and column after the given text. -/
def lineAndColumn (before : List Char) : Nat × Nat :=
  before.foldl (fun (line, column) c => if c = '\n' then (line + 1, 1) else (line, column + 1))
    (1, 1)

/-- The error of an issue at a place in a source text. -/
def ofIssue (source : List Char) (issue : ReadIssue) (place : Cursor) : SyntaxError :=
  let (line, column) := lineAndColumn (source.take (source.length - place.rest.length))
  ⟨issue.message, place.offset, line, column⟩

/-- The error with its position. -/
def display (e : SyntaxError) : String :=
  s!"{e.message} (line {e.line}, column {e.column}, offset {e.offset})"

/-- The bytes of the line after a byte offset. -/
def restOfLine : (skip : Nat) → List Char → Nat
  | _, [] => 0
  | skip, c :: rest =>
    if skip = 0 then if c = '\n' then 0 else c.utf8Size + restOfLine 0 rest
    else restOfLine (skip - c.utf8Size) rest

/-- The part of the source from the error to the end of its line. -/
def span (e : SyntaxError) (source : String) : Span :=
  let start := min e.offset source.utf8ByteSize
  ⟨start, restOfLine start source.toList⟩

end SyntaxError

/-- Parses an expression. -/
def parse (source : String) : Except SyntaxError Expr :=
  let text := source.toList
  match Grammar.whole (text.length + 1) ⟨0, text⟩ with
  | .ok e _ => .ok e
  | .retry issue place | .stop issue place => .error (SyntaxError.ofIssue text issue place)

/-- Whether the printed form of a tree parses to the same tree, or why it does not parse. -/
def Expr.rereads (e : Expr) : Except SyntaxError Bool := (parse e.print).map fun f => f.same e

end Rowwise
