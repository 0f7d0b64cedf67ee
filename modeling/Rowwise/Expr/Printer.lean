import Rowwise.Expr.Basic

/-!
# Printing expressions

The printed form of a tree is source text for the same tree.  Compound operands stand in
parentheses, and so do negative literals, so that the text never relies on precedence.
-/

namespace Rowwise

/-- Whether a character can begin a plain name. -/
def isNameStart (c : Char) : Bool := c.isAlpha || c == '_'

/-- Whether a character can go on in a plain name. -/
def isNameChar (c : Char) : Bool := c.isAlphanum || c == '_'

/-- Whether a name can be written without quotes. -/
def isPlainName (name : String) : Bool :=
  match name.toList with
  | [] => false
  | c :: cs => isNameStart c && cs.all isNameChar

namespace Printer

/-- A character of a string literal. -/
def escapeChar : Char → List Char
  | '"' => ['\\', '"']
  | '\\' => ['\\', '\\']
  | '\n' => ['\\', 'n']
  | '\t' => ['\\', 't']
  | '\r' => ['\\', 'r']
  | '\x00' => ['\\', '0']
  | c => [c]

/-- A string literal. -/
def quoted (s : String) : String :=
  String.ofList ('"' :: s.toList.flatMap escapeChar ++ ['"'])

def constant : Constant → String
  | .missing => "MISSING"
  | .boolean true => "TRUE"
  | .boolean false => "FALSE"
  | .integer n => if n = Int64.minValue then "MIN_INTEGER" else Integer.text n
  | .float x => String.ofList (FloatText.sourceForm x)
  | .string s => quoted s

def column : ColumnRef → String
  | .named name offset =>
    if offset = 0 then
      if isPlainName name then "$" ++ name else "$[" ++ quoted name ++ "]"
    else "$[" ++ quoted name ++ ", " ++ Integer.text offset ++ "]"
  | .rowId => "$[ROW_ID]"
  | .rowIndex => "$[ROW_INDEX]"
  | .rowNumber => "$[ROW_NUMBER]"

def flowVariable (name : String) : String :=
  if isPlainName name then "$$" ++ name else "$$[" ++ quoted name ++ "]"

/-- Whether an expression stands in parentheses as an operand. -/
def needsParens : Expr → Bool
  | .unary .. | .binary .. | .conditional .. => true
  | .constant _ (.integer n) => n < 0 && n != Int64.minValue
  | .constant _ (.float x) => FloatText.isNegative x && !x.isNaN
  | _ => false

/-- The name in front of a named argument. -/
def argumentLabel : Option String → String
  | some name => name ++ "="
  | none => ""

def parenthesized (parens : Bool) (text : String) : String :=
  if parens then "(" ++ text ++ ")" else text

end Printer

open Printer in
mutual

/-- The printed form of an expression. -/
def Expr.print : Expr → String
  | .constant _ c => constant c
  | .column _ ref => column ref
  | .flowVariable _ name => flowVariable name
  | .unary _ .minus arg => "-" ++ parenthesized (needsParens arg) arg.print
  | .unary _ .not arg => "not " ++ parenthesized (needsParens arg) arg.print
  | .binary _ left op right =>
    parenthesized (needsParens left) left.print ++ " " ++ op.symbol ++ " " ++
      parenthesized (needsParens right) right.print
  | .conditional _ condition yes no =>
    "if (" ++ condition.print ++ ") \x7b " ++ yes.print ++ " \x7d else \x7b " ++ no.print ++ " \x7d"
  | .call _ _ name args _ => name ++ "(" ++ args.print ++ ")"

/-- The printed form of arguments, separated by commas. -/
def Args.print : Args → String
  | .nil => ""
  | .cons name value .nil => argumentLabel name ++ value.print
  | .cons name value rest => argumentLabel name ++ value.print ++ ", " ++ rest.print

end

end Rowwise
