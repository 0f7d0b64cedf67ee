import Rowwise.Expr.Basic

/-!
# Types of operators

The type of an operator's result from the types of its operands, or the reason why the operator
does not apply.
-/

namespace Rowwise

def notApplicable (op : BinaryOp) (a b : ValueType) : String :=
  s!"Operator '{op.symbol}' is not applicable for {a.name} and {b.name}."

/-- The type of `-x` and `not x`. -/
def unaryType (op : UnaryOp) (t : ValueType) : Except String ValueType :=
  let applies : Bool :=
    match op with
    | .minus => t.isNumeric || t.isDuration
    | .not => t.base == some .boolean
  if applies then .ok t else .error s!"Operator '{op.symbol}' is not applicable for {t.name}."

/-- Arithmetic of two numbers: integers stay integers except in division, and only they have a
floor division. -/
def arithmeticType (op : BinaryOp) (a b : ValueType) (optional : Bool) :
    Except String ValueType :=
  let integers := a.base == some .integer && b.base == some .integer
  match op with
  | .divide => .ok (.of .float optional)
  | .floorDivide => if integers then .ok (.of .integer optional) else .error (notApplicable op a b)
  | _ => .ok (.of (if integers then .integer else .float) optional)

/-- `a ?? b` may be MISSING only if both sides may. -/
def fallbackType (a b : ValueType) : Except String ValueType :=
  let fails : Except String ValueType := .error
    (s!"Operator '??' is not applicable for {a.name} and {b.name}. " ++
      "Types must be compatible, and at most one can be MISSING.")
  match a, b with
  | .missing, .missing => fails
  | .missing, t | t, .missing => .ok t
  | a, b =>
    match a.join b with
    | some t => .ok (t.withOptional (a.isOptional && b.isOptional))
    | none => fails

/-- Sums and differences of points in time and durations. -/
def temporalSumType (op : BinaryOp) (x y : Kind) : Option (Except String Kind) :=
  let adding := op == .plus
  match x, y with
  | .localDate, .localDate => if adding then none else some (.ok .dateDuration)
  | .dateDuration, .dateDuration => some (.ok .dateDuration)
  | .timeDuration, .timeDuration => some (.ok .timeDuration)
  | x, y =>
    if x.hasDatePart && y == .dateDuration then some (.ok x)
    else if x.hasTimePart && y == .timeDuration then some (.ok x)
    else if !adding && x == y && x.hasTimePart then some (.ok .timeDuration)
    else if (x == .dateDuration && y.hasDatePart) || (x == .timeDuration && y.hasTimePart) then
      some (.error (if adding then
        "When adding a duration and date-time, the date-time must be first."
      else "When subtracting a duration and date-time, the date-time must be first"))
    else if x.isDuration && y.isDuration then
      some (.error (if adding then "Cannot add two different types of duration."
      else "Cannot subtract a duration from a different type of duration."))
    else none

/-- Multiples of durations by integers. -/
def temporalProductType (x y : Kind) : Option Kind :=
  match x, y with
  | .timeDuration, .integer | .integer, .timeDuration => some .timeDuration
  | .dateDuration, .integer | .integer, .dateDuration => some .dateDuration
  | _, _ => none

/-- Arithmetic with points in time and durations. -/
def temporalType (op : BinaryOp) (a b : ValueType) (optional : Bool) : Except String ValueType :=
  match op, a, b with
  | .plus, .of x _, .of y _ | .minus, .of x _, .of y _ =>
    match temporalSumType op x y with
    | some (.ok k) => .ok (.of k optional)
    | some (.error reason) => .error reason
    | none => .error (notApplicable op a b)
  | .multiply, .of x _, .of y _ =>
    match temporalProductType x y with
    | some k => .ok (.of k optional)
    | none => .error (notApplicable op a b)
  | _, _, _ => .error (notApplicable op a b)

/-- The type of a binary operator's result. -/
def binaryType (op : BinaryOp) (a b : ValueType) : Except String ValueType :=
  let optional := a.isOptional || b.isOptional
  if op = .plus ∧ (a.base = some .string ∨ b.base = some .string) then .ok (.required .string)
  else if op.isArithmetic && a.isNumeric && b.isNumeric then arithmeticType op a b optional
  else if op.isOrdering then
    if a.isMutuallyOrderable b then .ok (.required .boolean) else .error (notApplicable op a b)
  else if op.isEquality then
    if a.base = some .zonedDateTime ∧ b.base = some .zonedDateTime then
      .error "Equality comparison is not supported for ZONED_DATE_TIME."
    else if a.isEquatable b then .ok (.required .boolean)
    else .error (notApplicable op a b)
  else if op.isLogical then
    if a.base = some .boolean ∧ b.base = some .boolean then .ok (.of .boolean optional)
    else .error (notApplicable op a b)
  else if op = .missingFallback then fallbackType a b
  else temporalType op a b optional

/-- The type of a conditional: the common type of its branches, optional also if the condition
is. -/
def conditionalType (condition yes no : ValueType) : Except String ValueType :=
  if condition.base ≠ some .boolean then
    .error s!"The condition must be BOOLEAN, but got {condition.name}."
  else
    match yes.join no with
    | none =>
      .error s!"Both branches must have a common type, but got {yes.name} and {no.name}."
    | some t => .ok (t.withOptional (t.isOptional || condition.isOptional))

end Rowwise
