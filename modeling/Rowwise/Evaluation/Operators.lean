import Rowwise.Expr.Basic
import Rowwise.FloatMath

/-!
# Computers of operators

The computer of an operator's result from those of its operands.  Arithmetic is missing where an
operand is; comparisons and joining strings never are; `and` and `or` follow Kleene's logic, in
which a missing operand is an unknown truth value.
-/

namespace Rowwise

namespace Operator

/-! ## Unary operators -/

/-- The computer of `-x` or `not x`. -/
def unary (op : UnaryOp) (arg : Computer) : Except EvalError Computer :=
  match op, arg with
  | .not, .of .boolean s => .ok (.boolean (s.map not))
  | .minus, .of .integer s => .ok (.integer (s.map fun n => -n))
  | .minus, .of .float s => .ok (.float (s.map fun x => -x))
  | .minus, .of .timeDuration s => .ok (.of .timeDuration (s.map Duration.neg))
  | .minus, .of .dateDuration s =>
    .ok (.of .dateDuration (s.tryMap fun p => Eval.inRange (some .dateDuration) p.neg?))
  | op, arg => .error (.fault (.unaryOperand op.symbol arg.base))

/-! ## Numbers -/

def unsupported (op : BinaryOp) (output : Base) : EvalError :=
  .fault (.operatorOutput op.symbol output)

/-- Division of integers toward zero; by zero it is zero, with a warning. -/
def divideIntegers (x y : Int64) : Eval Int64 :=
  if y = 0 then do
    Eval.warn "INTEGER division returned 0 because divisor was 0."
    pure 0
  else pure (x / y)

/-- The remainder of that division. -/
def remainderOfIntegers (x y : Int64) : Eval Int64 :=
  if y = 0 then do
    Eval.warn "INTEGER modulo returned 0 because divisor was 0."
    pure 0
  else pure (x % y)

/-- A power of integers by way of floats, limited to the range of INTEGER. -/
def powerOfIntegers (x y : Int64) : Int64 :=
  FloatMath.toInteger ((Integer.toFloat x).pow (Integer.toFloat y))

/-- Arithmetic of integers, which wraps around. -/
def integers (op : BinaryOp) (a b : Source Int64) : Except EvalError (Source Int64) :=
  match op with
  | .plus => .ok (a.combine (fun x y => pure (x + y)) b)
  | .minus => .ok (a.combine (fun x y => pure (x - y)) b)
  | .multiply => .ok (a.combine (fun x y => pure (x * y)) b)
  | .floorDivide => .ok (a.combine divideIntegers b)
  | .remainder => .ok (a.combine remainderOfIntegers b)
  | .exponent => .ok (a.combine (fun x y => pure (powerOfIntegers x y)) b)
  | op => .error (unsupported op (some .integer))

/-- A result with a warning if the divisor was zero. -/
def warnZeroDivisor (what : String) (divisor result : Float) : Eval Float := do
  if divisor == 0 then
    Eval.warn s!"FLOAT {what} returned {FloatText.renderShouting result} because divisor was 0."
  pure result

/-- Arithmetic of floats. -/
def floats (op : BinaryOp) (a b : Source Float) : Except EvalError (Source Float) :=
  match op with
  | .plus => .ok (a.combine (fun x y => pure (x + y)) b)
  | .minus => .ok (a.combine (fun x y => pure (x - y)) b)
  | .multiply => .ok (a.combine (fun x y => pure (x * y)) b)
  | .divide => .ok (a.combine (fun x y => warnZeroDivisor "division" y (x / y)) b)
  | .remainder =>
    .ok (a.combine (fun x y => warnZeroDivisor "modulo" y (FloatMath.remainder x y)) b)
  | .exponent => .ok (a.combine (fun x y => pure (x.pow y)) b)
  | op => .error (unsupported op (some .float))

/-! ## Comparisons -/

/-- The order of the values of a kind that has one.  Floats are ordered totally, NaN last. -/
def orderOf? : (k : Kind) → Option (k.Carrier → k.Carrier → Ordering)
  | .integer => some fun (a b : Int64) => compare a b
  | .float => some FloatMath.totalCompare
  | .localDate => some fun (a b : Date) => compare a b
  | .localTime => some fun (a b : TimeOfDay) => compare a b
  | .localDateTime => some fun (a b : LocalDateTime) => compare a b
  | .zonedDateTime => some fun (a b : ZonedDateTime) => compare a b
  | .timeDuration => some fun (a b : Duration) => compare a b
  | _ => none

/-- Compares the present values of two computers. -/
def comparator (l r : Computer) : Except EvalError (Eval Ordering) :=
  let fault : EvalError := .fault (.notComparable l.base r.base)
  if l.base = some .float ∨ r.base = some .float then do
    let a ← l.asFloat
    let b ← r.asFloat
    pure do pure (FloatMath.totalCompare (← a.compute) (← b.compute))
  else
    match l, r with
    | .of k a, .of m b =>
      if h : m = k then
        match orderOf? k with
        | some order => .ok do pure (order (← a.compute) (← (h ▸ b : Source k.Carrier).compute))
        | none => .error fault
      else .error fault
    | _, _ => .error fault

/-- Whether an ordering operator accepts an outcome. -/
def accepts (op : BinaryOp) (o : Ordering) : Bool :=
  match op with
  | .lessThan => o.isLT
  | .lessThanEqual => o.isLE
  | .greaterThan => o.isGT
  | .greaterThanEqual => o.isGE
  | _ => false

/-- Whether an ordering operator accepts equal values. -/
def isInclusive (op : BinaryOp) : Bool := op == .lessThanEqual || op == .greaterThanEqual

/-- An ordering comparison.  With a missing operand it is true only if both are missing and the
operator accepts equal values. -/
def ordering (op : BinaryOp) (l r : Computer) : Except EvalError (Source Bool) := do
  let compared ← comparator l r
  pure <| Source.present do
    let leftMissing ← l.isMissing
    let rightMissing ← r.isMissing
    if leftMissing || rightMissing then pure (isInclusive op && leftMissing && rightMissing)
    else pure (accepts op (← compared))

/-- An equality comparison.  Two missing values are equal. -/
def equality (op : BinaryOp) (l r : Computer) : Source Bool :=
  Source.present do
    let equal := (← l.value).equal (← r.value)
    pure (equal != (op == .notEqual))

/-! ## Logic -/

/-- The truth value of `and` or `or`.  One truth value decides on its own: false for `and`, true
for `or`; the second operand is read only if the first one does not decide. -/
def decide (op : BinaryOp) (a b : Source Bool) : Eval (Option Bool) := do
  let dominant := op == .or
  let first ← a.value?
  if first = some dominant then pure first
  else
    let second ← b.value?
    if second = some dominant then pure second
    else pure (if first.isSome && second.isSome then some !dominant else none)

/-- The source of `and` or `or`. -/
def logical (op : BinaryOp) (a b : Source Bool) : Source Bool :=
  { isMissing := do pure (← decide op a b).isNone
    compute := do pure ((← decide op a b) == some true) }

/-! ## Points in time and durations -/

/-- The sum or, for `minus`, the difference of durations. -/
def addDurations (op : BinaryOp) (x y : Duration) : Option Duration :=
  if op = .minus then x.sub? y else x.add? y

/-- The sum or difference of periods. -/
def addPeriods (op : BinaryOp) (x y : Period) : Option Period :=
  if op = .minus then x.sub? y else x.add? y

/-- The multiple of a period by an integer. -/
def scalePeriod (p : Period) (n : Int64) : Option Period :=
  (Word32.ofInt? n.toInt).bind p.scale?

/-- The duration of so many nanoseconds between two points in time. -/
def elapsed (nanos : Int) : Eval Duration :=
  Eval.inRange (some .timeDuration) (Duration.ofNanos? nanos)

/-- Moves something by a period or, for `minus`, by its opposite. -/
def shift {α : Type} (output : Base) (op : BinaryOp) (add : Period → Option α) (p : Period) :
    Eval α := do
  let p ← Eval.inRange output (p.scale? (if op = .minus then -1 else 1))
  Eval.inRange output (add p)

/-- Arithmetic with points in time and durations. -/
def temporal (op : BinaryOp) (output : Base) (l r : Computer) : Except EvalError Computer :=
  match op, l, r with
  | .plus, .of .timeDuration a, .of .timeDuration b
  | .minus, .of .timeDuration a, .of .timeDuration b =>
    .ok (.of .timeDuration (a.combine (fun x y => Eval.inRange output (addDurations op x y)) b))
  | .plus, .of .dateDuration a, .of .dateDuration b
  | .minus, .of .dateDuration a, .of .dateDuration b =>
    .ok (.of .dateDuration (a.combine (fun x y => Eval.inRange output (addPeriods op x y)) b))
  | .multiply, .of .timeDuration a, .of .integer n
  | .multiply, .of .integer n, .of .timeDuration a =>
    .ok (.of .timeDuration (a.combine (fun d n => Eval.inRange output (d.scale? n)) n))
  | .multiply, .of .dateDuration a, .of .integer n
  | .multiply, .of .integer n, .of .dateDuration a =>
    .ok (.of .dateDuration (a.combine (fun p n => Eval.inRange output (scalePeriod p n)) n))
  | .minus, .of .localDate a, .of .localDate b =>
    .ok (.of .dateDuration (a.combine (fun x y => pure (Period.between y x)) b))
  | .minus, .of .localTime a, .of .localTime b =>
    .ok (.of .timeDuration (a.combine (fun x y => elapsed (TimeOfDay.nanosSince x y)) b))
  | .minus, .of .localDateTime a, .of .localDateTime b =>
    .ok (.of .timeDuration (a.combine (fun x y => elapsed (LocalDateTime.nanosSince x y)) b))
  | .minus, .of .zonedDateTime a, .of .zonedDateTime b =>
    .ok (.of .timeDuration (a.combine (fun x y => elapsed (ZonedDateTime.nanosSince x y)) b))
  | .plus, .of .localDate a, .of .dateDuration p
  | .minus, .of .localDate a, .of .dateDuration p =>
    .ok (.of .localDate (a.combine (fun d p => shift output op (fun p => p.addTo? d) p) p))
  | .plus, .of .localTime a, .of .timeDuration d =>
    .ok (.of .localTime (a.combine (fun t d => pure (TimeOfDay.add t d).1) d))
  | .minus, .of .localTime a, .of .timeDuration d =>
    .ok (.of .localTime (a.combine (fun t d => pure (TimeOfDay.sub t d).1) d))
  | .plus, .of .localDateTime a, .of .timeDuration d =>
    .ok (.of .localDateTime
      (a.combine (fun t d => Eval.inRange output (LocalDateTime.add? t d)) d))
  | .minus, .of .localDateTime a, .of .timeDuration d =>
    .ok (.of .localDateTime
      (a.combine (fun t d => Eval.inRange output (LocalDateTime.sub? t d)) d))
  | .plus, .of .localDateTime a, .of .dateDuration p
  | .minus, .of .localDateTime a, .of .dateDuration p =>
    .ok (.of .localDateTime
      (a.combine (fun t p => shift output op (fun p => p.addToDateTime? t) p) p))
  | .plus, .of .zonedDateTime a, .of .timeDuration d =>
    .ok (.of .zonedDateTime
      (a.combine (fun z d => Eval.inRange output (ZonedDateTime.add? z d)) d))
  | .minus, .of .zonedDateTime a, .of .timeDuration d =>
    .ok (.of .zonedDateTime
      (a.combine (fun z d => Eval.inRange output (ZonedDateTime.sub? z d)) d))
  | .plus, .of .zonedDateTime a, .of .dateDuration p
  | .minus, .of .zonedDateTime a, .of .dateDuration p =>
    .ok (.of .zonedDateTime
      (a.combine (fun z p => shift output op (fun p => p.addToZoned? z) p) p))
  | op, l, r => .error (.fault (.operatorOperands op.symbol l.base r.base))

/-! ## Binary operators -/

/-- The text forms of two values joined. -/
def joinTexts (l r : Computer) : Source String :=
  l.textSource.combine (fun a b => pure (a ++ b)) r.textSource

/-- The computer of a binary operator whose result has the base `output`. -/
def binary (op : BinaryOp) (output : Base) (l r : Computer) : Except EvalError Computer :=
  if op = .missingFallback then do
    Computer.zip Source.fallback (← l.coerce output) (← r.coerce output)
  else if output = some .boolean ∧ op.isOrdering then do pure (.boolean (← ordering op l r))
  else if output = some .boolean ∧ op.isEquality then .ok (.boolean (equality op l r))
  else if output = some .boolean ∧ op.isLogical then do
    pure (.boolean (logical op (← l.as .boolean) (← r.as .boolean)))
  else if output = some .integer then do
    pure (.integer (← integers op (← l.as .integer) (← r.as .integer)))
  else if output = some .float then do
    pure (.float (← floats op (← l.asFloat) (← r.asFloat)))
  else if output = some .string ∧ op = .plus then .ok (.string (joinTexts l r))
  else if op.isArithmetic then temporal op output l r
  else .error (unsupported op output)

end Operator

end Rowwise
