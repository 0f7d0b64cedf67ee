import Rowwise.Evaluation.Operators

/-!
# What expressions mean

The evaluator computes lazily and in two steps: it asks a source whether its value is missing and
reads values that are there.  `Expr.meaning` is the semantics without either: a tree without calls
has a value at once, from those of all its parts, given the values of columns and flow variables.

Operators work on values that may be MISSING.  Arithmetic is MISSING where an operand is; comparisons
and joining texts never are; `and` and `or` follow Kleene's tables.  The only way to have no value
is a result that is out of range (`Expr.OutOfRange`).
-/

namespace Rowwise

/-- The value of a kind, or MISSING. -/
def Value.ofOption (k : Kind) : Option k.Carrier → Value
  | some a => .of k a
  | none => .missing

@[simp] theorem Value.ofOption_some (k : Kind) (a : k.Carrier) :
    Value.ofOption k (some a) = .of k a := rfl

@[simp] theorem Value.ofOption_none (k : Kind) : Value.ofOption k none = .missing := rfl

/-- The value as one of another base: an INTEGER as a FLOAT. -/
def Value.widen (target : Base) (v : Value) : Value :=
  match v with
  | .of .integer n => if target = some .float then .float (Integer.toFloat n) else .integer n
  | v => v

namespace Meaning

/-! ## Operators on present values

Operands of kinds that an operator does not apply to are given MISSING as well; typing keeps them
out. -/

def ofInteger (op : BinaryOp) (x y : Int64) : Int64 :=
  match op with
  | .plus => x + y
  | .minus => x - y
  | .multiply => x * y
  | .floorDivide => if y = 0 then 0 else x / y
  | .remainder => if y = 0 then 0 else x % y
  | .exponent => FloatMath.toInteger ((Integer.toFloat x).pow (Integer.toFloat y))
  | _ => 0

def ofFloat (op : BinaryOp) (x y : Float) : Float :=
  match op with
  | .plus => x + y
  | .minus => x - y
  | .multiply => x * y
  | .divide => x / y
  | .remainder => FloatMath.remainder x y
  | .exponent => x.pow y
  | _ => 0

/-- Sums of durations, and points in time after a duration.  Times of day wrap around. -/
def sum : Value → Value → Option Value
  | .of .timeDuration x, .of .timeDuration y => (x.add? y).map (.of .timeDuration)
  | .of .dateDuration x, .of .dateDuration y => (x.add? y).map (.of .dateDuration)
  | .of .localDate d, .of .dateDuration p => (p.addTo? d).map (.of .localDate)
  | .of .localTime t, .of .timeDuration d => some (.of .localTime (t.add d).1)
  | .of .localDateTime t, .of .timeDuration d => (t.add? d).map (.of .localDateTime)
  | .of .localDateTime t, .of .dateDuration p => (p.addToDateTime? t).map (.of .localDateTime)
  | .of .zonedDateTime z, .of .timeDuration d => (z.add? d).map (.of .zonedDateTime)
  | .of .zonedDateTime z, .of .dateDuration p => (p.addToZoned? z).map (.of .zonedDateTime)
  | _, _ => some .missing

/-- Differences of durations, distances between points in time of one kind, and points in time
before a duration. -/
def difference : Value → Value → Option Value
  | .of .timeDuration x, .of .timeDuration y => (x.sub? y).map (.of .timeDuration)
  | .of .dateDuration x, .of .dateDuration y => (x.sub? y).map (.of .dateDuration)
  | .of .localDate x, .of .localDate y => some (.of .dateDuration (Period.between y x))
  | .of .localTime x, .of .localTime y =>
    (Duration.ofNanos? (x.nanosSince y)).map (.of .timeDuration)
  | .of .localDateTime x, .of .localDateTime y =>
    (Duration.ofNanos? (x.nanosSince y)).map (.of .timeDuration)
  | .of .zonedDateTime x, .of .zonedDateTime y =>
    (Duration.ofNanos? (x.nanosSince y)).map (.of .timeDuration)
  | .of .localDate d, .of .dateDuration p => (p.subtractFrom? d).map (.of .localDate)
  | .of .localTime t, .of .timeDuration d => some (.of .localTime (t.sub d).1)
  | .of .localDateTime t, .of .timeDuration d => (t.sub? d).map (.of .localDateTime)
  | .of .localDateTime t, .of .dateDuration p =>
    (p.neg?.bind (·.addToDateTime? t)).map (.of .localDateTime)
  | .of .zonedDateTime z, .of .timeDuration d => (z.sub? d).map (.of .zonedDateTime)
  | .of .zonedDateTime z, .of .dateDuration p =>
    (p.neg?.bind (·.addToZoned? z)).map (.of .zonedDateTime)
  | _, _ => some .missing

/-- Multiples of durations. -/
def product : Value → Value → Option Value
  | .of .timeDuration d, .of .integer n | .of .integer n, .of .timeDuration d =>
    (d.scale? n).map (.of .timeDuration)
  | .of .dateDuration p, .of .integer n | .of .integer n, .of .dateDuration p =>
    ((Word32.ofInt? n.toInt).bind p.scale?).map (.of .dateDuration)
  | _, _ => some .missing

/-- Arithmetic with points in time and durations. -/
def temporal (op : BinaryOp) (v w : Value) : Option Value :=
  match op with
  | .plus => sum v w
  | .minus => difference v w
  | .multiply => product v w
  | _ => some .missing

/-- Arithmetic of present values with a result of the base `output`. -/
def ofPresent (op : BinaryOp) (output : Base) (v w : Value) : Option Value :=
  match output with
  | some .integer =>
    match v, w with
    | .of .integer x, .of .integer y => some (.integer (ofInteger op x y))
    | _, _ => some .missing
  | some .float =>
    match v.asFloat?, w.asFloat? with
    | some x, some y => some (.float (ofFloat op x y))
    | _, _ => some .missing
  | _ => temporal op v w

/-! ## Operators on values that may be MISSING -/

/-- Arithmetic: MISSING where an operand is. -/
def arithmetic (op : BinaryOp) (output : Base) : Value → Value → Option Value
  | .missing, _ | _, .missing => some .missing
  | v, w => ofPresent op output v w

/-- How two present values are ordered: numbers as floats if one of them is a float. -/
def order : Value → Value → Option Ordering
  | .of .integer x, .of .float y => some (FloatMath.totalCompare (Integer.toFloat x) y)
  | .of .float x, .of .integer y => some (FloatMath.totalCompare x (Integer.toFloat y))
  | .of j x, .of k y =>
    if h : j = k then (Operator.orderOf? k).map fun compare => compare (h ▸ x) y else none
  | _, _ => none

def accepts (op : BinaryOp) (o : Ordering) : Bool :=
  match op with
  | .lessThan => o == .lt
  | .lessThanEqual => o != .gt
  | .greaterThan => o == .gt
  | .greaterThanEqual => o != .lt
  | _ => false

/-- `<`, `<=`, `>` and `>=`.  With one operand MISSING all are false; with both, `<=` and `>=` are
true. -/
def ordering (op : BinaryOp) : Value → Value → Bool
  | .missing, .missing => op == .lessThanEqual || op == .greaterThanEqual
  | .missing, .of .. | .of .., .missing => false
  | v, w => (order v w).any (accepts op)

/-- `==`.  MISSING equals MISSING and no other value. -/
def equality : Value → Value → Bool
  | .missing, .missing => true
  | .missing, .of .. | .of .., .missing => false
  | v, w => v.equal w

/-- Kleene's conjunction, with nothing for the unknown truth value. -/
def conjunction : Option Bool → Option Bool → Option Bool
  | some false, _ | _, some false => some false
  | some true, some true => some true
  | _, _ => none

/-- Kleene's disjunction. -/
def disjunction : Option Bool → Option Bool → Option Bool
  | some true, _ | _, some true => some true
  | some false, some false => some false
  | _, _ => none

def unary (op : UnaryOp) : Value → Option Value
  | .missing => some .missing
  | .of k a =>
    match op, k, a with
    | .not, .boolean, b => some (.boolean !b)
    | .minus, .integer, n => some (.integer (-n))
    | .minus, .float, x => some (.float (-x))
    | .minus, .timeDuration, d => some (.of .timeDuration d.neg)
    | .minus, .dateDuration, p => p.neg?.map (.of .dateDuration)
    | _, _, _ => some .missing

/-- A binary operator whose result has the base `output`. -/
def binary (op : BinaryOp) (output : Base) (v w : Value) : Option Value :=
  match op with
  | .missingFallback => some ((if v.isMissing then w else v).widen output)
  | .lessThan | .lessThanEqual | .greaterThan | .greaterThanEqual =>
    some (.boolean (ordering op v w))
  | .equal => some (.boolean (equality v w))
  | .notEqual => some (.boolean !(equality v w))
  | .and => some (.ofOption .boolean (conjunction (v.as? .boolean) (w.as? .boolean)))
  | .or => some (.ofOption .boolean (disjunction (v.as? .boolean) (w.as? .boolean)))
  | op =>
    if op = .plus ∧ output = some .string then some (.string (v.text ++ w.text))
    else arithmetic op output v w

/-- The first branch if the condition is present and true, otherwise the second one. -/
def choose (output : Base) (condition yes no : Value) : Value :=
  (if condition.same (.boolean true) then yes else no).widen output

end Meaning

/-- The values of columns, on the current row, and of flow variables. -/
structure Valuation where
  column : ColumnRef → Value
  flowVariable : String → Value

/-- The base of the type noted at a node. -/
def Note.base (note : Note) : Base := note.type.bind ValueType.base

/-- The value of a typed tree without calls; nothing if that of some part is out of range. -/
def Expr.meaning (V : Valuation) : Expr → Option Value
  | .constant _ c => some c.toValue
  | .column _ ref => some (V.column ref)
  | .flowVariable _ name => some (V.flowVariable name)
  | .unary _ op arg => do Meaning.unary op (← arg.meaning V)
  | .binary note left op right => do
    Meaning.binary op note.base (← left.meaning V) (← right.meaning V)
  | .conditional note condition yes no => do
    pure (Meaning.choose note.base (← condition.meaning V) (← yes.meaning V) (← no.meaning V))
  | .call .. => none

/-- The result of the node's own operator is out of range. -/
def Expr.OutOfRange (V : Valuation) : Expr → Prop
  | .unary _ op arg => ∃ v, arg.meaning V = some v ∧ Meaning.unary op v = none
  | .binary note left op right =>
    ∃ v w, left.meaning V = some v ∧ right.meaning V = some w ∧
      Meaning.binary op note.base v w = none
  | _ => False

/-- The node is a call of a function or an aggregation. -/
def Expr.IsCall : Expr → Prop
  | .call .. => True
  | _ => False

/-- A tree without calls has a value, unless some part of it is out of range. -/
theorem Expr.exists_meaning {V : Valuation} : ∀ {e : Expr}, (∀ n ∈ e.nodes, ¬ n.IsCall) →
    (∀ n ∈ e.nodes, ¬ n.OutOfRange V) → ∃ v, e.meaning V = some v
  | .constant _ _, _, _ => ⟨_, rfl⟩
  | .column _ _, _, _ => ⟨_, rfl⟩
  | .flowVariable _ _, _, _ => ⟨_, rfl⟩
  | .unary _ op arg, plain, inRange => by
      rw [Expr.nodes, List.forall_mem_cons] at plain inRange
      obtain ⟨v, hv⟩ := exists_meaning plain.2 inRange.2
      cases result : Meaning.unary op v with
      | none => exact absurd ⟨v, hv, result⟩ inRange.1
      | some x => exact ⟨x, by rw [meaning, hv]; exact result⟩
  | .binary note left op right, plain, inRange => by
      rw [Expr.nodes, List.forall_mem_cons, List.forall_mem_append] at plain inRange
      obtain ⟨v, hv⟩ := exists_meaning plain.2.1 inRange.2.1
      obtain ⟨w, hw⟩ := exists_meaning plain.2.2 inRange.2.2
      cases result : Meaning.binary op note.base v w with
      | none => exact absurd ⟨v, w, hv, hw, result⟩ inRange.1
      | some x => exact ⟨x, by rw [meaning, hv, hw]; exact result⟩
  | .conditional note condition yes no, plain, inRange => by
      rw [Expr.nodes, List.forall_mem_cons, List.forall_mem_append, List.forall_mem_append]
        at plain inRange
      obtain ⟨c, hc⟩ := exists_meaning plain.2.1.1 inRange.2.1.1
      obtain ⟨y, hy⟩ := exists_meaning plain.2.1.2 inRange.2.1.2
      obtain ⟨n, hn⟩ := exists_meaning plain.2.2 inRange.2.2
      exact ⟨_, by rw [meaning, hc, hy, hn]; rfl⟩
  | .call _ _ _ _ _, plain, _ => by
      rw [Expr.nodes, List.forall_mem_cons] at plain
      exact absurd trivial plain.1

end Rowwise
