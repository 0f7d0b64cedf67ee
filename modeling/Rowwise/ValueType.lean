/-!
# The lattice of value types

Every value of the language has one of ten kinds or is MISSING.  A `ValueType`
says which kind an expression produces and whether it may be MISSING instead;
the type of the bare `MISSING` has no kind and is always optional, so that
optionality is a field of the other types only.

`ValueType.join` is the least common supertype: MISSING joins with every type to
that type's optional form, INTEGER widens to FLOAT, and optionality is the
disjunction of both sides.  `ValueType.isSubtypeOf` is the order of that join.
-/

namespace Rowwise

/-- The kinds of a present value. -/
inductive Kind where
  | boolean
  | integer
  | float
  | string
  | localDate
  | localTime
  | localDateTime
  | zonedDateTime
  | dateDuration
  | timeDuration
  deriving DecidableEq, Repr, Inhabited

/-- The base of a type: its kind, or nothing for the type of `MISSING`. -/
abbrev Base := Option Kind

namespace Kind

/-- All kinds, in the order in which they are listed to users. -/
def all : List Kind :=
  [boolean, integer, float, string, localDate, localTime, localDateTime, zonedDateTime,
    dateDuration, timeDuration]

theorem mem_all (k : Kind) : k ∈ all := by cases k <;> decide

/-- The name of a kind in types and messages. -/
def name : Kind → String
  | boolean => "BOOLEAN"
  | integer => "INTEGER"
  | float => "FLOAT"
  | string => "STRING"
  | localDate => "LOCAL_DATE"
  | localTime => "LOCAL_TIME"
  | localDateTime => "LOCAL_DATE_TIME"
  | zonedDateTime => "ZONED_DATE_TIME"
  | dateDuration => "DATE_DURATION"
  | timeDuration => "TIME_DURATION"

/-- The kinds that arithmetic treats as numbers. -/
def isNumeric : Kind → Bool
  | integer | float => true
  | _ => false

/-- The two kinds of amounts of time. -/
def isDuration : Kind → Bool
  | dateDuration | timeDuration => true
  | _ => false

/-- The kinds with a calendar date. -/
def hasDatePart : Kind → Bool
  | localDate | localDateTime | zonedDateTime => true
  | _ => false

/-- The kinds with a time of day. -/
def hasTimePart : Kind → Bool
  | localTime | localDateTime | zonedDateTime => true
  | _ => false

/-- The kinds with a total order.  A DATE_DURATION has none, as months differ in length. -/
def isOrderable : Kind → Bool
  | integer | float | localDate | localTime | localDateTime | zonedDateTime | timeDuration => true
  | _ => false

end Kind

/-- The name of a base. -/
def Base.name : Base → String
  | none => "MISSING"
  | some k => k.name

/-- All bases, MISSING first. -/
def Base.all : List Base := none :: Kind.all.map some

/-- The type of an expression: that of `MISSING`, or a kind together with whether the value may
be MISSING. -/
inductive ValueType where
  | missing
  | of (kind : Kind) (optional : Bool)
  deriving DecidableEq, Repr, Inhabited

namespace ValueType

/-- The type whose values are of kind `kind` and never MISSING. -/
abbrev required (kind : Kind) : ValueType := .of kind false

/-- The type whose values are of kind `kind` or MISSING. -/
abbrev optionalOf (kind : Kind) : ValueType := .of kind true

/-- All types, each required form before its optional one. -/
def all : List ValueType :=
  .missing :: Kind.all.flatMap fun k => [.required k, .optionalOf k]

/-- The type of a base with the given optionality, which MISSING has in any case. -/
def ofBase (base : Base) (optional : Bool) : ValueType :=
  match base with
  | none => .missing
  | some k => .of k optional

def base : ValueType → Base
  | missing => none
  | of k _ => some k

/-- Whether a value of the type may be MISSING. -/
def isOptional : ValueType → Bool
  | missing => true
  | of _ o => o

def isMissing : ValueType → Bool
  | missing => true
  | of .. => false

/-- The type with another optionality.  MISSING stays MISSING. -/
def withOptional (t : ValueType) (optional : Bool) : ValueType :=
  ofBase t.base optional

/-- The required form. -/
def requiredForm (t : ValueType) : ValueType := t.withOptional false

/-- The optional form. -/
def optionalForm (t : ValueType) : ValueType := t.withOptional true

/-- Whether the type has a kind with property `p`. -/
def kindSatisfies (p : Kind → Bool) : ValueType → Bool
  | missing => false
  | of k _ => p k

def isNumeric : ValueType → Bool := kindSatisfies Kind.isNumeric
def isDuration : ValueType → Bool := kindSatisfies Kind.isDuration
def hasDatePart : ValueType → Bool := kindSatisfies Kind.hasDatePart
def hasTimePart : ValueType → Bool := kindSatisfies Kind.hasTimePart
def isOrderable : ValueType → Bool := kindSatisfies Kind.isOrderable

/-- Whether the ordering comparisons apply: two numbers, or two values of one ordered kind. -/
def isMutuallyOrderable (a b : ValueType) : Bool :=
  (a.isNumeric && b.isNumeric) || (a.base == b.base && a.isOrderable)

/-- Whether the equality comparisons apply: one base, two numbers, or a MISSING side. -/
def isEquatable (a b : ValueType) : Bool :=
  a.base == b.base || a.isMissing || b.isMissing || (a.isNumeric && b.isNumeric)

/-- The least common supertype, or nothing if the kinds are incompatible. -/
def join : ValueType → ValueType → Option ValueType
  | missing, t => some t.optionalForm
  | t, missing => some t.optionalForm
  | of k o, of l p =>
    if k = l then some (.of k (o || p))
    else if k.isNumeric && l.isNumeric then some (.of .float (o || p))
    else none

/-- The join of a list; nothing for the empty list or if a join on the way fails. -/
def joinAll : List ValueType → Option ValueType
  | [] => none
  | t :: ts => ts.foldlM join t

/-- Whether a value of type `a` can stand where `b` is expected. -/
def isSubtypeOf (a b : ValueType) : Bool := a.join b == some b

/-- The name of a type, as in `INTEGER` and `INTEGER | MISSING`. -/
def name : ValueType → String
  | missing => "MISSING"
  | of k false => k.name
  | of k true => k.name ++ " | MISSING"

/-- The type with the given name. -/
def ofName? (text : String) : Option ValueType :=
  all.find? fun t => t.name == text

@[simp] theorem base_ofBase (b : Base) (o : Bool) : (ofBase b o).base = b := by
  cases b <;> rfl

@[simp] theorem base_withOptional (t : ValueType) (o : Bool) : (t.withOptional o).base = t.base := by
  simp [withOptional]

theorem join_comm (a b : ValueType) : a.join b = b.join a := by
  cases a with
  | missing => cases b <;> rfl
  | of k o =>
    cases b with
    | missing => rfl
    | of l p =>
      by_cases h : k = l
      · subst h; simp [join, Bool.or_comm]
      · simp [join, h, Ne.symm h, Bool.or_comm, Bool.and_comm]

theorem join_self (t : ValueType) : t.join t = some t := by
  cases t <;> simp [join, optionalForm, withOptional, ofBase, base]

end ValueType

end Rowwise
