import Rowwise.ValueType
import Rowwise.Decimal.FloatText
import Rowwise.Calendar.Period

/-!
# Values

A value is MISSING, or a kind together with an element of that kind's carrier.  The text of a
value is what joining it to a string gives.
-/

namespace Rowwise

/-- The type of the present values of a kind. -/
@[reducible] def Kind.Carrier : Kind → Type
  | .boolean => Bool
  | .integer => Int64
  | .float => Float
  | .string => String
  | .localDate => Date
  | .localTime => TimeOfDay
  | .localDateTime => LocalDateTime
  | .zonedDateTime => ZonedDateTime
  | .dateDuration => Period
  | .timeDuration => Duration

/-- A value of the language. -/
inductive Value where
  | missing
  | of (kind : Kind) (carried : kind.Carrier)

instance : Inhabited Value := ⟨.missing⟩

/-- Equality within a kind.  Floats compare as numbers and zoned date-times as instants. -/
def Kind.same : (k : Kind) → k.Carrier → k.Carrier → Bool
  | .boolean, a, b => a == b
  | .integer, a, b => a == b
  | .float, a, b => a == b
  | .string, a, b => a == b
  | .localDate, a, b => decide (a = b)
  | .localTime, a, b => decide (a = b)
  | .localDateTime, a, b => decide (a = b)
  | .zonedDateTime, a, b => a == b
  | .dateDuration, a, b => decide (a = b)
  | .timeDuration, a, b => decide (a = b)

/-- The text of a present value. -/
def Kind.text : (k : Kind) → k.Carrier → String
  | .boolean, b => if b then "true" else "false"
  | .integer, n => Integer.text n
  | .float, x => FloatText.render x
  | .string, s => s
  | .localDate, d => String.ofList d.text
  | .localTime, t => String.ofList t.text
  | .localDateTime, t => String.ofList t.text
  | .zonedDateTime, z => String.ofList z.text
  | .dateDuration, p => String.ofList p.text
  | .timeDuration, d => String.ofList d.text

namespace Value

abbrev boolean (b : Bool) : Value := .of .boolean b
abbrev integer (n : Int64) : Value := .of .integer n
abbrev float (x : Float) : Value := .of .float x
abbrev string (s : String) : Value := .of .string s

/-- The kind of a present value. -/
def kind? : Value → Base
  | missing => none
  | of k _ => some k

def isMissing : Value → Bool
  | missing => true
  | of .. => false

/-- The type of just this value. -/
def valueType : Value → ValueType
  | missing => .missing
  | of k _ => .required k

/-- The value as one of kind `k`, if it is. -/
def as? (k : Kind) : Value → Option k.Carrier
  | missing => none
  | of l v => if h : l = k then some (h ▸ v) else none

/-- A number as a float. -/
def asFloat? : Value → Option Float
  | of .integer n => some (Integer.toFloat n)
  | of .float x => some x
  | _ => none

/-- The text of a value; `MISSING` if there is none. -/
def text : Value → String
  | missing => "MISSING"
  | of k v => k.text v

/-- Equality of values of one kind; MISSING equals MISSING. -/
def same : Value → Value → Bool
  | missing, missing => true
  | of k v, of l w => if h : k = l then l.same (h ▸ v) w else false
  | _, _ => false

/-- Equality by the operators of the language, which compare numbers across kinds. -/
def equal : Value → Value → Bool
  | of .integer n, of .float y => Integer.toFloat n == y
  | of .float x, of .integer m => Integer.toFloat m == x
  | v, w => v.same w

@[simp] theorem as?_of (k : Kind) (v : k.Carrier) : (of k v).as? k = some v := by
  simp [as?]

end Value

end Rowwise
