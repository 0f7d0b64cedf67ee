import Rowwise.Eval
import Rowwise.Value

/-!
# Lazy computers

A `Source` produces the values of one type row after row.  It is asked first whether the current
value is missing, and only computes a value that is present; sources made from other sources keep
to the same protocol with them.

A `Computer` is a source together with the kind of its values.  The computer of the bare `MISSING`
has no kind, and can stand for a source of any kind.
-/

namespace Rowwise

/-- A lazy source of values that may be missing. -/
structure Source (α : Type) where
  isMissing : Eval Bool
  compute : Eval α

namespace Source

variable {α β γ : Type}

/-- A source that is never missing. -/
def present (compute : Eval α) : Source α := ⟨pure false, compute⟩

/-- The same value for every row. -/
def constant (a : α) : Source α := present (pure a)

/-- A source that is always missing. -/
def missing : Source α := ⟨pure true, throw (.fault .computedMissing)⟩

/-- Applies a function to present values. -/
def map (f : α → β) (s : Source α) : Source β := ⟨s.isMissing, f <$> s.compute⟩

/-- Applies a computation to present values. -/
def tryMap (f : α → Eval β) (s : Source α) : Source β := ⟨s.isMissing, s.compute >>= f⟩

/-- Combines two sources; missing if either is. -/
def combine (f : α → β → Eval γ) (a : Source α) (b : Source β) : Source γ :=
  { isMissing := do if ← a.isMissing then pure true else b.isMissing
    compute := do f (← a.compute) (← b.compute) }

/-- The value, or nothing if it is missing. -/
def value? (s : Source α) : Eval (Option α) := do
  if ← s.isMissing then pure none else some <$> s.compute

/-- The value of a source that need not be given, or nothing if it is not or is missing. -/
def optionalValue? : Option (Source α) → Eval (Option α)
  | some s => s.value?
  | none => pure none

/-- Whether a condition is present and true. -/
def isTrue (condition : Source Bool) : Eval Bool := do
  if ← condition.isMissing then pure false else condition.compute

/-- The first source where the condition is true, otherwise the second one. -/
def select (condition : Source Bool) (yes no : Source α) : Source α :=
  { isMissing := do if ← condition.isTrue then yes.isMissing else no.isMissing
    compute := do if ← condition.isTrue then yes.compute else no.compute }

/-- The first source unless it is missing, then the second one. -/
def fallback (first second : Source α) : Source α :=
  { isMissing := do if ← first.isMissing then second.isMissing else pure false
    compute := do if ← first.isMissing then second.compute else first.compute }

end Source

/-- A source of values of one kind, or the computer of `MISSING`. -/
inductive Computer where
  | missing
  | of (kind : Kind) (source : Source kind.Carrier)

namespace Computer

abbrev boolean (s : Source Bool) : Computer := .of .boolean s
abbrev integer (s : Source Int64) : Computer := .of .integer s
abbrev float (s : Source Float) : Computer := .of .float s
abbrev string (s : Source String) : Computer := .of .string s

/-- The kind of the values. -/
def base : Computer → Base
  | missing => none
  | of k _ => some k

def isMissing : Computer → Eval Bool
  | missing => pure true
  | of _ s => s.isMissing

/-- The value of the current row. -/
def value : Computer → Eval Value
  | missing => pure .missing
  | of k s => do if ← s.isMissing then pure .missing else Value.of k <$> s.compute

/-- The text of the current row's value. -/
def valueText (c : Computer) : Eval String := Value.text <$> c.value

/-- A source of the texts of the values, which is never missing. -/
def textSource (c : Computer) : Source String := Source.present c.valueText

/-- Whether one of the computers is missing; they are asked from left to right. -/
def anyMissing : List Computer → Eval Bool
  | [] => pure false
  | c :: cs => do if ← c.isMissing then pure true else anyMissing cs

/-- The same value for every row. -/
def constant : Value → Computer
  | .missing => missing
  | .of k v => of k (Source.constant v)

/-- The source of a computer of kind `k`. -/
def as (k : Kind) : Computer → Except EvalError (Source k.Carrier)
  | missing => .ok Source.missing
  | of l s => if h : l = k then .ok (h ▸ s) else .error (.fault (.expectedKind (some k) (some l)))

/-- A source of floats.  Integers are widened. -/
def asFloat : Computer → Except EvalError (Source Float)
  | missing => .ok Source.missing
  | of .float s => .ok s
  | of .integer s => .ok (s.map Integer.toFloat)
  | of l _ => .error (.fault (.expectedKind (some .float) (some l)))

/-- An always-missing computer of a base. -/
def missingOf : Base → Computer
  | none => missing
  | some k => of k Source.missing

/-- The computer as one of another base: the same one, integers widened to floats, or the
computer of `MISSING` as an always-missing one. -/
def coerce (target : Base) (c : Computer) : Except EvalError Computer :=
  if c.base = target then .ok c
  else
    match c, target with
    | missing, _ => .ok (missingOf target)
    | of .integer s, some .float => .ok (float (s.map Integer.toFloat))
    | of l _, _ => .error (.fault (.expectedKind target (some l)))

/-- Reads a cell as a value of kind `k`; a float may be given as an integer. -/
def readCell (k : Kind) (v : Value) : Option k.Carrier :=
  match k with
  | .float => v.asFloat?
  | k => v.as? k

/-- A computer over the cells of a host.  `read` gives the cell of a row. -/
def ofCells (base : Base) (read : Nat → Value) : Computer :=
  match base with
  | none => missing
  | some k =>
    of k
      { isMissing := do pure (read (← readThe Moment).row).isMissing
        compute := do
          match readCell k (read (← readThe Moment).row) with
          | some v => pure v
          | none => throw (.fault .cellKind) }

/-- Puts two computers of one kind together by an operation on their sources. -/
def zip (f : {α : Type} → Source α → Source α → Source α) :
    Computer → Computer → Except EvalError Computer
  | missing, missing => .ok missing
  | of k a, of l b =>
    if h : l = k then .ok (of k (f a (h ▸ b)))
    else .error (.fault (.mismatchedKinds (some k) (some l)))
  | a, b => .error (.fault (.mismatchedKinds a.base b.base))

@[simp] theorem as_of (k : Kind) (s : Source k.Carrier) : (of k s).as k = .ok s := by
  simp [as]

@[simp] theorem coerce_base (c : Computer) : c.coerce c.base = .ok c := by
  simp [coerce]

end Computer

end Rowwise
