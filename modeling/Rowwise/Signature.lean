import Rowwise.Value

/-!
# Signatures

A signature is a list of parameters.  A parameter accepts some types, and is required, optional,
optional with a default, or takes any number of positional arguments.

`bindArguments` assigns the arguments of a call to parameters: positional arguments from left to
right, then named arguments by name, and then checks every parameter.  Its answer lists what was
bound to each parameter, in the order of the parameters.
-/

namespace Rowwise

/-! ## Which types a parameter accepts -/

/-- A set of types with the words that describe it in messages. -/
structure Matcher where
  description : String
  accepts : ValueType → Bool

namespace Matcher

/-- The types that either matcher accepts. -/
def or (a b : Matcher) : Matcher :=
  ⟨s!"{a.description} or {b.description}", fun t => a.accepts t || b.accepts t⟩

/-- The accepted types, their optional forms, and MISSING. -/
def orMissing (a : Matcher) : Matcher :=
  ⟨s!"{a.description} (or MISSING)", fun t => t.isMissing || a.accepts t.requiredForm⟩

/-- Exactly the required form of a base. -/
def exactly (base : Base) : Matcher := ⟨base.name, fun t => t == ValueType.ofBase base false⟩

/-- Exactly the required form of a kind. -/
def kind (k : Kind) : Matcher := exactly (some k)

/-- A kind or MISSING. -/
def kindOrMissing (k : Kind) : Matcher := (kind k).orMissing

def numeric : Matcher := ⟨"INTEGER or FLOAT", fun t => t.isNumeric && !t.isOptional⟩
def numericOrMissing : Matcher := numeric.orMissing
def datePart : Matcher := ⟨"a date or date-time", (·.hasDatePart)⟩
def datePartOrMissing : Matcher := datePart.orMissing
def timePart : Matcher := ⟨"a time or date-time", (·.hasTimePart)⟩
def timePartOrMissing : Matcher := timePart.orMissing

/-- A date and time, with or without an offset. -/
def dateTimeOrMissing : Matcher :=
  (Matcher.mk "LOCAL_DATE_TIME or ZONED_DATE_TIME" fun t => t.hasDatePart && t.hasTimePart)
    |>.orMissing

def anything : Matcher := ⟨"any type", fun _ => true⟩

end Matcher

/-! ## Parameters -/

/-- Whether and how often a parameter is given. -/
inductive Arity where
  | required
  | optional (default : Option Value)
  /-- Takes all remaining positional arguments. -/
  | variadic

structure Param where
  name : String
  matcher : Matcher
  arity : Arity

namespace Param

def required (name : String) (m : Matcher) : Param := ⟨name, m, .required⟩
def optional (name : String) (m : Matcher) : Param := ⟨name, m, .optional none⟩
def withDefault (name : String) (m : Matcher) (v : Value) : Param := ⟨name, m, .optional (some v)⟩
def variadic (name : String) (m : Matcher) : Param := ⟨name, m, .variadic⟩

def isVariadic (p : Param) : Bool :=
  match p.arity with
  | .variadic => true
  | _ => false

/-- The text of a parameter in a signature. -/
def describe (p : Param) : String :=
  match p.arity with
  | .required => s!"{p.name}: {p.matcher.description}"
  | .optional _ => s!"{p.name}?: {p.matcher.description}"
  | .variadic => s!"{p.name}...: {p.matcher.description}"

/-- The text of a signature. -/
def describeAll (ps : List Param) : String :=
  "(" ++ ", ".intercalate (ps.map describe) ++ ")"

end Param

/-! ## Bound arguments -/

/-- What is bound to each parameter, in the order of the parameters.  A parameter that nothing is
bound to has no slot. -/
structure Arguments (α : Type) where
  slots : List (String × List α)

namespace Arguments

variable {α β : Type}

def empty : Arguments α := ⟨[]⟩

/-- Adds a value to the slot of a name. -/
def pushSlot (name : String) (a : α) : List (String × List α) → List (String × List α)
  | [] => [(name, [a])]
  | (n, as) :: slots => if n = name then (n, as ++ [a]) :: slots else (n, as) :: pushSlot name a slots

def push (args : Arguments α) (name : String) (a : α) : Arguments α := ⟨pushSlot name a args.slots⟩

/-- Everything bound to a name. -/
def all (args : Arguments α) (name : String) : List α :=
  ((args.slots.find? (·.1 == name)).map (·.2)).getD []

/-- The first value bound to a name. -/
def get? (args : Arguments α) (name : String) : Option α := (args.all name).head?

/-- Whether anything is bound to a name. -/
def has (args : Arguments α) (name : String) : Bool := !(args.all name).isEmpty

/-- All bound values, in the order of the parameters. -/
def values (args : Arguments α) : List α := args.slots.flatMap (·.2)

def size (args : Arguments α) : Nat := args.values.length

def map (f : α → β) (args : Arguments α) : Arguments β :=
  ⟨args.slots.map fun (name, as) => (name, as.map f)⟩

/-- Applies a function that may fail, from left to right. -/
def mapExcept {ε : Type} (f : α → Except ε β) (args : Arguments α) : Except ε (Arguments β) := do
  pure ⟨← args.slots.mapM fun (name, as) => do pure (name, ← as.mapM f)⟩

end Arguments

/-- What a parameter is bound to: an argument of the call by its position, or a default. -/
inductive Binding where
  | argument (index : Nat)
  | default (value : Value)

/-! ## Binding -/

/-- Why arguments do not fit a signature. -/
inductive BindFailure where
  | tooMany (most : Nat)
  | unknown (name : String)
  | variadicByName (name : String)
  | twice (name : String)
  | absent (name : String)
  | unaccepted (name : String) (description : String) (got : ValueType)
  deriving DecidableEq

def BindFailure.message : BindFailure → String
  | tooMany most => s!"Too many arguments. Expected at most {most}."
  | unknown name => s!"Unknown argument '{name}'."
  | variadicByName name => s!"Argument '{name}' cannot be given by name."
  | twice name => s!"Argument '{name}' was given more than once."
  | absent name => s!"Missing required argument '{name}'."
  | unaccepted name description got =>
    s!"Argument '{name}' must be {description}, but got {got.name}."

/-- An argument of a call as binding sees it: its name if it has one, and its type. -/
abbrev ArgumentType := Option String × ValueType

/-- A parameter with the positions of the arguments assigned to it. -/
abbrev Assigned := Param × List Nat

/-- Assigns positional arguments, given by their positions, from left to right.  A variadic
parameter takes all that are left. -/
def assignPositional : List Param → List Nat → Option (List Assigned)
  | [], [] => some []
  | [], _ :: _ => none
  | p :: ps, indices =>
    if p.isVariadic then some ((p, indices) :: ps.map (·, []))
    else
      match indices with
      | [] => some ((p, []) :: ps.map (·, []))
      | i :: rest => (assignPositional ps rest).map ((p, [i]) :: ·)

/-- Assigns one named argument to the first parameter of that name. -/
def assignNamed (name : String) (index : Nat) : List Assigned → Except BindFailure (List Assigned)
  | [] => .error (.unknown name)
  | (p, indices) :: rest =>
    if p.name = name then
      if p.isVariadic then .error (.variadicByName name)
      else if indices.isEmpty then .ok ((p, [index]) :: rest)
      else .error (.twice name)
    else do pure ((p, indices) :: (← assignNamed name index rest))

/-- Checks the arguments of one parameter and adds them to the bound ones. -/
def bindParam (types : List ValueType) (bound : Arguments Binding) :
    Assigned → Except BindFailure (Arguments Binding)
  | (p, []) =>
    match p.arity with
    | .required => .error (.absent p.name)
    | .optional (some v) => .ok (bound.push p.name (.default v))
    | .optional none | .variadic => .ok bound
  | (p, indices) =>
    indices.foldlM
      (fun bound i =>
        let t := types.getD i .missing
        if p.matcher.accepts t then .ok (bound.push p.name (.argument i))
        else .error (.unaccepted p.name p.matcher.description t))
      bound

/-- Binds the arguments of a call to parameters. -/
def bindArguments (params : List Param) (args : List ArgumentType) :
    Except BindFailure (Arguments Binding) := do
  let positions := args.zipIdx
  let positional := (positions.filter fun (a, _) => a.1.isNone).map (·.2)
  let named := positions.filterMap fun (a, i) => a.1.map (·, i)
  let assigned ←
    match assignPositional params positional with
    | some assigned => pure assigned
    | none => throw (.tooMany params.length)
  let assigned ← named.foldlM (fun assigned (name, i) => assignNamed name i assigned) assigned
  assigned.foldlM (bindParam (args.map (·.2))) .empty

end Rowwise
