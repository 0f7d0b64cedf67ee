import Rowwise.Function

/-!
# Functions that choose between values

Both functions take pairs of arguments: `if` of a condition and a value, `switch` of a case and
its result.  A last argument without a partner is the value to fall back to.
-/

namespace Rowwise.Functions

/-- The pairs of neighbours in a list, and the last element if it has no partner. -/
def pairUp {α : Type} : List α → List (α × α) × Option α
  | [] => ([], none)
  | [a] => ([], some a)
  | a :: b :: rest => ((a, b) :: (pairUp rest).1, (pairUp rest).2)

/-- Nested selections: the value of the first condition that is true. -/
def firstTrue : List (Source Bool × Computer) → Computer → Except EvalError Computer
  | [], otherwise => .ok otherwise
  | (condition, value) :: rest, otherwise => do
    Computer.zip (Source.select condition) value (← firstTrue rest otherwise)

/-- The names of types, in a list. -/
def typeNames (types : List ValueType) : String := ", ".intercalate (types.map ValueType.name)

/-! ## The function `if` -/

/-- Checks that conditions are truth values, counting them from `number`. -/
def checkConditions : Nat → List ValueType → Except String Unit
  | _, [] => .ok ()
  | number, t :: rest =>
    if t.base = some .boolean then checkConditions (number + 1) rest
    else .error s!"Condition {number} must be BOOLEAN, but got {t.name}."

/-- The common type of the values, optional if a condition is. -/
def ifType : TypeRule := fun args => do
  let types := args.all "arguments"
  match pairUp types with
  | (p :: ps, some otherwise) =>
    let conditions := (p :: ps).map (·.1)
    let values := (p :: ps).map (·.2) ++ [otherwise]
    checkConditions 1 conditions
    match ValueType.joinAll values with
    | some t => pure (if conditions.any (·.isOptional) then t.optionalForm else t)
    | none => throw ("All values must have a common type, but got " ++ typeNames values ++ ".")
  | _ =>
    throw ("Expected condition and value pairs followed by an else value, but got "
      ++ toString types.length ++ " arguments.")

def ifBuilder : Builder := fun args type => do
  match pairUp (args.all "arguments") with
  | (pairs, some otherwise) =>
    let pairs ← pairs.mapM fun (condition, value) => do
      pure (← condition.as .boolean, ← value.coerce type.base)
    firstTrue pairs (← otherwise.coerce type.base)
  | ([], none) => throw (.fault .ifWithoutArguments)
  | _ => throw (.fault .unpairedCondition)

/-! ## The function `switch` -/

/-- Checks that cases have the type of the value, counting them from `number`. -/
def checkCases (expected : ValueType) : Nat → List ValueType → Except String Unit
  | _, [] => .ok ()
  | number, t :: rest =>
    if t = expected then checkCases expected (number + 1) rest
    else .error s!"Case {number} must be {expected.name}, but got {t.name}."

/-- The common type of the results, optional if there is nothing to fall back to. -/
def switchType : TypeRule := fun args => do
  match args.get? "value" with
  | none => throw "Missing required argument 'value'."
  | some value =>
    if value.isMissing then throw "The value to switch on must not be MISSING."
    match pairUp (args.all "cases") with
    | ([], _) => throw "Expected at least one case and its result."
    | (pairs, otherwise) =>
      checkCases value.requiredForm 1 (pairs.map (·.1))
      let results := pairs.map (·.2) ++ otherwise.toList
      match ValueType.joinAll results with
      | some t => pure (if otherwise.isSome then t else t.optionalForm)
      | none => throw ("All results must have a common type, but got " ++ typeNames results ++ ".")

/-- Whether two values are present and equal. -/
def matchesCase (value case : Computer) : Source Bool :=
  Source.present do
    if ← value.isMissing then pure false
    else if ← case.isMissing then pure false
    else do pure ((← value.value).equal (← case.value))

def switchBuilder : Builder := fun args type => do
  let value ← args.required "value"
  let (pairs, otherwise) := pairUp (args.all "cases")
  let pairs ← pairs.mapM fun (case, result) => do
    pure (matchesCase value case, ← result.coerce type.base)
  match otherwise with
  | some c => firstTrue pairs (← c.coerce type.base)
  | none => firstTrue pairs (.missingOf type.base)

/-! ## The list -/

/-- The functions that choose between values. -/
def control : List Function :=
  [ .simple "if" .control
      ("Returns the value of the first condition that is TRUE, or the final `else` value if none "
        ++ "is. A MISSING condition counts as FALSE.")
      ["conditional", "else", "when"]
      [.variadic "arguments" .anything] ifType ifBuilder,
    .simple "switch" .control
      ("Compares `value` against each case in order and returns the result of the first matching "
        ++ "case. Without a match, returns the trailing default or MISSING if there is none. "
        ++ "A MISSING value matches no case.")
      ["case", "match", "select"]
      [.required "value" ((Matcher.kind .integer).or (.kind .string)).orMissing,
        .variadic "cases" .anything]
      switchType switchBuilder ]

end Rowwise.Functions
