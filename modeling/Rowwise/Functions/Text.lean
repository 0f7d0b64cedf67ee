import Rowwise.Functions.Builder
import Rowwise.Text.Search

/-!
# Case, layout and conversion of strings

Strings are lists of characters here.  The builders at the beginning read string parameters in
that form.
-/

namespace Rowwise

open Text

namespace Builder

def charsOf (s : Source String) : Source (List Char) := s.map String.toList

/-- The source of a string parameter that is always bound. -/
def chars (args : Arguments Computer) (name : String) : Except EvalError (Source (List Char)) := do
  pure (charsOf (← args.source name .string))

/-- The computers of named parameters. -/
def inputs (args : Arguments Computer) (names : List String) :
    Except EvalError (List Computer) :=
  names.mapM args.required

/-- A string for every present value of the parameter `string`. -/
def ofText (f : List Char → List Char) : Builder := fun args _ => do
  pure (.string ((← chars args "string").map fun s => String.ofList (f s)))

/-- A value for some of the present values of the parameter `string`. -/
def ofText? (k : Kind) (f : List Char → Option k.Carrier) : Builder := fun args _ => do
  let input ← args.required "string"
  let s ← chars args "string"
  pure (.of k (Source.partialOver [input] do pure (f (← s.compute))))

/-- The modifiers of a search; there are none if they are missing. -/
def readModifiers (modifiers : Option (Source String)) : Eval Modifiers := do
  match ← Source.optionalValue? modifiers with
  | some text => pure (.ofText text.toList)
  | none => pure {}

end Builder

namespace Functions

def stringParam (name : String) : Param := .required name (.kindOrMissing .string)
def integerParam (name : String) : Param := .required name (.kindOrMissing .integer)

/-- A string function of the parameter `string`. -/
def textFunction (name description : String) (keywords : List String)
    (f : List Char → List Char) : Function :=
  .simple name .string description keywords [stringParam "string"]
    (.propagateFrom .string ["string"]) (Builder.ofText f)

/-! ## Layout -/

/-- The text with every run of spaces collapsed to one. -/
def collapseSpaces : List Char → List Char
  | ' ' :: ' ' :: s => collapseSpaces (' ' :: s)
  | c :: s => c :: collapseSpaces s
  | [] => []

/-- The end of a text at which it is padded. -/
inductive Side where
  | start
  | finish
  deriving DecidableEq

/-- The text with so many copies of a character added that it has at least `length`. -/
def padTo (side : Side) (length : Nat) (fill : Char) (s : List Char) : List Char :=
  let padding := List.replicate (length - s.length) fill
  match side with
  | .start => padding ++ s
  | .finish => s ++ padding

def padBuilder (name : String) (side : Side) : Builder := fun args _ => do
  let inputs ← Builder.inputs args ["string", "length"]
  let s ← Builder.chars args "string"
  let length ← args.source "length" .integer
  let fill ← args.source? "character" .string
  pure (.string (Source.propagating inputs do
    let target ← length.compute
    if (Word32.ofInt? target.toInt).isNone then Eval.fail (.lengthTooLarge target name)
    let fill := ((← Source.optionalValue? fill).bind (·.toList.head?)).getD ' '
    pure (String.ofList (padTo side target.toInt.toNat fill (← s.compute)))))

def padFunction (name description : String) (side : Side) : Function :=
  .simple name .string description ["fill", "align"]
    [stringParam "string", integerParam "length", .optional "character" (.kindOrMissing .string)]
    (.propagateFrom .string ["string", "length"]) (padBuilder name side)

/-- Joins the second and later arguments by the first one. -/
def joinBuilder : Builder := fun args _ => do
  let strings ← args.values.mapM (Computer.as .string)
  pure (.string (Source.propagating args.values do
    match ← Builder.computeAll strings with
    | separator :: parts => pure (separator.intercalate parts)
    | [] => pure ""))

/-- Functions on letter case and layout. -/
def layout : List Function :=
  [ textFunction "lower_case" "`string` with all characters in lower case."
      ["lowercase", "small"] lower,
    textFunction "upper_case" "`string` with all characters in upper case."
      ["uppercase", "capital"] upper,
    textFunction "capitalize"
      ("`string` with the first letter of every word in upper case and the rest in lower case.")
      ["title case"] capitalize,
    padFunction "pad_start"
      ("Pads `string` at the start with `character` (default space) up to `length` characters.")
      .start,
    padFunction "pad_end"
      ("Pads `string` at the end with `character` (default space) up to `length` characters.")
      .finish,
    .simple "join" .string "Concatenates `strings`, putting `separator` between each pair."
      ["concatenate", "combine"]
      [stringParam "separator", stringParam "string", .variadic "more" (.kindOrMissing .string)]
      (.propagateFrom .string ["separator", "string", "more"]) joinBuilder,
    textFunction "reverse" "`string` with its characters in reverse order." ["backwards"]
      List.reverse,
    textFunction "remove_duplicate_spaces"
      "`string` with every run of spaces collapsed to a single space." ["whitespace", "collapse"]
      collapseSpaces,
    textFunction "strip" "`string` without leading and trailing whitespace." ["trim"] trim,
    textFunction "strip_start" "`string` without leading whitespace." ["trim", "left"] trimStart,
    textFunction "strip_end" "`string` without trailing whitespace." ["trim", "right"] trimEnd ]

/-! ## Conversion -/

/-- A truth value written in any case. -/
def readBoolean? (s : List Char) : Option Bool :=
  let word := s.map Char.toLower
  if word = "true".toList then some true
  else if word = "false".toList then some false
  else none

/-- The text of a number without blanks around it and separators in it. -/
def withoutSeparators (s : List Char) : List Char := (trim s).filter (· != '_')

def emptyToMissing (s : List Char) : Option String :=
  if s.isEmpty then none else some (String.ofList s)

def missingToEmptyBuilder : Builder := fun args _ => do
  let s ← args.source "string" .string
  pure (.string (Source.present do pure ((← s.value?).getD "")))

def toStringBuilder : Builder := fun args _ => do
  pure (.string (← args.required "value").textSource)

/-- A function that reads a value from a string. -/
def readingFunction (name description : String) (k : Kind) (read : List Char → Option k.Carrier) :
    Function :=
  .simple name .string description ["convert", "cast"] [stringParam "string"]
    (.exactly (.optionalOf k)) (Builder.ofText? k read)

/-- Functions between strings and other values. -/
def conversions : List Function :=
  [ .simple "empty_to_missing" .string "MISSING if `string` is empty, otherwise `string`."
      ["null", "blank"] [stringParam "string"] (.exactly (.optionalOf .string))
      (Builder.ofText? .string emptyToMissing),
    .simple "missing_to_empty" .string
      "The empty string if `string` is MISSING, otherwise `string`. Never MISSING."
      ["null", "blank", "default"] [stringParam "string"] (.exactly (.required .string))
      missingToEmptyBuilder,
    .simple "to_string" .string "The text form of any value. A MISSING value gives \"MISSING\"."
      ["convert", "text"] [.required "value" .anything] (.exactly (.required .string))
      toStringBuilder,
    readingFunction "parse_bool"
      "TRUE or FALSE from `string`, ignoring case. MISSING if it is neither." .boolean
      readBoolean?,
    readingFunction "parse_float"
      ("The FLOAT written in `string`, which may use `_` separators. MISSING if it is not a "
        ++ "number.")
      .float fun s => FloatText.read? (withoutSeparators s),
    readingFunction "parse_int"
      ("The INTEGER written in `string`, which may use `_` separators. MISSING if it is not an "
        ++ "integer.")
      .integer fun s => Integer.read? (withoutSeparators s) ]

end Functions

end Rowwise
