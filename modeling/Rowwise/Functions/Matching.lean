import Rowwise.Functions.Text
import Rowwise.Regex
import Rowwise.Regex.FixedText

/-!
# Searching and matching strings

Searches for a fixed text take modifiers that let them ignore case or ask for whole words; a text
to search for that is too large is an error.  A pattern is compiled for every row; one that is no
regular expression, or too large, gives MISSING and a warning.
-/

namespace Rowwise.Functions

open Text

def modifiersParam : Param := .optional "modifiers" (.kindOrMissing .string)

/-! ## Searches for a fixed text -/

/-- A value from `string` and `search`, which also reads the modifiers if it needs them. -/
def searchBuilder (k : Kind) (f : List Char → List Char → Eval Modifiers → Eval k.Carrier) :
    Builder := fun args _ => do
  let inputs ← Builder.inputs args ["string", "search"]
  let s ← Builder.chars args "string"
  let search ← Builder.chars args "search"
  let modifiers ← args.source? "modifiers" .string
  pure (.of k (Source.propagating inputs do
    f (← s.compute) (← search.compute) (Builder.readModifiers modifiers)))

def searchParams : List Param := [stringParam "string", stringParam "search", modifiersParam]

/-- Refuses a text to search for if it is too large. -/
def checkSearch (m : Modifiers) (search : List Char) : Eval Unit :=
  if (Regex.Expression.ofText m search).fits then pure () else Eval.fail .searchTooLarge

/-- A test of where a text occurs in a string: one rule for plain searches, and one in terms of
the occurrences found with modifiers. -/
def searchTest (plain : List Char → List Char → Bool)
    (modified : Modifiers → List Char → List Char → Bool) : Builder :=
  searchBuilder .boolean fun s search modifiers => do
    let m ← modifiers
    if m.isPlain then pure (plain s search)
    else
      checkSearch m search
      pure (modified m s search)

/-- Whether one of the successive occurrences ends where the text ends. -/
def occursAtEnd (m : Modifiers) (s search : List Char) : Bool :=
  (m.occurrences s search).any (· + search.length == s.length)

def testFunction (name description : String) (plain : List Char → List Char → Bool)
    (modified : Modifiers → List Char → List Char → Bool) : Function :=
  .simple name .string description ["search", "match"] searchParams
    (.propagateFrom .boolean ["string", "search"]) (searchTest plain modified)

/-- The position, from 1, of the first or the last occurrence; zero if there is none. -/
def findIn (s search : List Char) (m : Modifiers) : Int64 :=
  let found := if m.backwards then (m.occurrences s search).getLast? else m.first s search
  match found with
  | some position => Int64.ofNat (position + 1)
  | none => 0

/-- The number of successive occurrences; an empty text has none. -/
def countIn (s search : List Char) (modifiers : Eval Modifiers) : Eval Int64 := do
  if search.isEmpty then pure 0
  else
    let m ← modifiers
    checkSearch m search
    pure (Int64.ofNat (m.occurrences s search).length)

/-- Minus one, zero or one as the first string sorts before, with or after the second one. -/
def compareStrings (a b : String) : Int64 :=
  match compare a b with
  | .lt => -1
  | .eq => 0
  | .gt => 1

def compareBuilder : Builder := fun args _ => do
  let inputs ← Builder.inputs args ["string_1", "string_2"]
  let a ← args.source "string_1" .string
  let b ← args.source "string_2" .string
  pure (.integer (Source.propagating inputs do
    pure (compareStrings (← a.compute) (← b.compute))))

/-! ## Patterns -/

/-- A value from `string` and `pattern`, which may be missing.  `extra` names a further parameter
that the result is missing with. -/
def patternBuilder (k : Kind) (extra : List String)
    (f : Arguments Computer → Except EvalError
      (Eval (List Char) → (pattern : List Char) → Modifiers → Eval (Option k.Carrier))) :
    Builder := fun args _ => do
  let inputs ← Builder.inputs args (["string", "pattern"] ++ extra)
  let s ← Builder.chars args "string"
  let pattern ← Builder.chars args "pattern"
  let modifiers ← args.source? "modifiers" .string
  let f ← f args
  pure (.of k (Source.partialOver inputs do
    let text ← pattern.compute
    f s.compute text (← Builder.readModifiers modifiers)))

/-- Warns of a flaw of a pattern that is shown as `shown`. -/
def warnOfFlaw (shown : List Char) (flaw : Regex.Flaw) : Eval Unit :=
  Eval.warn s!"Invalid regex pattern '{String.ofList shown}'. {flaw.message}"

/-- Compiles a pattern that is shown in warnings as `shown`. -/
def compilePattern (shown pattern : List Char) (m : Modifiers) : Eval (Option Regex) := do
  match Regex.ofText? m.ignoreCase pattern with
  | .ok regex => pure (some regex)
  | .error flaw =>
    warnOfFlaw shown flaw
    pure none

/-- The pattern of the texts that match as a whole. -/
def wholePattern (pattern : List Char) : List Char :=
  "^(?:".toList ++ pattern ++ ")$".toList

def likeBuilder : Builder :=
  patternBuilder .boolean [] fun _ => .ok fun s pattern m => do
    let p := LikePattern.ofText pattern
    if (Regex.Expression.ofLike m p).fits then pure (some (p.matches m.same (← s)))
    else
      warnOfFlaw pattern .tooLarge
      pure none

def regexMatchBuilder : Builder :=
  patternBuilder .boolean [] fun _ => .ok fun s pattern m => do
    match ← compilePattern pattern (wholePattern pattern) m with
    | none => pure none
    | some regex => do pure (some (regex.isMatch (← s)))

/-- The text of a group in the first match; no group has a negative number. -/
def regexExtractBuilder : Builder :=
  patternBuilder .string ["group"] fun args => do
    let group ← args.source "group" .integer
    pure fun s pattern m => do
      match ← compilePattern pattern pattern m with
      | none => pure none
      | some regex =>
        let text ← s
        let n ← group.compute
        pure (if n < 0 then none else (regex.extract text n.toInt.toNat).map String.ofList)

def regexReplaceBuilder : Builder :=
  patternBuilder .string ["replacement"] fun args => do
    let replacement ← Builder.chars args "replacement"
    pure fun s pattern m => do
      match ← compilePattern pattern pattern m with
      | none => pure none
      | some regex =>
        let text ← s
        pure (some (String.ofList (regex.replaceAll text (← replacement.compute))))

def patternFunction (name description : String) (extra : List Param) (k : Kind)
    (builder : Builder) : Function :=
  .simple name .string description ["regex", "regular expression", "pattern"]
    ([stringParam "string", stringParam "pattern"] ++ extra ++ [modifiersParam])
    (.exactly (.optionalOf k)) builder

/-! ## The list -/

/-- Functions that search and match strings. -/
def matching : List Function :=
  [ testFunction "contains" "TRUE if `string` contains `search`." contains
      fun m s search => (m.first s search).isSome,
    testFunction "starts_with" "TRUE if `string` starts with `search`." startsWith
      fun m s search => m.first s search == some 0,
    testFunction "ends_with" "TRUE if `string` ends with `search`." endsWith occursAtEnd,
    .simple "compare" .string
      "-1, 0 or 1 as `string_1` sorts before, equal to or after `string_2`." ["order", "sort"]
      [stringParam "string_1", stringParam "string_2"]
      (.propagateFrom .integer ["string_1", "string_2"]) compareBuilder,
    patternFunction "like"
      ("TRUE if `string` matches the LIKE `pattern`: `%` matches any run of characters, `_` one "
        ++ "character and `[c]` the literal `c`.")
      [] .boolean likeBuilder,
    patternFunction "regex_match"
      "TRUE if the whole of `string` matches the regular expression `pattern`." [] .boolean
      regexMatchBuilder,
    patternFunction "regex_extract"
      ("The text matched by capture `group` of the first match of `pattern` in `string`; group 0 "
        ++ "is the whole match. MISSING without a match.")
      [integerParam "group"] .string regexExtractBuilder,
    patternFunction "regex_replace"
      ("`string` with every match of `pattern` replaced by `replacement`, which may refer to "
        ++ "groups as `$1`.")
      [stringParam "replacement"] .string regexReplaceBuilder ]

end Rowwise.Functions
