import Rowwise.Functions.Matching

/-!
# Parts of strings and replacing in them

Positions and lengths count characters, positions from 1.
-/

namespace Rowwise.Functions

open Text

/-! ## Parts -/

/-- A start position of at least 1. -/
def clampStart (start : Int64) : Eval Nat := do
  if start < 1 then
    Eval.warn "The start index is set to 1 because the index must be 1 or higher."
    pure 1
  else pure start.toInt.toNat

/-- A length of at least 0. -/
def clampLength (length : Int64) : Eval Nat := do
  if length < 0 then
    Eval.warn "The length of a substring cannot be negative. The length will be set to 0."
    pure 0
  else pure length.toInt.toNat

/-- The part of a text from a position on, with at most so many characters if a length is
given. -/
def substring (s : List Char) (start length : Option Int64) : Eval (List Char) := do
  let start ← clampStart (start.getD 1)
  let rest := s.drop (start - 1)
  match length with
  | some n => do pure (rest.take (← clampLength n))
  | none => pure rest

def substringBuilder : Builder := fun args _ => do
  let inputs ← Builder.inputs args ["string"]
  let s ← Builder.chars args "string"
  let start ← args.source? "start" .integer
  let length ← args.source? "length" .integer
  pure (.string (Source.propagating inputs do
    let start ← Source.optionalValue? start
    let length ← Source.optionalValue? length
    let text ← s.compute
    pure (String.ofList (← substring text start length))))

/-- A part of `string` that is chosen by a number of characters, which is zero if negative. -/
def partBuilder (part : List Char → Nat → List Char) : Builder := fun args _ => do
  let inputs ← Builder.inputs args ["string", "n"]
  let s ← Builder.chars args "string"
  let n ← args.source "n" .integer
  pure (.string (Source.propagating inputs do
    let text ← s.compute
    pure (String.ofList (part text (← n.compute).toInt.toNat))))

def partFunction (name description : String) (part : List Char → Nat → List Char) : Function :=
  .simple name .string description ["substring", "prefix", "suffix"]
    [stringParam "string", integerParam "n"] (.propagateFrom .string ["string", "n"])
    (partBuilder part)

def lengthBuilder : Builder := fun args _ => do
  let s ← args.source "string" .string
  pure (.integer (s.map fun s => Int64.ofNat s.length))

/-- Functions that measure strings and take parts of them. -/
def slicing : List Function :=
  [ .simple "substring" .string
      ("The part of `string` starting at the 1-based `start` with at most `length` characters. A "
        ++ "MISSING `start` means 1 and a MISSING `length` means the rest of the string.")
      ["slice", "part"]
      [stringParam "string", .optional "start" (.kindOrMissing .integer),
        .optional "length" (.kindOrMissing .integer)]
      (.propagateFrom .string ["string"]) substringBuilder,
    partFunction "first_chars" "The first `n` characters of `string`." fun s n => s.take n,
    partFunction "last_chars" "The last `n` characters of `string`." fun s n =>
      s.drop (s.length - n),
    .simple "find" .string
      ("The 1-based character position of the first occurrence of `search` in `string`, or of the "
        ++ "last one with the `b` modifier. 0 if not found.")
      ["index", "position", "search"] searchParams
      (.propagateFrom .integer ["string", "search"])
      (searchBuilder .integer fun s search modifiers => do
        let m ← modifiers
        checkSearch m search
        pure (findIn s search m)),
    .simple "count" .string "The number of non-overlapping occurrences of `search` in `string`."
      ["occurrences", "frequency"] searchParams (.propagateFrom .integer ["string", "search"])
      (searchBuilder .integer countIn),
    .simple "length" .string "The number of characters in `string`." ["size", "characters"]
      [stringParam "string"] (.propagateFrom .integer ["string"]) lengthBuilder ]

/-! ## Editing -/

/-- Whether two characters are equal, or have one lower-case form. -/
def sameChar (ignoreCase : Bool) (a b : Char) : Bool :=
  a == b || (ignoreCase && lowerChar a == lowerChar b)

/-- Puts the characters of `partners` in the place of those of `chars` at the same position;
characters without a partner are removed. -/
def replaceChars (ignoreCase : Bool) (chars partners s : List Char) : List Char :=
  s.filterMap fun c =>
    match chars.findIdx? (sameChar ignoreCase c) with
    | some i => partners[i]?
    | none => some c

def replaceBuilder : Builder := fun args _ => do
  let inputs ← Builder.inputs args ["string", "search", "replacement"]
  let s ← Builder.chars args "string"
  let search ← Builder.chars args "search"
  let replacement ← Builder.chars args "replacement"
  let modifiers ← args.source? "modifiers" .string
  pure (.string (Source.propagating inputs do
    let text ← s.compute
    let search ← search.compute
    let replacement ← replacement.compute
    let m ← Builder.readModifiers modifiers
    if !m.isPlain then checkSearch m search
    pure (String.ofList (m.replace text search replacement))))

/-- Replaces or removes single characters; the modifiers are read first. -/
def replaceCharsBuilder (replacement : Option String) : Builder := fun args _ => do
  let inputs ← Builder.inputs args (["string", "chars"] ++ replacement.toList)
  let s ← Builder.chars args "string"
  let chars ← Builder.chars args "chars"
  let partners ← replacement.mapM (Builder.chars args)
  let modifiers ← args.source? "modifiers" .string
  pure (.string (Source.propagating inputs do
    let m ← Builder.readModifiers modifiers
    let text ← s.compute
    let chars ← chars.compute
    let partners ←
      match partners with
      | some partners => partners.compute
      | none => pure []
    pure (String.ofList (replaceChars m.ignoreCase chars partners text))))

/-- Functions that edit strings. -/
def editing : List Function :=
  [ .simple "replace" .string
      "`string` with every occurrence of `search` replaced by `replacement`."
      ["substitute", "exchange"]
      [stringParam "string", stringParam "search", stringParam "replacement", modifiersParam]
      (.propagateFrom .string ["string", "search", "replacement"]) replaceBuilder,
    .simple "replace_chars" .string
      ("`string` with each character of `chars` replaced by the character at the same position in "
        ++ "`replacement`, or removed if `replacement` is shorter.")
      ["translate", "substitute"]
      [stringParam "string", stringParam "chars", stringParam "replacement", modifiersParam]
      (.propagateFrom .string ["string", "chars", "replacement"])
      (replaceCharsBuilder (some "replacement")),
    .simple "remove_chars" .string "`string` without any of the characters in `chars`."
      ["delete", "strip"] [stringParam "string", stringParam "chars", modifiersParam]
      (.propagateFrom .string ["string", "chars"]) (replaceCharsBuilder none) ]

end Rowwise.Functions
