/-!
# Regular expressions as they are written

The syntax tree of a regular expression, and the flaws that a text can have that is none.  A flag
holds from where it stands to the end of the group around it, so that the meaning of a node
depends on what stands before it; `Regex.Expression` is what is left when flags are resolved.
-/

namespace Rowwise.Regex

/-- Why a text is not a regular expression. -/
inductive Flaw where
  | classEscape
  | classRange
  | classRangeLiteral
  | classUnclosed
  | decimal
  | hexEmpty
  | hexInvalid
  | hexDigit
  | escapeUnfinished
  | escapeUnknown
  | flagDanglingNegation
  | flagTwice
  | flagNegatedTwice
  | flagUnfinished
  | flagUnknown
  | nameTwice
  | nameEmpty
  | nameInvalid
  | nameUnfinished
  | groupUnclosed
  | groupUnopened
  | nestedTooDeep
  | countRange
  | countEmpty
  | countUnclosed
  | repeatsNothing
  | boundaryUnclosed
  | boundaryUnknown
  | boundaryUnfinished
  | propertyInvalid
  | backreference
  | lookAround
  | notText
  | notUnicode
  | propertyUnknown
  | propertyValueUnknown
  | tooLarge
  deriving DecidableEq, Repr

/-- The deepest nesting of groups and brackets. -/
def mostNesting : Nat := 250

/-- The size in bytes that the compiled form must not exceed. -/
def mostBytes : Nat := 10485760

/-- What is said of a pattern that is too large. -/
def tooLargeMessage : String := s!"Compiled regex exceeds size limit of {mostBytes} bytes."

def Flaw.message : Flaw → String
  | classEscape => "error: invalid escape sequence found in character class"
  | classRange => "error: invalid character class range, the start must be <= the end"
  | classRangeLiteral => "error: invalid range boundary, must be a literal"
  | classUnclosed => "error: unclosed character class"
  | decimal => "error: decimal literal invalid"
  | hexEmpty => "error: hexadecimal literal empty"
  | hexInvalid => "error: hexadecimal literal is not a Unicode scalar value"
  | hexDigit => "error: invalid hexadecimal digit"
  | escapeUnfinished => "error: incomplete escape sequence, reached end of pattern prematurely"
  | escapeUnknown => "error: unrecognized escape sequence"
  | flagDanglingNegation => "error: dangling flag negation operator"
  | flagTwice => "error: duplicate flag"
  | flagNegatedTwice => "error: flag negation operator repeated"
  | flagUnfinished => "error: expected flag but got end of regex"
  | flagUnknown => "error: unrecognized flag"
  | nameTwice => "error: duplicate capture group name"
  | nameEmpty => "error: empty capture group name"
  | nameInvalid => "error: invalid capture group character"
  | nameUnfinished => "error: unclosed capture group name"
  | groupUnclosed => "error: unclosed group"
  | groupUnopened => "error: unopened group"
  | nestedTooDeep =>
    s!"error: exceed the maximum number of nested parentheses/brackets ({mostNesting})"
  | countRange => "error: invalid repetition count range, the start must be <= the end"
  | countEmpty => "error: repetition quantifier expects a valid decimal"
  | countUnclosed => "error: unclosed counted repetition"
  | repeatsNothing => "error: repetition operator missing expression"
  | boundaryUnclosed =>
    "error: special word boundary assertion is either unclosed or contains an invalid character"
  | boundaryUnknown => "error: unrecognized special word boundary assertion, valid choices are: "
    ++ "start, end, start-half or end-half"
  | boundaryUnfinished => "error: found either the beginning of a special word boundary or a "
    ++ "bounded repetition on a \\b with an opening brace, but no closing brace"
  | propertyInvalid => "error: invalid Unicode character class"
  | backreference => "error: backreferences are not supported"
  | lookAround => "error: look-around, including look-ahead and look-behind, is not supported"
  | notText => "error: pattern can match invalid UTF-8"
  | notUnicode => "error: Unicode not allowed here"
  | propertyUnknown => "error: Unicode property not found"
  | propertyValueUnknown => "error: Unicode property value not found"
  | tooLarge => tooLargeMessage

/-! ## Sets of characters in brackets -/

/-- The classes with a name between `[:` and `:]`. -/
inductive AsciiClass where
  | alnum | alpha | ascii | blank | cntrl | digit | graph | lower | print | punct | space | upper
  | word | xdigit
  deriving DecidableEq, Repr

namespace AsciiClass

def all : List AsciiClass :=
  [alnum, alpha, ascii, blank, cntrl, digit, graph, lower, print, punct, space, upper, word, xdigit]

def name : AsciiClass → String
  | alnum => "alnum" | alpha => "alpha" | ascii => "ascii" | blank => "blank" | cntrl => "cntrl"
  | digit => "digit" | graph => "graph" | lower => "lower" | print => "print" | punct => "punct"
  | space => "space" | upper => "upper" | word => "word" | xdigit => "xdigit"

end AsciiClass

/-- The classes written as an escaped letter. -/
inductive LetterClass where
  | digit
  | space
  | word
  deriving DecidableEq, Repr

inductive SetOperator where
  | intersection
  | difference
  | symmetricDifference
  deriving DecidableEq, Repr

/-- A character as it is written.  Two hexadecimal digits after `\x` stand for a byte where
characters are not those of Unicode. -/
structure Literal where
  char : Char
  asByte : Bool := false
  deriving DecidableEq, Repr

/-- What stands between brackets. -/
inductive ClassSet where
  | char (l : Literal)
  | range (low high : Literal)
  | ascii (negated : Bool) (c : AsciiClass)
  | letter (negated : Bool) (c : LetterClass)
  | property (negated : Bool) (name : String)
  /-- A row of items; none or at least two of them. -/
  | union (items : List ClassSet)
  | combined (op : SetOperator) (a b : ClassSet)
  | bracketed (negated : Bool) (s : ClassSet)
  deriving Repr

mutual

/-- Whether brackets, operators and rows of items are nested at most so deep. -/
def ClassSet.nestsWithin : (depth : Nat) → ClassSet → Bool
  | 0, union [] | 0, char _ | 0, range _ _ | 0, ascii _ _ | 0, letter _ _ | 0, property _ _ => true
  | 0, _ => false
  | depth + 1, union items => ClassSet.allNestWithin depth items
  | depth + 1, combined _ a b => a.nestsWithin depth && b.nestsWithin depth
  | depth + 1, bracketed _ s => s.nestsWithin depth
  | _ + 1, _ => true

def ClassSet.allNestWithin (depth : Nat) : List ClassSet → Bool
  | [] => true
  | s :: rest => s.nestsWithin depth && ClassSet.allNestWithin depth rest

end

/-! ## Patterns -/

inductive Flag where
  | ignoreCase
  | multiLine
  | dotAll
  | swapGreed
  | unicode
  | crlf
  | ignoreSpace
  deriving DecidableEq, Repr

/-- Places in the text, as they are written. -/
inductive Mark where
  | caret
  | dollar
  | textStart
  | textEnd
  | boundary
  | notBoundary
  | wordStart
  | wordEnd
  | wordStartHalf
  | wordEndHalf
  deriving DecidableEq, Repr

/-- Flags that are switched on or off. -/
abbrev FlagSwitches := List (Flag × Bool)

/-- A group captures what it matches under a number, or switches flags for itself. -/
inductive GroupKind where
  | capture (index : Nat)
  | plain (switches : FlagSwitches)
  deriving DecidableEq, Repr

inductive Pattern where
  | switch (switches : FlagSwitches)
  | char (l : Literal)
  | dot
  | mark (m : Mark)
  | letter (negated : Bool) (c : LetterClass)
  | property (negated : Bool) (name : String)
  | bracketed (negated : Bool) (s : ClassSet)
  | repetition (least : Nat) (most : Option Nat) (greedy : Bool) (p : Pattern)
  | group (kind : GroupKind) (p : Pattern)
  /-- A row of items; none or at least two of them. -/
  | sequence (items : List Pattern)
  /-- At least two branches. -/
  | alternative (branches : List Pattern)
  deriving Repr

mutual

/-- Whether groups, repetitions, brackets and rows are nested at most so deep. -/
def Pattern.nestsWithin : (depth : Nat) → Pattern → Bool
  | 0, bracketed _ _ | 0, repetition _ _ _ _ | 0, group _ _ | 0, alternative _
  | 0, sequence (_ :: _) => false
  | depth + 1, bracketed _ s => s.nestsWithin depth
  | depth + 1, repetition _ _ _ p => p.nestsWithin depth
  | depth + 1, group _ p => p.nestsWithin depth
  | depth + 1, sequence items => Pattern.allNestWithin depth items
  | depth + 1, alternative branches => Pattern.allNestWithin depth branches
  | _, _ => true

def Pattern.allNestWithin (depth : Nat) : List Pattern → Bool
  | [] => true
  | p :: rest => p.nestsWithin depth && Pattern.allNestWithin depth rest

end

end Rowwise.Regex
