import Rowwise.Regex.Expression
import Rowwise.Regex.NamedSet

/-!
# From patterns to expressions

`Pattern.resolve` carries the flags from left to right through a pattern and answers the
expression that the pattern stands for.  A group restores at its end the flags that held before
it.

Where characters are not those of Unicode, patterns speak of bytes.  A text holds whole characters
only, so that a byte that is no ASCII character is refused.
-/

namespace Rowwise.Regex

open Text

/-- The flags in force at a place of a pattern. -/
structure Flags where
  ignoreCase : Bool := false
  multiLine : Bool := false
  dotAll : Bool := false
  swapGreed : Bool := false
  unicode : Bool := true
  crlf : Bool := false
  deriving DecidableEq, Repr

/-- Switches one flag.  Skipping blanks is a matter of reading only. -/
def Flags.switch (flags : Flags) : Flag × Bool → Flags
  | (.ignoreCase, on) => { flags with ignoreCase := on }
  | (.multiLine, on) => { flags with multiLine := on }
  | (.dotAll, on) => { flags with dotAll := on }
  | (.swapGreed, on) => { flags with swapGreed := on }
  | (.unicode, on) => { flags with unicode := on }
  | (.crlf, on) => { flags with crlf := on }
  | (.ignoreSpace, _) => flags

def Flags.switchAll (flags : Flags) (switches : FlagSwitches) : Flags :=
  switches.foldl switch flags

/-! ## Characters -/

/-- The character that is written, unless it is a byte that is no character. -/
def Literal.resolve (flags : Flags) (l : Literal) : Except Flaw Char :=
  if !flags.unicode && l.asByte && 128 ≤ l.char.toNat then .error .notText else .ok l.char

/-- The code point of a character between brackets. -/
def Literal.resolveMember (flags : Flags) (l : Literal) : Except Flaw Nat := do
  let c ← l.resolve flags
  if !flags.unicode && 128 ≤ c.toNat then .error .notUnicode else .ok c.toNat

/-- The characters that differ from a character only in case, itself among them. -/
def caseVariants (c : Char) : List Char :=
  let folded := foldChar c
  folded :: foldRuns.filterMap fun r =>
    let n := ((folded.toNat : Int) - r.distance).toNat
    if r.contains n then some (Char.ofNat n) else none

/-- A character, or one that differs from it only in case. -/
def Expression.ofFolded (c : Char) : Expression :=
  .ofSet true (.ofRanges ((caseVariants c).map fun c => (c.toNat, c.toNat)))

/-- The expression of a character where the given flags hold. -/
def Expression.ofChar (flags : Flags) (c : Char) : Expression :=
  if !flags.ignoreCase then .literal [c]
  else if flags.unicode then .ofFolded c
  else .ofSet false (CharSet.single c).foldAscii

/-! ## Sets -/

/-- A set that may be closed under letter case, and then negated.  In a negated set of bytes
there are some that are no characters. -/
def finishSet (flags : Flags) (negated : Bool) (s : CharSet) : Except Flaw CharSet :=
  if !flags.unicode then
    if negated then .error .notText
    else .ok (if flags.ignoreCase then s.foldAscii else s)
  else
    let s := if flags.ignoreCase then s.foldCase else s
    .ok (if negated then s.complement else s)

/-- The set of characters with a property. -/
def propertySet (flags : Flags) (negated : Bool) (name : String) : Except Flaw CharSet := do
  if !flags.unicode then throw .notUnicode
  let (s, otherwise) ← (PropertyQuery.ofText name.toList).toSet
  finishSet flags (negated != otherwise) s

/-- The set of a class written as an escaped letter, which letter case makes no difference to. -/
def letterSet (flags : Flags) (negated : Bool) (c : LetterClass) : Except Flaw CharSet :=
  finishSet { flags with ignoreCase := false } negated (c.toSet flags.unicode)

/-- The set of an operator between two sets. -/
def SetOperator.apply : SetOperator → CharSet → CharSet → CharSet
  | intersection => CharSet.intersection
  | difference => CharSet.difference
  | symmetricDifference => CharSet.symmetricDifference

mutual

/-- The set written between brackets. -/
def ClassSet.resolve (flags : Flags) : ClassSet → Except Flaw CharSet
  | char l => do
    let n ← l.resolveMember flags
    pure (.ofRanges [(n, n)])
  | range low high => do
    let low ← low.resolveMember flags
    let high ← high.resolveMember flags
    pure (.ofRanges [(low, high)])
  | ascii negated c => finishSet flags negated c.toSet
  | letter negated c => letterSet flags negated c
  | property negated name => propertySet flags negated name
  | union items => resolveItems flags [] items
  | combined op a b => do
    let a ← finishSet flags false (← a.resolve flags)
    let b ← finishSet flags false (← b.resolve flags)
    pure (op.apply a b)
  | bracketed negated s => do finishSet flags negated (← s.resolve flags)

/-- The set of a row of items; `found` holds the ranges of those in front of it. -/
def ClassSet.resolveItems (flags : Flags) (found : List CodeRange) :
    List ClassSet → Except Flaw CharSet
  | [] => .ok (.ofRanges found)
  | s :: items =>
    match s.resolve flags with
    | .ok s => resolveItems flags (s.ranges ++ found) items
    | .error flaw => .error flaw

end

/-! ## Patterns -/

/-- The characters that a dot accepts. -/
def dotSet (flags : Flags) : Except Flaw CharSet :=
  if !flags.unicode then .error .notText
  else if flags.dotAll then .ok .full
  else if flags.crlf then .ok (CharSet.ofRanges [(0xA, 0xA), (0xD, 0xD)]).complement
  else .ok (CharSet.ofRanges [(0xA, 0xA)]).complement

/-- The condition of a mark. -/
def Mark.resolve (flags : Flags) : Mark → Look
  | caret => if flags.multiLine then .lineStart flags.crlf else .textStart
  | dollar => if flags.multiLine then .lineEnd flags.crlf else .textEnd
  | textStart => .textStart
  | textEnd => .textEnd
  | boundary => .boundary flags.unicode
  | notBoundary => .notBoundary flags.unicode
  | wordStart => .wordStart flags.unicode
  | wordEnd => .wordEnd flags.unicode
  | wordStartHalf => .wordStartHalf flags.unicode
  | wordEndHalf => .wordEndHalf flags.unicode

mutual

/-- The meaning of a pattern where the given flags hold, and the flags that hold after it. -/
def Pattern.resolve (flags : Flags) : Pattern → Except Flaw (Expression × Flags)
  | switch switches => .ok (.empty, flags.switchAll switches)
  | char l => do pure (.ofChar flags (← l.resolve flags), flags)
  | dot => do pure (.ofSet true (← dotSet flags), flags)
  | mark m => .ok (.look (m.resolve flags), flags)
  | letter negated c => do pure (.ofSet flags.unicode (← letterSet flags negated c), flags)
  | property negated name => do pure (.ofSet true (← propertySet flags negated name), flags)
  | bracketed negated s => do
    let s ← finishSet flags negated (← s.resolve flags)
    pure (.ofSet flags.unicode s, flags)
  | repetition least most greedy p => do
    let (e, flags) ← p.resolve flags
    pure (.ofRepetition least most (greedy != flags.swapGreed) e, flags)
  | group kind p =>
    match kind with
    | .capture index => do pure (.capture index (← p.resolve flags).1, flags)
    | .plain switches => do pure ((← p.resolve (flags.switchAll switches)).1, flags)
  | sequence items => do
    let (es, flags) ← resolveRow flags [] items
    pure (.ofSequence es, flags)
  | alternative branches => do
    let (es, flags) ← resolveRow flags [] branches
    pure (.ofAlternative es, flags)

/-- The meanings of the items or branches of a row.  Those found so far stand in reverse. -/
def Pattern.resolveRow (flags : Flags) (found : List Expression) :
    List Pattern → Except Flaw (List Expression × Flags)
  | [] => .ok (found.reverse, flags)
  | p :: row =>
    match p.resolve flags with
    | .ok (e, flags) => resolveRow flags (e :: found) row
    | .error flaw => .error flaw

end

end Rowwise.Regex
