import Rowwise.Regex.Pattern
import Rowwise.Text.Case

/-!
# Reading regular expressions

The text is read from left to right, and the first flaw ends the reading.  `readPattern` reads
items and `readMembers` those of a bracket; both keep what is open around them in a list, the
innermost first, and their fuel bounds the number of characters.
-/

namespace Rowwise.Regex

open Text

/-- Where the reading has got to: the rest of the text, a number that no rest is longer than,
whether blanks and comments are skipped, how many groups have been numbered, and their names. -/
structure ReadState where
  rest : List Char
  bound : Nat
  ignoreSpace : Bool := false
  groups : Nat := 0
  names : List (String × Nat) := []

abbrev Read := StateT ReadState (Except Flaw)

/-! ## Single characters -/

/-- The text without blanks and comments at its start. -/
def skipBlanks (inComment : Bool) : List Char → List Char
  | [] => []
  | c :: s =>
    if inComment then skipBlanks (c != '\n') s
    else if isBlank c then skipBlanks false s
    else if c = '#' then skipBlanks true s
    else c :: s

def current : Read (Option Char) := do pure (← get).rest.head?

def advance : Read Unit := modify fun s => { s with rest := s.rest.drop 1 }

/-- Skips blanks and comments if the flag for it is on. -/
def skip : Read Unit :=
  modify fun s => if s.ignoreSpace then { s with rest := skipBlanks false s.rest } else s

/-- The character after the current one and skipped blanks; at the end the flaw. -/
def next (flaw : Flaw) : Read Char := do
  advance
  skip
  match ← current with
  | some c => pure c
  | none => throw flaw

/-- Moves on by a text if it comes next. -/
def advanceIf (text : String) : Read Bool := do
  let s ← get
  if text.toList.isPrefixOf s.rest then
    set { s with rest := s.rest.drop text.length }
    pure true
  else pure false

/-- The character that a look ahead of the current one finds.  If blanks are skipped, so is the
first mark of a comment, but not what the comment says; a look that finds nothing more takes the
very next character. -/
def peekAfter : Read (Option Char) := do
  let s ← get
  let rest := s.rest.drop 1
  if s.ignoreSpace then
    let seen :=
      match rest.dropWhile isBlank with
      | '#' :: comment => comment.dropWhile isBlank
      | s => s
    pure (seen.head? <|> rest.head?)
  else pure rest.head?

/-- Reads characters of a kind, skipping blanks between them.  Those read so far stand in
reverse. -/
def readRun (p : Char → Bool) : Nat → (done : List Char) → Read (List Char)
  | 0, done => pure done.reverse
  | fuel + 1, done => do
    match ← current with
    | none => pure done.reverse
    | some c =>
      if p c then
        advance
        skip
        readRun p fuel (c :: done)
      else pure done.reverse

/-- Reads all characters of a kind that come next. -/
def readWhile (p : Char → Bool) : Read (List Char) := do readRun p (← get).bound []

/-! ## Escapes -/

/-- A single item, inside or outside of brackets. -/
inductive Primitive where
  | char (l : Literal)
  | dot
  | mark (m : Mark)
  | letter (negated : Bool) (c : LetterClass)
  | property (negated : Bool) (name : String)

def isHexDigit (c : Char) : Bool :=
  c.isDigit || ('a' ≤ c && c ≤ 'f') || ('A' ≤ c && c ≤ 'F')

def hexDigitValue (c : Char) : Nat :=
  if c.isDigit then c.toNat - '0'.toNat else c.toLower.toNat - 'a'.toNat + 10

/-- The character with the code point that is written by hexadecimal digits. -/
def charOfHex (digits : List Char) (asByte : Bool) : Read Primitive := do
  let n := digits.foldl (fun n c => min (16 * n + hexDigitValue c) 0x110000) 0
  if n.isValidChar then pure (.char ⟨Char.ofNat n, asByte⟩) else throw .hexInvalid

/-- Reads a fixed number of hexadecimal digits. -/
def readHexDigits : Nat → Read (List Char)
  | 0 => pure []
  | n + 1 => do
    match ← current with
    | none => throw .escapeUnfinished
    | some c =>
      if isHexDigit c then
        advance
        skip
        pure (c :: (← readHexDigits n))
      else throw .hexDigit

/-- Reads hexadecimal digits up to a closing brace.  Those read so far stand in reverse. -/
def readBracedHex : Nat → (done : List Char) → Read (List Char)
  | 0, _ => throw .escapeUnfinished
  | fuel + 1, done => do
    let c ← next .escapeUnfinished
    if c = '}' then
      advance
      skip
      pure done.reverse
    else if isHexDigit c then readBracedHex fuel (c :: done)
    else throw .hexDigit

/-- Reads a code point after its letter, which is the current character. -/
def readHex (size : Nat) : Read Primitive := do
  if (← next .escapeUnfinished) = '{' then
    let digits ← readBracedHex (← get).bound []
    if digits.isEmpty then throw .hexEmpty
    charOfHex digits false
  else charOfHex (← readHexDigits size) (size == 2)

/-- Reads the name of a property up to a closing brace.  The characters read so far stand in
reverse. -/
def readBracedName : Nat → (done : List Char) → Read (List Char)
  | 0, _ => throw .escapeUnfinished
  | fuel + 1, done => do
    let c ← next .escapeUnfinished
    if c = '}' then
      advance
      pure done.reverse
    else readBracedName fuel (c :: done)

/-- Reads the name of a property after its letter, which is the current character. -/
def readProperty (negated : Bool) : Read Primitive := do
  let c ← next .escapeUnfinished
  if c = '{' then
    pure (.property negated (String.ofList (← readBracedName (← get).bound [])))
  else if c = '\\' then throw .propertyInvalid
  else do
    advance
    skip
    pure (.property negated c.toString)

/-- Reads the name in braces of a kind of word boundary.  What cannot be a name is left alone: it
may be a repetition. -/
def readBoundary : Read Mark := do
  let start ← get
  if start.rest.head? = some '{' then
    let isNameChar := fun c : Char => c.isAlpha || c == '-'
    let c ← next .boundaryUnfinished
    if isNameChar c then
      let name ← readWhile isNameChar
      if (← current) = some '}' then advance else throw .boundaryUnclosed
      match String.ofList name with
      | "start" => pure .wordStart
      | "end" => pure .wordEnd
      | "start-half" => pure .wordStartHalf
      | "end-half" => pure .wordEndHalf
      | _ => throw .boundaryUnknown
    else
      set start
      pure .boundary
  else pure .boundary

/-- Whether a character stands for itself after a backslash: ASCII, but neither a letter nor a
digit. -/
def isEscapable (c : Char) : Bool :=
  c.toNat < 128 && !c.isAlphanum && c != '<' && c != '>'

/-- Reads an escape; the current character is the backslash. -/
def readEscape : Read Primitive := do
  advance
  match ← current with
  | none => throw .escapeUnfinished
  | some c =>
    if c.isDigit then throw .backreference
    match c with
    | 'x' => readHex 2
    | 'u' => readHex 4
    | 'U' => readHex 8
    | 'p' => readProperty false
    | 'P' => readProperty true
    | _ =>
      advance
      match c with
      | 'd' => pure (.letter false .digit)
      | 'D' => pure (.letter true .digit)
      | 's' => pure (.letter false .space)
      | 'S' => pure (.letter true .space)
      | 'w' => pure (.letter false .word)
      | 'W' => pure (.letter true .word)
      | 'a' => pure (.char ⟨'\x07', false⟩)
      | 'f' => pure (.char ⟨'\x0c', false⟩)
      | 't' => pure (.char ⟨'\t', false⟩)
      | 'n' => pure (.char ⟨'\n', false⟩)
      | 'r' => pure (.char ⟨'\r', false⟩)
      | 'v' => pure (.char ⟨'\x0b', false⟩)
      | 'A' => pure (.mark .textStart)
      | 'z' => pure (.mark .textEnd)
      | 'b' => do pure (.mark (← readBoundary))
      | 'B' => pure (.mark .notBoundary)
      | '<' => pure (.mark .wordStart)
      | '>' => pure (.mark .wordEnd)
      | _ => if isEscapable c then pure (.char ⟨c, false⟩) else throw .escapeUnknown

/-- Reads an item outside of brackets that is no operator. -/
def readPrimitive (c : Char) : Read Primitive :=
  match c with
  | '\\' => readEscape
  | '.' => do advance; pure .dot
  | '^' => do advance; pure (.mark .caret)
  | '$' => do advance; pure (.mark .dollar)
  | c => do advance; pure (.char ⟨c, false⟩)

def Primitive.toPattern : Primitive → Pattern
  | char l => .char l
  | dot => .dot
  | mark m => .mark m
  | letter negated c => .letter negated c
  | property negated name => .property negated name

/-! ## Brackets -/

/-- Reads one end of a range, or a single item between brackets. -/
def readClassItem (c : Char) : Read Primitive :=
  if c = '\\' then readEscape else do advance; pure (.char ⟨c, false⟩)

/-- An item that is not the end of a range. -/
def Primitive.toClassSet : Primitive → Read ClassSet
  | char l => pure (.char l)
  | letter negated c => pure (.letter negated c)
  | property negated name => pure (.property negated name)
  | dot | mark _ => throw .classEscape

/-- An end of a range. -/
def Primitive.toLimit : Primitive → Read Literal
  | char l => pure l
  | _ => throw .classRangeLiteral

/-- Reads a single item or a range. -/
def readClassRange (c : Char) : Read ClassSet := do
  let first ← readClassItem c
  skip
  match ← current with
  | none => throw .classUnclosed
  | some d =>
    let after ← peekAfter
    if d != '-' || after == some ']' || after == some '-' then first.toClassSet
    else
      let second ← readClassItem (← next .classUnclosed)
      let low ← first.toLimit
      let high ← second.toLimit
      if low.char ≤ high.char then pure (.range low high) else throw .classRange

/-- The item of a character between brackets. -/
def ClassSet.ofChar (c : Char) : ClassSet := .char ⟨c, false⟩

/-- Reads hyphens at the start of a bracket, which stand for themselves.  The answer also tells
the character after them. -/
def readHyphens : Nat → (done : List ClassSet) → Char → Read (List ClassSet × Char)
  | 0, done, c => pure (done, c)
  | fuel + 1, done, c =>
    if c = '-' then do readHyphens fuel (.ofChar '-' :: done) (← next .classUnclosed)
    else pure (done, c)

/-- A bracket that has been opened: the operand in front of the current row of items, and that
row in reverse. -/
structure OpenBracket where
  negated : Bool
  left : Option (SetOperator × ClassSet) := none
  items : List ClassSet

/-- Reads the start of a bracket: whether it is negated, and the items that can only stand for
themselves there. -/
def readBracketStart : Read OpenBracket := do
  let c ← next .classUnclosed
  let negated := c == '^'
  let c ← if negated then next .classUnclosed else pure c
  let (items, c) ← readHyphens (← get).bound [] c
  if items.isEmpty && c == ']' then
    let _ ← next .classUnclosed
    pure { negated, items := [.ofChar ']'] }
  else pure { negated, items }

/-- The class of ASCII characters with the name that a text begins with, and what follows the
name. -/
def AsciiClass.ofStart? (text : List Char) : Option (AsciiClass × List Char) :=
  (AsciiClass.all.find? fun k => (k.name.toList ++ [':', ']']).isPrefixOf text).map fun k =>
    (k, text.drop (k.name.length + 2))

/-- Reads a named class at its opening bracket, if it is one. -/
def readAsciiClass? : Read (Option ClassSet) := do
  let start ← get
  match start.rest with
  | '[' :: ':' :: body =>
    let (negated, body) :=
      match body with
      | '^' :: body => (true, body)
      | body => (false, body)
    match AsciiClass.ofStart? body with
    | some (k, rest) =>
      set { start with rest }
      pure (some (.ascii negated k))
    | none => pure none
  | _ => pure none

namespace OpenBracket

def add (b : OpenBracket) (s : ClassSet) : OpenBracket := { b with items := s :: b.items }

/-- The set of the current row of items and the operand in front of it. -/
def row (b : OpenBracket) : ClassSet :=
  let items :=
    match b.items with
    | [s] => s
    | items => .union items.reverse
  match b.left with
  | none => items
  | some (op, s) => .combined op s items

end OpenBracket

/-- The set operator that comes next. -/
def readSetOperator? : Read (Option SetOperator) := do
  if ← advanceIf "&&" then pure (some .intersection)
  else if ← advanceIf "--" then pure (some .difference)
  else if ← advanceIf "~~" then pure (some .symmetricDifference)
  else pure none

/-- Reads the items of a bracket and its end, and then those of the brackets around it. -/
def readMembers : Nat → (outer : List OpenBracket) → OpenBracket → Read Pattern
  | 0, _, _ => throw .classUnclosed
  | fuel + 1, outer, b => do
    skip
    match ← current with
    | none => throw .classUnclosed
    | some '[' =>
      match ← readAsciiClass? with
      | some s => readMembers fuel outer (b.add s)
      | none => do readMembers fuel (b :: outer) (← readBracketStart)
    | some ']' =>
      advance
      match outer with
      | [] => pure (.bracketed b.negated b.row)
      | around :: outer => readMembers fuel outer (around.add (.bracketed b.negated b.row))
    | some c =>
      match ← readSetOperator? with
      | some op => readMembers fuel outer { b with left := some (op, b.row), items := [] }
      | none => do readMembers fuel outer (b.add (← readClassRange c))

/-- Reads a bracket. -/
def readBracket : Read Pattern := do
  let b ← readBracketStart
  readMembers ((← get).bound + 1) [] b

/-! ## Repetitions -/

/-- What is repeated: the last item, unless it only switches flags. -/
def repeated : List Pattern → Read (Pattern × List Pattern)
  | [] | .switch _ :: _ => throw .repeatsNothing
  | p :: items => pure (p, items)

/-- Reads the mark of a repetition that prefers to be short. -/
def readGreedy : Read Bool := do
  if (← current) = some '?' then
    advance
    pure false
  else pure true

/-- Counts of repetitions are below this number. -/
def countBound : Nat := 4294967296

/-- Reads a number in a repetition, or tells what is wrong with it. -/
def readCount : Read (Except Flaw Nat) := do
  modify fun s => { s with rest := s.rest.dropWhile isBlank }
  let digits ← readWhile Char.isDigit
  let _ ← readWhile isBlank
  if digits.isEmpty then pure (.error .countEmpty)
  else
    let n := digits.foldl (fun n c => min (10 * n + (c.toNat - '0'.toNat)) countBound) 0
    pure (if n < countBound then .ok n else .error .decimal)

/-- Reads the limits of a repetition after the opening brace, which is the current character. -/
def readLimits : Read (Nat × Option Nat) := do
  let _ ← next .countUnclosed
  let first ← readCount
  match ← current with
  | none => throw .countUnclosed
  | some ',' =>
    if (← next .countUnclosed) = '}' then pure (← first, none)
    else do
      let least ← first
      let most ← readCount
      pure (least, some (← most))
  | some _ => do
    let n ← first
    pure (n, some n)

/-- Reads a repetition in braces. -/
def readCounted (p : Pattern) : Read Pattern := do
  let (least, most) ← readLimits
  if (← current) != some '}' then throw .countUnclosed
  advance
  skip
  let greedy ← readGreedy
  if most.any (· < least) then throw .countRange
  pure (.repetition least most greedy p)

/-! ## Groups -/

/-- Whether a character may stand in the name of a group. -/
def isNameChar (first : Bool) (c : Char) : Bool :=
  c == '_' || isAlphabetic c ||
    (!first && (isNumber c || c == '.' || c == '[' || c == ']'))

/-- Reads the name of a group up to the closing angle.  The characters read so far stand in
reverse. -/
def readName : Nat → (done : List Char) → Read (List Char)
  | 0, _ => throw .nameUnfinished
  | fuel + 1, done => do
    match ← current with
    | none => throw .nameUnfinished
    | some c =>
      if c = '>' then
        advance
        pure done.reverse
      else if isNameChar done.isEmpty c then
        advance
        readName fuel (c :: done)
      else throw .nameInvalid

/-- Numbers the group that has just been opened. -/
def openGroup : Read Nat := do
  let s ← get
  set { s with groups := s.groups + 1 }
  pure (s.groups + 1)

def flagOf? : Char → Option Flag
  | 'i' => some .ignoreCase
  | 'm' => some .multiLine
  | 's' => some .dotAll
  | 'U' => some .swapGreed
  | 'u' => some .unicode
  | 'R' => some .crlf
  | 'x' => some .ignoreSpace
  | _ => none

/-- Reads flags up to a colon or a closing parenthesis, which stays the current character.
`negated` tells whether a hyphen was read, and `dangling` whether it was the last character. -/
def readFlags : Nat → (switches : FlagSwitches) → (negated dangling : Bool) → Read FlagSwitches
  | 0, _, _, _ => throw .flagUnfinished
  | fuel + 1, switches, negated, dangling => do
    match ← current with
    | none => throw .flagUnfinished
    | some ':' | some ')' => if dangling then throw .flagDanglingNegation else pure switches
    | some '-' =>
      if negated then throw .flagNegatedTwice
      advance
      readFlags fuel switches true true
    | some c =>
      match flagOf? c with
      | none => throw .flagUnknown
      | some flag =>
        if switches.any (·.1 == flag) then throw .flagTwice
        advance
        readFlags fuel (switches ++ [(flag, !negated)]) negated false

/-- What an opening parenthesis starts. -/
inductive GroupStart where
  | switch (switches : FlagSwitches)
  | group (kind : GroupKind)

/-- Reads a capturing group with a name, after the opening angle. -/
def readNamedGroup : Read GroupStart := do
  let index ← openGroup
  let name := String.ofList (← readName ((← get).bound + 1) [])
  if name.isEmpty then throw .nameEmpty
  let s ← get
  if s.names.any (·.1 == name) then throw .nameTwice
  set { s with names := (name, index) :: s.names }
  pure (.group (.capture index))

/-- Reads flags and what ends them. -/
def readFlagGroup : Read GroupStart := do
  if (← current).isNone then throw .groupUnclosed
  let switches ← readFlags ((← get).bound + 1) [] false false
  let closed := (← current) == some ')'
  advance
  if !closed then pure (.group (.plain switches))
  else if switches.isEmpty then throw .repeatsNothing
  else pure (.switch switches)

/-- Reads the start of a group; the current character is the opening parenthesis. -/
def readGroupStart : Read GroupStart := do
  advance
  skip
  let rest := (← get).rest
  if ["?=", "?!", "?<=", "?<!"].any (fun p => p.toList.isPrefixOf rest) then throw .lookAround
  if ← advanceIf "?P<" then readNamedGroup
  else if ← advanceIf "?<" then readNamedGroup
  else if ← advanceIf "?" then readFlagGroup
  else do pure (.group (.capture (← openGroup)))

/-- Whether blanks are skipped once flags have been switched. -/
def switchSpace (switches : FlagSwitches) : Read Unit :=
  match switches.find? (·.1 == .ignoreSpace) with
  | some (_, on) => modify fun s => { s with ignoreSpace := on }
  | none => pure ()

def switchesOf : GroupKind → FlagSwitches
  | .plain switches => switches
  | .capture _ => []

/-! ## Patterns -/

/-- The sequence of items that stand in reverse. -/
def sequenceOf : List Pattern → Pattern
  | [p] => p
  | items => .sequence items.reverse

/-- What has been read of a group or of the whole text: branches, and the items of the current
branch, both in reverse. -/
structure Row where
  branches : List Pattern := []
  items : List Pattern := []

namespace Row

def add (r : Row) (p : Pattern) : Row := { r with items := p :: r.items }

/-- Ends the current branch. -/
def split (r : Row) : Row := ⟨sequenceOf r.items :: r.branches, []⟩

/-- The pattern of all branches. -/
def pattern (r : Row) : Pattern :=
  match r.split.branches with
  | [p] => p
  | branches => .alternative branches.reverse

end Row

/-- A group that has been opened: its kind, whether blanks are skipped around it, and what has
been read in front of it. -/
structure OpenGroup where
  kind : GroupKind
  ignoreSpace : Bool
  before : Row

/-- Reads items to the end of the text. -/
def readPattern : Nat → (outer : List OpenGroup) → Row → Read Pattern
  | 0, _, row => pure row.pattern
  | fuel + 1, outer, row => do
    skip
    match ← current with
    | none => if outer.isEmpty then pure row.pattern else throw .groupUnclosed
    | some '(' =>
      match ← readGroupStart with
      | .switch switches =>
        switchSpace switches
        readPattern fuel outer (row.add (.switch switches))
      | .group kind =>
        let ignoreSpace := (← get).ignoreSpace
        switchSpace (switchesOf kind)
        readPattern fuel (⟨kind, ignoreSpace, row⟩ :: outer) {}
    | some ')' =>
      match outer with
      | [] => throw .groupUnopened
      | g :: outer =>
        modify fun s => { s with ignoreSpace := g.ignoreSpace }
        advance
        readPattern fuel outer (g.before.add (.group g.kind row.pattern))
    | some '|' =>
      advance
      readPattern fuel outer row.split
    | some '[' => do readPattern fuel outer (row.add (← readBracket))
    | some '{' =>
      let (p, items) ← repeated row.items
      let p ← readCounted p
      readPattern fuel outer { row with items := p :: items }
    | some c =>
      if c = '?' ∨ c = '*' ∨ c = '+' then
        let (p, items) ← repeated row.items
        advance
        let greedy ← readGreedy
        let least := if c = '+' then 1 else 0
        let most := if c = '?' then some 1 else none
        readPattern fuel outer { row with items := .repetition least most greedy p :: items }
      else do readPattern fuel outer (row.add (← readPrimitive c).toPattern)

/-- Reads a whole text.  The answer also tells the number of groups and their names. -/
def read (text : List Char) : Except Flaw (Pattern × ReadState) := do
  let bound := text.length
  let (p, state) ← (readPattern (bound + 1) [] {}).run { rest := text, bound }
  if p.nestsWithin mostNesting then pure (p, state) else throw .nestedTooDeep

end Rowwise.Regex
