import Rowwise.Text.Case

/-!
# Searching for a fixed text

Occurrences of a text in another one.  An occurrence may ignore case, and may be asked to begin
and to end at the boundary of a word.  Successive occurrences do not overlap: the search for the
next one starts where the last one ended, or one character later if that one was empty.

Positions count characters from the start of the text.
-/

namespace Rowwise.Text

/-- What the modifiers of a search ask for. -/
structure Modifiers where
  ignoreCase : Bool := false
  wholeWords : Bool := false
  backwards : Bool := false
  deriving DecidableEq, Repr, Inhabited

/-- Reads modifiers: `i` ignores case, `w` wants whole words, `b` searches backwards. -/
def Modifiers.ofText (s : List Char) : Modifiers :=
  { ignoreCase := s.contains 'i', wholeWords := s.contains 'w', backwards := s.contains 'b' }

/-- Whether a search compares characters exactly and everywhere. -/
def Modifiers.isPlain (m : Modifiers) : Bool := !m.ignoreCase && !m.wholeWords

/-- Whether two characters count as equal. -/
def Modifiers.same (m : Modifiers) (a b : Char) : Bool :=
  if m.ignoreCase then sameUpToCase a b else a == b

/-- The rest of `s` after a beginning that equals `t` up to `same`. -/
def dropPrefix? (same : Char → Char → Bool) : List Char → List Char → Option (List Char)
  | s, [] => some s
  | c :: s, d :: t => if same c d then dropPrefix? same s t else none
  | [], _ :: _ => none

/-- Whether `s` begins with `t`. -/
def startsWith (s t : List Char) : Bool := t.isPrefixOf s

/-- Whether `s` ends with `t`. -/
def endsWith (s t : List Char) : Bool := t.isSuffixOf s

/-- Whether `t` occurs in `s`. -/
def contains (s t : List Char) : Bool :=
  startsWith s t ||
    match s with
    | [] => false
    | _ :: s => contains s t

/-- Whether exactly one of the characters around a position belongs to a word. -/
def isWordBoundary (before after : Option Char) : Bool :=
  before.any isWordChar != after.any isWordChar

/-- Whether `t` occurs at the start of `s`, where `before` is the character in front of it. -/
def Modifiers.occursHere (m : Modifiers) (t : List Char) (before : Option Char)
    (s : List Char) : Bool :=
  match dropPrefix? m.same s t with
  | none => false
  | some rest =>
    if m.wholeWords then
      let last := if t.isEmpty then before else (s.take t.length).getLast?
      isWordBoundary before s.head? && isWordBoundary last rest.head?
    else true

/-- The position of the first occurrence of `t` in `s`, counted from `position`; `before` is the
character in front of `s`. -/
def Modifiers.firstFrom (m : Modifiers) (t : List Char) (before : Option Char) (position : Nat)
    (s : List Char) : Option Nat :=
  if m.occursHere t before s then some position
  else
    match s with
    | [] => none
    | c :: s => m.firstFrom t (some c) (position + 1) s

/-- The position of the first occurrence. -/
def Modifiers.first (m : Modifiers) (s t : List Char) : Option Nat := m.firstFrom t none 0 s

/-- The positions of successive occurrences of `t` in `s`, leftmost first.  `wait` is the number
of characters that the last occurrence still covers.  After an empty occurrence the search goes
on one character later.  The positions found so far stand in reverse. -/
def Modifiers.occurrencesFrom (m : Modifiers) (t : List Char) :
    (before : Option Char) → (position wait : Nat) → (done : List Nat) → List Char → List Nat
  | before, position, 0, done, s =>
    let here := m.occursHere t before s
    let done := if here then position :: done else done
    match s with
    | [] => done.reverse
    | c :: s =>
      m.occurrencesFrom t (some c) (position + 1) (if here then t.length - 1 else 0) done s
  | _, _, _ + 1, done, [] => done.reverse
  | _, position, wait + 1, done, c :: s =>
    m.occurrencesFrom t (some c) (position + 1) wait done s

/-- The positions of successive occurrences that do not overlap. -/
def Modifiers.occurrences (m : Modifiers) (s t : List Char) : List Nat :=
  m.occurrencesFrom t none 0 0 [] s

/-- The text with successive occurrences of `t` replaced, given their positions.  `position` is
that of the head of the text, and `done` holds what is in front of it in reverse. -/
def replaceAt (size : Nat) (replacement : List Char) :
    (positions : List Nat) → (position skip : Nat) → (done : List Char) → List Char → List Char
  | positions, position, 0, done, s =>
    let hit := positions.head? == some position
    let rest := if hit then positions.drop 1 else positions
    let done := if hit then replacement.reverse ++ done else done
    match s with
    | [] => done.reverse
    | c :: s =>
      if hit && size != 0 then replaceAt size replacement rest (position + 1) (size - 1) done s
      else replaceAt size replacement rest (position + 1) 0 (c :: done) s
  | _, _, _ + 1, done, [] => done.reverse
  | positions, position, skip + 1, done, _ :: s =>
    replaceAt size replacement positions (position + 1) skip done s

/-- The text with every occurrence of `t` replaced. -/
def Modifiers.replace (m : Modifiers) (s t replacement : List Char) : List Char :=
  replaceAt t.length replacement (m.occurrences s t) 0 0 [] s

/-- Splits at the first occurrence of a character. -/
def splitOnce (c : Char) (text : List Char) : Option (List Char × List Char) :=
  match text.dropWhile (· != c) with
  | [] => none
  | _ :: after => some (text.takeWhile (· != c), after)

end Rowwise.Text
