import Rowwise.Decimal.Digits
import Rowwise.Regex.Reader
import Rowwise.Regex.Resolve
import Rowwise.Regex.Search

/-!
# Regular expressions

`Regex.ofText?` compiles a regular expression.  A match is the leftmost one, and among those the
one that the expression prefers: earlier branches before later ones, and longer repetitions
before shorter ones unless they are marked.
-/

namespace Rowwise

/-- A compiled regular expression with the names of its groups. -/
structure Regex where
  program : Regex.Program
  names : List (String × Nat)

namespace Regex

/-- Compiles a regular expression. -/
def ofText? (ignoreCase : Bool) (text : List Char) : Except Flaw Regex := do
  let (pattern, state) ← read text
  let (e, _) ← pattern.resolve { ignoreCase }
  pure ⟨← Program.ofExpression? e state.groups, state.names⟩

/-- Whether there is a match anywhere in the text. -/
def isMatch (r : Regex) (text : List Char) : Bool := (r.program.search text.toArray 0).isSome

/-- The part of the text that a group took part in a match with. -/
def groupText (text : Array Char) (slots : Slots) (group : Nat) : Option (List Char) :=
  (groupSpan slots group).map fun (first, last) => (text.extract first last).toList

/-- The text of a group in the first match. -/
def extract (r : Regex) (text : List Char) (group : Nat) : Option (List Char) := do
  let slots ← r.program.search text.toArray 0
  groupText text.toArray slots group

/-! ## Replacing -/

/-- A part of a replacement: a character or a reference to a group. -/
inductive Insertion where
  | char (c : Char)
  | group (name : List Char)
  deriving DecidableEq, Repr

def isReferenceChar (c : Char) : Bool := c.isAlphanum || c == '_'

/-- The parts of a replacement.  `$name` takes the longest name, `${name}` the one in braces, and
`$$` is a dollar; a dollar in front of anything else stands for itself.  `skip` is the number of
characters that belong to a reference already read, and the parts found so far stand in
reverse. -/
def insertions : (skip : Nat) → (done : List Insertion) → List Char → List Insertion
  | _, done, [] => done.reverse
  | skip + 1, done, _ :: s => insertions skip done s
  | 0, done, '$' :: s =>
    match s with
    | '$' :: _ => insertions 1 (.char '$' :: done) s
    | '{' :: body =>
      let name := body.takeWhile (· != '\x7d')
      if name.length < body.length then insertions (name.length + 2) (.group name :: done) s
      else insertions 0 (.char '$' :: done) s
    | _ =>
      let name := s.takeWhile isReferenceChar
      if name.isEmpty then insertions 0 (.char '$' :: done) s
      else insertions name.length (.group name :: done) s
  | 0, done, c :: s => insertions 0 (.char c :: done) s

/-- The number of the group with a name; a name may also be a number. -/
def groupNumber? (r : Regex) (name : List Char) : Option Nat :=
  let digits := if name.head? = some '+' then name.drop 1 else name
  match Decimal.readNat? digits with
  | some n => some n
  | none => (r.names.find? (·.1.toList == name)).map (·.2)

/-- The text that replaces a match; groups without a part in the match are empty. -/
def expand (r : Regex) (text : Array Char) (slots : Slots) (replacement : List Insertion) :
    List Char :=
  replacement.flatMap fun
    | .char c => [c]
    | .group name => ((r.groupNumber? name).bind (groupText text slots)).getD []

/-- The text from `position` on with matches replaced, behind what is done so far in reverse. -/
def replaceMatches (r : Regex) (text : Array Char) (replacement : List Insertion) :
    (position : Nat) → (done : List Char) → List Slots → List Char
  | position, done, [] => done.reverse ++ (text.extract position text.size).toList
  | position, done, slots :: rest =>
    let (first, last) := (groupSpan slots 0).getD (position, position)
    let kept := (text.extract position first).toList
    let done := (r.expand text slots replacement).reverse ++ (kept.reverse ++ done)
    replaceMatches r text replacement last done rest

/-- The text with every match replaced. -/
def replaceAll (r : Regex) (text replacement : List Char) : List Char :=
  let text := text.toArray
  r.replaceMatches text (insertions 0 [] replacement) 0 [] (r.program.matches text)

end Regex

end Rowwise
