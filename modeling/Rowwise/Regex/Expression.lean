import Rowwise.Text.Case
import Rowwise.Text.CharSet

/-!
# Expressions

An expression is a regular expression without flags, in a simple form that the functions named
`of…` keep: a row of characters is one literal, rows hold no rows, branches that are single
characters or sets make one set, and what branches have in common at their start stands in front
of them.
-/

namespace Rowwise.Regex

open Text

/-- A condition on the place in the text, which looks at the characters around it. -/
inductive Look where
  | textStart
  | textEnd
  | lineStart (crlf : Bool)
  | lineEnd (crlf : Bool)
  | boundary (unicode : Bool)
  | notBoundary (unicode : Bool)
  | wordStart (unicode : Bool)
  | wordEnd (unicode : Bool)
  | wordStartHalf (unicode : Bool)
  | wordEndHalf (unicode : Bool)
  deriving DecidableEq, Repr

inductive Expression where
  | empty
  | literal (cs : List Char)
  /-- One character of a set.  Sets that are made of bytes hold ASCII characters only. -/
  | one (unicode : Bool) (s : CharSet)
  | look (l : Look)
  | repetition (least : Nat) (most : Option Nat) (greedy : Bool) (e : Expression)
  | capture (index : Nat) (e : Expression)
  | sequence (es : List Expression)
  | alternative (es : List Expression)
  deriving Repr

namespace Expression

/-- The expression without a match. -/
def nothing : Expression := one false .empty

/-! ## Lengths -/

/-- The length of a text in bytes. -/
def byteLength (cs : List Char) : Nat := cs.foldl (fun n c => n + c.utf8Size) 0

/-- The bytes of the character with a code point. -/
def codeLength (n : Nat) : Nat := (Char.ofNat n).utf8Size

mutual

/-- The fewest bytes of a match, if there is any match. -/
def minLength : Expression → Option Nat
  | empty | look _ => some 0
  | literal cs => some (byteLength cs)
  | one _ s => s.ranges.head?.map fun r => codeLength r.1
  | repetition least _ _ e => e.minLength.map (least * ·)
  | capture _ e => e.minLength
  | sequence es => minLengthOfAll 0 es
  | alternative es => minLengthOfAny none es

def minLengthOfAll (n : Nat) : List Expression → Option Nat
  | [] => some n
  | e :: es =>
    match e.minLength with
    | some m => minLengthOfAll (n + m) es
    | none => none

/-- The least length of branches; none if a branch has no match. -/
def minLengthOfAny (n : Option Nat) : List Expression → Option Nat
  | [] => n
  | e :: es =>
    match e.minLength with
    | some m => minLengthOfAny (some ((n.map (min m)).getD m)) es
    | none => none

end

mutual

/-- The most bytes of a match, if there is any match and its length is bounded. -/
def maxLength : Expression → Option Nat
  | empty | look _ => some 0
  | literal cs => some (byteLength cs)
  | one _ s => s.ranges.getLast?.map fun r => codeLength r.2
  | repetition _ most _ e =>
    match most, e.maxLength with
    | some m, some n => some (m * n)
    | _, _ => none
  | capture _ e => e.maxLength
  | sequence es => maxLengthOfAll 0 es
  | alternative es => maxLengthOfAny 0 es

def maxLengthOfAll (n : Nat) : List Expression → Option Nat
  | [] => some n
  | e :: es =>
    match e.maxLength with
    | some m => maxLengthOfAll (n + m) es
    | none => none

def maxLengthOfAny (n : Nat) : List Expression → Option Nat
  | [] => some n
  | e :: es =>
    match e.maxLength with
    | some m => maxLengthOfAny (max n m) es
    | none => none

end

/-- Whether all matches are empty. -/
def isEmptyOnly (e : Expression) : Bool := e.maxLength == some 0

/-! ## Equality -/

mutual

/-- Whether two expressions are the same. -/
def same : Expression → Expression → Bool
  | empty, empty => true
  | literal a, literal b => a == b
  | one u a, one v b => u == v && a == b
  | look a, look b => a == b
  | repetition l m g a, repetition l' m' g' b => l == l' && m == m' && g == g' && a.same b
  | capture i a, capture j b => i == j && a.same b
  | sequence as, sequence bs => allSame as bs
  | alternative as, alternative bs => allSame as bs
  | _, _ => false

def allSame : List Expression → List Expression → Bool
  | [], [] => true
  | a :: as, b :: bs => a.same b && allSame as bs
  | _, _ => false

end

/-! ## Sets and rows -/

/-- One character of a set. -/
def ofSet (unicode : Bool) (s : CharSet) : Expression :=
  if s.isEmpty then nothing
  else
    match s.single? with
    | some c => literal [c]
    | none => one unicode s

/-- The items of a row. -/
def items : Expression → List Expression
  | sequence es => es
  | e => [e]

/-- Puts a literal in front of items that stand in reverse; its characters stand in reverse,
too. -/
def flush : List Char → List Expression → List Expression
  | [], done => done
  | pending, done => literal pending.reverse :: done

/-- Joins neighbouring literals and leaves out what is empty. -/
def joinLiterals : (pending : List Char) → (done : List Expression) → List Expression →
    List Expression
  | pending, done, [] => (flush pending done).reverse
  | pending, done, e :: es =>
    match e with
    | empty => joinLiterals pending done es
    | literal cs => joinLiterals (cs.reverse ++ pending) done es
    | e => joinLiterals [] (e :: flush pending done) es

/-- One expression after the other. -/
def ofSequence (es : List Expression) : Expression :=
  match joinLiterals [] [] (es.flatMap items) with
  | [] => empty
  | [e] => e
  | es => sequence es

/-! ## Branches -/

/-- The branches of an alternative. -/
def branches : Expression → List Expression
  | alternative es => es
  | e => [e]

/-- The ranges of an expression that is one character. -/
def charRanges? : Expression → Option (List CodeRange)
  | literal [c] => some [(c.toNat, c.toNat)]
  | _ => none

/-- The ranges of an expression that is a set. -/
def setRanges? : Expression → Option (List CodeRange)
  | one _ s => some s.ranges
  | _ => none

/-- One of some branches, without regard to what they have in common. -/
def ofBranches (es : List Expression) : Expression :=
  match es.flatMap branches with
  | [] => nothing
  | [e] => e
  | es =>
    match es.mapM charRanges? <|> es.mapM setRanges? with
    | some ranges => ofSet true (.ofRanges ranges.flatten)
    | none => alternative es

/-- What two rows have in common at their start.  The items found so far stand in reverse. -/
def commonItems : (done : List Expression) → List Expression → List Expression → List Expression
  | done, a :: as, b :: bs => if a.same b then commonItems (a :: done) as bs else done.reverse
  | done, _, _ => done.reverse

/-- What rows have in common at their start; nothing if one of the expressions is no row. -/
def commonStart : List Expression → List Expression
  | sequence first :: es =>
    es.foldl
      (fun found e =>
        match e with
        | sequence items => commonItems [] found items
        | _ => [])
      first
  | _ => []

/-- One of some branches. -/
def ofAlternative (es : List Expression) : Expression :=
  match ofBranches es with
  | alternative es =>
    let start := commonStart es
    if start.isEmpty then alternative es
    else
      ofSequence (start ++
        [ofBranches (es.map fun e => ofSequence (e.items.drop start.length))])
  | e => e

/-! ## Repetitions -/

/-- A repeated expression.  One that can only match the empty text is not repeated. -/
def ofRepetition (least : Nat) (most : Option Nat) (greedy : Bool) (e : Expression) :
    Expression :=
  let (least, most) :=
    if e.isEmptyOnly then (min least 1, some ((most.map (min 1)).getD 1)) else (least, most)
  if least = 0 ∧ most = some 0 then empty
  else if least = 1 ∧ most = some 1 then e
  else repetition least most greedy e

/-! ## Conditions at the ends -/

mutual

/-- Whether every match begins at the start of the text, or, looked at backwards, ends at its
end. -/
def isPinned (backwards : Bool) : Expression → Bool
  | look l => l == if backwards then .textEnd else .textStart
  | repetition least _ _ e => least != 0 && e.isPinned backwards
  | capture _ e => e.isPinned backwards
  | sequence es => if backwards then isPinnedAtEnd false es else isPinnedAtStart es
  | alternative es => allPinned backwards es
  | _ => false

/-- Whether one of the items up to the first one with a length is pinned to the start. -/
def isPinnedAtStart : List Expression → Bool
  | [] => false
  | e :: es => e.isPinned false || (e.isEmptyOnly && isPinnedAtStart es)

/-- Whether one of the items from the last one with a length on is pinned to the end; `pinned`
tells whether this is so before the next item. -/
def isPinnedAtEnd (pinned : Bool) : List Expression → Bool
  | [] => pinned
  | e :: es => isPinnedAtEnd (e.isPinned true || (pinned && e.isEmptyOnly)) es

def allPinned (backwards : Bool) : List Expression → Bool
  | [] => true
  | e :: es => e.isPinned backwards && allPinned backwards es

end

end Expression

end Rowwise.Regex
