import Rowwise.Regex.Expression
import Rowwise.Regex.Pattern
import Rowwise.Text.Utf8
import Std.Data.HashMap

/-!
# The size of an expression

An expression is refused if the automata for it would be too large: one that reads a text byte by
byte and keeps track of groups, and one that reads it backwards.  A state takes 32 bytes; one with
several ways on takes four more for every way, and one that tells ranges of bytes apart eight more
for every range.

The states are counted in the order in which they would be laid out, because a set of characters
shares states that are alike only while a small table remembers them, and where a state stands in
the table depends on the numbers of the states behind it.
-/

namespace Rowwise.Regex

open Text

/-- The states that have been laid out, and the bytes that their ways take. -/
structure Footprint where
  states : Nat := 0
  ways : Nat := 0
  deriving DecidableEq, Repr

namespace Footprint

def bytes (f : Footprint) : Nat := 32 * f.states + f.ways

/-- Whether the size is exceeded. -/
def isFull (f : Footprint) : Bool := mostBytes < f.bytes

/-- Adds a number of states without lists. -/
def add (f : Footprint) (states : Nat) : Footprint := { f with states := f.states + states }

/-- Adds a number of ways out of branching states. -/
def branch (f : Footprint) (ways : Nat) : Footprint := { f with ways := f.ways + 4 * ways }

/-- Adds a state that tells so many ranges apart. -/
def select (f : Footprint) (ranges : Nat) : Footprint := ⟨f.states + 1, f.ways + 8 * ranges⟩

/-- Goes through a step so many times, or until the size is exceeded. -/
def times (step : Footprint → Footprint) : Nat → Footprint → Footprint
  | 0, f => f
  | n + 1, f => if f.isFull then f else times step n (step f)

end Footprint

/-! ## Sets of characters -/

/-- The states of a set that a table of limited size remembers.  A place in the table holds the
state that was put there last. -/
abbrev Remembered (α : Type) := Std.HashMap Nat (α × Nat)

/-- The place of a list of numbers in a table of a size: a hash that takes in one number after the
other. -/
def placeOf (size : Nat) (numbers : List Nat) : Nat :=
  (numbers.foldl (fun h n => (h ^^^ UInt64.ofNat n) * 1099511628211)
    (14695981039346656037 : UInt64)).toNat % size

/-- The state of a row of bytes read forwards: its ranges, each with the state that it leads
to. -/
abbrev ByteState := List (Nat × Nat × Nat)

/-- The number of a state that is remembered at a place. -/
def Remembered.find? {α : Type} [DecidableEq α] (found : Remembered α) (place : Nat) (s : α) :
    Option Nat :=
  match found[place]? with
  | some (t, n) => if t = s then some n else none
  | none => none

/-- Adds a state, unless it is remembered, and answers its number. -/
def addByteState (s : ByteState) (found : Remembered ByteState) (f : Footprint) :
    Nat × Remembered ByteState × Footprint :=
  let place := placeOf 10000 (s.flatMap fun (low, high, next) => [low, high, next])
  match found.find? place s with
  | some n => (n, found, f)
  | none => (f.states, found.insert place (s, f.states), f.select s.length)

/-- Adds the states for rows of bytes, the last ones first, and answers the number of the first
one.  Rows that begin with the same range share a state for what follows.  The depth bounds the
length of the rows. -/
def addByteRows (target : Nat) : (depth : Nat) → List ByteRow → Remembered ByteState →
    Footprint → Nat × Remembered ByteState × Footprint
  | 0, _, found, f => (target, found, f)
  | depth + 1, rows, found, f =>
    let groups := rows.splitBy fun a b => a.head? == b.head?
    let (s, found, f) := groups.foldl
      (fun (s, found, f) group =>
        match group with
        | ((low, high) :: rest) :: _ =>
          let (next, found, f) :=
            if rest.isEmpty then (target, found, f)
            else addByteRows target depth (group.map (·.drop 1)) found f
          ((low, high, next) :: s, found, f)
        | _ => (s, found, f))
      (([] : ByteState), found, f)
    addByteState s.reverse found f

/-- Adds the states for a row of bytes read backwards from the state `behind`: what comes last in
the text is told apart first. -/
def addByteRow (behind : Nat) (row : ByteRow) (found : Remembered (Nat × Nat × Nat))
    (f : Footprint) : Remembered (Nat × Nat × Nat) × Footprint :=
  let (_, found, f) := row.foldl
    (fun (behind, found, f) (low, high) =>
      let s := (behind, low, high)
      let place := placeOf 1000 [behind, low, high]
      match found.find? place s with
      | some n => (n, found, f)
      | none => (f.states, found.insert place (s, f.states), f.add 1))
    (behind, found, f)
  (found, f)

/-- Adds the states of a set of characters. -/
def setFootprint (backwards : Bool) (s : CharSet) (f : Footprint) : Footprint :=
  if s.isAscii then (f.add 1).select s.ranges.length
  else
    let rows := s.ranges.flatMap byteRows
    if backwards then
      let behind := f.states + 1
      (rows.foldl
        (fun (found, f) row =>
          let (found, f) := addByteRow behind row found f
          (found, f.branch 1))
        ((∅ : Remembered (Nat × Nat × Nat)), f.add 2)).2
    else (addByteRows f.states 4 rows ∅ (f.add 1)).2.2

/-! ## Branches that are literals -/

/-- A node of the tree of literals.  The ways out of a node are tried in the order of the literals,
so that a literal that ends here closes the ways found before it. -/
structure LiteralNode where
  /-- The numbers of ways that have been closed. -/
  closed : List Nat := []
  /-- The ways that later literals share, with the nodes that they lead to. -/
  ways : List (Nat × Nat) := []

namespace LiteralNode

def hasNoWays (n : LiteralNode) : Bool := n.ways.isEmpty && n.closed.all (· == 0)

/-- Closes the ways of a node where a literal ends. -/
def close (n : LiteralNode) : LiteralNode :=
  if n.hasNoWays && !n.closed.isEmpty then n else ⟨n.ways.length :: n.closed, []⟩

/-- Adds the states of a node; a node without ways has none. -/
def footprint (n : LiteralNode) (f : Footprint) : Footprint :=
  if n.hasNoWays then f
  else
    let chunks := n.ways.length :: n.closed
    let used := chunks.filter (· != 0)
    let f := used.foldl (fun f ways => if ways = 1 then f.add 1 else f.select ways) f
    (f.add 1).branch (used.length + n.closed.length)

end LiteralNode

/-- Adds a literal to a tree, given its bytes. -/
def addLiteral (nodes : Array LiteralNode) (bytes : List Nat) : Array LiteralNode :=
  let (nodes, last) := bytes.foldl
    (fun (nodes, i) byte =>
      let node := nodes.getD i {}
      match node.ways.find? (·.1 == byte) with
      | some (_, next) => (nodes, next)
      | none =>
        let next := nodes.size
        let node := { node with ways := (byte, next) :: node.ways }
        ((nodes.setIfInBounds i node).push {}, next))
    (nodes, 0)
  nodes.setIfInBounds last (nodes.getD last {}).close

/-- Adds the states of branches that are literals. -/
def literalsFootprint (backwards : Bool) (literals : List (List Char)) (f : Footprint) :
    Footprint :=
  let nodes := literals.foldl
    (fun nodes cs =>
      let bytes := cs.flatMap fun c => (String.utf8EncodeChar c).map UInt8.toNat
      addLiteral nodes (if backwards then bytes.reverse else bytes))
    #[{}]
  nodes.foldl (fun f node => node.footprint f) (f.add 1)

/-! ## Expressions -/

namespace Expression

/-- The characters of a literal. -/
def literal? : Expression → Option (List Char)
  | literal cs => some cs
  | _ => none

mutual

/-- The expression with the items of every row in the opposite order. -/
def turn : Expression → Expression
  | repetition least most greedy e => repetition least most greedy e.turn
  | capture index e => capture index e.turn
  | sequence es => sequence (turnRow [] es)
  | alternative es => alternative (turnBranches [] es)
  | e => e

def turnRow (done : List Expression) : List Expression → List Expression
  | [] => done
  | e :: es => turnRow (e.turn :: done) es

def turnBranches (done : List Expression) : List Expression → List Expression
  | [] => done.reverse
  | e :: es => turnBranches (e.turn :: done) es

end

mutual

/-- Whether the last state of an expression is a branching one, so that going on takes one more
way. -/
def endsOpen (backwards : Bool) : Expression → Bool
  | repetition least most _ e =>
    match most with
    | none => least != 0 || e.minLength.any (0 < ·)
    | some m => least == m && e.endsOpen backwards
  | capture _ e => backwards && e.endsOpen backwards
  | sequence es => lastEndsOpen backwards es
  | _ => false

def lastEndsOpen (backwards : Bool) : List Expression → Bool
  | [] => false
  | [e] => e.endsOpen backwards
  | _ :: es => lastEndsOpen backwards es

end

/-- The ways that going on after an expression takes. -/
def waysOn (backwards : Bool) (e : Expression) : Nat := if e.endsOpen backwards then 1 else 0

mutual

/-- Adds the states of an expression. -/
def footprint (backwards : Bool) : Expression → Footprint → Footprint
  | empty, f | look _, f => f.add 1
  | literal cs, f => f.add (byteLength cs)
  | one _ s, f => setFootprint backwards s f
  | capture _ e, f =>
    if backwards then e.footprint backwards f
    else ((e.footprint backwards (f.add 1)).add 1).branch (e.waysOn backwards)
  | sequence es, f => footprintOfRow backwards es f
  | alternative es, f =>
    match es.mapM literal? with
    | some literals => literalsFootprint backwards literals f
    | none => footprintOfBranches backwards 2 es f
  | repetition least most _ e, f =>
    let on := e.waysOn backwards
    let step := fun f => (e.footprint backwards f).branch on
    match least, most with
    | 0, none =>
      if e.minLength.any (0 < ·) then (step (f.add 1)).branch 1
      else ((step f).add 3).branch 4
    | _, none => ((Footprint.times step least f).add 1).branch 1
    | 0, some 1 => ((step (f.add 1)).add 1).branch 2
    | _, some m =>
      if least = m then e.footprint backwards (Footprint.times step (m - 1) f)
      else
        let f := if least = 0 then f.add 1 else Footprint.times step least f
        Footprint.times (fun f => (step (f.add 1)).branch 2) (m - least) (f.add 1)

def footprintOfRow (backwards : Bool) : List Expression → Footprint → Footprint
  | [], f => f
  | [e], f => e.footprint backwards f
  | e :: es, f =>
    if f.isFull then f
    else footprintOfRow backwards es ((e.footprint backwards f).branch (e.waysOn backwards))

/-- Adds the states of branches.  After two of them come the states where they part and meet. -/
def footprintOfBranches (backwards : Bool) (left : Nat) : List Expression → Footprint → Footprint
  | [], f => f
  | e :: es, f =>
    let f := (e.footprint backwards f).branch (1 + e.waysOn backwards)
    footprintOfBranches backwards (left - 1) es (if left = 1 then f.add 2 else f)

end

/-- The size of the automaton for an expression.  It looks for a match from every place on, unless
matches are pinned to one end of the text. -/
def automaton (backwards : Bool) (e : Expression) : Footprint :=
  let start : Footprint := if e.isPinned backwards then ⟨1, 0⟩ else ⟨3, 16⟩
  let whole := capture 0 (if backwards then e.turn else e)
  ((whole.footprint backwards start).add 1).branch (whole.waysOn backwards)

/-- Whether an expression is a long list of words, which is searched for without an automaton. -/
def isWordList : Expression → Bool
  | alternative es => 3000 ≤ es.length && (es.mapM literal?).isSome
  | _ => false

/-- Whether an expression is not too large. -/
def fits (e : Expression) : Bool :=
  e.isWordList || (!(e.automaton false).isFull && !(e.automaton true).isFull)

end Expression

end Rowwise.Regex
