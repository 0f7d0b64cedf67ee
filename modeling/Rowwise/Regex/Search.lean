import Rowwise.Regex.Program
import Std.Data.HashSet

/-!
# Searching for matches

The search follows a program from every position of the text in turn, depth first.  It marks
every pair of a fork and a position that it has tried, and never tries one again: what failed once
fails always.  Between two forks the steps follow each other, so that the work is bounded.
-/

namespace Rowwise.Regex

open Text

/-- Whether a character belongs to a word. -/
def isWordIn (unicode : Bool) (c : Option Char) : Bool :=
  c.any fun c => if unicode then isWordChar c else c.toNat < 128 && isWordChar c

/-- Whether a condition holds between two characters. -/
def Look.holds (before after : Option Char) : Look → Bool
  | textStart => before.isNone
  | textEnd => after.isNone
  | lineStart false => before.isNone || before == some '\n'
  | lineEnd false => after.isNone || after == some '\n'
  | lineStart true =>
    before.isNone || before == some '\n' || (before == some '\r' && after != some '\n')
  | lineEnd true =>
    after.isNone || after == some '\r' || (after == some '\n' && before != some '\r')
  | boundary u => isWordIn u before != isWordIn u after
  | notBoundary u => isWordIn u before == isWordIn u after
  | wordStart u => !isWordIn u before && isWordIn u after
  | wordEnd u => isWordIn u before && !isWordIn u after
  | wordStartHalf u => !isWordIn u before
  | wordEndHalf u => !isWordIn u after

/-- The positions where groups begin and end: those of group `i` are in the slots `2 * i` and
`2 * i + 1`. -/
abbrev Slots := Array (Option Nat)

/-- A way that is still to be tried. -/
structure Thread where
  step : Nat
  position : Nat
  slots : Slots

/-- The pairs of forks and positions that have been tried, each as one number. -/
structure Visited where
  width : Nat
  marks : Std.HashSet Nat := {}

def Visited.key (v : Visited) (step position : Nat) : Nat := step * v.width + position

def Visited.has (v : Visited) (step position : Nat) : Bool := v.marks.contains (v.key step position)

def Visited.mark (v : Visited) (step position : Nat) : Visited :=
  { v with marks := v.marks.insert (v.key step position) }

/-- Goes on at the next character if that one is accepted. -/
def Thread.accept (text : Array Char) (t : Thread) (p : Char → Bool) : Option Thread :=
  match text[t.position]? with
  | some c => if p c then some { t with step := t.step + 1, position := t.position + 1 } else none
  | none => none

/-- The way to go on with after a step that is no fork. -/
def Thread.advance (text : Array Char) (t : Thread) : Step → Option Thread
  | .char c => t.accept text (· == c)
  | .one s => t.accept text s.contains
  | .look l =>
    let before := if t.position = 0 then none else text[t.position - 1]?
    if l.holds before text[t.position]? then some { t with step := t.step + 1 } else none
  | .save slot =>
    some { t with step := t.step + 1, slots := t.slots.set! slot (some t.position) }
  | .jump target => some { t with step := target }
  | .fork _ _ | .accept => none

/-- Tries ways in order until one is accepted.  The fuel bounds the number of steps. -/
def explore (p : Program) (text : Array Char) :
    Nat → Visited → List Thread → Option Slots × Visited
  | 0, visited, _ | _, visited, [] => (none, visited)
  | fuel + 1, visited, t :: threads =>
    match p.steps[t.step]? with
    | none => explore p text fuel visited threads
    | some .accept => (some t.slots, visited)
    | some (.fork first second) =>
      if visited.has t.step t.position then explore p text fuel visited threads
      else
        explore p text fuel (visited.mark t.step t.position)
          ({ t with step := first } :: { t with step := second } :: threads)
    | some s =>
      match t.advance text s with
      | some t => explore p text fuel visited (t :: threads)
      | none => explore p text fuel visited threads

/-- The steps that are enough for a search: every fork is tried at every position once, and its
two ways take each step once until they come to a fork. -/
def enoughFuel (p : Program) (text : Array Char) : Nat :=
  (2 * p.steps.size * (text.size + 1) + 1) * (p.steps.size + 1) + 1

/-- Looks for a match that begins at one of `count` positions from `position` on. -/
def searchFrom (p : Program) (text : Array Char) (position : Nat) :
    (count : Nat) → Visited → Option Slots
  | 0, _ => none
  | count + 1, visited =>
    let start := ⟨0, position, Array.replicate (2 * (p.groups + 1)) none⟩
    match explore p text (enoughFuel p text) visited [start] with
    | (some slots, _) => some slots
    | (none, visited) => searchFrom p text (position + 1) count visited

/-- The first match that begins at `position` or later. -/
def Program.search (p : Program) (text : Array Char) (position : Nat) : Option Slots :=
  searchFrom p text position (text.size + 1 - position) { width := text.size + 1 }

/-- Where a group begins and ends, if it took part in a match. -/
def groupSpan (slots : Slots) (group : Nat) : Option (Nat × Nat) := do
  let first ← (slots[2 * group]?).join
  let last ← (slots[2 * group + 1]?).join
  pure (first, last)

/-- Successive matches that begin at `position` or later.  An empty match right after another
match does not count.  Those found so far stand in reverse; the fuel bounds the number of
searches. -/
def matchesFrom (p : Program) (text : Array Char) :
    Nat → (position : Nat) → (lastEnd : Option Nat) → (done : List Slots) → List Slots
  | 0, _, _, done => done.reverse
  | fuel + 1, position, lastEnd, done =>
    match p.search text position with
    | none => done.reverse
    | some slots =>
      match groupSpan slots 0 with
      | none => done.reverse
      | some (first, last) =>
        if first = last ∧ lastEnd = some last then
          matchesFrom p text fuel (position + 1) lastEnd done
        else matchesFrom p text fuel last (some last) (slots :: done)

/-- All successive matches. -/
def Program.matches (p : Program) (text : Array Char) : List Slots :=
  matchesFrom p text (2 * text.size + 2) 0 none []

end Rowwise.Regex
