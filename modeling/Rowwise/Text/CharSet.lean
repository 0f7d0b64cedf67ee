import Rowwise.Text.CaseTable
import Rowwise.Text.CodeRun

/-!
# Sets of characters

A set of characters is kept as ranges of code points in ascending order, no two of which touch.
Sets are made by `CharSet.ofRanges`, which sorts and joins, and the operations keep the order.

The code points from D800 to DFFF are no characters.  No range begins or ends there, but a range
may run across them.  `codeAfter` and `codeBefore` step over them, while two ranges touch only if
the code points at their ends follow each other as numbers.
-/

namespace Rowwise.Text

/-- A range of code points, both ends included. -/
abbrev CodeRange := Nat × Nat

/-- A set of characters as ascending ranges that do not touch. -/
structure CharSet where
  ranges : List CodeRange
  deriving DecidableEq, Repr

/-- The highest code point. -/
def lastCode : Nat := 0x10FFFF

/-- The code point of the next character. -/
def codeAfter (n : Nat) : Nat := if n = 0xD7FF then 0xE000 else n + 1

/-- The code point of the character before. -/
def codeBefore (n : Nat) : Nat := if n = 0xE000 then 0xD7FF else n - 1

/-- Whether a code point is that of no character. -/
def isSurrogate (n : Nat) : Bool := 0xD800 ≤ n && n ≤ 0xDFFF

/-- Whether a code point lies in one of some ascending ranges. -/
def inAscending (n : Nat) : List CodeRange → Bool
  | [] => false
  | (low, high) :: rest => if n ≤ high then low ≤ n else inAscending n rest

/-- Joins ranges that touch or overlap.  The ranges come in the order of their lower ends; those
already joined stand in reverse. -/
def joinRanges : (done : List CodeRange) → List CodeRange → List CodeRange
  | done, [] => done.reverse
  | [], r :: rest => joinRanges [r] rest
  | (low, high) :: done, (low', high') :: rest =>
    if low' ≤ high + 1 then joinRanges ((low, max high high') :: done) rest
    else joinRanges ((low', high') :: (low, high) :: done) rest

namespace CharSet

/-- Whether a set holds a code point. -/
def containsCode (s : CharSet) (n : Nat) : Bool := inAscending n s.ranges

/-- Whether a set holds a character. -/
def contains (s : CharSet) (c : Char) : Bool := s.containsCode c.toNat

def empty : CharSet := ⟨[]⟩

def isEmpty (s : CharSet) : Bool := s.ranges.isEmpty

/-- The set of all characters. -/
def full : CharSet := ⟨[(0, lastCode)]⟩

/-- The set of the characters in some ranges. -/
def ofRanges (ranges : List CodeRange) : CharSet :=
  ⟨joinRanges [] (ranges.mergeSort fun a b => a.1 ≤ b.1)⟩

/-- The set of one character. -/
def single (c : Char) : CharSet := ⟨[(c.toNat, c.toNat)]⟩

/-- The only member of a set of one character. -/
def single? (s : CharSet) : Option Char :=
  match s.ranges with
  | [(low, high)] => if low = high then some (Char.ofNat low) else none
  | _ => none

/-- Whether all members are ASCII characters. -/
def isAscii (s : CharSet) : Bool := s.ranges.all (·.2 < 128)

/-! ## Operations -/

def union (a b : CharSet) : CharSet := ofRanges (a.ranges ++ b.ranges)

/-- The ranges between ranges, where `previous` is the upper end of the last one.  Between two
ranges that only the surrogates keep apart lies the range of the two characters at their ends. -/
def gapsAfter : (previous : Nat) → (done : List CodeRange) → List CodeRange → List CodeRange
  | previous, done, [] =>
    (if previous < lastCode then (codeAfter previous, lastCode) :: done else done).reverse
  | previous, done, (low, high) :: rest =>
    let first := codeAfter previous
    let last := codeBefore low
    gapsAfter high ((min first last, max first last) :: done) rest

/-- The characters that are not in a set. -/
def complement (s : CharSet) : CharSet :=
  match s.ranges with
  | [] => full
  | (low, high) :: rest => ⟨gapsAfter high (if low = 0 then [] else [(0, codeBefore low)]) rest⟩

/-- The common parts of two rows of ranges. -/
def intersectRanges (done : List CodeRange) : List CodeRange → List CodeRange → List CodeRange
  | [], _ | _, [] => done.reverse
  | (low, high) :: rest, (low', high') :: rest' =>
    let first := max low low'
    let last := min high high'
    let done := if first ≤ last then (first, last) :: done else done
    if high < high' then intersectRanges done rest ((low', high') :: rest')
    else intersectRanges done ((low, high) :: rest) rest'
termination_by a b => a.length + b.length

def intersection (a b : CharSet) : CharSet := ⟨intersectRanges [] a.ranges b.ranges⟩

/-- The parts of the first row of ranges outside of the second one. -/
def subtractRanges (done : List CodeRange) : List CodeRange → List CodeRange → List CodeRange
  | [], _ => done.reverse
  | a, [] => done.reverse ++ a
  | (low, high) :: rest, (low', high') :: rest' =>
    if high' < low then subtractRanges done ((low, high) :: rest) rest'
    else if high < low' then subtractRanges ((low, high) :: done) rest ((low', high') :: rest')
    else
      let done := if low < low' then (low, codeBefore low') :: done else done
      if high' < high then subtractRanges done ((codeAfter high', high) :: rest) rest'
      else subtractRanges done rest ((low', high') :: rest')
termination_by a b => a.length + b.length

def difference (a b : CharSet) : CharSet := ⟨subtractRanges [] a.ranges b.ranges⟩

/-- The characters that are in exactly one of two sets. -/
def symmetricDifference (a b : CharSet) : CharSet := (a.union b).difference (a.intersection b)

/-! ## Letter case -/

/-- The code points that case folding changes, each with its folding. -/
def foldings : List (Nat × Nat) :=
  foldRuns.flatMap fun r =>
    (CodeRun.mk r.first r.last r.step).ranges.flatMap fun (low, high) =>
      (List.range (high + 1 - low)).map fun i =>
        (low + i, ((low + i : Nat) + r.distance : Int).toNat)

/-- The set with all characters that differ only in case from a member. -/
def foldCase (s : CharSet) : CharSet :=
  let folded := foldings.filterMap fun (n, m) => if s.containsCode n then some (m, m) else none
  let s := ofRanges (s.ranges ++ folded)
  ofRanges (s.ranges ++
    foldings.filterMap fun (n, m) => if s.containsCode m then some (n, n) else none)

/-- The ranges moved up or down after they have been cut to those between two code points. -/
def movedPart (s : CharSet) (low high : Nat) (distance : Int) : List CodeRange :=
  (s.intersection ⟨[(low, high)]⟩).ranges.map fun (a, b) =>
    (((a : Int) + distance).toNat, ((b : Int) + distance).toNat)

/-- The set with all ASCII letters that differ only in case from a member. -/
def foldAscii (s : CharSet) : CharSet :=
  ofRanges (s.ranges ++ s.movedPart 0x41 0x5A 32 ++ s.movedPart 0x61 0x7A (-32))

end CharSet

end Rowwise.Text
