/-!
# Similar names

Two measures of how alike two names are: the edit distance, and the Jaro–Winkler similarity,
which counts common characters at nearby positions and favours a common beginning.
-/

namespace Rowwise.Text

/-- One row of the table of edit distances: `row` holds the distances of a fixed text to the
prefixes of `b`, and the result those of the text with `c` appended.  `left` is the new distance
to the prefix before the current one. -/
def editRow (c : Char) (left : Nat) : List Char → List Nat → List Nat
  | d :: b, up :: up' :: row =>
    let here := min (min (left + 1) (up' + 1)) (up + if c = d then 0 else 1)
    here :: editRow c here b (up' :: row)
  | _, _ => []

/-- The least number of insertions, deletions and replacements that turn `a` into `b`. -/
def editDistance (a b : List Char) : Nat :=
  let step := fun (row : List Nat) (c : Char) =>
    let first := row.headD 0 + 1
    first :: editRow c first b row
  (a.foldl step (List.range (b.length + 1))).getLastD 0

/-- Marks the first unmarked position in `[low, high)` at which `b` has the character `c`.
`position` is that of the head of the lists. -/
def markFirst (c : Char) (low high position : Nat) : List Char → List Bool → Option (List Bool)
  | d :: b, m :: marks =>
    if position ≥ high then none
    else if low ≤ position && c == d && !m then some (true :: marks)
    else (markFirst c low high (position + 1) b marks).map (m :: ·)
  | _, _ => none

/-- The characters of `a` that have a partner in `b` at most `range` positions away, and the
marks of their partners. -/
def commonChars (range : Nat) (b : List Char) : Nat → List Char → List Bool → List Char × List Bool
  | _, [], marks => ([], marks)
  | i, c :: a, marks =>
    match markFirst c (i - range) (min b.length (i + range + 1)) 0 b marks with
    | some marks' =>
      let (cs, final) := commonChars range b (i + 1) a marks'
      (c :: cs, final)
    | none => commonChars range b (i + 1) a marks

/-- The Jaro similarity, between 0 and 1. -/
def jaro (a b : List Char) : Float :=
  if a.isEmpty && b.isEmpty then 1
  else if a.isEmpty || b.isEmpty then 0
  else
    let range := max a.length b.length / 2 - 1
    let (fromA, marks) := commonChars range b 0 a (b.map fun _ => false)
    let fromB := (b.zip marks).filterMap fun (c, m) => if m then some c else none
    let common := fromA.length
    if common = 0 then 0
    else
      let transposed := ((fromA.zip fromB).filter fun (c, d) => c != d).length / 2
      (common.toFloat / a.length.toFloat + common.toFloat / b.length.toFloat +
        (common - transposed).toFloat / common.toFloat) / 3

/-- The Jaro–Winkler similarity: a Jaro similarity above 0.7 is raised for every common character
at the start, up to four. -/
def jaroWinkler (a b : List Char) : Float :=
  let similarity := jaro a b
  if similarity > 0.7 then
    let common := (((a.take 4).zip b).takeWhile fun (c, d) => c == d).length
    similarity + 0.1 * common.toFloat * (1 - similarity)
  else similarity

end Rowwise.Text
