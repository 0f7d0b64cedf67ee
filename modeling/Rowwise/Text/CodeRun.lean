/-!
# Runs of code points

Tables list characters as ranges of code points, or as runs of code points with a fixed distance
between neighbours, such as the capital letters that alternate with their small forms.
-/

namespace Rowwise.Text

/-- The code points `first`, `first + step`, … up to `last`. -/
structure CodeRun where
  first : Nat
  last : Nat
  step : Nat

namespace CodeRun

/-- Whether a code point belongs to a run. -/
def contains (r : CodeRun) (n : Nat) : Bool :=
  r.first ≤ n && n ≤ r.last && (n - r.first) % r.step == 0

/-- The code points of a run as ranges. -/
def ranges (r : CodeRun) : List (Nat × Nat) :=
  if r.step = 1 then [(r.first, r.last)]
  else (List.range ((r.last - r.first) / r.step + 1)).map fun i =>
    (r.first + r.step * i, r.first + r.step * i)

end CodeRun

/-- Whether a code point lies in one of the ranges. -/
def inRanges (ranges : List (Nat × Nat)) (c : Char) : Bool :=
  ranges.any fun r => r.1 ≤ c.toNat && c.toNat ≤ r.2

end Rowwise.Text
