import Rowwise.FloatMath

/-!
# Rounding to decimal places

A float is rounded as the shortest decimal that reads back as it, so that 1.65 lies half-way
between 1.6 and 1.7 although the binary number is slightly below it.  Its digits are cut behind the
last place that is kept, where the first digit behind the cut, and whether another one is not zero,
tell how far it is to the next unit.  The three modes differ only on half-way cases.
-/

namespace Rowwise.Decimal

/-- Where a number goes that lies half-way between its two neighbours. -/
inductive Tie where
  | toEven
  | awayFromZero
  | towardZero
  deriving DecidableEq, Repr

/-- Whether the digits behind the first `keep` ones count as one more unit.  In front of all digits
there are zeros. -/
def Tie.goesUp (tie : Tie) (keep : Int) (digits : List Char) : Bool :=
  let kept := digits.take keep.toNat
  let dropped := digits.drop keep.toNat
  let first := if keep < 0 then 0 else digitValue (dropped.headD '0')
  let more := keep < 0 || dropped.tail.any fun c => digitValue c ≠ 0
  let odd := kept.getLast?.any fun c => digitValue c % 2 = 1
  match tie with
  | toEven => 5 < first || first = 5 && (more || odd)
  | awayFromZero => 5 ≤ first
  | towardZero => 5 < first || first = 5 && more

/-- The number that the first `keep` digits write, rounded for the digits behind them. -/
def roundDigits (tie : Tie) (keep : Int) (digits : List Char) : Nat :=
  let n := value (digits.take keep.toNat)
  if tie.goesUp keep digits then n + 1 else n

/-- Rounds a scaled number to `places` digits after the point, if it has more of them. -/
def Scaled.round? (tie : Tie) (places : Int) (s : Scaled) : Option Scaled :=
  let keep := s.leading + 1 + places
  if s.digits.length ≤ keep then none else some ⟨roundDigits tie keep s.digits, -places⟩

/-- Rounds a finite float to `places` digits after the point. -/
def roundFinite (tie : Tie) (places : Int) (x : Float) : Float :=
  match (shortest x).round? tie places with
  | some s => FloatMath.withSign (FloatText.ofScaled s) x
  | none => x

/-- Beyond this many places every float is either kept whole or rounded to zero. -/
def mostPlaces : Int := 400

def limitPlaces (places : Int) : Int := max (-mostPlaces) (min mostPlaces places)

/-- Rounds a float to `places` digits after the point. -/
def roundFloat (tie : Tie) (places : Int) (x : Float) : Float :=
  if x.isNaN || x.isInf then x else roundFinite tie (limitPlaces places) x

end Rowwise.Decimal
