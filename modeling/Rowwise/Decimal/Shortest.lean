import Rowwise.Decimal.Digits

/-!
# The shortest decimal of a binary float

A finite float is `mantissa · 2 ^ exponent`, and it is the nearest float to every real number
in an interval around it, whose ends belong to it when the mantissa is even.
`Decimal.shortest` finds a decimal number in that interval with as few digits as possible, and
among those of that many digits the one nearest to the float, or the greater one of two that are
equally near.

On the grid of numbers with `n` significant digits only the two neighbours of the float have to
be looked at: if any point of the grid lies in the interval, one of the two does.
-/

namespace Rowwise.Decimal

/-- The number `significand · 10 ^ exponent`. -/
structure Scaled where
  significand : Nat
  exponent : Int
  deriving DecidableEq, Repr

/-- The number `mantissa · 2 ^ exponent`. -/
structure Binary where
  mantissa : Nat
  exponent : Int
  deriving DecidableEq, Repr

/-- The leading bit of the mantissa of a normal float, the 53rd one. -/
def leadingBit : Nat := 4503599627370496

/-- The magnitude of a finite float with the given bits. -/
def Binary.ofBits (bits : UInt64) : Binary :=
  let exponent := (bits.toNat >>> 52) % 2048
  let fraction := bits.toNat % leadingBit
  if exponent = 0 then ⟨fraction, -1074⟩ else ⟨fraction + leadingBit, (exponent : Int) - 1075⟩

/-- The integer part. -/
def Binary.whole (b : Binary) : Nat :=
  b.mantissa * Nat.pow 2 b.exponent.toNat / Nat.pow 2 (-b.exponent).toNat

/-- The interval of numbers that round to a float, all scaled by one common denominator:
`low ≤ x · den ≤ high` with `x · den = mid`. -/
structure RoundingInterval where
  low : Nat
  mid : Nat
  high : Nat
  den : Nat
  closed : Bool

/-- Below a power of two the neighbouring float is only half as far away. -/
def Binary.interval (b : Binary) : RoundingInterval :=
  let below := if b.mantissa = leadingBit ∧ b.exponent > -1074 then 1 else 2
  let quarter := b.exponent - 2
  let up := Nat.pow 2 quarter.toNat
  { low := (4 * b.mantissa - below) * up
    mid := 4 * b.mantissa * up
    high := (4 * b.mantissa + 2) * up
    den := Nat.pow 2 (-quarter).toNat
    closed := b.mantissa % 2 = 0 }

/-- Whether `d · num / den'` lies in the interval, where the grid unit is `num / den'`. -/
def RoundingInterval.contains (i : RoundingInterval) (d num den' : Nat) : Bool :=
  let point := d * num * i.den
  if i.closed then i.low * den' ≤ point && point ≤ i.high * den'
  else i.low * den' < point && point < i.high * den'

/-- The decimal exponent of the leading digit of `mid / den`, for a float that is not zero. -/
def RoundingInterval.leading (i : RoundingInterval) : Int :=
  ((digits (i.mid * Nat.pow 10 350 / i.den)).length : Int) - 351

/-- The point of the grid with `n` significant digits that lies in the interval and nearest to
its middle, if there is one.  Of two points that are equally near the greater one is taken. -/
def RoundingInterval.onGrid? (i : RoundingInterval) (n : Nat) : Option Scaled :=
  let unit := i.leading + 1 - n
  let num := Nat.pow 10 unit.toNat
  let den' := Nat.pow 10 (-unit).toNat
  let d := i.mid * den' / (num * i.den)
  let twiceMid := 2 * i.mid * den'
  match i.contains d num den', i.contains (d + 1) num den' with
  | true, true =>
    if twiceMid < (2 * d + 1) * num * i.den then some ⟨d, unit⟩ else some ⟨d + 1, unit⟩
  | true, false => some ⟨d, unit⟩
  | false, true => some ⟨d + 1, unit⟩
  | false, false => none

/-- The same number without trailing zeros in its significand. -/
def Scaled.normalize (s : Scaled) : Scaled :=
  if h : s.significand ≠ 0 ∧ s.significand % 10 = 0 then
    Scaled.normalize ⟨s.significand / 10, s.exponent + 1⟩
  else s
termination_by s.significand
decreasing_by omega

/-- The shortest decimal that reads back as the magnitude of the finite float with these bits. -/
def shortestOfBits (bits : UInt64) : Scaled :=
  let b := Binary.ofBits bits
  if b.mantissa = 0 then ⟨0, 0⟩
  else
    let i := b.interval
    ((List.range 17).findSome? fun n => i.onGrid? (n + 1)).getD ⟨b.mantissa, b.exponent⟩
      |>.normalize

/-- The shortest decimal that reads back as the magnitude of a finite float. -/
def shortest (x : Float) : Scaled := shortestOfBits x.toBits

/-- The digits of a scaled number, most significant first. -/
def Scaled.digits (s : Scaled) : List Char := Decimal.digits s.significand

/-- The power of ten of the leading digit. -/
def Scaled.leading (s : Scaled) : Int := s.exponent + (s.digits.length : Int) - 1

/-- Positional notation: the digits with a point if the number is not whole. -/
def Scaled.positional (s : Scaled) : List Char :=
  let ds := s.digits
  if s.exponent ≥ 0 then
    if s.significand = 0 then ds else ds ++ List.replicate s.exponent.toNat '0'
  else
    let places := (-s.exponent).toNat
    if ds.length > places then
      ds.take (ds.length - places) ++ '.' :: ds.drop (ds.length - places)
    else '0' :: '.' :: (List.replicate (places - ds.length) '0' ++ ds)

/-- The leading digit, and the others after a point if there are any. -/
def Scaled.mantissaText (s : Scaled) : List Char :=
  match s.digits with
  | d :: [] => [d]
  | d :: ds => d :: '.' :: ds
  | [] => []

end Rowwise.Decimal
