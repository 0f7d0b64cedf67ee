import Rowwise.Decimal.FloatText

/-!
# Arithmetic of floats

Operations on floats beyond the basic ones: the exact remainder, the total order, and the
functions that take lists of floats.
-/

namespace Rowwise.FloatMath

def nan : Float := 0.0 / 0.0
def infinity : Float := 1.0 / 0.0
def pi : Float := 3.141592653589793
def euler : Float := 2.718281828459045
def sqrtTwo : Float := 1.4142135623730951

/-- The float `mantissa · 2 ^ exponent`, for a mantissa below `2 ^ 53` and an exponent of at least
-1074 whose product is in range. -/
def ofBinary (mantissa : Nat) (exponent : Int) : Float :=
  if mantissa = 0 then 0
  else
    let shift := min (52 - mantissa.log2) (exponent + 1074).toNat
    let m := mantissa * Nat.pow 2 shift
    let e := exponent - shift
    if m < Decimal.leadingBit then Float.ofBits m.toUInt64
    else
      Float.ofBits ((e + 1075).toNat * Decimal.leadingBit + (m - Decimal.leadingBit)).toUInt64

/-- The magnitude of `x` with the sign of `s`. -/
def withSign (x s : Float) : Float := if FloatText.isNegative s then -x.abs else x.abs

/-- The exact remainder of truncating division, with the sign of `x`. -/
def remainder (x y : Float) : Float :=
  if x.isNaN || y.isNaN || x.isInf || y == 0 then nan
  else if y.isInf then x
  else
    let a := Decimal.Binary.ofBits x.toBits
    let b := Decimal.Binary.ofBits y.toBits
    let e := min a.exponent b.exponent
    let scaled := fun (f : Decimal.Binary) => f.mantissa * Nat.pow 2 (f.exponent - e).toNat
    let r := scaled a % scaled b
    withSign (ofBinary r e) x

/-- The bit of the sign. -/
def signBit : Nat := 9223372036854775808

/-- A key that orders all floats: negative ones by falling magnitude, then positive ones by
rising magnitude, NaN last. -/
def totalKey (x : Float) : Int :=
  let bits := x.toBits.toNat
  if bits < signBit then bits else -((bits : Int) - signBit) - 1

/-- The total order of floats. -/
def totalCompare (x y : Float) : Ordering := compare (totalKey x) (totalKey y)

/-- The integer part. -/
def truncate (x : Float) : Float := if x < 0 then x.ceil else x.floor

/-- The integer part as an INTEGER, limited to the range of INTEGER; zero for NaN.  The bits of an
infinity read as a magnitude beyond that range. -/
def toInteger (x : Float) : Int64 :=
  if x.isNaN then 0
  else
    let whole := (Decimal.Binary.ofBits x.toBits).whole
    if FloatText.isNegative x then .ofInt (-(Nat.min whole 9223372036854775808 : Nat))
    else .ofInt (Nat.min whole 9223372036854775807 : Nat)

/-- The greater of two floats, the other one if one is NaN, the first one if they are equal. -/
def max (a b : Float) : Float :=
  if a.isNaN then b else if b.isNaN then a else if a < b then b else a

/-- The lesser of two floats, the other one if one is NaN, the first one if they are equal. -/
def min (a b : Float) : Float :=
  if a.isNaN then b else if b.isNaN then a else if b < a then b else a

/-- Whether `x` counts as zero where a zero argument is special. -/
def isNearZero (x : Float) : Bool := x.abs < 1e-10

/-- The natural logarithm of `1 + x`, accurate for small `x`. -/
def log1p (x : Float) : Float :=
  let u := 1 + x
  if u == 1 then x else if u.isInf then u.log else u.log * x / (u - 1)

/-- The length of the hypotenuse over two legs of which none overflows when squared. -/
def hypotenuse (x y : Float) : Float :=
  if x.isInf || y.isInf then infinity else (x * x + y * y).sqrt

/-- The hyperbolic arcsine, infinite for magnitudes whose double is. -/
def arsinh (x : Float) : Float :=
  let a := x.abs
  let inverse := 1 / a
  withSign (log1p (a + a / (hypotenuse 1 inverse + inverse))) x

/-- The hyperbolic arccosine, infinite for arguments whose double is. -/
def arcosh (x : Float) : Float :=
  if x < 1 then nan else (x + (x - 1).sqrt * (x + 1).sqrt).log

/-- The hyperbolic arctangent. -/
def artanh (x : Float) : Float := 0.5 * log1p (2 * x / (1 - x))

/-- The sum from left to right; that of no floats is negative zero. -/
def sum (xs : List Float) : Float := xs.foldl (· + ·) (-0.0)

def mean (xs : List Float) : Float := sum xs / xs.length.toFloat

/-- The middle float in order, or the half-sum of the two middle ones; NaN if one is NaN. -/
def median (xs : List Float) : Float :=
  let sorted := xs.mergeSort fun a b => totalKey a ≤ totalKey b
  let n := sorted.length
  if n = 0 || sorted.any Float.isNaN then nan
  else if n % 2 = 0 then 0.5 * (sorted.getD (n / 2 - 1) nan + sorted.getD (n / 2) nan)
  else sorted.getD (n / 2) nan

/-- The population variance. -/
def variance (xs : List Float) : Float :=
  let n := xs.length.toFloat
  let (sum, sumOfSquares) := xs.foldl (fun (s, q) x => (s + x, q + x * x)) (0, 0)
  (sumOfSquares - sum * sum / n) / n

def deviation (xs : List Float) : Float := (variance xs).sqrt

end Rowwise.FloatMath
