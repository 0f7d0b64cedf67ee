import Rowwise.Decimal.Shortest

/-!
# Texts of floats

Two notations are written.  The *value form* is what a FLOAT looks like in results and when it
is joined to a string: positional in `[0.001, 10000000)`, and a mantissa, `E` and an exponent
elsewhere, always with a digit after the point.  The *source form* is how a FLOAT literal is
written in an expression.

One notation is read: an optional sign, then a word for infinity or NaN in any case, or digits
with an optional point and exponent.
-/

namespace Rowwise.FloatText

open Decimal

/-- Whether the sign bit is set. -/
def isNegative (x : Float) : Bool := x.toBits >>> 63 == 1

def signText (x : Float) : List Char := if isNegative x then ['-'] else []

/-- Adds `.0` to a text without a point. -/
def withPoint (text : List Char) : List Char :=
  if text.contains '.' then text else text ++ ['.', '0']

/-- The value form: positional for zero and magnitudes in `[0.001, 10000000)`, otherwise
scientific with `E`. -/
def valueForm (x : Float) : List Char :=
  if x.isNaN then "NaN".toList
  else if x.isInf then if x > 0 then "Infinity".toList else "-Infinity".toList
  else
    let s := shortest x
    if s.significand = 0 ∨ (-3 ≤ s.leading ∧ s.leading < 7) then
      signText x ++ withPoint s.positional
    else signText x ++ withPoint s.mantissaText ++ 'E' :: intText s.leading

/-- The value form, as a string. -/
def render (x : Float) : String := String.ofList (valueForm x)

/-- The form used in warnings, where the infinities are written like the named constants. -/
def renderShouting (x : Float) : String :=
  if x.isInf then if x > 0 then "INFINITY" else "-INFINITY" else render x

/-- The source form: the named constants for NaN and the infinities, positional from `0.0001`
up to `10 ^ 16`, otherwise scientific with `e` and only the digits that are needed. -/
def sourceForm (x : Float) : List Char :=
  if x.isNaN then "NaN".toList
  else if x.isInf then if x < 0 then "-INFINITY".toList else "INFINITY".toList
  else
    let s := shortest x
    if s.significand = 0 ∨ (-4 ≤ s.leading ∧ s.leading < 16) then
      signText x ++ withPoint s.positional
    else signText x ++ s.mantissaText ++ 'e' :: intText s.leading

/-- The float nearest to `significand · 10 ^ exponent`; of two nearest ones the even one.  A power
of two lies between the powers of ten with three tenths and with a third of its exponent, which is
enough to tell numbers that are far out of reach. -/
def ofScaled (s : Scaled) : Float :=
  let bits := s.significand.log2
  if s.significand = 0 ∨ s.exponent + (bits / 3 : Nat) < -330 then 0
  else if 310 < s.exponent + (bits * 3 / 10 : Nat) then 1.0 / 0.0
  else if s.exponent ≥ 0 then Float.ofScientific s.significand false s.exponent.toNat
  else Float.ofScientific s.significand true (-s.exponent).toNat

/-- The exponent with these digits.  Once it has reached 65536, further digits do not count. -/
def exponentValue (digits : List Char) : Nat :=
  digits.foldl (fun n c => if n < 65536 then 10 * n + digitValue c else n) 0

/-- Reads an exponent: an optional sign and digits, the whole of the text. -/
def readExponent? (text : List Char) : Option Int :=
  let isSigned := text.head? = some '-' ∨ text.head? = some '+'
  let digits := if isSigned then text.drop 1 else text
  if digits.isEmpty || digits.any (fun c => !c.isDigit) then none
  else if text.head? = some '-' then some (-(exponentValue digits : Int))
  else some (exponentValue digits)

/-- Reads digits with an optional point and an optional exponent, the whole of the text. -/
def readUnsigned? (text : List Char) : Option Scaled :=
  let whole := text.takeWhile Char.isDigit
  let rest := text.dropWhile Char.isDigit
  let (fraction, rest) :=
    match rest with
    | '.' :: r => (r.takeWhile Char.isDigit, r.dropWhile Char.isDigit)
    | _ => ([], rest)
  if whole.isEmpty && fraction.isEmpty then none
  else
    let significand := value (whole ++ fraction)
    match rest with
    | [] => some ⟨significand, -(fraction.length : Int)⟩
    | c :: r =>
      if c = 'e' ∨ c = 'E' then
        (readExponent? r).map fun e => ⟨significand, e - (fraction.length : Int)⟩
      else none

/-- Reads a magnitude: a word for infinity or NaN in any case, or a number. -/
def readMagnitude? (text : List Char) : Option Float :=
  match String.ofList (text.map Char.toLower) with
  | "inf" | "infinity" => some (1.0 / 0.0)
  | "nan" => some (0.0 / 0.0)
  | _ => (readUnsigned? text).map ofScaled

/-- Reads a float with an optional sign. -/
def read? : List Char → Option Float
  | '-' :: rest => (readMagnitude? rest).map fun x => -x
  | '+' :: rest => readMagnitude? rest
  | text => readMagnitude? text

end Rowwise.FloatText
