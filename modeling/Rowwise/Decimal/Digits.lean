/-!
# Decimal digits

Reading and writing natural numbers and integers in decimal notation, over lists of
characters.  Integers are read with at most one sign and at least one digit, and nothing else.
-/

namespace Rowwise.Decimal

/-- The value of a decimal digit. -/
def digitValue (c : Char) : Nat := c.toNat - '0'.toNat

/-- The number written by a list of decimal digits, most significant first. -/
def value (digits : List Char) : Nat :=
  digits.foldl (fun n c => 10 * n + digitValue c) 0

/-- The decimal digits of a number, most significant first. -/
def digits (n : Nat) : List Char := Nat.toDigits 10 n

/-- The digits of `n`, with zeros in front up to `width` digits. -/
def zeroPadded (width n : Nat) : List Char :=
  let ds := digits n
  List.replicate (width - ds.length) '0' ++ ds

/-- The text of an integer: a minus sign if it is negative, then its digits. -/
def intText : Int → List Char
  | .ofNat n => digits n
  | .negSucc n => '-' :: digits (n + 1)

/-- Reads a nonempty run of digits that is the whole text. -/
def readNat? (text : List Char) : Option Nat :=
  if text.isEmpty || text.any (fun c => !c.isDigit) then none else some (value text)

/-- Reads an optional sign and a nonempty run of digits that are the whole text. -/
def readInt? : List Char → Option Int
  | '+' :: rest => (readNat? rest).map Int.ofNat
  | '-' :: rest => (readNat? rest).map fun n => -(n : Int)
  | text => (readNat? text).map Int.ofNat

theorem value_append_singleton (ds : List Char) (c : Char) :
    value (ds ++ [c]) = 10 * value ds + digitValue c := by
  simp [value]

end Rowwise.Decimal
