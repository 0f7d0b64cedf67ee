import Rowwise.Integer

/-!
# Durations

A `Duration` is an exact amount of time, a whole number of nanoseconds.  Its size is limited to
what fits 64 bits when counted in milliseconds; operations whose exact result lies outside of
that range answer nothing.
-/

namespace Rowwise

/-- The largest number of nanoseconds in a duration. -/
def durationLimit : Nat := 9223372036854775807 * 1000000

/-- An exact amount of time in nanoseconds, within the limit. -/
structure Duration where
  nanos : Int
  bounded : nanos.natAbs ≤ durationLimit
  deriving DecidableEq

namespace Duration

@[ext] theorem ext {a b : Duration} (h : a.nanos = b.nanos) : a = b := by
  cases a; cases b; simp_all

/-- The duration of so many nanoseconds, if it is within the limit. -/
def ofNanos? (n : Int) : Option Duration :=
  if h : n.natAbs ≤ durationLimit then some ⟨n, h⟩ else none

def zero : Duration := ⟨0, Nat.zero_le _⟩

instance : Inhabited Duration := ⟨zero⟩

/-- Nanoseconds in a second. -/
def nanosPerSecond : Nat := 1000000000

/-- Seconds in a day. -/
def secondsPerDay : Nat := 86400

def ofSeconds? (n : Int) : Option Duration := ofNanos? (n * nanosPerSecond)
def ofMinutes? (n : Int) : Option Duration := ofSeconds? (n * 60)
def ofHours? (n : Int) : Option Duration := ofSeconds? (n * 3600)
def ofDays? (n : Int) : Option Duration := ofSeconds? (n * secondsPerDay)

/-- Whole seconds, toward zero. -/
def wholeSeconds (d : Duration) : Int := d.nanos.tdiv nanosPerSecond

/-- The nanoseconds beyond the whole seconds, with the sign of the duration. -/
def subsecondNanos (d : Duration) : Int := d.nanos.tmod nanosPerSecond

/-- Whole days, toward zero. -/
def wholeDays (d : Duration) : Int := d.nanos.tdiv (nanosPerSecond * secondsPerDay)

/-- The sum, if it is within the limit. -/
def add? (a b : Duration) : Option Duration := ofNanos? (a.nanos + b.nanos)

/-- The difference, if it is within the limit. -/
def sub? (a b : Duration) : Option Duration := ofNanos? (a.nanos - b.nanos)

/-- The opposite duration. -/
def neg (d : Duration) : Duration := ⟨-d.nanos, by simpa using d.bounded⟩

/-- The multiple by an integer.  Seconds and nanoseconds are scaled apart, each in 64 bits. -/
def scale? (d : Duration) (n : Int64) : Option Duration := do
  let seconds ← Integer.ofInt? (d.wholeSeconds * n.toInt)
  let nanos ← Integer.ofInt? (d.subsecondNanos * n.toInt)
  let whole ← ofSeconds? seconds.toInt
  ofNanos? (whole.nanos + nanos.toInt)

instance : Ord Duration := ⟨fun a b => compare a.nanos b.nanos⟩

/-! ## Text -/

/-- The fraction `.n` of so many nanoseconds, without trailing zeros. -/
def fractionText (nanos : Nat) : List Char :=
  '.' :: ((Decimal.zeroPadded 9 nanos).reverse.dropWhile (· == '0')).reverse

/-- The text of a duration, such as `PT1H30M` or `PT-0.5S`.  Every part carries the sign. -/
def text (d : Duration) : List Char :=
  if d.nanos = 0 then "PT0S".toList
  else
    let sign := if d.nanos < 0 then ['-'] else []
    let nanos := d.nanos.natAbs % nanosPerSecond
    let seconds := d.nanos.natAbs / nanosPerSecond
    let part := fun (n : Nat) (unit : Char) =>
      if n = 0 then [] else sign ++ Decimal.digits n ++ [unit]
    let last :=
      if seconds % 60 = 0 ∧ nanos = 0 then []
      else
        sign ++ Decimal.digits (seconds % 60) ++ (if nanos = 0 then [] else fractionText nanos) ++
          ['S']
    'P' :: 'T' :: (part (seconds / 3600) 'H' ++ part (seconds % 3600 / 60) 'M' ++ last)

end Duration

end Rowwise
