import Rowwise.Calendar.Period
import Rowwise.Text.Search

/-!
# Reading durations and periods

Amounts of time are written as an optional sign, `P`, and amounts with the letter of their unit:
days, then `T` and hours, minutes and seconds for a `Duration`; years, months, weeks and days for
a `Period`.  Letter case and blanks at the ends do not matter.  Every amount may have a sign of
its own, and the seconds a fraction of up to nine digits.
-/

namespace Rowwise

/-- Splits amounts from the letters that follow them, as `1Y-2M` into `1` with `Y` and `-2` with
`M`.  `amount` holds the characters of the current amount so far, last one first. -/
def designatorsFrom (amount : List Char) : List Char → Option (List (List Char × Char))
  | [] => if amount.isEmpty then some [] else none
  | c :: rest =>
    if c.isDigit || c == '-' || c == '+' || c == '.' then designatorsFrom (c :: amount) rest
    else if amount.isEmpty then none
    else (designatorsFrom [] rest).map ((amount.reverse, c) :: ·)

/-- The amounts of a text with the letters of their units. -/
def designators (text : List Char) : Option (List (List Char × Char)) := designatorsFrom [] text

/-- Splits off the sign in front of an amount of time: whether it is negative, and the rest after
the letter `P`. -/
def signAndBody (text : List Char) : Option (Bool × List Char) :=
  let upper := Text.upperAscii (Text.trim text)
  let (negative, rest) :=
    match upper with
    | '-' :: rest => (true, rest)
    | '+' :: rest => (false, rest)
    | _ => (false, upper)
  match rest with
  | 'P' :: body => some (negative, body)
  | _ => none

namespace Duration

/-- Reads seconds with an optional fraction of up to nine digits. -/
def readSeconds? (amount : List Char) : Option Duration := do
  let (negative, digits) :=
    match amount with
    | '-' :: digits => (true, digits)
    | _ => (false, amount)
  let (whole, fraction) := (Text.splitOnce '.' digits).getD (digits, [])
  if fraction.length > 9 then none
  else
    let seconds ← Integer.read? whole
    let nanos ←
      if fraction.isEmpty then some 0
      else Integer.read? (fraction ++ List.replicate (9 - fraction.length) '0')
    let d ← (← ofSeconds? seconds.toInt).add? (← ofNanos? nanos.toInt)
    pure (if negative then d.neg else d)

/-- The duration of an amount of days. -/
def ofDayDesignator? : List Char × Char → Option Duration
  | (amount, unit) => do
    let n ← Integer.read? amount
    if unit = 'D' then ofDays? n.toInt else none

/-- The duration of an amount of hours, minutes or seconds. -/
def ofTimeDesignator? : List Char × Char → Option Duration
  | (amount, 'H') => do ofHours? (← Integer.read? amount).toInt
  | (amount, 'M') => do ofMinutes? (← Integer.read? amount).toInt
  | (amount, 'S') => readSeconds? amount
  | _ => none

/-- Adds the amounts to a total, from left to right. -/
def addDesignators? (read : List Char × Char → Option Duration) (total : Duration)
    (parts : List (List Char × Char)) : Option Duration :=
  parts.foldlM (fun total part => do total.add? (← read part)) total

/-- Reads a duration such as `P1DT2H30M0.5S`. -/
def read? (text : List Char) : Option Duration := do
  let (negative, body) ← signAndBody text
  let (dateText, timeText) :=
    match Text.splitOnce 'T' body with
    | some (date, time) => (date, time)
    | none => (body, [])
  if dateText.isEmpty && timeText.isEmpty then none
  else
    let total ← addDesignators? ofDayDesignator? zero (← designators dateText)
    let total ← addDesignators? ofTimeDesignator? total (← designators timeText)
    pure (if negative then total.neg else total)

end Duration

namespace Period

/-- Adds an amount with its unit to a period.  A week is seven days. -/
def addDesignator? (p : Period) : List Char × Char → Option Period
  | (amount, unit) => do
    let n ← Word32.read? amount
    match unit with
    | 'Y' => pure { p with years := ← Word32.checkedAdd p.years n }
    | 'M' => pure { p with months := ← Word32.checkedAdd p.months n }
    | 'W' => pure { p with days := ← Word32.checkedAdd p.days (← Word32.checkedMul n 7) }
    | 'D' => pure { p with days := ← Word32.checkedAdd p.days n }
    | _ => none

/-- Reads a period such as `P1Y2M3D`. -/
def read? (text : List Char) : Option Period := do
  let (negative, body) ← signAndBody text
  if body.isEmpty then none
  else
    let p ← (← designators body).foldlM addDesignator? zero
    if negative then p.neg? else pure p

end Period

end Rowwise
