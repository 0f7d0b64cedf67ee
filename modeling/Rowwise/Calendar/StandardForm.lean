import Rowwise.Calendar.PatternReader

/-!
# The standard written forms of dates and times

What is read when no pattern is given: `2024-01-31`, `10:30` with optional seconds and fraction,
both joined by a letter `T` or a blank, and a date and time followed by a zone.  Zones are fixed:
`Z`, a name of universal time, or a signed offset.
-/

namespace Rowwise

/-- The outcome of reading a zone. -/
inductive ZoneReading where
  | offset (o : Offset)
  | unknown
  /-- The sign in front of the offset is cut off by its size in bytes, and the first character
  does not end there. -/
  | cutInsideCharacter
  deriving DecidableEq

namespace ZoneReading

/-- The offset of a sign with one, two or four digits, colons left out. -/
def ofDigits (sign : Int) (digits : List Char) : Option Offset :=
  let digits := digits.filter (· != ':')
  if digits.isEmpty || digits.any (fun c => !c.isDigit) then none
  else
    let clock : Option (Nat × Nat) :=
      if digits.length ≤ 2 then some (Decimal.value digits, 0)
      else if digits.length = 4 then
        some (Decimal.value (digits.take 2), Decimal.value (digits.drop 2))
      else none
    clock.bind fun (hours, minutes) =>
      if hours > 18 ∨ minutes > 59 then none
      else Offset.ofSeconds? (sign * ((hours : Int) * 3600 + minutes * 60))

/-- The rest after a name of universal time, if the text begins with one. -/
def afterUniversalName (upper : List Char) : List Char :=
  match upper with
  | 'U' :: 'T' :: 'C' :: rest => rest
  | 'G' :: 'M' :: 'T' :: rest => rest
  | 'U' :: 'T' :: rest => rest
  | _ => upper

/-- Reads a zone such as `Z`, `UTC`, `+02:00`, `-0530`, `+2` or `UTC+01:00`. -/
def read (text : List Char) : ZoneReading :=
  let upper := (Text.trim text).map Char.toUpper
  if upper.isEmpty then unknown
  else
    match afterUniversalName upper with
    | [] | ['Z'] => offset Offset.utc
    | '+' :: digits => ((ofDigits 1 digits).map offset).getD unknown
    | '-' :: digits => ((ofDigits (-1) digits).map offset).getD unknown
    | c :: _ => if c.utf8Size = 1 then unknown else cutInsideCharacter

end ZoneReading

namespace StandardForm

def readDate? (text : List Char) : Option Date :=
  (Pattern.readDate (Text.trim text) "%Y-%m-%d".toList).toOption

def readTime? (text : List Char) : Option TimeOfDay :=
  let text := Text.trim text
  (Pattern.readTime text "%H:%M:%S%.f".toList).toOption <|>
    (Pattern.readTime text "%H:%M".toList).toOption

def readDateTime? (text : List Char) : Option LocalDateTime :=
  let text := Text.trim text
  let separates := fun c => c == 'T' || c == ' '
  match text.dropWhile (!separates ·) with
  | [] => none
  | _ :: timeText => do
    pure ⟨← readDate? (text.takeWhile (!separates ·)), ← readTime? timeText⟩

/-- The text without a region in brackets at its end. -/
def withoutRegion (text : List Char) : List Char :=
  if text.contains '[' && text.getLast? == some ']' then text.takeWhile (· != '[') else text

/-- Splits in front of the zone: the first sign or `Z` after the letter `T` or blank that
separates date and time. -/
def splitZone (text : List Char) : Option (List Char × List Char) :=
  let dateText := text.takeWhile fun c => c != 'T' && c != ' '
  let rest := text.drop dateText.length
  let startsZone := fun c => c == '+' || c == '-' || c == 'Z' || c == 'z'
  let timeText := rest.takeWhile (!startsZone ·)
  match rest.drop timeText.length with
  | [] => none
  | zone => some (dateText ++ timeText, zone)

/-- Reads a date and time with `Z` or an offset.  A region in brackets at the end does not
count. -/
def readZoned? (text : List Char) : Option ZonedDateTime :=
  let text := withoutRegion (Text.trim text)
  (Pattern.readInternet text).toOption <|> do
    let (wallText, zone) ← splitZone text
    let t ← readDateTime? wallText
    match ZoneReading.read zone with
    | .offset o => ZonedDateTime.ofLocal? t o
    | _ => none

end StandardForm

end Rowwise
