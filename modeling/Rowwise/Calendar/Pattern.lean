import Rowwise.Calendar.Period
import Rowwise.Text.Blank

/-!
# Date and time patterns

A pattern describes how a date or time is written: literal text, blanks, and specifiers that
begin with a percent sign.  `Pattern.items` cuts a pattern into items.  A specifier for a number
can be told how to pad it (`%-d`, `%_d`, `%0d`); some specifiers abbreviate several items.
-/

namespace Rowwise

/-- How a number is filled up to its width. -/
inductive Padding where
  | none
  | zero
  | space
  deriving DecidableEq, Repr

/-- The numbers that a pattern can show. -/
inductive NumberField where
  | year
  | century
  | yearOfCentury
  | isoYear
  | isoYearOfCentury
  | quarter
  | month
  | day
  | weekFromSunday
  | weekFromMonday
  | isoWeek
  | weekdayFromSunday
  | weekdayFromMonday
  | ordinal
  | hour
  | hour12
  | minute
  | second
  | nanosecond
  | timestamp
  deriving DecidableEq, Repr

/-- How an offset from UTC is written. -/
inductive OffsetForm where
  /-- Hours and minutes, without a colon. -/
  | plain
  /-- Hours and minutes, with a colon. -/
  | colon
  /-- Hours, minutes and seconds, with colons. -/
  | doubleColon
  /-- Only hours. -/
  | hours
  /-- A form that can only be read: `Z` or hours with or without minutes. -/
  | permissive
  deriving DecidableEq, Repr

/-- One item of a pattern. -/
inductive PatternItem where
  | literal (text : List Char)
  | blank (text : List Char)
  | number (field : NumberField) (padding : Padding)
  | shortMonth
  | longMonth
  | shortWeekday
  | longWeekday
  | lowerAmPm
  | upperAmPm
  /-- A point and as many digits as the fraction of a second needs; nothing if it is zero. -/
  | fraction
  /-- So many digits of the fraction of a second, after a point if `point`. -/
  | fixedFraction (digits : Nat) (point : Bool)
  | zoneName
  | offset (form : OffsetForm)
  /-- A complete date and time with offset. -/
  | timestamp
  /-- A specifier that does not exist. -/
  | invalid
  deriving DecidableEq, Repr

namespace Pattern

open PatternItem

def zeroPadded (f : NumberField) : PatternItem := .number f .zero
def spacePadded (f : NumberField) : PatternItem := .number f .space
def unpadded (f : NumberField) : PatternItem := .number f .none

/-- Hours, minutes and seconds. -/
def clockItems : List PatternItem :=
  [zeroPadded .hour, .literal [':'], zeroPadded .minute, .literal [':'], zeroPadded .second]

/-- Month, day and year with slashes. -/
def slashDateItems : List PatternItem :=
  [zeroPadded .month, .literal ['/'], zeroPadded .day, .literal ['/'], zeroPadded .yearOfCentury]

/-- The items of a specifier of one letter. -/
def letterItems : Char → List PatternItem
  | 'A' => [longWeekday]
  | 'B' => [longMonth]
  | 'C' => [zeroPadded .century]
  | 'D' | 'x' => slashDateItems
  | 'F' =>
    [zeroPadded .year, .literal ['-'], zeroPadded .month, .literal ['-'], zeroPadded .day]
  | 'G' => [zeroPadded .isoYear]
  | 'H' => [zeroPadded .hour]
  | 'I' => [zeroPadded .hour12]
  | 'M' => [zeroPadded .minute]
  | 'P' => [lowerAmPm]
  | 'R' => [zeroPadded .hour, .literal [':'], zeroPadded .minute]
  | 'S' => [zeroPadded .second]
  | 'T' | 'X' => clockItems
  | 'U' => [zeroPadded .weekFromSunday]
  | 'V' => [zeroPadded .isoWeek]
  | 'W' => [zeroPadded .weekFromMonday]
  | 'Y' => [zeroPadded .year]
  | 'Z' => [zoneName]
  | 'a' => [shortWeekday]
  | 'b' | 'h' => [shortMonth]
  | 'c' =>
    [shortWeekday, .blank [' '], shortMonth, .blank [' '], spacePadded .day, .blank [' ']] ++
      clockItems ++ [.blank [' '], zeroPadded .year]
  | 'd' => [zeroPadded .day]
  | 'e' => [spacePadded .day]
  | 'f' => [zeroPadded .nanosecond]
  | 'g' => [zeroPadded .isoYearOfCentury]
  | 'j' => [zeroPadded .ordinal]
  | 'k' => [spacePadded .hour]
  | 'l' => [spacePadded .hour12]
  | 'm' => [zeroPadded .month]
  | 'n' => [.blank ['\n']]
  | 'p' => [upperAmPm]
  | 'q' => [unpadded .quarter]
  | 'r' =>
    [zeroPadded .hour12, .literal [':'], zeroPadded .minute, .literal [':'], zeroPadded .second,
      .blank [' '], upperAmPm]
  | 's' => [unpadded .timestamp]
  | 't' => [.blank ['\t']]
  | 'u' => [unpadded .weekdayFromMonday]
  | 'v' => [spacePadded .day, .literal ['-'], shortMonth, .literal ['-'], zeroPadded .year]
  | 'w' => [unpadded .weekdayFromSunday]
  | 'y' => [zeroPadded .yearOfCentury]
  | 'z' => [.offset .plain]
  | '+' => [.timestamp]
  | '%' => [.literal ['%']]
  | _ => [invalid]

/-- The items of a specifier, given the text after its percent sign and modifier, and the text
after the specifier. -/
def specifier : List Char → List PatternItem × List Char
  | ':' :: ':' :: ':' :: 'z' :: rest => ([.offset .hours], rest)
  | ':' :: ':' :: 'z' :: rest => ([.offset .doubleColon], rest)
  | ':' :: 'z' :: rest => ([.offset .colon], rest)
  | '.' :: 'f' :: rest => ([fraction], rest)
  | '.' :: '3' :: 'f' :: rest => ([.fixedFraction 3 true], rest)
  | '.' :: '6' :: 'f' :: rest => ([.fixedFraction 6 true], rest)
  | '.' :: '9' :: 'f' :: rest => ([.fixedFraction 9 true], rest)
  | '3' :: 'f' :: rest => ([.fixedFraction 3 false], rest)
  | '6' :: 'f' :: rest => ([.fixedFraction 6 false], rest)
  | '9' :: 'f' :: rest => ([.fixedFraction 9 false], rest)
  | c :: rest => (letterItems c, rest)
  | [] => ([invalid], [])

/-- Gives a number another padding; nothing else can be padded. -/
def withPadding (padding : Padding) : List PatternItem → List PatternItem
  | [.number f _] => [.number f padding]
  | _ => [invalid]

/-- The items of a specifier with an optional modifier, given the text after the percent sign. -/
def modifiedSpecifier : List Char → List PatternItem × List Char
  | '-' :: rest => let (items, rest) := specifier rest; (withPadding .none items, rest)
  | '0' :: rest => let (items, rest) := specifier rest; (withPadding .zero items, rest)
  | '_' :: rest => let (items, rest) := specifier rest; (withPadding .space items, rest)
  | '#' :: 'z' :: rest => ([.offset .permissive], rest)
  | '#' :: _ :: rest => ([invalid], rest)
  | '#' :: [] => ([invalid], [])
  | rest => specifier rest

/-- The items of a pattern.  Every item consumes a character, so that the length of the pattern
bounds their number. -/
def itemsWithin : (fuel : Nat) → List Char → List PatternItem
  | 0, _ | _ + 1, [] => []
  | fuel + 1, '%' :: rest =>
    let (items, rest) := modifiedSpecifier rest
    items ++ itemsWithin fuel rest
  | fuel + 1, text@(c :: _) =>
    if Text.isBlank c then
      .blank (text.takeWhile Text.isBlank) :: itemsWithin fuel (text.dropWhile Text.isBlank)
    else
      let plain := fun c => !(Text.isBlank c || c == '%')
      .literal (text.takeWhile plain) :: itemsWithin fuel (text.dropWhile plain)

/-- The items of a pattern. -/
def items (pattern : List Char) : List PatternItem := itemsWithin pattern.length pattern

end Pattern

/-- The names of the months. -/
def monthNames : List String :=
  ["January", "February", "March", "April", "May", "June", "July", "August", "September",
    "October", "November", "December"]

/-- The names of the weekdays, from Monday. -/
def weekdayNames : List String :=
  ["Monday", "Tuesday", "Wednesday", "Thursday", "Friday", "Saturday", "Sunday"]

namespace Date

/-- The weekday from 0 for Sunday. -/
def weekdayFromSunday (d : Date) : Nat := (d.weekday + 1) % 7

/-- The number of the week, where weeks begin on Sunday and week 1 has the first Sunday. -/
def weekFromSunday (d : Date) : Nat := (d.ordinal + 6 - d.weekdayFromSunday) / 7

/-- The number of the week, where weeks begin on Monday and week 1 has the first Monday. -/
def weekFromMonday (d : Date) : Nat := (d.ordinal + 6 - d.weekday) / 7

def quarter (d : Date) : Nat := (d.month - 1) / 3 + 1

end Date

end Rowwise
