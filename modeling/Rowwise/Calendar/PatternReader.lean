import Rowwise.Calendar.Pattern
import Rowwise.Integer

/-!
# Reading dates and times by a pattern

Reading has two stages.  The items of the pattern are matched with the text from left to right
and collect *fields*, each at most once with different values.  Then the fields are resolved to
a date, a time or both: a full set of fields determines the value, and every other field that was
given must agree with it.
-/

namespace Rowwise

/-- Why a text cannot be read by a pattern. -/
inductive ReadFailure where
  /-- The fields do not determine a value. -/
  | notEnough
  /-- A field or the value is outside of its range. -/
  | outOfRange
  /-- Fields contradict each other. -/
  | impossible
  /-- The text does not match the pattern, or the pattern is invalid. -/
  | mismatch
  deriving DecidableEq, Repr

/-- The fields collected from a text. -/
structure TemporalFields where
  year : Option Int := none
  century : Option Int := none
  yearOfCentury : Option Int := none
  isoYear : Option Int := none
  isoYearOfCentury : Option Int := none
  quarter : Option Int := none
  month : Option Int := none
  day : Option Int := none
  weekFromSunday : Option Int := none
  weekFromMonday : Option Int := none
  isoWeek : Option Int := none
  /-- From 0 for Monday. -/
  weekday : Option Int := none
  ordinal : Option Int := none
  /-- 0 before noon, 1 after. -/
  halfDay : Option Int := none
  hourOfHalf : Option Int := none
  minute : Option Int := none
  second : Option Int := none
  nanosecond : Option Int := none
  timestamp : Option Int := none
  offset : Option Int := none

namespace TemporalFields

/-! ## Collecting fields -/

/-- A field given again must have the same value. -/
def agree (old : Option Int) (new : Int) : Except ReadFailure (Option Int) :=
  match old with
  | some v => if v = new then .ok old else .error .impossible
  | none => .ok (some new)

/-- Checks the range of a field. -/
def within (low high n : Int) : Except ReadFailure Int :=
  if low ≤ n ∧ n ≤ high then .ok n else .error .outOfRange

def setHour (f : TemporalFields) (n : Int) : Except ReadFailure TemporalFields := do
  let n ← within 0 23 n
  pure { f with halfDay := ← agree f.halfDay (n / 12), hourOfHalf := ← agree f.hourOfHalf (n % 12) }

/-- Stores the number that a text gives for a field. -/
def setNumber (f : TemporalFields) (n : Int) : NumberField → Except ReadFailure TemporalFields
  | .year => do pure { f with year := ← agree f.year (← within (-2147483648) 2147483647 n) }
  | .century => do pure { f with century := ← agree f.century (← within 0 2147483647 n) }
  | .yearOfCentury => do pure { f with yearOfCentury := ← agree f.yearOfCentury (← within 0 99 n) }
  | .isoYear => do
    pure { f with isoYear := ← agree f.isoYear (← within (-2147483648) 2147483647 n) }
  | .isoYearOfCentury => do
    pure { f with isoYearOfCentury := ← agree f.isoYearOfCentury (← within 0 99 n) }
  | .quarter => do pure { f with quarter := ← agree f.quarter (← within 1 4 n) }
  | .month => do pure { f with month := ← agree f.month (← within 1 12 n) }
  | .day => do pure { f with day := ← agree f.day (← within 1 31 n) }
  | .weekFromSunday => do
    pure { f with weekFromSunday := ← agree f.weekFromSunday (← within 0 53 n) }
  | .weekFromMonday => do
    pure { f with weekFromMonday := ← agree f.weekFromMonday (← within 0 53 n) }
  | .isoWeek => do pure { f with isoWeek := ← agree f.isoWeek (← within 1 53 n) }
  | .weekdayFromSunday => do
    pure { f with weekday := ← agree f.weekday (((← within 0 6 n) + 6) % 7) }
  | .weekdayFromMonday => do pure { f with weekday := ← agree f.weekday ((← within 1 7 n) - 1) }
  | .ordinal => do pure { f with ordinal := ← agree f.ordinal (← within 1 366 n) }
  | .hour => f.setHour n
  | .hour12 => do pure { f with hourOfHalf := ← agree f.hourOfHalf ((← within 1 12 n) % 12) }
  | .minute => do pure { f with minute := ← agree f.minute (← within 0 59 n) }
  | .second => do pure { f with second := ← agree f.second (← within 0 60 n) }
  | .nanosecond => do
    pure { f with nanosecond := ← agree f.nanosecond (← within 0 999999999 n) }
  | .timestamp => do pure { f with timestamp := ← agree f.timestamp n }

def setOffset (f : TemporalFields) (n : Int) : Except ReadFailure TemporalFields := do
  pure { f with offset := ← agree f.offset n }

/-! ## Resolving a date -/

/-- The year given in full, by century and year of it, or by the year of the century alone, which
then means one of 1970 to 2069. -/
def resolveYear : (year century ofCentury : Option Int) → Except ReadFailure (Option Int)
  | y, none, none => .ok y
  | some y, q, r =>
    if y < 0 then .error .impossible
    else if q.getD (y / 100) = y / 100 ∧ r.getD (y % 100) = y % 100 then .ok (some y)
    else .error .impossible
  | none, some q, some r =>
    let y := q * 100 + r
    if y ≤ 2147483647 then .ok (some y) else .error .outOfRange
  | none, none, some r => .ok (some (r + if r < 70 then 2000 else 1900))
  | none, some _, none => .error .notEnough

/-- Whether a field that was given has the value `n`. -/
def fits (field : Option Int) (n : Int) : Bool := field.all (· == n)

/-- Whether the fields of a year agree with one; years before 0 have no century. -/
def fitsCentury (century ofCentury : Option Int) (year : Int) : Bool :=
  if year ≥ 0 then fits century (year / 100) && fits ofCentury (year % 100)
  else century.isNone && ofCentury.isNone

def agreesYearMonthDay (f : TemporalFields) (d : Date) : Bool :=
  fits f.year d.year && fitsCentury f.century f.yearOfCentury d.year && fits f.month d.month &&
    fits f.day d.day

def agreesIsoWeek (f : TemporalFields) (d : Date) : Bool :=
  let (year, week) := d.isoWeek
  fits f.isoYear year && fitsCentury none f.isoYearOfCentury year && fits f.isoWeek week &&
    fits f.weekday d.weekday

def agreesOrdinal (f : TemporalFields) (d : Date) : Bool :=
  fits f.ordinal d.ordinal && fits f.weekFromSunday d.weekFromSunday &&
    fits f.weekFromMonday d.weekFromMonday

/-- The date of a weekday in a week of a year, where weeks start on the weekday `start`. -/
def ofWeek (year week weekday start : Int) : Except ReadFailure Date := do
  let some first := Date.ofOrdinal? year 1 | throw .outOfRange
  let firstStart := 1 + (start - first.weekday) % 7
  let ordinal := firstStart + (week - 1) * 7 + (weekday - start) % 7
  if ordinal ≤ 0 then throw .impossible
  match Date.ofOrdinal? year ordinal.toNat with
  | some d => pure d
  | none => throw .impossible

def orOutOfRange {α : Type} : Option α → Except ReadFailure α
  | some a => .ok a
  | none => .error .outOfRange

/-- The date that the fields determine.  The first of these sets that is complete decides: year,
month and day; year and day of the year; year, week and weekday; ISO year, week and weekday. -/
def date (f : TemporalFields) : Except ReadFailure Date := do
  let year ← resolveYear f.year f.century f.yearOfCentury
  let isoYear ← resolveYear f.isoYear none f.isoYearOfCentury
  let (agrees, d) ←
    match year, f.month, f.day, f.ordinal, f.weekFromSunday, f.weekFromMonday, f.weekday with
    | some y, some m, some day, _, _, _, _ => do
      let d ← orOutOfRange (Date.ofParts? y m.toNat day.toNat)
      pure (f.agreesIsoWeek d && f.agreesOrdinal d, d)
    | some y, _, _, some n, _, _, _ => do
      let d ← orOutOfRange (Date.ofOrdinal? y n.toNat)
      pure (f.agreesYearMonthDay d && f.agreesIsoWeek d && f.agreesOrdinal d, d)
    | some y, _, _, _, some week, _, some weekday => do
      let d ← ofWeek y week weekday 6
      pure (f.agreesYearMonthDay d && f.agreesIsoWeek d && f.agreesOrdinal d, d)
    | some y, _, _, _, _, some week, some weekday => do
      let d ← ofWeek y week weekday 0
      pure (f.agreesYearMonthDay d && f.agreesIsoWeek d && f.agreesOrdinal d, d)
    | _, _, _, _, _, _, some weekday =>
      match isoYear, f.isoWeek with
      | some y, some week => do
        let d ← orOutOfRange (Date.ofIsoWeek? y week.toNat weekday.toNat)
        pure (f.agreesYearMonthDay d && f.agreesOrdinal d, d)
      | _, _ => throw .notEnough
    | _, _, _, _, _, _, none => throw .notEnough
  if agrees && fits f.quarter d.quarter then pure d else throw .impossible

/-! ## Resolving a time -/

def orNotEnough : Option Int → Except ReadFailure Int
  | some a => .ok a
  | none => .error .notEnough

/-- The time that the fields determine.  Seconds may be left out, but not in front of a fraction;
second 60 is the leap second. -/
def time (f : TemporalFields) : Except ReadFailure TimeOfDay := do
  let half ← orNotEnough f.halfDay
  let hour ← orNotEnough f.hourOfHalf
  let minute ← orNotEnough f.minute
  let second := f.second.getD 0
  let leap := second = 60
  if f.nanosecond.isSome && f.second.isNone then throw .notEnough
  let nano := f.nanosecond.getD 0 + if leap then 1000000000 else 0
  orOutOfRange (TimeOfDay.ofClock? (half * 12 + hour).toNat minute.toNat
    (if leap then 59 else second.toNat) nano.toNat)

/-! ## Resolving a date and time -/

/-- The local date and time, with the fields filled up from a number of seconds since 1970 if they
are not enough.  `offset` is the offset of the local time from UTC. -/
def dateTime (f : TemporalFields) (offset : Int) : Except ReadFailure LocalDateTime := do
  match f.date, f.time, f.timestamp with
  | .ok d, .ok t, given =>
    let seconds := (d.dayNumber - 719162) * 86400 + t.second - offset
    let agrees := given.all fun g => g == seconds || (t.isLeap && g == seconds + 1)
    if agrees then pure ⟨d, t⟩ else throw .impossible
  | d, t, some given => do
    let failures := [failure? d, failure? t]
    if failures.contains (some .outOfRange) then throw .outOfRange
    if failures.contains (some .impossible) then throw .impossible
    let seconds := given + offset
    if seconds < -9223372036854775808 ∨ 9223372036854775807 < seconds then throw .outOfRange
    let day ← orOutOfRange (Date.ofDayNumber? (seconds / 86400 + 719162))
    let clock := TimeOfDay.ofSeconds seconds 0 (by decide)
    let start : LocalDateTime := ⟨day, clock.1⟩
    let (known, f) ←
      if f.second = some 60 then
        if start.time.secondOfMinute = 59 then pure (start, f)
        else if start.time.secondOfMinute = 0 then do
          let before ← orOutOfRange ((Duration.ofSeconds? 1).bind start.sub?)
          pure (before, f)
        else throw .impossible
      else do pure (start, ← f.setNumber start.time.secondOfMinute .second)
    let f ← f.setNumber known.date.year .year
    let f ← f.setNumber known.date.ordinal .ordinal
    let f ← f.setNumber known.time.hour .hour
    let f ← f.setNumber known.time.minute .minute
    pure ⟨← f.date, ← f.time⟩
  | .error e, _, none => throw e
  | .ok _, .error e, none => throw e
where
  failure? {α : Type} : Except ReadFailure α → Option ReadFailure
    | .ok _ => none
    | .error e => some e

/-- The zoned date-time.  A number of seconds since 1970 counts as UTC if there is no offset. -/
def zoned (f : TemporalFields) : Except ReadFailure ZonedDateTime := do
  let offset ←
    match f.offset, f.timestamp with
    | some o, _ => pure o
    | none, some _ => pure 0
    | none, none => throw .notEnough
  let t ← f.dateTime offset
  let o ← orOutOfRange (Offset.ofSeconds? offset)
  match ZonedDateTime.ofLocal? t o with
  | some z => pure z
  | none => throw .impossible

end TemporalFields

namespace Pattern

/-! ## Matching items with a text -/

/-- The state of reading: the fields so far, and the rest of the text. -/
abbrev Reading := TemporalFields × List Char

/-- Reads between `least` and `most` digits, as many as there are. -/
def readDigits (least : Nat) (most : Option Nat) (s : List Char) :
    Except ReadFailure (Int × List Char) :=
  let run := s.takeWhile Char.isDigit
  let ds := match most with
    | some n => run.take n
    | none => run
  if ds.length < least then .error .mismatch
  else
    let n : Int := Decimal.value ds
    if n ≤ 9223372036854775807 then .ok (n, s.drop ds.length) else .error .outOfRange

/-- Reads up to nine digits of a fraction of a second and passes over further ones. -/
def readFraction (s : List Char) : Except ReadFailure (Int × List Char) := do
  let (n, rest) ← readDigits 1 (some 9) s
  let consumed := s.length - rest.length
  pure (n * Nat.pow 10 (9 - consumed), rest.dropWhile Char.isDigit)

/-- Reads exactly `count` digits of a fraction of a second. -/
def readFixedFraction (count : Nat) (s : List Char) : Except ReadFailure (Int × List Char) := do
  let (n, rest) ← readDigits count (some count) s
  pure (n * Nat.pow 10 (9 - count), rest)

/-- The text after a beginning that equals `start` up to ASCII case. -/
def dropIgnoringCase? : (start : List Char) → List Char → Option (List Char)
  | [], s => some s
  | c :: start, d :: s => if c.toLower = d.toLower then dropIgnoringCase? start s else none
  | _ :: _, [] => none

/-- Reads one of the names by its first three letters; with `long`, also the rest of the name if
it follows.  Answers the position of the name. -/
def readName (names : List String) (long : Bool) (s : List Char) :
    Except ReadFailure (Nat × List Char) :=
  match names.zipIdx.findSome? fun (name, i) =>
      (dropIgnoringCase? (name.toList.take 3) s).map fun rest => (name, i, rest) with
  | none => .error .mismatch
  | some (name, i, rest) =>
    if long then .ok (i, (dropIgnoringCase? (name.toList.drop 3) rest).getD rest)
    else .ok (i, rest)

/-- Reads an offset from UTC: a sign, two digits of hours, a separator and two digits of minutes.
`Z` counts as an offset if `zulu`, and the minutes may be left out if `hoursOnly`. -/
def readOffset (separator : List Char → Except ReadFailure (List Char)) (zulu hoursOnly : Bool)
    (s : List Char) : Except ReadFailure (Int × List Char) :=
  match zulu, s with
  | true, 'Z' :: rest | true, 'z' :: rest => .ok (0, rest)
  | _, sign :: rest =>
    if sign = '+' ∨ sign = '-' ∨ sign = '−' then do
      let (hours, rest) ← readDigits 2 (some 2) rest
      let rest ← separator rest
      let (minutes, rest) ←
        if hoursOnly && rest.isEmpty then pure (0, rest) else readDigits 2 (some 2) rest
      if minutes > 59 then throw .outOfRange
      let seconds := hours * 3600 + minutes * 60
      pure (if sign = '+' then seconds else -seconds, rest)
    else .error .mismatch
  | _, [] => .error .mismatch

/-- Passes over colons and blanks. -/
def colonsOrBlanks (s : List Char) : Except ReadFailure (List Char) :=
  .ok (s.dropWhile fun c => c == ':' || Text.isBlank c)

/-- Passes over one given character. -/
def exactly (c : Char) : List Char → Except ReadFailure (List Char)
  | d :: rest => if c = d then .ok rest else .error .mismatch
  | [] => .error .mismatch

/-- The greatest number of digits of a field without a sign, if it is limited. -/
def fieldWidth : NumberField → Option Nat
  | .year | .isoYear => some 4
  | .quarter | .weekdayFromSunday | .weekdayFromMonday => some 1
  | .ordinal => some 3
  | .nanosecond => some 9
  | .timestamp => none
  | _ => some 2

/-- Whether a number field may have a sign, and then any number of digits. -/
def isSigned : NumberField → Bool
  | .year | .isoYear => true
  | _ => false

def readNumber (field : NumberField) : Reading → Except ReadFailure Reading
  | (f, s) => do
    let s := Text.trimStart s
    let (n, rest) ←
      match isSigned field, s with
      | true, '-' :: r => do
        let (n, rest) ← readDigits 1 none r
        pure (-n, rest)
      | true, '+' :: r => readDigits 1 none r
      | _, _ => readDigits 1 (fieldWidth field) s
    pure (← f.setNumber n field, rest)

/-- Reads a fraction of a second after a point, if there is a point. -/
def readOptionalFraction (digits : List Char → Except ReadFailure (Int × List Char)) :
    Reading → Except ReadFailure Reading
  | (f, '.' :: rest) => do
    let (n, rest) ← digits rest
    pure (← f.setNumber n .nanosecond, rest)
  | r => .ok r

/-- Reads the items of a date, a letter `T` or blank, a time and an offset, blanks allowed
between the parts. -/
def readTimestamp (r : Reading) : Except ReadFailure Reading := do
  let blankThen := fun (c : Char) (r : Reading) => do
    pure (r.1, ← exactly c (Text.trimStart r.2))
  let r ← readNumber .year r
  let r ← readNumber .month (← blankThen '-' r)
  let r ← readNumber .day (← blankThen '-' r)
  let s ←
    match r.2 with
    | 't' :: s | 'T' :: s | ' ' :: s => pure s
    | _ => throw .mismatch
  let r ← readNumber .hour (r.1, s)
  let r ← readNumber .minute (← blankThen ':' r)
  let r ← readNumber .second (← blankThen ':' r)
  let (f, s) ← readOptionalFraction readFraction r
  let s := Text.trimStart s
  let (n, s) ←
    match dropIgnoringCase? ['U', 'T', 'C'] s with
    | some s => pure (0, s)
    | none => readOffset colonsOrBlanks true false s
  pure (← f.setOffset n, s)

/-- Matches one item with the beginning of the text. -/
def readItem : PatternItem → Reading → Except ReadFailure Reading
  | .literal text, (f, s) =>
    if text.isPrefixOf s then .ok (f, s.drop text.length) else .error .mismatch
  | .blank _, (f, s) => .ok (f, Text.trimStart s)
  | .number field _, r => readNumber field r
  | .shortMonth, (f, s) => do
    let (i, rest) ← readName monthNames false s
    pure (← f.setNumber (i + 1) .month, rest)
  | .longMonth, (f, s) => do
    let (i, rest) ← readName monthNames true s
    pure (← f.setNumber (i + 1) .month, rest)
  | .shortWeekday, (f, s) => do
    let (i, rest) ← readName weekdayNames false s
    pure (← f.setNumber (i + 1) .weekdayFromMonday, rest)
  | .longWeekday, (f, s) => do
    let (i, rest) ← readName weekdayNames true s
    pure (← f.setNumber (i + 1) .weekdayFromMonday, rest)
  | .lowerAmPm, r | .upperAmPm, r => do
    let (f, s) := r
    match dropIgnoringCase? ['a', 'm'] s, dropIgnoringCase? ['p', 'm'] s with
    | some rest, _ => pure ({ f with halfDay := ← TemporalFields.agree f.halfDay 0 }, rest)
    | _, some rest => pure ({ f with halfDay := ← TemporalFields.agree f.halfDay 1 }, rest)
    | _, _ => throw .mismatch
  | .fraction, r => readOptionalFraction readFraction r
  | .fixedFraction count true, r => readOptionalFraction (readFixedFraction count) r
  | .fixedFraction count false, (f, s) => do
    let (n, rest) ← readFixedFraction count s
    pure (← f.setNumber n .nanosecond, rest)
  | .zoneName, (f, s) => .ok (f, s.dropWhile fun c => !Text.isBlank c)
  | .offset form, (f, s) => do
    let permissive := form = .permissive
    let (n, rest) ← readOffset colonsOrBlanks permissive permissive (Text.trimStart s)
    pure (← f.setOffset n, rest)
  | .timestamp, r => readTimestamp r
  | .invalid, _ => .error .mismatch

/-- The fields of a text that a pattern matches as a whole. -/
def read (pattern text : List Char) : Except ReadFailure TemporalFields := do
  let (f, rest) ← (items pattern).foldlM (fun r item => readItem item r) ({}, text)
  if rest.isEmpty then pure f else throw .mismatch

def readDate (text pattern : List Char) : Except ReadFailure Date := do
  (← read pattern text).date

def readTime (text pattern : List Char) : Except ReadFailure TimeOfDay := do
  (← read pattern text).time

def readDateTime (text pattern : List Char) : Except ReadFailure LocalDateTime := do
  (← read pattern text).dateTime 0

def readZoned (text pattern : List Char) : Except ReadFailure ZonedDateTime := do
  (← read pattern text).zoned

/-- Reads the internet form of a zoned date-time, such as `2024-01-31T10:00:00.5+01:00`: every
part has its full width, and the offset is less than a day. -/
def readInternet (text : List Char) : Except ReadFailure ZonedDateTime := do
  let number := fun (field : NumberField) (width : Nat) (r : Reading) => do
    let (n, rest) ← readDigits width (some width) r.2
    pure ((← r.1.setNumber n field, rest) : Reading)
  let skip := fun (c : Char) (r : Reading) => do pure ((r.1, ← exactly c r.2) : Reading)
  let r ← number .month 2 (← skip '-' (← number .year 4 ({}, text)))
  let r ← number .day 2 (← skip '-' r)
  let s ←
    match r.2 with
    | 't' :: s | 'T' :: s | ' ' :: s => pure s
    | _ => throw .mismatch
  let r ← number .minute 2 (← skip ':' (← number .hour 2 (r.1, s)))
  let r ← number .second 2 (← skip ':' r)
  let (f, s) ← readOptionalFraction readFraction r
  let (n, rest) ← readOffset (exactly ':') true false s
  if n.natAbs ≥ 86400 then throw .outOfRange
  if rest.isEmpty then (← f.setOffset n).zoned else throw .mismatch

end Pattern

end Rowwise
