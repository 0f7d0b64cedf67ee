import Rowwise.Calendar.Date

/-!
# Times of day

A time of day is a second of the day and a number of nanoseconds.  A leap second is written as a
second more of nanoseconds on top of the second before it, so that the nanoseconds reach up to
two seconds.  Moving a time wraps around midnight and counts the days that were passed.
-/

namespace Rowwise

/-- A time of day, possibly in a leap second. -/
structure TimeOfDay where
  second : Nat
  nano : Nat
  valid : second < 86400 ∧ nano < 2000000000
  deriving DecidableEq

namespace TimeOfDay

@[ext] theorem ext {a b : TimeOfDay} (hs : a.second = b.second) (hn : a.nano = b.nano) :
    a = b := by
  cases a; cases b; simp_all

def midnight : TimeOfDay := ⟨0, 0, by decide⟩

instance : Inhabited TimeOfDay := ⟨midnight⟩

/-- The time with this second of the day and these nanoseconds, if there is one. -/
def ofParts? (second nano : Nat) : Option TimeOfDay :=
  if h : second < 86400 ∧ nano < 2000000000 then some ⟨second, nano, h⟩ else none

/-- The time on the clock, if there is one.  A leap second is possible in second 59. -/
def ofClock? (hour minute second nano : Nat) : Option TimeOfDay :=
  if hour < 24 ∧ minute < 60 ∧ second < 60 ∧ (nano < 1000000000 ∨ second = 59) then
    ofParts? (hour * 3600 + minute * 60 + second) nano
  else none

/-- The time of a second of some day, counted from the first one, and that day. -/
def ofSeconds (seconds : Int) (nano : Nat) (h : nano < 2000000000) : TimeOfDay × Int :=
  (⟨(seconds % 86400).toNat, nano, by omega, h⟩, seconds / 86400)

instance : Ord TimeOfDay :=
  ⟨fun a b => (compare a.second b.second).then (compare a.nano b.nano)⟩

def hour (t : TimeOfDay) : Nat := t.second / 3600
def minute (t : TimeOfDay) : Nat := t.second / 60 % 60
def secondOfMinute (t : TimeOfDay) : Nat := t.second % 60

/-- Whether the time lies in a leap second. -/
def isLeap (t : TimeOfDay) : Bool := t.nano ≥ 1000000000

/-- The time so much later, and the days that were passed.  A leap second is left unless the move
stays inside of it. -/
def add (t : TimeOfDay) (d : Duration) : TimeOfDay × Int :=
  let seconds := d.wholeSeconds
  let nanos := d.subsecondNanos
  let normal := fun (second nano : Int) =>
    let total := nano + nanos
    ofSeconds (second + seconds + total / 1000000000) (total % 1000000000).toNat (by omega)
  if t.isLeap then
    if seconds > 0 ∨ (nanos > 0 ∧ (t.nano : Int) ≥ 2000000000 - nanos) then
      normal t.second (t.nano - 1000000000)
    else if seconds < 0 then normal (t.second + 1) (t.nano - 1000000000)
    else
      match ofParts? t.second ((t.nano : Int) + nanos).toNat with
      | some t => (t, 0)
      | none => (t, 0)
  else normal t.second t.nano

/-- The time so much earlier, and the days that were passed. -/
def sub (t : TimeOfDay) (d : Duration) : TimeOfDay × Int := t.add d.neg

/-- The nanoseconds from `b` to `a`.  A leap second in between counts. -/
def nanosSince (a b : TimeOfDay) : Int :=
  let leap : Int :=
    if a.second > b.second ∧ b.isLeap then 1
    else if a.second < b.second ∧ a.isLeap then -1
    else 0
  ((a.second : Int) - b.second + leap) * 1000000000 + ((a.nano : Int) - b.nano)

/-! ## Text -/

/-- The fraction of a second in three, six or nine digits, as many as it needs. -/
def fractionText (nano : Nat) : List Char :=
  if nano % 1000000 = 0 then Decimal.zeroPadded 3 (nano / 1000000)
  else if nano % 1000 = 0 then Decimal.zeroPadded 6 (nano / 1000)
  else Decimal.zeroPadded 9 nano

/-- The text of a time, such as `10:30`, `10:30:05` or `10:30:05.250`. -/
def text (t : TimeOfDay) : List Char :=
  let clock := Decimal.zeroPadded 2 t.hour ++ ':' :: Decimal.zeroPadded 2 t.minute
  if t.nano = 0 ∧ t.secondOfMinute = 0 then clock
  else
    let clock := clock ++ ':' :: Decimal.zeroPadded 2 t.secondOfMinute
    if t.nano = 0 then clock else clock ++ '.' :: fractionText t.nano

end TimeOfDay

end Rowwise
