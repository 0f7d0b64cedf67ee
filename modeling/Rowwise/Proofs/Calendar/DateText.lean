import Rowwise.Calendar.StandardForm
import Rowwise.Proofs.Calendar.Designators
import Rowwise.Proofs.Except

/-!
# Dates are read back from their texts

A text in standard form is read by the patterns of the language: the items of the pattern take the
numbers of the text off one by one, and every number becomes a field.  A number is read back
whatever follows it, as long as that is no digit (`EndsNumber`); this is known for numbers of a
fixed width (`readDigits_zeroPadded`) and for years, which have a sign as soon as they do not have
four digits (`readNumber_yearText`).  Fields which are those of a date, with no others beside them,
determine it (`TemporalFields.date_eq`), so that reading ends where writing began
(`readDate?_text`).

The texts have no blanks in them, which is a fact on their characters (`mem_dateText`): they are
digits and a few marks, and what holds of all of these can be decided (`forall_digit_or`).
-/

namespace Rowwise

/-! ## Fields -/

namespace Date

variable (d : Date)

theorem natAbs_year_lt : d.year.natAbs < 1000000 := by
  obtain ⟨⟨low, high⟩, _⟩ := d.valid
  unfold firstYear at low
  unfold lastYear at high
  omega

theorem one_le_month : 1 ≤ d.month := d.valid.2.1.1

theorem month_le : d.month ≤ 12 := d.valid.2.1.2

theorem one_le_day : 1 ≤ d.day := d.valid.2.2.1

theorem day_le : d.day ≤ 31 := by
  refine d.valid.2.2.2.trans ?_
  unfold daysInMonth
  split
  · split <;> decide
  all_goals decide

end Date

namespace TemporalFields

variable {f : TemporalFields} {n : Nat}

theorem within_eq {low high n : Int} (h : low ≤ n ∧ n ≤ high) : within low high n = .ok n :=
  if_pos h

theorem setNumber_year {year : Int} (small : year.natAbs < 1000000) (new : f.year = none) :
    f.setNumber year .year = .ok { f with year := some year } := by
  rw [setNumber, within_eq (by omega), new]
  rfl

theorem setNumber_month (low : 1 ≤ n) (high : n ≤ 12) (new : f.month = none) :
    f.setNumber n .month = .ok { f with month := some (n : Int) } := by
  rw [setNumber, within_eq (by omega), new]
  rfl

theorem setNumber_day (low : 1 ≤ n) (high : n ≤ 31) (new : f.day = none) :
    f.setNumber n .day = .ok { f with day := some (n : Int) } := by
  rw [setNumber, within_eq (by omega), new]
  rfl

end TemporalFields

namespace Pattern

/-! ## Numbers -/

/-- What may follow a number: no digit. -/
def EndsNumber (rest : List Char) : Prop := ∀ c ∈ rest.head?, c.isDigit = false

@[simp] theorem endsNumber_nil : EndsNumber [] := fun _ h => nomatch h

@[simp] theorem endsNumber_cons {c : Char} {rest : List Char} :
    EndsNumber (c :: rest) ↔ c.isDigit = false := by
  simp [EndsNumber]

section Digits

variable {ds rest : List Char} {least : Nat}

theorem takeWhile_digits (digits : ∀ c ∈ ds, c.isDigit = true) (ends : EndsNumber rest) :
    (ds ++ rest).takeWhile Char.isDigit = ds := by
  have stop : rest.takeWhile Char.isDigit = [] := by
    cases rest with
    | nil => rfl
    | cons c rest => simp [endsNumber_cons.mp ends]
  rw [List.takeWhile_append_of_pos digits, stop, List.append_nil]

/-- Of a run of digits no more than so many are read. -/
theorem readDigits_some {most : Nat} (digits : ∀ c ∈ ds, c.isDigit = true)
    (ends : EndsNumber rest) (enough : least ≤ (ds.take most).length)
    (small : Decimal.value (ds.take most) ≤ 9223372036854775807) :
    readDigits least (some most) (ds ++ rest) =
      .ok ((Decimal.value (ds.take most) : Int), ds.drop most ++ rest) := by
  unfold readDigits
  dsimp only
  rw [takeWhile_digits digits ends, if_neg (Nat.not_lt.mpr enough),
    if_pos (by exact_mod_cast small)]
  congr 2
  rw [List.length_take]
  by_cases h : most ≤ ds.length
  · rw [Nat.min_eq_left h, List.drop_append_of_le_length h]
  · have h := Nat.le_of_not_le h
    rw [Nat.min_eq_right h, List.drop_left, List.drop_eq_nil_of_le h, List.nil_append]

theorem readDigits_none (digits : ∀ c ∈ ds, c.isDigit = true) (ends : EndsNumber rest)
    (enough : least ≤ ds.length) (small : Decimal.value ds ≤ 9223372036854775807) :
    readDigits least none (ds ++ rest) = .ok ((Decimal.value ds : Int), rest) := by
  unfold readDigits
  dsimp only
  rw [takeWhile_digits digits ends, if_neg (Nat.not_lt.mpr enough),
    if_pos (by exact_mod_cast small), List.drop_left]

end Digits

section Padded

variable {width n : Nat} {rest : List Char}

/-- A number with its full width is read back. -/
theorem readDigits_zeroPadded (pos : 0 < width) (small : n < 10 ^ width)
    (bound : n ≤ 9223372036854775807) {least : Nat} (enough : least ≤ width)
    (ends : EndsNumber rest) :
    readDigits least (some width) (Decimal.zeroPadded width n ++ rest) = .ok ((n : Int), rest) := by
  have length := Decimal.length_zeroPadded pos small
  have whole : (Decimal.zeroPadded width n).take width = Decimal.zeroPadded width n :=
    List.take_of_length_le length.le
  rw [readDigits_some (Decimal.isDigit_zeroPadded width n) ends
    (by rwa [whole, length]) (by rwa [whole, Decimal.value_zeroPadded]), whole,
    Decimal.value_zeroPadded, List.drop_eq_nil_of_le length.le, List.nil_append]

theorem trimStart_cons {c : Char} (h : Text.isBlank c = false) (rest : List Char) :
    Text.trimStart (c :: rest) = c :: rest := by
  simp [Text.trimStart, h]

theorem isBlank_of_isDigit {c : Char} (h : c.isDigit = true) : Text.isBlank c = false :=
  Decimal.forall_isDigit (P := fun c => Text.isBlank c = false) (by decide) h

/-- There is nothing to trim in front of a number. -/
theorem trimStart_zeroPadded (width n : Nat) (rest : List Char) :
    Text.trimStart (Decimal.zeroPadded width n ++ rest) = Decimal.zeroPadded width n ++ rest := by
  have digits := Decimal.isDigit_zeroPadded width n
  cases h : Decimal.zeroPadded width n with
  | nil => exact absurd h (Decimal.zeroPadded_ne_nil width n)
  | cons c cs =>
      rw [h] at digits
      exact trimStart_cons (isBlank_of_isDigit (digits c (.head _))) _

/-- A number of two digits is read back into its field. -/
theorem readNumber_two {field : NumberField} (unsigned : isSigned field = false)
    (two : fieldWidth field = some 2) (small : n < 100) (ends : EndsNumber rest)
    (f : TemporalFields) :
    readNumber field (f, Decimal.zeroPadded 2 n ++ rest) =
      (f.setNumber n field).map (·, rest) := by
  have digits : readDigits 1 (some 2) (Decimal.zeroPadded 2 n ++ rest) = .ok ((n : Int), rest) :=
    readDigits_zeroPadded (by decide) small (by omega) (by decide) ends
  unfold readNumber
  simp only [trimStart_zeroPadded, unsigned, two, digits, Except.ok_bind]
  exact bind_pure_comp (m := Except ReadFailure) _ _

theorem readNumber_minus (f : TemporalFields) (s : List Char) :
    readNumber .year (f, '-' :: s) =
      (readDigits 1 none s).bind fun x => (f.setNumber (-x.1) .year).map (·, x.2) := by
  have kept : Text.trimStart ('-' :: s) = '-' :: s := trimStart_cons (by decide) s
  unfold readNumber
  simp only [kept, isSigned]
  cases readDigits 1 none s with
  | error e => rfl
  | ok x => exact bind_pure_comp (m := Except ReadFailure) _ _

theorem readNumber_plus (f : TemporalFields) (s : List Char) :
    readNumber .year (f, '+' :: s) =
      (readDigits 1 none s).bind fun x => (f.setNumber x.1 .year).map (·, x.2) := by
  have kept : Text.trimStart ('+' :: s) = '+' :: s := trimStart_cons (by decide) s
  unfold readNumber
  simp only [kept, isSigned]
  cases readDigits 1 none s with
  | error e => rfl
  | ok x => exact bind_pure_comp (m := Except ReadFailure) _ _

theorem readNumber_unsigned (f : TemporalFields) {c : Char} (digit : c.isDigit = true)
    (s : List Char) :
    readNumber .year (f, c :: s) =
      (readDigits 1 (some 4) (c :: s)).bind fun x => (f.setNumber x.1 .year).map (·, x.2) := by
  have kept : Text.trimStart (c :: s) = c :: s := trimStart_cons (isBlank_of_isDigit digit) s
  unfold readNumber
  simp only [kept]
  split
  · next h =>
      obtain ⟨rfl, rfl⟩ := List.cons.inj h
      cases digit
  · next h =>
      obtain ⟨rfl, rfl⟩ := List.cons.inj h
      cases digit
  · cases h : readDigits 1 (some 4) (c :: s) with
    | error e =>
        simp only [fieldWidth, h]
        rfl
    | ok x =>
        simp only [fieldWidth, h]
        exact bind_pure_comp (m := Except ReadFailure) _ _

/-- So is a year, with a sign or without. -/
theorem readNumber_yearText {year : Int} (bounded : year.natAbs < 1000000)
    (ends : EndsNumber rest) (f : TemporalFields) :
    readNumber .year (f, Date.yearText year ++ rest) = (f.setNumber year .year).map (·, rest) := by
  unfold Date.yearText
  split
  · next h =>
      have digits : readDigits 1 (some 4) (Decimal.zeroPadded 4 year.toNat ++ rest) =
          .ok ((year.toNat : Int), rest) :=
        readDigits_zeroPadded (by decide) (by omega) (by omega) (by decide) ends
      have all := Decimal.isDigit_zeroPadded 4 year.toNat
      cases text : Decimal.zeroPadded 4 year.toNat with
      | nil => exact absurd text (Decimal.zeroPadded_ne_nil _ _)
      | cons c cs =>
          rw [text] at digits all
          rw [List.cons_append, readNumber_unsigned f (all c (.head _)), ← List.cons_append, digits,
            Int.toNat_of_nonneg h.1]
          rfl
  · -- A year outside of 0 to 9999 has a sign in front of its digits.
    next h =>
      have digits : readDigits 1 none (Decimal.zeroPadded 4 year.natAbs ++ rest) =
          .ok ((year.natAbs : Int), rest) := by
        rw [readDigits_none (Decimal.isDigit_zeroPadded _ _) ends
          (List.length_pos_iff.mpr (Decimal.zeroPadded_ne_nil _ _))
          (by rw [Decimal.value_zeroPadded]; omega), Decimal.value_zeroPadded]
      by_cases negative : year < 0
      · have value : -(year.natAbs : Int) = year := by omega
        rw [if_pos negative, List.cons_append, readNumber_minus, digits]
        change (f.setNumber (-(year.natAbs : Int)) .year).map _ = _
        rw [value]
      · have value : (year.natAbs : Int) = year := by omega
        rw [if_neg negative, List.cons_append, readNumber_plus, digits, value]
        rfl

end Padded

/-! ## Items -/

@[simp] theorem readItem_literal (c : Char) (f : TemporalFields) (rest : List Char) :
    readItem (.literal [c]) (f, c :: rest) = .ok (f, rest) := by
  simp [readItem]

/-! ## Dates -/

theorem dateItems : items "%Y-%m-%d".toList =
    [zeroPadded .year, .literal ['-'], zeroPadded .month, .literal ['-'], zeroPadded .day] := by
  decide

theorem text_date (d : Date) : d.text =
    Date.yearText d.year ++ '-' :: (Decimal.zeroPadded 2 d.month ++ '-' ::
      (Decimal.zeroPadded 2 d.day ++ [])) := by
  simp [Date.text]

/-- The fields of a date. -/
def dateFields (d : Date) : TemporalFields :=
  { year := some d.year, month := some d.month, day := some d.day }

theorem read_dateText (d : Date) : read "%Y-%m-%d".toList d.text = .ok (dateFields d) := by
  have year (rest : List Char) : readItem (zeroPadded .year)
      ({}, Date.yearText d.year ++ '-' :: rest) = .ok ({ year := some d.year }, '-' :: rest) := by
    rw [zeroPadded, readItem, readNumber_yearText d.natAbs_year_lt (by simp),
      TemporalFields.setNumber_year d.natAbs_year_lt rfl]
    rfl
  have month (rest : List Char) : readItem (zeroPadded .month)
      ({ year := some d.year }, Decimal.zeroPadded 2 d.month ++ '-' :: rest) =
        .ok ({ year := some d.year, month := some d.month }, '-' :: rest) := by
    rw [zeroPadded, readItem, readNumber_two rfl rfl (by have := d.month_le; omega) (by simp),
      TemporalFields.setNumber_month d.one_le_month d.month_le rfl]
    rfl
  have day : readItem (zeroPadded .day)
      ({ year := some d.year, month := some d.month }, Decimal.zeroPadded 2 d.day ++ []) =
        .ok (dateFields d, []) := by
    rw [zeroPadded, readItem, readNumber_two rfl rfl (by have := d.day_le; omega) (by simp),
      TemporalFields.setNumber_day d.one_le_day d.day_le rfl]
    rfl
  unfold read
  rw [dateItems, text_date]
  simp only [List.foldlM_cons, List.foldlM_nil, year, month, day, readItem_literal, Except.ok_bind]
  rfl

end Pattern

/-- The year, the month and the day of a date determine it where no other fields are given. -/
theorem TemporalFields.date_eq {f : TemporalFields} {d : Date} (year : f.year = some d.year)
    (month : f.month = some (d.month : Int)) (day : f.day = some (d.day : Int))
    (others : f.century = none ∧ f.yearOfCentury = none ∧ f.isoYear = none ∧
      f.isoYearOfCentury = none ∧ f.quarter = none ∧ f.weekFromSunday = none ∧
      f.weekFromMonday = none ∧ f.isoWeek = none ∧ f.weekday = none ∧ f.ordinal = none) :
    f.date = .ok d := by
  obtain ⟨h1, h2, h3, h4, h5, h6, h7, h8, h9, h10⟩ := others
  have week : f.agreesIsoWeek d = true := by
    simp [agreesIsoWeek, fits, fitsCentury, h3, h4, h8, h9]
  have ordinal : f.agreesOrdinal d = true := by simp [agreesOrdinal, fits, h6, h7, h10]
  unfold TemporalFields.date
  simp only [year, month, day, h1, h2, h3, h4, h6, h7, h9, h10, resolveYear, Except.ok_bind,
    Int.toNat_natCast, Date.ofParts?_self, orOutOfRange, week, ordinal]
  simp only [Bool.true_and, fits, h5]
  rfl

/-- What holds of the digits and of some marks holds of every character that is one of them. -/
theorem forall_digit_or {P : Char → Prop} [DecidablePred P] {marks : List Char}
    (digits : ∀ n : Fin 10, P (Char.ofNat (48 + n))) (others : marks.all (P ·) = true) {c : Char}
    (h : c.isDigit = true ∨ c ∈ marks) : P c :=
  h.elim (Decimal.forall_isDigit digits) (List.all_iff_forall_prop.mp others c)

/-- There is nothing to trim if none of the marks is blank. -/
theorem trim_eq_of_marks {s marks : List Char}
    (clean : marks.all (fun c => decide (Text.isBlank c = false)) = true)
    (h : ∀ c ∈ s, c.isDigit = true ∨ c ∈ marks) : Text.trim s = s :=
  trim_eq fun c hc => forall_digit_or (P := fun c => Text.isBlank c = false) (by decide) clean
    (h c hc)

theorem mem_zeroPadded {width n : Nat} {marks : List Char} :
    ∀ c ∈ Decimal.zeroPadded width n, c.isDigit = true ∨ c ∈ marks :=
  fun c hc => .inl (Decimal.isDigit_zeroPadded width n c hc)

theorem mem_dateText (d : Date) : ∀ c ∈ d.text, c.isDigit = true ∨ c ∈ "-+".toList := by
  have year : ∀ c ∈ Date.yearText d.year, c.isDigit = true ∨ c ∈ "-+".toList := by
    unfold Date.yearText
    split
    · exact mem_zeroPadded
    · refine List.forall_mem_cons.mpr ⟨?_, mem_zeroPadded⟩
      split <;> exact .inr (by decide)
  have dash : '-'.isDigit = true ∨ '-' ∈ "-+".toList := .inr (by decide)
  rw [Date.text]
  simp only [List.forall_mem_append, List.forall_mem_cons]
  exact ⟨⟨year, dash, mem_zeroPadded⟩, dash, mem_zeroPadded⟩

theorem trim_dateText (d : Date) : Text.trim d.text = d.text :=
  trim_eq_of_marks (by decide) (mem_dateText d)

theorem StandardForm.readDate?_text (d : Date) : readDate? d.text = some d := by
  have fields : (Pattern.dateFields d).date = .ok d :=
    TemporalFields.date_eq rfl rfl rfl (by simp [Pattern.dateFields])
  rw [readDate?, trim_dateText, Pattern.readDate,
    Pattern.read_dateText, Except.ok_bind, fields]
  rfl

end Rowwise
