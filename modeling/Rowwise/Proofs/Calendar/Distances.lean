import Rowwise.Calendar.Period
import Rowwise.Proofs.Calendar.DayNumbers

/-!
# Distances of dates

A distance is counted in months first and then in days (`Period.monthsAndDays`).  Forward, the
months lead from the start to a date from which the days lead to the end: to the day of the start in
the last month in which it is not behind the end, or to the last day of that month if that has no
such day (`monthsAndDays_forward`).  Backward, the days are counted another way, and only their sign
is known (`monthsAndDays_backward`).  The number of months is the same in both directions
(`monthsAndDays_swap`).

All dates have numbers of days and months that fit 32 bits, so nothing of this is lost where the
distance is stored as a period.
-/

namespace Rowwise

namespace Date

variable {d e : Date}

/-! ## Months -/

theorem monthNumber_eq_iff :
    d.monthNumber = e.monthNumber ↔ d.year = e.year ∧ d.month = e.month := by
  have := d.valid.2.1
  have := e.valid.2.1
  unfold monthNumber
  omega

theorem dayNumber_lt_of_monthNumber (h : d.monthNumber < e.monthNumber) :
    d.dayNumber < e.dayNumber := by
  have := d.valid.2.1
  have := e.valid.2.1
  unfold monthNumber at h
  by_cases year : d.year = e.year
  · exact dayNumber_lt_of_month year (by omega)
  · exact dayNumber_lt_of_year (by omega)

theorem dayNumber_sub (h : d.monthNumber = e.monthNumber) :
    e.dayNumber - d.dayNumber = e.day - d.day := by
  obtain ⟨year, month⟩ := monthNumber_eq_iff.mp h
  exact dayNumber_sub_of_month year month

/-- The first and the last number of a day. -/
theorem dayNumber_bounds (d : Date) : -95746130 ≤ d.dayNumber ∧ d.dayNumber < 95745399 := by
  obtain ⟨first, last⟩ := d.valid.1
  have lower := (daysBeforeYear_mono first).trans d.daysBeforeYear_le_dayNumber
  have upper := d.dayNumber_lt_daysBeforeYear.trans_le
    (daysBeforeYear_mono (Int.add_le_add_right last 1))
  exact ⟨lower, upper⟩

/-- The date so many months later is in that month, with the same day or else the last one. -/
theorem addMonths?_eq_some_iff {n : Int} : d.addMonths? n = some e ↔
    e.monthNumber = d.monthNumber + n ∧ e.day = min d.day (daysInMonth e.year e.month) := by
  have parts (n : Int) (moved : Date) (h : d.addMonths? n = some moved) :
      moved.monthNumber = d.monthNumber + n ∧
        moved.day = min d.day (daysInMonth moved.year moved.month) := by
    obtain ⟨year, month, day⟩ := eq_of_ofParts? h
    refine ⟨?_, by rw [day, year, month]⟩
    rw [monthNumber, year, month]
    omega
  refine ⟨parts n e, fun ⟨month, day⟩ => ?_⟩
  have valid := e.valid.2.1
  have number : e.monthNumber = e.year * 12 + e.month - 1 := rfl
  have year : (d.monthNumber + n) / 12 = e.year := by omega
  have number : ((d.monthNumber + n) % 12).toNat + 1 = e.month := by omega
  unfold addMonths?
  dsimp only
  rw [year, number, ← day]
  exact e.ofParts?_self

/-- There is such a date if its year has dates. -/
theorem exists_addMonths? {n : Int} (first : firstYear ≤ (d.monthNumber + n) / 12)
    (last : (d.monthNumber + n) / 12 ≤ lastYear) : ∃ moved, d.addMonths? n = some moved := by
  have dayOne := d.valid.2.2.1
  have days := daysInMonth_pos ((d.monthNumber + n) / 12) (((d.monthNumber + n) % 12).toNat + 1)
  exact ⟨_, dif_pos ⟨⟨first, last⟩, by omega, by omega, Nat.min_le_right _ _⟩⟩

/-- The months between two dates can be added to the first one. -/
theorem exists_addMonths?_between {n : Int} (forward : 0 ≤ n)
    (within : d.monthNumber + n ≤ e.monthNumber) : ∃ moved, d.addMonths? n = some moved := by
  have := d.valid
  have := e.valid
  unfold monthNumber at within
  apply exists_addMonths? <;> unfold monthNumber <;> omega

end Date

namespace Period

open Date

variable {start finish : Date}

/-! ## Months and days -/

/-- The months, whatever the days are. -/
theorem monthsAndDays_fst (start finish : Date) :
    (monthsAndDays start finish).1 =
      if finish.monthNumber - start.monthNumber > 0 ∧ (finish.day : Int) - start.day < 0 then
        finish.monthNumber - start.monthNumber - 1
      else if finish.monthNumber - start.monthNumber < 0 ∧ (finish.day : Int) - start.day > 0 then
        finish.monthNumber - start.monthNumber + 1
      else finish.monthNumber - start.monthNumber := by
  unfold monthsAndDays
  dsimp only
  split
  · split <;> rfl
  · split <;> rfl

theorem monthsAndDays_swap (start finish : Date) :
    (monthsAndDays finish start).1 = -(monthsAndDays start finish).1 := by
  rw [monthsAndDays_fst, monthsAndDays_fst]
  split_ifs <;> omega

/-- Neither the months nor the days are more than dates are apart. -/
theorem monthsAndDays_bounds (start finish : Date) :
    (-6291456 ≤ (monthsAndDays start finish).1 ∧ (monthsAndDays start finish).1 < 6291456) ∧
      (-191491530 ≤ (monthsAndDays start finish).2 ∧
        (monthsAndDays start finish).2 < 191491530) := by
  obtain ⟨⟨_, _⟩, ⟨_, _⟩, _, dayLast⟩ := start.valid
  obtain ⟨⟨_, _⟩, ⟨_, _⟩, _, dayLast'⟩ := finish.valid
  have := daysInMonth_le start.year start.month
  have := daysInMonth_le finish.year finish.month
  have := finish.dayNumber_bounds
  unfold firstYear lastYear at *
  constructor
  · rw [monthsAndDays_fst]
    unfold monthNumber
    split
    · omega
    · split <;> omega
  · unfold monthsAndDays
    dsimp only
    split
    · split
      · next anchor _ =>
          have := anchor.dayNumber_bounds
          dsimp only
          omega
      · dsimp only
        omega
    · split <;> dsimp only <;> omega

/-- From the start to the end of a distance forward. -/
theorem monthsAndDays_forward (h : start.dayNumber ≤ finish.dayNumber) :
    0 ≤ (monthsAndDays start finish).1 ∧ 0 ≤ (monthsAndDays start finish).2 ∧
      ∃ moved, start.addMonths? (monthsAndDays start finish).1 = some moved ∧
        finish.dayNumber = moved.dayNumber + (monthsAndDays start finish).2 := by
  have months : start.monthNumber ≤ finish.monthNumber := by
    by_contra later
    have := dayNumber_lt_of_monthNumber (not_le.mp later)
    omega
  have sameMonth := @dayNumber_sub start finish
  unfold monthsAndDays
  dsimp only
  split
  · -- The day of the month is not reached yet, so the end lies in the month after the last one.
    obtain ⟨moved, added⟩ := exists_addMonths?_between (d := start) (e := finish)
      (n := finish.monthNumber - start.monthNumber - 1) (by omega) (by omega)
    have reached := (addMonths?_eq_some_iff.mp added).1
    have before : moved.dayNumber < finish.dayNumber := dayNumber_lt_of_monthNumber (by omega)
    simp only [added]
    exact ⟨by omega, by omega, moved, rfl, by omega⟩
  · rw [if_neg (by omega)]
    obtain ⟨moved, added⟩ := exists_addMonths?_between (d := start) (e := finish)
      (n := finish.monthNumber - start.monthNumber) (by omega) (by omega)
    obtain ⟨reached, day⟩ := addMonths?_eq_some_iff.mp added
    -- The end is in the month that is reached, not before the day of the start.
    have arrived : moved.monthNumber = finish.monthNumber := by omega
    obtain ⟨year, month⟩ := monthNumber_eq_iff.mp arrived
    have kept : moved.day = start.day := by
      rw [day, year, month]
      have := finish.valid.2.2.2
      omega
    have rest := dayNumber_sub arrived
    exact ⟨by omega, by omega, moved, added, by omega⟩

theorem monthsAndDays_backward (h : finish.dayNumber ≤ start.dayNumber) :
    (monthsAndDays start finish).1 ≤ 0 ∧ (monthsAndDays start finish).2 ≤ 0 := by
  have months : finish.monthNumber ≤ start.monthNumber := by
    by_contra later
    have := dayNumber_lt_of_monthNumber (not_le.mp later)
    omega
  have sameMonth := @dayNumber_sub start finish
  have := finish.valid.2.2
  have := start.valid.2.2
  unfold monthsAndDays
  dsimp only
  -- Only the correction of distances backward applies, and what it adds keeps both parts below zero.
  rw [if_neg (by omega)]
  split <;> constructor <;> dsimp only <;> omega

/-! ## Distances -/

theorem natAbs_tmod_le (n : Int) : (n.tmod 12).natAbs ≤ 11 := by
  rw [Int.natAbs_tmod]
  exact Nat.le_of_lt_succ (Nat.mod_lt _ (by decide))

section Parts

variable (start finish : Date)

theorem toInt_years_between :
    (between start finish).years.toInt = (monthsAndDays start finish).1.tdiv 12 := by
  have months := (monthsAndDays_bounds start finish).1
  have years : ((monthsAndDays start finish).1.tdiv 12).natAbs =
      (monthsAndDays start finish).1.natAbs / 12 := Int.natAbs_tdiv _ 12
  unfold between
  exact Int32.toInt_ofInt_of_le (by omega) (by omega)

theorem toInt_months_between :
    (between start finish).months.toInt = (monthsAndDays start finish).1.tmod 12 := by
  have rest := natAbs_tmod_le (monthsAndDays start finish).1
  unfold between
  exact Int32.toInt_ofInt_of_le (by omega) (by omega)

theorem toInt_days_between :
    (between start finish).days.toInt = (monthsAndDays start finish).2 := by
  have days := (monthsAndDays_bounds start finish).2
  unfold between
  exact Int32.toInt_ofInt_of_le (by omega) (by omega)

theorem totalMonths_between :
    (between start finish).totalMonths = (monthsAndDays start finish).1 := by
  rw [totalMonths, toInt_years_between, toInt_months_between, Int.tdiv_mul_add_tmod]

/-- The months beyond the years are less than a year. -/
theorem natAbs_months_between : (between start finish).months.toInt.natAbs ≤ 11 := by
  rw [toInt_months_between]
  exact natAbs_tmod_le _

theorem totalMonths_between_swap :
    (between finish start).totalMonths = -(between start finish).totalMonths := by
  rw [totalMonths_between, totalMonths_between, monthsAndDays_swap]

end Parts

/-- No part of the period is negative. -/
def IsForward (p : Period) : Prop := 0 ≤ p.years.toInt ∧ 0 ≤ p.months.toInt ∧ 0 ≤ p.days.toInt

/-- No part of the period is positive. -/
def IsBackward (p : Period) : Prop := p.years.toInt ≤ 0 ∧ p.months.toInt ≤ 0 ∧ p.days.toInt ≤ 0

theorem isForward_between (h : start.dayNumber ≤ finish.dayNumber) :
    (between start finish).IsForward := by
  obtain ⟨months, days, _⟩ := monthsAndDays_forward h
  unfold IsForward
  rw [toInt_years_between, toInt_months_between, toInt_days_between]
  exact ⟨Int.tdiv_nonneg months (by decide), Int.tmod_nonneg 12 months, days⟩

theorem isBackward_between (h : finish.dayNumber ≤ start.dayNumber) :
    (between start finish).IsBackward := by
  obtain ⟨months, days⟩ := monthsAndDays_backward h
  have years := Int.tdiv_nonneg (Int.neg_nonneg_of_nonpos months) (by decide : 0 ≤ (12 : Int))
  have rest := Int.tmod_nonneg 12 (Int.neg_nonneg_of_nonpos months)
  rw [Int.neg_tdiv] at years
  rw [Int.neg_tmod] at rest
  unfold IsBackward
  rw [toInt_years_between, toInt_months_between, toInt_days_between]
  exact ⟨Int.nonpos_of_neg_nonneg years, Int.nonpos_of_neg_nonneg rest, days⟩

/-! ## Sums -/

/-- The period leads from one date to the other: first by its months, to the last day of the month
if that has no such day, and then by its days. -/
def Leads (p : Period) (d e : Date) : Prop :=
  ∃ moved : Date, moved.monthNumber = d.monthNumber + p.totalMonths ∧
    moved.day = min d.day (daysInMonth moved.year moved.month) ∧
    e.dayNumber = moved.dayNumber + p.days.toInt

/-- The sum of a date and a period is the date to which it leads. -/
theorem addTo?_eq_some_iff {p : Period} {d e : Date} : p.addTo? d = some e ↔ p.Leads d e := by
  unfold addTo?
  constructor
  · intro h
    obtain ⟨moved, added, rest⟩ := Option.bind_eq_some_iff.mp h
    obtain ⟨month, day⟩ := addMonths?_eq_some_iff.mp added
    exact ⟨moved, month, day, addDays?_eq_some_iff.mp rest⟩
  · rintro ⟨moved, month, day, rest⟩
    exact Option.bind_eq_some_iff.mpr
      ⟨moved, addMonths?_eq_some_iff.mpr ⟨month, day⟩, addDays?_eq_some_iff.mpr rest⟩

/-- A distance forward leads to its end. -/
theorem leads_between (h : start.dayNumber ≤ finish.dayNumber) :
    (between start finish).Leads start finish := by
  obtain ⟨_, _, moved, added, rest⟩ := monthsAndDays_forward h
  obtain ⟨month, day⟩ := addMonths?_eq_some_iff.mp added
  exact ⟨moved, by rw [month, totalMonths_between], day, by rw [rest, toInt_days_between]⟩

end Period

end Rowwise
