import Rowwise.Calendar.Date
import Mathlib.Tactic.Ring

/-!
# Days are numbered in the order of the calendar

`Date.dayNumber` counts the days from a fixed one, and `Date.ofDayNumber?` finds the date of a
number again (`ofDayNumber?_eq_some_iff`).  The year is guessed from the mean length of a year, which
is wrong by one at most (`yearOfDay_eq`); the month is found by taking off one month after the other
(`monthDay_eq`).  Years and months follow one another without gaps (`daysBeforeYear_succ`,
`daysBeforeMonth_succ`), so numbers are ordered as dates are: by the year, then by the month, then
by the day (`isLE_compare_iff`).
-/

namespace Rowwise

/-- The number of days of a year. -/
def daysInYear (year : Int) : Nat := if isLeapYear year then 366 else 365

theorem daysInMonth_pos (year : Int) (month : Nat) : 0 < daysInMonth year month := by
  unfold daysInMonth
  split
  · split <;> decide
  · decide
  · decide
  · decide
  · decide
  · decide

theorem daysInMonth_le (year : Int) (month : Nat) : daysInMonth year month ≤ 31 := by
  unfold daysInMonth
  split
  · split <;> decide
  all_goals decide

namespace Date

/-! ## Years -/

/-- A year begins where the one before ends. -/
theorem daysBeforeYear_succ (year : Int) :
    daysBeforeYear (year + 1) = daysBeforeYear year + daysInYear year := by
  unfold daysBeforeYear daysInYear isLeapYear
  simp only [beq_iff_eq, bne_iff_ne, ne_eq, Bool.and_eq_true, Bool.or_eq_true]
  split <;> omega

theorem daysBeforeYear_mono {y z : Int} (h : y ≤ z) : daysBeforeYear y ≤ daysBeforeYear z := by
  unfold daysBeforeYear
  dsimp only
  omega

/-- Years are about as long as a four hundredth of 146097 days. -/
theorem daysBeforeYear_mean (year : Int) :
    146097 * (year - 1) - 600 < 400 * daysBeforeYear year ∧
      400 * daysBeforeYear year < 146097 * (year - 1) + 400 := by
  unfold daysBeforeYear
  dsimp only
  omega

/-- The year of a day is the one whose days it is among. -/
theorem yearOfDay_eq {year n : Int} (lower : daysBeforeYear year ≤ n)
    (upper : n < daysBeforeYear (year + 1)) : yearOfDay n = year := by
  have start := daysBeforeYear_mean year
  have finish := daysBeforeYear_mean (year + 1)
  have near : year - 1 ≤ n * 400 / 146097 + 1 ∧ n * 400 / 146097 + 1 ≤ year + 1 := by omega
  unfold yearOfDay
  dsimp only
  generalize n * 400 / 146097 + 1 = guess at near ⊢
  -- The guess may be a year too early or too late, and each of the two tests corrects one of these.
  obtain rfl | rfl | rfl : guess = year - 1 ∨ guess = year ∨ guess = year + 1 := by omega
  · have before := daysBeforeYear_mono (Int.sub_le_self year Int.one_nonneg)
    rw [if_neg (by omega), Int.sub_add_cancel, if_pos lower]
  · rw [if_neg (by omega), if_neg (by omega)]
  · rw [if_pos upper, Int.add_sub_cancel]

/-- Every day has a year. -/
theorem daysBeforeYear_yearOfDay (n : Int) :
    daysBeforeYear (yearOfDay n) ≤ n ∧ n < daysBeforeYear (yearOfDay n + 1) := by
  have before := daysBeforeYear_mean (n * 400 / 146097)
  have behind := daysBeforeYear_mean (n * 400 / 146097 + 1 + 1 + 1)
  unfold yearOfDay
  dsimp only
  split
  · next early =>
    rw [Int.add_sub_cancel]
    exact ⟨by omega, early⟩
  · split
    · next late => exact ⟨late, by omega⟩
    · exact ⟨by omega, by omega⟩

/-! ## Months -/

theorem daysBeforeMonth_succ (year : Int) {month : Nat} (h : 1 ≤ month) :
    daysBeforeMonth year (month + 1) = daysBeforeMonth year month + daysInMonth year month := by
  obtain ⟨k, rfl⟩ := Nat.exists_eq_add_of_le' h
  rfl

theorem daysBeforeMonth_mono (year : Int) {month later : Nat} (first : 1 ≤ month)
    (h : month ≤ later) : daysBeforeMonth year month ≤ daysBeforeMonth year later := by
  induction later, h using Nat.le_induction with
  | base => exact le_rfl
  | succ k hk ih =>
      rw [daysBeforeMonth_succ year (first.trans hk)]
      exact ih.trans (Nat.le_add_right _ _)

/-- The months make up the year. -/
theorem daysBeforeMonth_thirteen (year : Int) : daysBeforeMonth year 13 = daysInYear year := by
  unfold daysInYear
  simp only [daysBeforeMonth, daysInMonth]
  split <;> rfl

/-- The search that starts at a month finds each later day of the year. -/
theorem monthDay_eq {year : Int} {month day : Nat} (dayOne : 1 ≤ day)
    (dayLast : day ≤ daysInMonth year month) {start fuel : Nat} (first : 1 ≤ start)
    (h : start ≤ month) (reaches : month ≤ start + fuel) :
    monthDay year (daysBeforeMonth year month - daysBeforeMonth year start + day) fuel start =
      (month, day) := by
  induction fuel generalizing start with
  | zero =>
      obtain rfl : month = start := by omega
      rw [monthDay, Nat.sub_self, Nat.zero_add]
  | succ fuel ih =>
      have next := daysBeforeMonth_succ year first
      rw [monthDay]
      obtain rfl | later := Nat.eq_or_lt_of_le h
      · rw [Nat.sub_self, Nat.zero_add, if_pos dayLast]
      · -- The day lies behind the whole month at which the search stands.
        have behind := daysBeforeMonth_mono year (Nat.le_add_left 1 start) later
        rw [if_neg (by omega), ← ih (Nat.le_add_left 1 start) later (by omega)]
        congr 1
        omega

/-- What the search finds is the day that it looks for. -/
theorem daysBeforeMonth_monthDay (year : Int) (ordinal : Nat) {start fuel : Nat}
    (first : 1 ≤ start) :
    daysBeforeMonth year (monthDay year ordinal fuel start).1 +
        (monthDay year ordinal fuel start).2 = daysBeforeMonth year start + ordinal := by
  induction fuel generalizing start ordinal with
  | zero => rfl
  | succ fuel ih =>
      rw [monthDay]
      split
      · rfl
      · have next := daysBeforeMonth_succ year first
        rw [ih _ (Nat.le_add_left 1 start)]
        omega

/-! ## The date of a number -/

section Bounds

variable (d : Date)

theorem one_le_ordinal : 1 ≤ d.ordinal := Nat.le_add_left_of_le d.valid.2.2.1

theorem ordinal_le : d.ordinal ≤ daysInYear d.year := by
  obtain ⟨_, ⟨first, last⟩, _, dayLast⟩ := d.valid
  have next := daysBeforeMonth_succ d.year first
  have whole := daysBeforeMonth_mono d.year (Nat.le_add_left 1 d.month) (Nat.succ_le_succ last)
  rw [daysBeforeMonth_thirteen] at whole
  unfold ordinal
  omega

theorem daysBeforeYear_le_dayNumber : daysBeforeYear d.year ≤ d.dayNumber := by
  have := d.one_le_ordinal
  unfold dayNumber
  omega

theorem dayNumber_lt_daysBeforeYear : d.dayNumber < daysBeforeYear (d.year + 1) := by
  have := d.ordinal_le
  rw [daysBeforeYear_succ]
  unfold dayNumber
  omega

/-- A date is found by its number. -/
theorem ofDayNumber?_dayNumber : ofDayNumber? d.dayNumber = some d := by
  obtain ⟨_, ⟨first, last⟩, dayOne, dayLast⟩ := d.valid
  have year := yearOfDay_eq d.daysBeforeYear_le_dayNumber d.dayNumber_lt_daysBeforeYear
  have ordinal : (d.dayNumber - daysBeforeYear d.year + 1).toNat = d.ordinal := by
    unfold dayNumber
    omega
  have found : monthDay d.year d.ordinal 11 1 = (d.month, d.day) :=
    monthDay_eq dayOne dayLast le_rfl first last
  unfold ofDayNumber? ofOrdinal?
  dsimp only
  rw [year, ordinal, found]
  exact d.ofParts?_self

end Bounds

theorem eq_of_ofParts? {year : Int} {month day : Nat} {d : Date}
    (h : ofParts? year month day = some d) : d.year = year ∧ d.month = month ∧ d.day = day := by
  unfold ofParts? at h
  split at h <;> cases h
  exact ⟨rfl, rfl, rfl⟩

theorem ofOrdinal?_eq (year : Int) (ordinal : Nat) : ofOrdinal? year ordinal =
    ofParts? year (monthDay year ordinal 11 1).1 (monthDay year ordinal 11 1).2 := rfl

theorem dayNumber_of_ofDayNumber? {n : Int} {d : Date} (h : ofDayNumber? n = some d) :
    d.dayNumber = n := by
  have lower := (daysBeforeYear_yearOfDay n).1
  have found := @daysBeforeMonth_monthDay (yearOfDay n)
    (n - daysBeforeYear (yearOfDay n) + 1).toNat 1 11 le_rfl
  have start : daysBeforeMonth (yearOfDay n) 1 = 0 := rfl
  unfold ofDayNumber? at h
  dsimp only at h
  rw [ofOrdinal?_eq] at h
  generalize monthDay (yearOfDay n) (n - daysBeforeYear (yearOfDay n) + 1).toNat 11 1 = md
    at h found
  obtain ⟨year, month, day⟩ := eq_of_ofParts? h
  unfold dayNumber ordinal
  rw [year, month, day]
  omega

/-- A number stands for one date at most. -/
theorem ofDayNumber?_eq_some_iff {n : Int} {d : Date} :
    ofDayNumber? n = some d ↔ d.dayNumber = n := by
  refine ⟨dayNumber_of_ofDayNumber?, ?_⟩
  rintro rfl
  exact d.ofDayNumber?_dayNumber

theorem addDays?_eq_some_iff {d e : Date} {n : Int} :
    d.addDays? n = some e ↔ e.dayNumber = d.dayNumber + n := ofDayNumber?_eq_some_iff

/-! ## The order of the numbers -/

variable {d e : Date}

theorem dayNumber_lt_of_year (h : d.year < e.year) : d.dayNumber < e.dayNumber := by
  have next : d.year + 1 ≤ e.year := h
  exact d.dayNumber_lt_daysBeforeYear.trans_le
    ((daysBeforeYear_mono next).trans e.daysBeforeYear_le_dayNumber)

theorem dayNumber_lt_of_month (year : d.year = e.year) (h : d.month < e.month) :
    d.dayNumber < e.dayNumber := by
  obtain ⟨_, ⟨first, _⟩, _, dayLast⟩ := d.valid
  have dayOne := e.valid.2.2.1
  have next := daysBeforeMonth_succ d.year first
  have behind := daysBeforeMonth_mono d.year (Nat.le_add_left 1 d.month) h
  unfold dayNumber ordinal
  rw [← year]
  omega

theorem dayNumber_sub_of_month (year : d.year = e.year) (month : d.month = e.month) :
    e.dayNumber - d.dayNumber = e.day - d.day := by
  unfold dayNumber ordinal
  rw [year, month]
  omega

/-- Dates are compared as their numbers are. -/
theorem compare_eq_compare_dayNumber : compare d e = compare d.dayNumber e.dayNumber := by
  change (compare d.year e.year).then ((compare d.month e.month).then (compare d.day e.day)) = _
  -- The first part in which the dates differ decides, and it also decides which number is less.
  rcases lt_trichotomy d.year e.year with year | year | year
  · rw [compare_lt_iff_lt.mpr year, compare_lt_iff_lt.mpr (dayNumber_lt_of_year year)]
    rfl
  · rw [compare_eq_iff_eq.mpr year]
    rcases lt_trichotomy d.month e.month with month | month | month
    · rw [compare_lt_iff_lt.mpr month, compare_lt_iff_lt.mpr (dayNumber_lt_of_month year month)]
      rfl
    · rw [compare_eq_iff_eq.mpr month]
      have days := dayNumber_sub_of_month year month
      rcases lt_trichotomy d.day e.day with day | day | day
      · rw [compare_lt_iff_lt.mpr day, compare_lt_iff_lt.mpr (by omega)]
        rfl
      · rw [compare_eq_iff_eq.mpr day, compare_eq_iff_eq.mpr (by omega)]
        rfl
      · rw [compare_gt_iff_gt.mpr day, compare_gt_iff_gt.mpr (by omega)]
        rfl
    · rw [compare_gt_iff_gt.mpr month,
        compare_gt_iff_gt.mpr (dayNumber_lt_of_month year.symm month)]
      rfl
  · rw [compare_gt_iff_gt.mpr year, compare_gt_iff_gt.mpr (dayNumber_lt_of_year year)]
    rfl

theorem isLE_compare_iff : (compare d e).isLE = true ↔ d.dayNumber ≤ e.dayNumber := by
  rw [compare_eq_compare_dayNumber, Int.isLE_compare]

end Date

end Rowwise
