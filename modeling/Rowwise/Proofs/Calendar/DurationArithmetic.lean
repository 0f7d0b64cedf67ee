import Rowwise.Functions.CalendarParts
import Rowwise.Evaluation.Operators
import Rowwise.Proofs.Evaluation.Answers
import Rowwise.Proofs.Numbers.Words
import Mathlib.Tactic.Ring

/-!
# Exact arithmetic of durations

Sums, differences and opposites of durations are exact: they end with `Duration.exact`, which is the
duration of so many nanoseconds or, if these are too many, a failure.  A product is put together
from whole seconds and from the nanoseconds beyond them, and a duration of several parts is summed
from left to right.  What is added up last is exact again, but what is added up before it has to fit
as well: the nanoseconds beyond the seconds have to fit 64 bits as a multiple
(`Duration.scale?_eq`), and each part and each sum of first parts has to be a duration
(`Functions.sumOfParts_eq`).  Parts of one sign are not larger than their sum, so nothing is lost for
them (`Functions.partsWithin_of_sign`).
-/

namespace Rowwise

open Eval

namespace Duration

/-- There is a duration of so many nanoseconds. -/
def Within (nanos : Int) : Prop := nanos.natAbs ≤ durationLimit

instance (nanos : Int) : Decidable (Within nanos) := inferInstanceAs (Decidable (_ ≤ _))

/-- The duration of so many nanoseconds, or the failure of those that are too many. -/
def exact (cause : RowFailure) (nanos : Int) : Except EvalError Duration :=
  if h : Within nanos then .ok ⟨nanos, h⟩ else .error (.failure cause)

variable {nanos : Int} {cause : RowFailure} {m : Moment}

theorem exact_of_within (h : Within nanos) : exact cause nanos = .ok ⟨nanos, h⟩ := dif_pos h

theorem exact_of_not_within (h : ¬Within nanos) : exact cause nanos = .error (.failure cause) :=
  dif_neg h

theorem ofNanos?_of_within (h : Within nanos) : ofNanos? nanos = some ⟨nanos, h⟩ := dif_pos h

theorem ofNanos?_of_not_within (h : ¬Within nanos) : ofNanos? nanos = none := dif_neg h

theorem bind_ofNanos? {α : Type} (f : Duration → Option α) (nanos : Int) :
    (ofNanos? nanos).bind f = if h : Within nanos then f ⟨nanos, h⟩ else none := by
  split
  · next h => rw [ofNanos?_of_within h, Option.bind_some]
  · next h => rw [ofNanos?_of_not_within h, Option.bind_none]

theorem answers_ofNanos? (cause : RowFailure) (nanos : Int) :
    (orFail cause (ofNanos? nanos)).Answers m (exact cause nanos) := by
  by_cases h : Within nanos
  · rw [ofNanos?_of_within h, exact_of_within h]
    exact answers_pure _
  · rw [ofNanos?_of_not_within h, exact_of_not_within h]
    exact answers_fail cause

/-! ## Multiples -/

section Multiples

variable (d : Duration) (n : Int64)

theorem nanos_eq : d.nanos = d.wholeSeconds * nanosPerSecond + d.subsecondNanos :=
  (Int.tdiv_mul_add_tmod d.nanos nanosPerSecond).symm

/-- Seconds and the nanoseconds beyond them have one sign. -/
theorem natAbs_nanos_eq :
    d.nanos.natAbs = d.wholeSeconds.natAbs * nanosPerSecond + d.subsecondNanos.natAbs := by
  have seconds : d.wholeSeconds.natAbs = d.nanos.natAbs / nanosPerSecond := Int.natAbs_tdiv _ _
  have rest : d.subsecondNanos.natAbs = d.nanos.natAbs % nanosPerSecond := Int.natAbs_tmod _ _
  rw [seconds, rest, Nat.div_add_mod']

/-- The seconds of a multiple are no more than the multiple. -/
theorem natAbs_wholeSeconds_mul_le (n : Int) :
    (d.wholeSeconds * n * nanosPerSecond).natAbs ≤ (d.nanos * n).natAbs := by
  have one : (nanosPerSecond : Int).natAbs = nanosPerSecond := rfl
  rw [Int.natAbs_mul, Int.natAbs_mul, Int.natAbs_mul, one, natAbs_nanos_eq, Nat.mul_right_comm]
  exact Nat.mul_le_mul_right _ (Nat.le_add_right _ _)

/-- A multiple is exact if that of the nanoseconds beyond the seconds fits 64 bits, and otherwise
there is none. -/
theorem scale?_eq : d.scale? n =
    if Integer.Fits (d.subsecondNanos * n.toInt) then ofNanos? (d.nanos * n.toInt) else none := by
  have total : d.wholeSeconds * n.toInt * nanosPerSecond + d.subsecondNanos * n.toInt =
      d.nanos * n.toInt := by
    conv_rhs => rw [nanos_eq]
    ring
  have bound := d.natAbs_wholeSeconds_mul_le n.toInt
  unfold scale?
  by_cases nanos : Integer.Fits (d.subsecondNanos * n.toInt)
  · rw [if_pos nanos, nanos.ofInt?]
    by_cases seconds : Within (d.wholeSeconds * n.toInt * nanosPerSecond)
    · have fits : Integer.Fits (d.wholeSeconds * n.toInt) := by
        unfold Within durationLimit nanosPerSecond at seconds
        unfold Integer.Fits
        omega
      have whole : ofSeconds? (d.wholeSeconds * n.toInt) = some ⟨_, seconds⟩ := dif_pos seconds
      rw [fits.ofInt?, Option.bind_eq_bind, Option.bind_some, Option.bind_eq_bind, Option.bind_some,
        fits.toInt_ofInt, whole, nanos.toInt_ofInt, ← total]
      rfl
    · -- The seconds alone are too many, and so is the multiple.
      have large : ¬Within (d.nanos * n.toInt) := fun h => seconds (bound.trans h)
      rw [ofNanos?_of_not_within large]
      by_cases fits : Integer.Fits (d.wholeSeconds * n.toInt)
      · have whole : ofSeconds? (d.wholeSeconds * n.toInt) = none := dif_neg seconds
        rw [fits.ofInt?, Option.bind_eq_bind, Option.bind_some, Option.bind_eq_bind,
          Option.bind_some, fits.toInt_ofInt, whole]
        rfl
      · rw [Integer.ofInt?_eq_none fits]
        rfl
  · rw [if_neg nanos, Integer.ofInt?_eq_none nanos]
    cases Integer.ofInt? (d.wholeSeconds * n.toInt) <;> rfl

/-- With what a product ends: with the exact one or, if it is too large, a failure; and with that
failure also if the multiple of the nanoseconds beyond the seconds does not fit 64 bits. -/
def product (cause : RowFailure) : Except EvalError Duration :=
  if Integer.Fits (d.subsecondNanos * n.toInt) then exact cause (d.nanos * n.toInt)
  else .error (.failure cause)

theorem answers_scale? (cause : RowFailure) :
    (orFail cause (d.scale? n)).Answers m (d.product n cause) := by
  unfold product
  rw [scale?_eq]
  split
  · exact answers_ofNanos? cause _
  · exact answers_fail cause

/-- Nothing is lost for multiples that are not very large. -/
theorem product_of_small {n : Int64} (small : n.toInt.natAbs ≤ 9223372036) (cause : RowFailure) :
    d.product n cause = exact cause (d.nanos * n.toInt) := by
  have rest : d.subsecondNanos.natAbs < nanosPerSecond := by
    rw [subsecondNanos, Int.natAbs_tmod]
    exact Nat.mod_lt _ (by decide)
  have bound : (d.subsecondNanos * n.toInt).natAbs ≤ 999999999 * 9223372036 := by
    rw [Int.natAbs_mul]
    exact Nat.mul_le_mul (Nat.le_of_lt_succ rest) small
  have fits : Integer.Fits (d.subsecondNanos * n.toInt) := by
    unfold Integer.Fits
    omega
  exact if_pos fits

end Multiples

end Duration

/-! ## Sums of parts -/

namespace Functions

open Duration

variable (hours minutes seconds nanos : Int64)

/-- The nanoseconds of hours, of minutes and of seconds. -/
def nanosOfHours (hours : Int64) : Int := hours.toInt * 3600 * nanosPerSecond
def nanosOfMinutes (minutes : Int64) : Int := minutes.toInt * 60 * nanosPerSecond
def nanosOfSeconds (seconds : Int64) : Int := seconds.toInt * nanosPerSecond

/-- The nanoseconds of all parts. -/
def nanosOfParts : Int :=
  nanosOfHours hours + nanosOfMinutes minutes + nanosOfSeconds seconds + nanos.toInt

/-- The hours, the minutes and the seconds are durations, and so are the sums from the left. -/
def PartsWithin : Prop :=
  Within (nanosOfHours hours) ∧ Within (nanosOfMinutes minutes) ∧
    Within (nanosOfHours hours + nanosOfMinutes minutes) ∧ Within (nanosOfSeconds seconds) ∧
    Within (nanosOfHours hours + nanosOfMinutes minutes + nanosOfSeconds seconds)

instance : Decidable (PartsWithin hours minutes seconds) :=
  inferInstanceAs (Decidable (_ ∧ _ ∧ _ ∧ _ ∧ _))

/-- Any number of nanoseconds is a duration. -/
theorem within_toInt (n : Int64) : Within n.toInt := by
  have := n.le_toInt
  have := n.toInt_lt
  unfold Within durationLimit
  omega

/-- The sum is exact if all parts and all sums from the left are durations, and otherwise there is
none. -/
theorem sumOfParts_eq : sumOfParts hours minutes seconds nanos =
    if PartsWithin hours minutes seconds then ofNanos? (nanosOfParts hours minutes seconds nanos)
    else none := by
  have ofHours : ofHours? hours.toInt = ofNanos? (nanosOfHours hours) := rfl
  have ofMinutes : ofMinutes? minutes.toInt = ofNanos? (nanosOfMinutes minutes) := rfl
  have ofSeconds : ofSeconds? seconds.toInt = ofNanos? (nanosOfSeconds seconds) := rfl
  unfold sumOfParts add?
  rw [ofHours, ofMinutes, ofSeconds]
  simp only [Option.bind_eq_bind, bind_ofNanos?, within_toInt, dite_true]
  -- What is left are the conditions one by one, in the order of the computation.
  by_cases within : PartsWithin hours minutes seconds
  · rw [if_pos within]
    obtain ⟨h, m, hm, s, hms⟩ := within
    rw [dif_pos h, dif_pos m, dif_pos hm, dif_pos s, dif_pos hms]
    rfl
  · rw [if_neg within]
    split_ifs with h m hm s hms
    · exact absurd ⟨h, m, hm, s, hms⟩ within
    all_goals rfl

/-- With what a sum of parts ends: with the exact one or, if it is too large, a failure; and with
that failure also if a part or a sum from the left is too large. -/
def sumOutcome : Except EvalError Duration :=
  if PartsWithin hours minutes seconds then
    exact .durationTooLarge (nanosOfParts hours minutes seconds nanos)
  else .error (.failure .durationTooLarge)

theorem answers_sumOfParts {m : Moment} :
    (orFail .durationTooLarge (sumOfParts hours minutes seconds nanos)).Answers m
      (sumOutcome hours minutes seconds nanos) := by
  unfold sumOutcome
  rw [sumOfParts_eq]
  split
  · exact answers_ofNanos? _ _
  · exact answers_fail _

/-- No part is negative, or none is positive. -/
def SameSign : Prop :=
  (0 ≤ hours.toInt ∧ 0 ≤ minutes.toInt ∧ 0 ≤ seconds.toInt ∧ 0 ≤ nanos.toInt) ∨
    (hours.toInt ≤ 0 ∧ minutes.toInt ≤ 0 ∧ seconds.toInt ≤ 0 ∧ nanos.toInt ≤ 0)

variable {hours minutes seconds nanos}

/-- Parts of one sign are not larger than their sum. -/
theorem partsWithin_of_sign (sign : SameSign hours minutes seconds nanos)
    (within : Within (nanosOfParts hours minutes seconds nanos)) :
    PartsWithin hours minutes seconds := by
  unfold nanosOfParts nanosOfHours nanosOfMinutes nanosOfSeconds nanosPerSecond at within
  unfold PartsWithin nanosOfHours nanosOfMinutes nanosOfSeconds nanosPerSecond
  unfold Within at within ⊢
  unfold SameSign at sign
  omega

theorem sumOutcome_of_sign (sign : SameSign hours minutes seconds nanos) :
    sumOutcome hours minutes seconds nanos =
      exact .durationTooLarge (nanosOfParts hours minutes seconds nanos) := by
  unfold sumOutcome
  split
  · rfl
  · next outside =>
    rw [exact_of_not_within fun within => outside (partsWithin_of_sign sign within)]

end Functions

end Rowwise
