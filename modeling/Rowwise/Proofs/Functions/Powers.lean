import Rowwise.Proofs.Functions.Durations
import Rowwise.Proofs.Numbers.Powers

/-!
# Powers in expressions

There are two powers of integers.  The function finds the exact power, without the fraction that it
may have, wherever this is an INTEGER (`integerPower_answers`).  The operator takes the power of
floats, so what it evaluates to is as good as a FLOAT, and an odd power of more than 53 bits is out
of its reach (`Expr.odd_exponent`).
-/

namespace Rowwise

open Eval Functions

variable {ctx : TypingContext} {host : Host} {m : Moment} {x y : Expr} {b e : Int64}

/-! ## The function -/

namespace Functions

theorem integerPower_one (e : Int64) : (integerPower 1 e).Answers m (.ok 1) := by
  unfold integerPower
  exact answers_pure 1

theorem integerPower_of_neg (base : b ≠ 0) (more : b ≠ 1) (h : e.toInt < 0) :
    (integerPower b e).Answers m (.ok 0) := by
  unfold integerPower
  rw [if_neg (fun zero => base zero.1), if_neg more, if_pos (Int64.lt_iff_toInt_lt.mpr h)]
  exact answers_pure 0

theorem integerPower_of_exponent (base : b ≠ 0) (more : b ≠ 1) (low : 0 ≤ e.toInt)
    (high : e.toInt < 4294967296) :
    (integerPower b e).Answers m (.ok (Integer.wrappingPow b e.toInt.toNat)) := by
  have positive : ¬e < 0 := by
    rw [Int64.lt_iff_toInt_lt]
    exact not_lt.mpr low
  unfold integerPower
  rw [if_neg (fun zero => base zero.1), if_neg more, if_neg positive, if_pos high]
  exact answers_pure _

/-- The exact power without its fraction is found if it is an INTEGER; the powers of -1 are so if the
exponent has at most 32 bits. -/
theorem integerPower_answers (base : b.toInt ≠ 0)
    (reach : b.toInt = -1 → 0 ≤ e.toInt ∧ e.toInt < 2 ^ 32) {v : Int64}
    (value : v.toInt = Integer.truncation (Integer.power b e)) :
    (integerPower b e).Answers m (.ok v) := by
  rcases eq_or_ne b 1 with rfl | more
  · rw [Integer.truncation_power_one] at value
    obtain rfl : v = 1 := Int64.toInt_inj.mp value
    exact integerPower_one e
  have some : b ≠ 0 := fun zero => base (congrArg Int64.toInt zero)
  have other : b.toInt ≠ 1 := fun one => more (Int64.toInt_inj.mp one)
  have units : b.toInt = -1 ∨ 1 < b.toInt.natAbs := by omega
  rcases lt_or_ge e.toInt 0 with negative | low
  · -- The base is not -1 here, so the power is a proper fraction.
    have large : 1 < b.toInt.natAbs := units.resolve_left fun minus => by
      have := (reach minus).1
      omega
    rw [Integer.truncation_power_of_neg large negative] at value
    obtain rfl : v = 0 := Int64.toInt_inj.mp value
    exact integerPower_of_neg some more negative
  · rw [Integer.truncation_power_of_nonneg low] at value
    have fits : Integer.Fits (b.toInt ^ e.toInt.toNat) := value ▸ Integer.fits_toInt v
    have high : e.toInt < 4294967296 := by
      rcases units with minus | large
      · exact (reach minus).2
      · have := Integer.lt_of_fits_pow large fits
        omega
    obtain rfl : v = Integer.wrappingPow b e.toInt.toNat :=
      Int64.toInt_inj.mp (value.trans (Integer.toInt_wrappingPow fits).symm)
    exact integerPower_of_exponent some more low high

theorem exists_pow : ∃ f, library.get? "pow" = some f ∧ f.overloads =
    [⟨[numberParam "x", numberParam "y"], .integerIfAll,
      Builder.arithmetic (fun x y => do integerPower (← x) (← y))
        (fun x y => do floatPower (← x) (← y))⟩] :=
  ⟨_, library_get? (f := arithmetic[0]) (by simp [builtIns, arithmetic]), rfl⟩

/-- A call with INTEGER arguments ends with their power. -/
theorem ends_pow (functions : ctx.functions = library) (hx : x.Yields ctx host m .integer b)
    (hy : y.Yields ctx host m .integer e) {r : Except EvalError Int64}
    (answers : (integerPower b e).Answers m r) (span : Span) :
    (Expr.callOf span "pow" [x, y]).Ends ctx host m .integer r := by
  obtain ⟨f, found, only⟩ := exists_pow
  rw [← functions] at found
  refine hx.call hy found only (by decide) ?_ ?_ (fun g h holds holds' => ?_) span
  · exact fun o i => ⟨by cases o <;> rfl, by cases i <;> rfl⟩
  · exact fun o i => by cases o <;> cases i <;> rfl
  · refine ⟨_, holds.ends_propagating holds' ?_, fun _ => rfl⟩
    exact holds.compute.bind (holds'.compute.bind answers)

end Functions

/-! ## The operator -/

theorem Expr.yields_exponent (hx : x.Yields ctx host m .integer b)
    (hy : y.Yields ctx host m .integer e) (span : Span) :
    (Expr.binary { span } x .exponent y).Yields ctx host m .integer (Operator.powerOfIntegers b e) :=
  hx.binary hy (fun _ _ => rfl)
    (fun _ _ hf hg => ⟨_, rfl, hf.ends_combine hg (answers_pure (Operator.powerOfIntegers b e))⟩) span

/-- An odd power is out of reach of the operator if it has more than 53 bits. -/
theorem Expr.odd_exponent (hx : x.Yields ctx host m .integer b) (hy : y.Yields ctx host m .integer e)
    {span : Span} {v : Int64}
    (yields : (Expr.binary { span } x .exponent y).Yields ctx host m .integer v)
    (odd : Odd v.toInt) : v.toInt.natAbs < 2 ^ 53 ∨ v.toInt = 2 ^ 63 - 1 := by
  obtain rfl : v = Operator.powerOfIntegers b e := yields.unique (Expr.yields_exponent hx hy span)
  exact FloatMath.toInteger_odd odd

namespace Functions

end Functions

namespace Sample

/-- `pow(base, exponent)` and `base ** exponent` of literals. -/
def powOf (b e : Int64) : Expr := .callOf {} "pow" (literals [b, e])
def powerOf (b e : Int64) : Expr :=
  .binary {} (.constant {} (.integer b)) .exponent (.constant {} (.integer e))

theorem truncation_seven_squared : Integer.truncation (Integer.power 7 2) = 49 :=
  Integer.truncation_power_of_nonneg (by decide)

theorem truncation_three_pow : Integer.truncation (Integer.power 3 39) = 4052555153018976267 :=
  Integer.truncation_power_of_nonneg (by decide)

end Sample

end Rowwise
