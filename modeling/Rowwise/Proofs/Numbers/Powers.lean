import Rowwise.Proofs.Numbers.Truncation

/-!
# Powers of integers

The exact power of two integers is a real number: with a negative exponent it is a fraction, of which
nothing is left if the base has more than one unit (`truncation_power_of_neg`).  Repeated squaring
in wrapping arithmetic is right up to multiples of `2 ^ 64`, so it finds each power that is an
INTEGER (`toInt_wrappingPow`).
-/

namespace Rowwise.Integer

/-! ## Repeated squaring -/

theorem toInt_mul_modEq (a b : Int64) : (a * b).toInt ≡ a.toInt * b.toInt [ZMOD 2 ^ 64] := by
  rw [Int64.toInt_mul]
  exact Int.bmod_emod

/-- A power of the square is an even power. -/
theorem modEq_pow_two_mul {p : ℤ} {x : Int64} {n : ℕ} (h : p ≡ (x * x).toInt ^ n [ZMOD 2 ^ 64]) :
    p ≡ x.toInt ^ (2 * n) [ZMOD 2 ^ 64] := by
  rw [pow_mul, pow_two]
  exact h.trans ((toInt_mul_modEq x x).pow n)

theorem wrappingPow_modEq (x : Int64) (n : ℕ) :
    (wrappingPow x n).toInt ≡ x.toInt ^ n [ZMOD 2 ^ 64] := by
  induction x, n using wrappingPow.induct with
  | case1 x =>
      rw [wrappingPow, if_pos rfl, pow_zero]
      rfl
  | case2 x n more odd ih =>
      -- One factor is left beside the power of the square.
      have exponent : x.toInt ^ n = x.toInt * x.toInt ^ (2 * (n / 2)) := by
        rw [← pow_succ']
        congr 1
        omega
      rw [wrappingPow, if_neg more, exponent]
      dsimp only
      rw [if_pos odd]
      exact (toInt_mul_modEq _ _).trans ((modEq_pow_two_mul ih).mul_left _)
  | case3 x n more even ih =>
      have exponent : 2 * (n / 2) = n := by omega
      have half := modEq_pow_two_mul ih
      rw [exponent] at half
      rw [wrappingPow, if_neg more]
      dsimp only
      rwa [if_neg even]

/-- The integers of 64 bits are different modulo `2 ^ 64`. -/
theorem Fits.eq_of_modEq {a b : ℤ} (ha : Fits a) (hb : Fits b) (h : a ≡ b [ZMOD 2 ^ 64]) :
    a = b := by
  unfold Fits at ha hb
  unfold Int.ModEq at h
  omega

theorem toInt_wrappingPow {x : Int64} {n : ℕ} (h : Fits (x.toInt ^ n)) :
    (wrappingPow x n).toInt = x.toInt ^ n :=
  (fits_toInt _).eq_of_modEq h (wrappingPow_modEq x n)

/-! ## Exact powers -/

/-- The exact power. -/
noncomputable def power (x y : Int64) : ℝ := (x.toInt : ℝ) ^ y.toInt

variable {x y : Int64}

theorem power_of_nonneg (h : 0 ≤ y.toInt) : power x y = (x.toInt ^ y.toInt.toNat : ℤ) := by
  rw [power, Int.cast_pow, ← zpow_natCast, Int.toNat_of_nonneg h]

theorem truncation_power_one : truncation (power 1 y) = 1 := by
  have one : power 1 y = (1 : ℤ) := by
    rw [power, show (1 : Int64).toInt = 1 by decide, Int.cast_one, one_zpow]
  rw [one, truncation_intCast]

/-- With an exponent that is not negative the power is an integer. -/
theorem truncation_power_of_nonneg (h : 0 ≤ y.toInt) :
    truncation (power x y) = x.toInt ^ y.toInt.toNat := by
  rw [power_of_nonneg h, truncation_intCast]

/-- With a negative one it is a proper fraction. -/
theorem truncation_power_of_neg (large : 1 < x.toInt.natAbs) (h : y.toInt < 0) :
    truncation (power x y) = 0 := by
  apply truncation_of_abs_lt_one
  have base : (1 : ℝ) < |(x.toInt : ℝ)| := by
    rw [← Int.cast_abs, ← Int.natCast_natAbs]
    exact_mod_cast large
  rw [power, abs_zpow]
  exact zpow_lt_one_of_neg₀ base h

/-- Where the base has more than one unit, great exponents give no INTEGER. -/
theorem lt_of_fits_pow {z : ℤ} {n : ℕ} (large : 1 < z.natAbs) (h : Fits (z ^ n)) : n < 64 := by
  by_contra far
  have long : 2 ^ 64 ≤ (z ^ n).natAbs :=
    calc 2 ^ 64 ≤ 2 ^ n := Nat.pow_le_pow_right (by decide) (not_lt.mp far)
      _ ≤ z.natAbs ^ n := Nat.pow_le_pow_left large n
      _ = (z ^ n).natAbs := (Int.natAbs_pow z n).symm
  unfold Fits at h
  omega

end Rowwise.Integer
