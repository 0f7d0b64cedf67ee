import Rowwise.Functions.Distribution
import Rowwise.Proofs.Numbers.Words
import Mathlib.Algebra.Order.Ring.Int
import Mathlib.Data.Nat.Choose.Basic

/-!
# Binomial coefficients in words

A binomial coefficient is computed factor by factor: from `n.choose k` the next step multiplies by
`n - k` and divides by `k + 1`.  The division leaves nothing over, but the product in front of it is
`k + 1` times as large as what it gives, and it wraps around if it does not fit 64 bits.

Up to the middle these products grow (`product_le_succ`), so if the last one fits, then all of them
do and each step is exact (`toInt_fallingQuotient`).  If it does not, no word divided by `k` is as
large as the coefficient, whatever the steps before have made of it.  Hence the last product alone
decides (`toInt_fallingQuotient_iff`).
-/

namespace Rowwise

/-! ## Words -/

namespace Integer

variable {a b : Int64}

theorem toInt_sub_of_fits (h : Fits (a.toInt - b.toInt)) : (a - b).toInt = a.toInt - b.toInt := by
  unfold Fits at h
  rw [Int64.toInt_sub, Int.bmod_eq_of_le_mul_two (by omega) (by omega)]

theorem toInt_mul_of_fits (h : Fits (a.toInt * b.toInt)) : (a * b).toInt = a.toInt * b.toInt := by
  unfold Fits at h
  rw [Int64.toInt_mul, Int.bmod_eq_of_le_mul_two (by omega) (by omega)]

theorem tdiv_nonpos {z : ℤ} (h : z ≤ 0) (d : ℕ) : z.tdiv d ≤ 0 := by
  have opposite : 0 ≤ (-z).tdiv d := Int.tdiv_nonneg (by omega) (Int.natCast_nonneg d)
  rw [Int.neg_tdiv] at opposite
  omega

/-- A quotient by a natural number fits. -/
theorem toInt_div_ofNat (a : Int64) {d : ℕ} (small : d < 2 ^ 63) :
    (a / Int64.ofNat d).toInt = a.toInt.tdiv d := by
  have less : (a.toInt.tdiv d).natAbs ≤ a.toInt.natAbs := by
    rw [Int.natAbs_tdiv]
    exact Nat.div_le_self _ _
  have low := Int64.le_toInt a
  have high := Int64.toInt_lt a
  have top : a.toInt.tdiv d < 2 ^ 63 := by
    rcases le_or_gt 0 a.toInt with h | h
    · omega
    · exact (tdiv_nonpos h.le d).trans_lt (by decide)
  rw [Int64.toInt_div, Int64.toInt_ofNat_of_lt small,
    Int.bmod_eq_of_le_mul_two (by omega) (by omega)]

end Integer

namespace Functions

open Integer

/-! ## The products -/

variable {N k : ℕ}

theorem product_succ (N k : ℕ) : (k + 1) * N.choose (k + 1) = N.choose k * (N - k) := by
  rw [mul_comm, Nat.choose_succ_right_eq]

/-- Up to the middle the products grow. -/
theorem product_le_succ (half : 2 * k ≤ N) : k * N.choose k ≤ (k + 1) * N.choose (k + 1) := by
  rw [product_succ, mul_comm]
  exact Nat.mul_le_mul_left _ (by omega)

/-- The subsets of at most 61 things are few enough for all products. -/
theorem product_lt (few : N ≤ 61) (k : ℕ) : k * N.choose k < 2 ^ 63 := by
  rcases k with _ | k
  · exact (Nat.zero_mul _).trans_lt (by decide)
  rcases N with _ | N
  · exact (Nat.mul_zero (k + 1)).trans_lt (by decide)
  calc (k + 1) * (N + 1).choose (k + 1) = (N + 1) * N.choose k := by
        rw [mul_comm, Nat.add_one_mul_choose_eq]
    _ ≤ 61 * Nat.choose 60 k := Nat.mul_le_mul few (Nat.choose_mono k (by omega))
    _ ≤ 61 * Nat.choose 60 30 := Nat.mul_le_mul_left _ (Nat.choose_le_middle k 60)
    _ < 2 ^ 63 := by
        rw [Nat.choose_eq_factorial_div_factorial (by decide)]
        decide

/-! ## The steps -/

theorem fallingQuotient_succ (n : Int64) (k : ℕ) :
    fallingQuotient n (k + 1) =
      fallingQuotient n k * (n - Int64.ofNat k) / Int64.ofNat (k + 1) :=
  Nat.fold_succ ..

variable {n : Int64} (value : n.toInt = N)
include value

/-- If the last product fits, all steps are exact. -/
theorem toInt_fallingQuotient (half : 2 * k ≤ N) (fits : k * N.choose k < 2 ^ 63) :
    (fallingQuotient n k).toInt = N.choose k := by
  induction k with
  | zero =>
      rw [Nat.choose_zero_right]
      rfl
  | succ k ih =>
      have before := ih (by omega) ((product_le_succ (by omega)).trans_lt fits)
      have bound := Int64.toInt_lt n
      have small : k + 1 < 2 ^ 63 := by omega
      have position : (Int64.ofNat k).toInt = k := Int64.toInt_ofNat_of_lt (by omega)
      have factor : (n - Int64.ofNat k).toInt = (N - k : ℕ) := by
        rw [toInt_sub_of_fits, value, position]
        · omega
        · rw [value, position]
          constructor <;> omega
      have product : (fallingQuotient n k).toInt * (n - Int64.ofNat k).toInt =
          ((k + 1) * N.choose (k + 1) : ℕ) := by
        rw [before, factor, product_succ, Nat.cast_mul]
      rw [fallingQuotient_succ, toInt_div_ofNat _ small, toInt_mul_of_fits, product,
        Nat.cast_mul]
      · exact Int.mul_tdiv_cancel_left _ (by omega)
      · rw [product]
        constructor <;> omega

/-- The result is the coefficient exactly if the last product fits. -/
theorem toInt_fallingQuotient_iff (half : 2 * k ≤ N) :
    (fallingQuotient n k).toInt = N.choose k ↔ Fits ((k * N.choose k : ℕ) : ℤ) := by
  constructor
  · intro right
    rcases k with _ | k
    · rw [Nat.zero_mul]
      decide
    have bound := Int64.toInt_lt n
    have some : 0 < N.choose (k + 1) := Nat.choose_pos (by omega)
    rw [fallingQuotient_succ, toInt_div_ofNat _ (by omega)] at right
    generalize fallingQuotient n k * (n - Int64.ofNat k) = w at right
    -- The coefficient is positive, so the word that is divided is so too.
    have pos : 0 ≤ w.toInt := by
      by_contra neg
      have := tdiv_nonpos (not_le.mp neg).le (k + 1)
      omega
    have fits := Int64.toInt_lt w
    have last : ((k + 1 : ℕ) : ℤ) * N.choose (k + 1) ≤ w.toInt := by
      rw [← right]
      exact Int.mul_tdiv_self_le pos
    rw [← Nat.cast_mul] at last
    constructor <;> omega
  · intro fits
    exact toInt_fallingQuotient value half (by unfold Fits at fits; omega)

end Functions

end Rowwise
