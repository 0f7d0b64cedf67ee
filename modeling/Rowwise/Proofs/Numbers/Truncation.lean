import Rowwise.Proofs.Numbers.FloatOrder
import Rowwise.Proofs.Numbers.Words

/-!
# Floats as integers

A FLOAT that becomes an INTEGER loses its fraction and is limited to the range of INTEGER
(`toInt_toInteger`).  Floats beyond 53 bits are even, so that an odd INTEGER of more bits comes from
none of them; only the greatest one does, as the limit of the range (`toInteger_odd`).
-/

namespace Rowwise

open Decimal FloatText

namespace Integer

/-! ## Rounding toward zero -/

/-- The number rounded toward zero. -/
noncomputable def truncation (r : ℝ) : ℤ := if 0 ≤ r then ⌊r⌋ else ⌈r⌉

variable {r : ℝ}

theorem truncation_of_nonneg (h : 0 ≤ r) : truncation r = ⌊r⌋ := if_pos h

@[simp] theorem truncation_intCast (n : ℤ) : truncation n = n := by
  unfold truncation
  split_ifs
  · exact Int.floor_intCast n
  · exact Int.ceil_intCast n

theorem truncation_neg (r : ℝ) : truncation (-r) = -truncation r := by
  rcases lt_trichotomy r 0 with negative | rfl | positive
  · rw [truncation, if_pos (by linarith), truncation, if_neg (by linarith), Int.floor_neg]
  · simp [truncation]
  · rw [truncation, if_neg (by linarith), truncation, if_pos positive.le, Int.ceil_neg]

/-- Of a proper fraction nothing is left. -/
theorem truncation_of_abs_lt_one (h : |r| < 1) : truncation r = 0 := by
  obtain ⟨low, high⟩ := abs_lt.mp h
  unfold truncation
  split_ifs with sign
  · exact Int.floor_eq_zero_iff.mpr ⟨sign, high⟩
  · exact Int.ceil_eq_zero_iff.mpr ⟨low, (not_le.mp sign).le⟩

/-- The integer, or the end of the range of INTEGER that it exceeds. -/
def limited (z : ℤ) : ℤ := max (-2 ^ 63) (min (2 ^ 63 - 1) z)

theorem limited_of_fits {z : ℤ} (h : Fits z) : limited z = z := by
  unfold Fits at h
  unfold limited
  omega

/-- The number rounded toward zero and limited to the range of INTEGER. -/
noncomputable def saturation (e : EReal) : ℤ :=
  if e = ⊥ then -2 ^ 63 else if e = ⊤ then 2 ^ 63 - 1 else limited (truncation e.toReal)

theorem saturation_coe (r : ℝ) : saturation r = limited (truncation r) := by
  rw [saturation, if_neg (EReal.coe_ne_bot r), if_neg (EReal.coe_ne_top r), EReal.toReal_coe]

end Integer

/-! ## The integer part of a magnitude -/

namespace Decimal.Binary

variable (b : Binary)

theorem floor_toRat : ⌊(b.toRat : ℝ)⌋ = b.whole := by
  have ratio : (b.toRat : ℝ) =
      ((b.mantissa * 2 ^ b.exponent.toNat : ℕ) : ℝ) / ((2 ^ (-b.exponent).toNat : ℕ) : ℝ) := by
    rw [toRat]
    push_cast
    rcases le_total 0 b.exponent with h | h
    · rw [Int.toNat_of_nonpos (by omega : -b.exponent ≤ 0), pow_zero, div_one, ← zpow_natCast,
        Int.toNat_of_nonneg h]
    · rw [Int.toNat_of_nonpos h, pow_zero, mul_one, div_eq_mul_inv, ← zpow_natCast, ← zpow_neg,
        Int.toNat_of_nonneg (by omega), neg_neg]
  rw [ratio, ← Int.natCast_floor_eq_floor (by positivity), Nat.floor_div_eq_div]
  rfl

/-- An integer part that is odd has no more bits than the mantissa. -/
theorem whole_odd (odd : Odd b.whole) : b.whole ≤ b.mantissa := by
  rcases lt_or_ge 0 b.exponent with up | down
  · refine absurd odd (Nat.not_odd_iff_even.mpr ?_)
    have none : (-b.exponent).toNat = 0 := by omega
    obtain ⟨k, hk⟩ := Nat.exists_eq_add_of_lt (by omega : 0 < b.exponent.toNat)
    have value : b.whole = b.mantissa * 2 ^ (k + 1) := by
      rw [whole, none, hk, Nat.zero_add]
      exact Nat.div_one _
    rw [value, pow_succ, ← mul_assoc]
    exact even_two.mul_left _
  · have value : b.whole = b.mantissa / 2 ^ (-b.exponent).toNat := by
      rw [whole, Int.toNat_of_nonpos down]
      exact congrArg (· / _) (Nat.mul_one _)
    rw [value]
    exact Nat.div_le_self _ _

theorem mantissa_ofBits_lt (bits : UInt64) : (ofBits bits).mantissa < 2 ^ 53 := by
  have bound : bits.toNat % leadingBit < leadingBit := Nat.mod_lt _ (by decide)
  unfold leadingBit at bound
  unfold ofBits leadingBit
  dsimp only
  split_ifs <;> dsimp only <;> omega

end Decimal.Binary

/-! ## The conversion -/

namespace FloatMath

variable {x : Float}

/-- The bits of an infinity read as a magnitude beyond INTEGER. -/
theorem whole_infinity : 2 ^ 63 ≤ (Binary.nth infinityPlace).whole := by
  have value : Binary.nth infinityPlace = ⟨leadingBit, 972⟩ := by decide
  rw [value]
  decide +kernel

theorem toInt_toInteger_eq (hx : x.isNaN = false) :
    (toInteger x).toInt = Integer.limited (if isNegative x then
      -((Binary.ofBits x.toBits).whole : ℤ) else (Binary.ofBits x.toBits).whole) := by
  unfold toInteger Integer.limited
  rw [hx, if_neg Bool.false_ne_true]
  dsimp only
  generalize (Binary.ofBits x.toBits).whole = whole
  have least (k : ℕ) : Nat.min whole k = if whole ≤ k then whole else k := Nat.min_def
  rw [least, least]
  split_ifs <;> rw [Int64.toInt_ofInt_of_le (by omega) (by omega)] <;> omega

/-- A float becomes the integer that is left without its fraction, limited to the range. -/
theorem toInt_toInteger (hx : x.isNaN = false) :
    (toInteger x).toInt = Integer.saturation (number x) := by
  have same : Binary.ofBits x.toBits = Binary.nth (magnitude x) := ofBits_eq_nth x.toBits
  rw [toInt_toInteger_eq hx]
  rcases Bool.eq_false_or_eq_true x.isInf with infinite | finite
  · have far : 2 ^ 63 ≤ (Binary.ofBits x.toBits).whole := by
      rw [same, (shows_unpack hx).isInf.mp infinite]
      exact whole_infinity
    have value : number x = if isNegative x then ⊥ else ⊤ := if_pos infinite
    rw [value, Integer.limited]
    split_ifs
    · rw [Integer.saturation, if_pos rfl]
      omega
    · rw [Integer.saturation, if_neg top_ne_bot, if_pos rfl]
      omega
  · -- The mantissa is shifted by the exponent, which leaves the whole part of the magnitude.
    have part := Binary.floor_toRat (Binary.ofBits x.toBits)
    have sign : (0 : ℝ) ≤ (Binary.ofBits x.toBits).toRat := by
      rw [Binary.toRat]
      push_cast
      positivity
    have truncated := (Integer.truncation_of_nonneg sign).trans part
    have value : number x = real x := if_neg (by rw [finite]; exact Bool.false_ne_true)
    rw [value, Integer.saturation_coe, real]
    split_ifs
    · rw [Integer.truncation_neg, truncated]
    · rw [truncated]

theorem toInteger_nan (hx : x.isNaN = true) : toInteger x = 0 := if_pos hx

/-- An odd INTEGER comes from a float only if it has no more than 53 bits, or if it is the limit of
the range. -/
theorem toInteger_odd (odd : Odd (toInteger x).toInt) :
    (toInteger x).toInt.natAbs < 2 ^ 53 ∨ (toInteger x).toInt = 2 ^ 63 - 1 := by
  rcases Bool.eq_false_or_eq_true x.isNaN with nan | number
  · rw [toInteger_nan nan] at odd
    exact absurd odd (by decide)
  · have small := Binary.mantissa_ofBits_lt x.toBits
    have few := Binary.whole_odd (Binary.ofBits x.toBits)
    rw [toInt_toInteger_eq number, Integer.limited] at odd ⊢
    rw [Int.odd_iff] at odd
    rw [Nat.odd_iff] at few
    split_ifs at odd ⊢ <;> omega

end FloatMath

end Rowwise
