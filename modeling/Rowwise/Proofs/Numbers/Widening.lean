import Rowwise.Integer
import Rowwise.Proofs.Numbers.FloatOrder

/-!
# Integers as floats

An INTEGER that stands beside a FLOAT is widened.  What it becomes is the nearest float: no finite
float is closer to the integer (`real_toFloat_closest`).  So integers that floats can hold are kept
exactly, among them those of at most 53 bits (`real_toFloat_exact`), and greater ones may fall
together, but do not change places (`real_toFloat_mono`).
-/

namespace Rowwise

open Decimal FloatMath FloatText Float.Model Float.Model.UnpackedFloat

/-! ## Floats of canonical magnitudes -/

section Canonical

variable {b : Binary} (hb : b.Canonical) (s : Sign)

theorem toBits_float : (hb.float s).toBits =
    .ofBitVec (packComponents .binary64 s b.exponentPart b.fractionPart) := by
  rw [← pack_finite hb s]
  rfl

theorem isNaN_float : (hb.float s).isNaN = false := by
  change (Float.Model.pack _).unpack.isNaN = false
  rw [unpack_pack hb s]
  rfl

theorem isInf_float : (hb.float s).isInf = false := by
  change (Float.Model.pack _).unpack.isInf = false
  rw [unpack_pack hb s]
  rfl

theorem isNegative_float : isNegative (hb.float s) = true ↔ s = .negative := by
  rw [isNegative_eq_true, toBits_float, signPart_packComponents]

theorem real_float_positive : real (hb.float .positive) = b.toRat := by
  rw [real, if_neg (by rw [isNegative_float]; exact Sign.noConfusion), toBits_float,
    hb.ofBits_packComponents]

theorem real_float_negative : real (hb.float .negative) = -b.toRat := by
  rw [real, if_pos (by rw [isNegative_float]), toBits_float, hb.ofBits_packComponents]

end Canonical

namespace Integer

/-! ## The nearest float -/

theorem exists_ofNat {n : ℕ} (pos : 0 < n) (bound : n ≤ 2 ^ 63) :
    ∃ b : Binary, ∃ hb : b.Canonical, b.Nearest n ∧ Float.ofNat n = hb.float .positive := by
  have least : (Binary.nth 1).toRat ≤ n := by
    have one : (Binary.nth (1023 * leadingBit)).toRat = 1 := by
      norm_num [Binary.nth, Binary.toRat, leadingBit]
    have less := Binary.toRat_nth_strictMono (by decide : 1 < 1023 * leadingBit)
    have some : (1 : ℚ) ≤ n := mod_cast pos
    linarith
  have most : n < (Binary.nth (infinityPlace - 1)).toRat := by
    have power : (Binary.nth (1087 * leadingBit)).toRat = 2 ^ 64 := by
      norm_num [Binary.nth, Binary.toRat, leadingBit]
    have less := Binary.toRat_nth_strictMono (by decide : 1087 * leadingBit < infinityPlace - 1)
    have few : (n : ℚ) ≤ 2 ^ 63 := mod_cast bound
    linarith
  obtain ⟨b, hb, near⟩ := exists_nearest least most
  exact ⟨b, hb, near, Float_ofScientific hb (by simpa using near) (by simp) (by simp)⟩

/-- An integer becomes positive zero, or a float of its sign and of a magnitude that is near to its
own. -/
theorem toFloat_cases (n : Int64) :
    n.toInt = 0 ∧ toFloat n = 0.0 ∨
      ∃ b : Binary, ∃ hb : b.Canonical, b.Nearest n.toInt.natAbs ∧
        (0 < n.toInt ∧ toFloat n = hb.float .positive ∨
          n.toInt < 0 ∧ toFloat n = hb.float .negative) := by
  have low := Int64.le_toInt n
  have high := Int64.toInt_lt n
  unfold toFloat
  generalize n.toInt = i at low high
  cases i with
  | ofNat k =>
      rcases Nat.eq_zero_or_pos k with rfl | pos
      · exact .inl ⟨rfl, rfl⟩
      · obtain ⟨b, hb, near, same⟩ := exists_ofNat pos (by simp at high; omega)
        exact .inr ⟨b, hb, near, .inl ⟨by simpa using pos, same⟩⟩
  | negSucc k =>
      obtain ⟨b, hb, near, same⟩ := exists_ofNat k.succ_pos (by simp at low; omega)
      refine .inr ⟨b, hb, near, .inr ⟨Int.negSucc_lt_zero k, ?_⟩⟩
      exact (congrArg (fun x : Float => -x) same).trans (neg_float hb)

theorem isNaN_toFloat (n : Int64) : (toFloat n).isNaN = false := by
  rcases toFloat_cases n with ⟨_, same⟩ | ⟨b, hb, _, ⟨_, same⟩ | ⟨_, same⟩⟩ <;> rw [same]
  · rfl
  · exact isNaN_float hb _
  · exact isNaN_float hb _

theorem isInf_toFloat (n : Int64) : (toFloat n).isInf = false := by
  rcases toFloat_cases n with ⟨_, same⟩ | ⟨b, hb, _, ⟨_, same⟩ | ⟨_, same⟩⟩ <;> rw [same]
  · rfl
  · exact isInf_float hb _
  · exact isInf_float hb _

theorem number_toFloat (n : Int64) : number (toFloat n) = real (toFloat n) := by
  rw [number, if_neg (by rw [isInf_toFloat]; exact Bool.false_ne_true)]

/-- No integer becomes negative zero. -/
theorem toFloat_ne_negativeZero (n : Int64) : toFloat n ≠ -0.0 := by
  intro zero
  have sign : isNegative (toFloat n) = true := (eq_negativeZero_iff.mp zero).1
  rcases toFloat_cases n with ⟨_, same⟩ | ⟨b, hb, _, ⟨_, same⟩ | ⟨_, same⟩⟩ <;> rw [same] at sign zero
  · exact absurd sign Bool.false_ne_true
  · exact Sign.noConfusion ((isNegative_float hb _).mp sign)
  · have none : (Binary.ofBits (hb.float .negative).toBits).mantissa = 0 := by
      rw [zero]
      rfl
    rw [toBits_float, hb.ofBits_packComponents] at none
    exact hb.positive.ne' none

/-- A finite float has the number of a magnitude, with a sign or without one. -/
theorem exists_real_eq (y : Float) :
    ∃ k, real y = (Binary.nth k).toRat ∨ real y = -((Binary.nth k).toRat : ℝ) := by
  have same : Binary.ofBits y.toBits = Binary.nth (magnitude y) := ofBits_eq_nth y.toBits
  refine ⟨magnitude y, ?_⟩
  rw [real, same]
  split_ifs
  · exact .inr rfl
  · exact .inl rfl

theorem real_zero : real 0.0 = 0 := by
  have zero : Binary.ofBits (0.0 : Float).toBits = ⟨0, -1074⟩ := rfl
  rw [real, zero, Binary.toRat]
  simp

/-- No float is closer to an integer than the one that it becomes. -/
theorem real_toFloat_closest (n : Int64) (y : Float) :
    |(n.toInt : ℝ) - real (toFloat n)| ≤ |(n.toInt : ℝ) - real y| := by
  rcases toFloat_cases n with ⟨zero, same⟩ | ⟨b, hb, near, signs⟩
  · rw [zero, same, real_zero, Int.cast_zero, sub_zero, abs_zero]
    exact abs_nonneg _
  · obtain ⟨i, _, _, rfl⟩ := hb.exists_nth
    obtain ⟨k, real_y⟩ := exists_real_eq y
    have closest : |(n.toInt.natAbs : ℝ) - (Binary.nth i).toRat| ≤
        |(n.toInt.natAbs : ℝ) - (Binary.nth k).toRat| := mod_cast near.closest k
    have pos : (0 : ℝ) ≤ n.toInt.natAbs := Nat.cast_nonneg _
    have pos' : (0 : ℝ) ≤ (Binary.nth k).toRat := by
      have := Binary.toRat_nth_strictMono.monotone k.zero_le
      rw [Binary.toRat_nth_zero] at this
      exact_mod_cast this
    -- On the other side of zero it is farther to a float.
    have across : |(n.toInt.natAbs : ℝ) - (Binary.nth k).toRat| ≤
        n.toInt.natAbs + (Binary.nth k).toRat := abs_le.mpr ⟨by linarith, by linarith⟩
    rcases signs with ⟨positive, same⟩ | ⟨negative, same⟩
    · have whole : (n.toInt : ℝ) = n.toInt.natAbs := by
        rw [Nat.cast_natAbs, abs_of_pos positive]
      rw [same, real_float_positive, whole]
      rcases real_y with h | h <;> rw [h]
      · exact closest
      · rw [sub_neg_eq_add]
        exact (closest.trans across).trans (le_abs_self _)
    · have whole : (n.toInt : ℝ) = -n.toInt.natAbs := by
        rw [Nat.cast_natAbs, abs_of_neg negative, Int.cast_neg, neg_neg]
      rw [same, real_float_negative, whole, neg_sub_neg, abs_sub_comm]
      rcases real_y with h | h <;> rw [h]
      · rw [← abs_neg (-_ - _), neg_sub, sub_neg_eq_add, add_comm]
        exact (closest.trans across).trans (le_abs_self _)
      · rw [neg_sub_neg, abs_sub_comm (Rat.cast _)]
        exact closest

/-- What is the number of a float is kept. -/
theorem real_toFloat_of_eq {n : Int64} {y : Float} (h : real y = n.toInt) :
    real (toFloat n) = n.toInt := by
  have closest := real_toFloat_closest n y
  rw [h, sub_self, abs_zero, abs_nonpos_iff, sub_eq_zero] at closest
  exact closest.symm

/-- Integers of at most 53 bits are kept. -/
theorem real_toFloat_exact {n : Int64} (small : n.toInt.natAbs ≤ 2 ^ 53) :
    real (toFloat n) = n.toInt := by
  rcases eq_or_ne n.toInt 0 with zero | some
  · exact real_toFloat_of_eq (real_zero.trans (by rw [zero, Int.cast_zero]))
  obtain ⟨c, hc, value⟩ : ∃ c : Binary, c.Canonical ∧ c.toRat = n.toInt.natAbs := by
    rcases small.eq_or_lt with full | less
    · refine ⟨⟨leadingBit, 1⟩, by constructor <;> decide, ?_⟩
      rw [full]
      norm_num [Binary.toRat, leadingBit]
    · obtain ⟨c, hc, _, value, _⟩ := isExactly_toFloat (Int.natAbs_pos.mpr some) less
      exact ⟨c, hc, value⟩
  have number : (c.toRat : ℝ) = n.toInt.natAbs := by
    rw [value, Rat.cast_natCast]
  rcases lt_or_gt_of_ne some with negative | positive
  · refine real_toFloat_of_eq (y := hc.float .negative) ?_
    rw [real_float_negative, number, Nat.cast_natAbs, abs_of_neg negative, Int.cast_neg, neg_neg]
  · refine real_toFloat_of_eq (y := hc.float .positive) ?_
    rw [real_float_positive, number, Nat.cast_natAbs, abs_of_pos positive]

/-- Integers do not change places. -/
theorem real_toFloat_mono {n k : Int64} (h : n.toInt ≤ k.toInt) :
    real (toFloat n) ≤ real (toFloat k) := by
  rcases h.eq_or_lt with same | less
  · rw [Int64.toInt_inj.mp same]
  · by_contra turned
    have turned : real (toFloat k) < real (toFloat n) := not_le.mp turned
    have apart : (n.toInt : ℝ) < k.toInt := mod_cast less
    -- The lesser integer would be above the middle of the two floats, and the greater one below.
    have above := sq_le_sq.mpr (real_toFloat_closest n (toFloat k))
    have below := sq_le_sq.mpr (real_toFloat_closest k (toFloat n))
    have := mul_pos (sub_pos.mpr turned) (sub_pos.mpr apart)
    nlinarith only [above, below, this]

end Integer

end Rowwise
