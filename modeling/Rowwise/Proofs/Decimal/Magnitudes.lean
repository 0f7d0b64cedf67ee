import Rowwise.Proofs.Decimal.Scientific

/-!
# The magnitudes of floats in their order

The bits of a float without its sign, read as a number `n`, count the magnitudes: `Binary.nth n` is
the magnitude with these bits, zero is the first one, and from one to the next it grows by one unit
of the last place (`Binary.toRat_nth_succ`).  So magnitudes are ordered as their bits are, and also
as pairs of an exponent and a mantissa (`Binary.compare_nth`).

Between two neighbours there is a nearest one to every number.  Rounding picks it: it is near in the
sense of `Binary.Nearest` (`exists_nearest`), and no magnitude is closer than one that is near
(`Binary.Nearest.closest`).
-/

namespace Rowwise.Decimal

/-- The magnitude that is the `n`-th one after zero. -/
def Binary.nth (n : ℕ) : Binary :=
  if n < leadingBit then ⟨n, -1074⟩ else ⟨n % leadingBit + leadingBit, n / leadingBit - 1075⟩

/-- The place of infinity behind all magnitudes. -/
def infinityPlace : ℕ := 2047 * leadingBit

theorem ofBits_eq_nth (bits : UInt64) :
    Binary.ofBits bits = Binary.nth (bits.toNat % 9223372036854775808) := by
  have bound := bits.toNat_lt
  rw [ofBits_eq, toNat_exponentPart, toNat_fractionPart, Nat.shiftRight_eq_div_pow, Binary.nth]
  unfold leadingBit
  split_ifs
  · rw [Binary.mk.injEq]
    omega
  · omega
  · omega
  · rw [Binary.mk.injEq]
    omega

namespace Binary

/-! ## Neighbours -/

/-- The next magnitude has the next mantissa or, behind the last mantissa, the first one with the
next exponent. -/
theorem nth_succ (n : ℕ) :
    nth (n + 1) = ⟨(nth n).mantissa + 1, (nth n).exponent⟩ ∧ (nth n).mantissa + 1 < 2 * leadingBit ∨
      (nth n).mantissa + 1 = 2 * leadingBit ∧ -1074 ≤ (nth n).exponent ∧
        nth (n + 1) = ⟨leadingBit, (nth n).exponent + 1⟩ := by
  unfold nth leadingBit
  split_ifs <;> simp only [mk.injEq, true_and] <;> omega

theorem toRat_nth_zero : (nth 0).toRat = 0 := by
  have zero : nth 0 = ⟨0, -1074⟩ := rfl
  rw [zero, toRat, Nat.cast_zero, zero_mul]

/-- From one magnitude to the next it is one unit of the last place. -/
theorem toRat_nth_succ (n : ℕ) : (nth (n + 1)).toRat = (nth n).toRat + 2 ^ (nth n).exponent := by
  rcases nth_succ n with ⟨next, _⟩ | ⟨last, _, next⟩
  · rw [next, toRat, toRat]
    push_cast
    ring
  · have last : ((nth n).mantissa : ℚ) = 2 * leadingBit - 1 := by
      rw [eq_sub_iff_add_eq]
      exact_mod_cast last
    rw [next, toRat, toRat, last, zpow_add_one₀ two_ne_zero]
    ring

theorem toRat_nth_strictMono : StrictMono fun n => (nth n).toRat := by
  refine strictMono_nat_of_lt_succ fun n => ?_
  rw [toRat_nth_succ]
  exact lt_add_of_pos_right _ (by positivity)

/-- A magnitude reaches half of the way down to the one before. -/
theorem toRat_nth_add_reach (n : ℕ) :
    (nth n).toRat + 2 * (nth (n + 1)).reach * 2 ^ (nth (n + 1)).exponent = (nth (n + 1)).toRat := by
  rw [toRat_nth_succ]
  rcases nth_succ n with ⟨next, more⟩ | ⟨_, least, next⟩
  · -- The mantissa is the leading bit only where the exponent is the least one.
    have half : (nth (n + 1)).reach = 1 / 2 := by
      rw [next, reach, if_neg]
      rintro ⟨first, above⟩
      dsimp only at first above
      unfold nth leadingBit at first above
      split_ifs at first above <;> simp only at first above <;> omega
    rw [half, next]
    ring
  · have quarter : (nth (n + 1)).reach = 1 / 4 := by
      rw [next, reach, if_pos ⟨rfl, by dsimp only; omega⟩]
    rw [quarter, next, zpow_add_one₀ two_ne_zero]
    ring

theorem mantissa_nth_pos {n : ℕ} (pos : 0 < n) : 0 < (nth n).mantissa := by
  unfold nth
  split_ifs with small
  · exact pos
  · exact Nat.lt_of_lt_of_le (by decide : 0 < leadingBit) (Nat.le_add_left ..)

/-! ## Canonical magnitudes -/

/-- The magnitudes between zero and infinity are the canonical ones. -/
theorem canonical_nth {n : ℕ} (pos : 0 < n) (finite : n < infinityPlace) : (nth n).Canonical := by
  unfold infinityPlace leadingBit at finite
  unfold nth leadingBit
  split_ifs
  · exact ⟨pos, by unfold leadingBit; dsimp only; omega, le_rfl, by dsimp only; omega, .inl rfl⟩
  · exact ⟨by dsimp only; omega, by unfold leadingBit; dsimp only; omega, by dsimp only; omega,
      by dsimp only; omega, .inr (Nat.le_add_left ..)⟩

theorem Canonical.exists_nth {b : Binary} (hb : b.Canonical) :
    ∃ n, 0 < n ∧ n < infinityPlace ∧ nth n = b := by
  obtain ⟨positive, fits, least, most, leading⟩ := hb
  obtain ⟨m, e⟩ := b
  refine ⟨(e + 1074).toNat * leadingBit + m, ?_⟩
  unfold infinityPlace nth
  unfold leadingBit at *
  dsimp only at *
  refine ⟨by omega, by omega, ?_⟩
  split_ifs <;> rw [mk.injEq] <;> omega

/-- Magnitudes are ordered by their exponents, and by their mantissas if these are equal. -/
theorem compare_nth (k n : ℕ) :
    (compare (nth k).exponent (nth n).exponent).then (compare (nth k).mantissa (nth n).mantissa) =
      compare k n := by
  have less {k n : ℕ} (h : k < n) : (nth k).exponent < (nth n).exponent ∨
      (nth k).exponent = (nth n).exponent ∧ (nth k).mantissa < (nth n).mantissa := by
    unfold nth leadingBit
    split_ifs <;> dsimp only <;> omega
  rcases Nat.lt_trichotomy k n with h | rfl | h
  · rw [compare_lt_iff_lt.mpr h]
    rcases less h with lower | ⟨same, lower⟩
    · rw [compare_lt_iff_lt.mpr lower]
      rfl
    · rw [compare_eq_iff_eq.mpr same, compare_lt_iff_lt.mpr lower]
      rfl
  · rw [compare_eq_iff_eq.mpr rfl, compare_eq_iff_eq.mpr rfl, compare_eq_iff_eq.mpr rfl]
    rfl
  · rw [compare_gt_iff_gt.mpr h]
    rcases less h with lower | ⟨same, lower⟩
    · rw [compare_gt_iff_gt.mpr lower]
      rfl
    · rw [compare_eq_iff_eq.mpr same.symm, compare_gt_iff_gt.mpr lower]
      rfl

/-! ## The nearest magnitude -/

/-- A number that a magnitude is near to, in units of one instead of the last place. -/
theorem Nearest.between {b : Binary} {v : ℚ} (near : b.Nearest v) :
    b.toRat - b.reach * 2 ^ b.exponent ≤ v ∧ v ≤ b.toRat + 1 / 2 * 2 ^ b.exponent := by
  have unit : (0 : ℚ) < 2 ^ b.exponent := by positivity
  obtain ⟨below, above⟩ := near.bounds
  rw [← sub_le_iff_le_add, le_div_iff₀ unit, sub_mul] at below
  rw [div_le_iff₀ unit, add_mul] at above
  exact ⟨below, above⟩

/-- A number that is at most so far away is near to the magnitude, if it is not at an end or if the
mantissa is even. -/
theorem nearest_of_between {b : Binary} {v : ℚ}
    (below : b.toRat - b.reach * 2 ^ b.exponent ≤ v) (above : v ≤ b.toRat + 1 / 2 * 2 ^ b.exponent)
    (inside : b.mantissa % 2 = 1 → b.toRat - b.reach * 2 ^ b.exponent < v ∧
      v < b.toRat + 1 / 2 * 2 ^ b.exponent) : b.Nearest v := by
  have unit : (0 : ℚ) < 2 ^ b.exponent := by positivity
  rw [toRat] at below above inside
  unfold Nearest
  rw [le_div_iff₀ unit, div_le_iff₀ unit, lt_div_iff₀ unit, div_lt_iff₀ unit, sub_mul, add_mul]
  split_ifs with even
  · exact ⟨below, above⟩
  · exact inside (by omega)

/-- No magnitude is closer to a number than one that is near to it. -/
theorem Nearest.closest {n : ℕ} {v : ℚ} (near : (nth n).Nearest v) (k : ℕ) :
    |v - (nth n).toRat| ≤ |v - (nth k).toRat| := by
  obtain ⟨below, above⟩ := near.between
  have half : (nth n).reach * 2 ^ (nth n).exponent ≤ 1 / 2 * 2 ^ (nth n).exponent :=
    mul_le_mul_of_nonneg_right (nth n).reach_le (by positivity)
  rcases Nat.lt_trichotomy k n with less | rfl | more
  · -- The one before is twice as far as the magnitude reaches.
    obtain ⟨p, rfl⟩ : ∃ p, n = p + 1 := ⟨n - 1, by omega⟩
    have between := toRat_nth_strictMono.monotone (Nat.le_of_lt_succ less)
    have gap := toRat_nth_add_reach p
    have lower := toRat_nth_strictMono less
    refine le_trans ?_ (le_abs_self _)
    exact abs_le.mpr ⟨by linarith, by linarith⟩
  · exact le_rfl
  · have between := toRat_nth_strictMono.monotone (Nat.succ_le_of_lt more)
    have gap := toRat_nth_succ n
    refine le_trans ?_ (neg_le_abs _)
    exact abs_le.mpr ⟨by linarith, by linarith⟩

end Binary

open Binary in
/-- A number from the least magnitude on and below the greatest one has a canonical magnitude near
to it. -/
theorem exists_nearest {v : ℚ} (least : (nth 1).toRat ≤ v)
    (most : v < (nth (infinityPlace - 1)).toRat) : ∃ b : Binary, b.Canonical ∧ b.Nearest v := by
  have beyond : ∃ j, v < (nth j).toRat := ⟨_, most⟩
  classical
  obtain ⟨k, above⟩ : ∃ k, Nat.find beyond = k + 1 := by
    refine Nat.exists_eq_succ_of_ne_zero fun zero => ?_
    have first := Nat.find_spec beyond
    rw [zero, toRat_nth_zero] at first
    have one := toRat_nth_strictMono Nat.zero_lt_one
    dsimp only at one
    rw [toRat_nth_zero] at one
    linarith
  have high : v < (nth (k + 1)).toRat := above ▸ Nat.find_spec beyond
  have low : (nth k).toRat ≤ v := not_lt.mp (Nat.find_min beyond (by omega))
  have last : k + 1 < infinityPlace := by
    have := Nat.find_min' beyond most
    have : 0 < infinityPlace := by decide
    omega
  have pos : 0 < k := by
    have := toRat_nth_strictMono.lt_iff_lt.mp (least.trans_lt high)
    omega
  have unit : (0 : ℚ) < 2 ^ (nth k).exponent := by positivity
  have room : (0 : ℚ) < (nth k).reach * 2 ^ (nth k).exponent := mul_pos (nth k).reach_pos unit
  have room' : (0 : ℚ) < 1 / 2 * 2 ^ (nth (k + 1)).exponent := by positivity
  have up := toRat_nth_succ k
  have down := toRat_nth_add_reach k
  -- The number lies before the middle between the two neighbours, in it, or behind it.
  rcases lt_trichotomy v ((nth k).toRat + 1 / 2 * 2 ^ (nth k).exponent) with before | middle | behind
  · refine ⟨nth k, canonical_nth pos (by omega), ?_⟩
    exact nearest_of_between (by linarith) before.le fun _ => ⟨by linarith, before⟩
  · by_cases even : (nth k).mantissa % 2 = 0
    · refine ⟨nth k, canonical_nth pos (by omega), ?_⟩
      exact nearest_of_between (by linarith) middle.le fun odd => by omega
    · have even' : (nth (k + 1)).mantissa % 2 = 0 := by
        rcases nth_succ k with ⟨next, _⟩ | ⟨_, _, next⟩
        · rw [next]
          dsimp only
          omega
        · rw [next]
          exact (by decide : leadingBit % 2 = 0)
      refine ⟨nth (k + 1), canonical_nth (by omega) last, ?_⟩
      exact nearest_of_between (by linarith) (by linarith) fun odd => by omega
  · refine ⟨nth (k + 1), canonical_nth (by omega) last, ?_⟩
    exact nearest_of_between (by linarith) (by linarith) fun _ => ⟨by linarith, by linarith⟩

end Rowwise.Decimal
