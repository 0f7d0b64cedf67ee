import Rowwise.Proofs.Decimal
import Rowwise.Proofs.Decimal.Scientific

/-!
# The shortest decimal is near to its float

The decimals with up to `n` digits at the leading power of ten of a float form a grid.  From the
grids with 1 to 17 digits the first one is taken that has a point in the rounding interval, and of
that grid the closer one of the two neighbours of the float.

Only points in the interval are taken, and these are the numbers that the float is the nearest one
of (`contains_iff`, `nearest_of_onGrid?`).  With 17 digits there is always one: the step of that
grid is smaller than the interval is long (`step_lt`), while the float lies between two neighbours
(`grid_neighbours`), so that not both of them can be outside.  Hence `shortestOfBits_near`, which
says nothing about the number of digits: for reading back they need not be few.
-/

namespace Rowwise.Decimal

variable {b : Binary}

/-- A power as a quotient of two natural ones, of which one is `1`. -/
theorem zpow_eq_div {a : ℚ} (nonzero : a ≠ 0) (n : ℤ) :
    a ^ n = a ^ n.toNat / a ^ (-n).toNat := by
  rw [← zpow_natCast, ← zpow_natCast, ← zpow_sub₀ nonzero]
  congr 1
  omega

/-- A point of the grid lies in the interval if the float is the nearest one of it. -/
theorem contains_iff (hb : b.Canonical) (d : ℕ) (unit : ℤ) :
    b.interval.contains d (Nat.pow 10 unit.toNat) (Nat.pow 10 (-unit).toNat) = true ↔
      b.Nearest (d * 10 ^ unit) := by
  have positive := hb.positive
  obtain ⟨below, hbelow⟩ : ∃ n : ℕ, n = if b.mantissa = leadingBit ∧ b.exponent > -1074 then 1
    else 2 := ⟨_, rfl⟩
  have reach : b.reach = below / 4 := by
    rw [hbelow, Binary.reach]
    split_ifs <;> norm_num
  have less : below ≤ 4 * b.mantissa := by
    rw [hbelow]
    split_ifs <;> omega
  obtain ⟨x, hx⟩ : ∃ n : ℕ, n = d * 10 ^ unit.toNat * 2 ^ (-(b.exponent - 2)).toNat := ⟨_, rfl⟩
  obtain ⟨y, hy⟩ : ∃ n : ℕ, n = 2 ^ (b.exponent - 2).toNat * 10 ^ (-unit).toNat := ⟨_, rfl⟩
  have pos : (0 : ℚ) < y := by
    rw [hy]
    positivity
  have point : (d * 10 ^ unit : ℚ) / 2 ^ b.exponent = x / (4 * y) := by
    have quarter : (2 : ℚ) ^ b.exponent = 4 * 2 ^ (b.exponent - 2) := by
      rw [zpow_sub₀ two_ne_zero]
      norm_num
      ring
    rw [quarter, zpow_eq_div two_ne_zero (b.exponent - 2), zpow_eq_div (by norm_num) unit, hx, hy]
    push_cast
    field_simp
  -- Multiplied out, the bounds compare natural numbers, as the interval does.
  have low : b.mantissa - b.reach ≤ (d * 10 ^ unit : ℚ) / 2 ^ b.exponent ↔
      (4 * b.mantissa - below) * y ≤ x := by
    rw [point, reach, le_div_iff₀ (by positivity), ← Nat.cast_le (α := ℚ)]
    push_cast [Nat.cast_sub less]
    constructor <;> intro h <;> linarith
  have low' : b.mantissa - b.reach < (d * 10 ^ unit : ℚ) / 2 ^ b.exponent ↔
      (4 * b.mantissa - below) * y < x := by
    rw [point, reach, lt_div_iff₀ (by positivity), ← Nat.cast_lt (α := ℚ)]
    push_cast [Nat.cast_sub less]
    constructor <;> intro h <;> linarith
  have high : (d * 10 ^ unit : ℚ) / 2 ^ b.exponent ≤ b.mantissa + 1 / 2 ↔
      x ≤ (4 * b.mantissa + 2) * y := by
    rw [point, div_le_iff₀ (by positivity), ← Nat.cast_le (α := ℚ)]
    push_cast
    constructor <;> intro h <;> linarith
  have high' : (d * 10 ^ unit : ℚ) / 2 ^ b.exponent < b.mantissa + 1 / 2 ↔
      x < (4 * b.mantissa + 2) * y := by
    rw [point, div_lt_iff₀ (by positivity), ← Nat.cast_lt (α := ℚ)]
    push_cast
    constructor <;> intro h <;> linarith
  rw [hy, ← mul_assoc] at low low' high high'
  unfold RoundingInterval.contains Binary.interval Binary.Nearest
  simp only [decide_eq_true_eq, Nat.pow_eq, ← hbelow, ← hx]
  by_cases even : b.mantissa % 2 = 0
  · simp only [if_pos even, Bool.and_eq_true, decide_eq_true_eq, low, high]
  · simp only [if_neg even, Bool.and_eq_true, decide_eq_true_eq, low', high']

/-- Only points in the interval are taken. -/
theorem nearest_of_onGrid? (hb : b.Canonical) {n : ℕ} {s : Scaled}
    (h : b.interval.onGrid? n = some s) : b.Nearest s.toRat := by
  have near (d : ℕ) := (contains_iff hb d (b.interval.leading + 1 - n)).mp
  unfold RoundingInterval.onGrid? at h
  simp only at h
  split at h
  · next below above =>
      split_ifs at h
      · exact Option.some.inj h ▸ near _ below
      · exact Option.some.inj h ▸ near _ above
  · next below _ => exact Option.some.inj h ▸ near _ below
  · next _ above => exact Option.some.inj h ▸ near _ above
  · cases h

theorem Binary.mid_div_den (b : Binary) : (b.interval.mid : ℚ) / b.interval.den = b.toRat := by
  have quarter : (2 : ℚ) ^ b.exponent = 4 * 2 ^ (b.exponent - 2) := by
    rw [zpow_sub₀ two_ne_zero]
    norm_num
    ring
  unfold Binary.interval
  simp only [Nat.pow_eq]
  rw [Binary.toRat, quarter, zpow_eq_div two_ne_zero (b.exponent - 2)]
  push_cast
  ring

/-- The digits of a number that is not zero are not more than it takes. -/
theorem ten_pow_length_digits_le {n : ℕ} (pos : 0 < n) : 10 ^ ((digits n).length - 1) ≤ n := by
  by_contra less
  have length : 0 < (digits n).length := List.length_pos_iff.mpr (digits_ne_nil n)
  rcases Nat.eq_zero_or_pos ((digits n).length - 1) with zero | more
  · rw [zero] at less
    omega
  · have := (Nat.length_toDigits_le_iff (by decide) more).mpr (not_le.mp less)
    unfold digits at *
    omega

theorem lt_ten_pow_length_digits (n : ℕ) : n < 10 ^ (digits n).length :=
  (Nat.length_toDigits_le_iff (by decide) (List.length_pos_iff.mpr (digits_ne_nil n))).mp le_rfl

theorem Scaled.ten_zpow_leading_le {s : Scaled} (pos : 0 < s.significand) :
    (10 : ℚ) ^ s.leading ≤ s.toRat := by
  have length : 0 < s.digits.length := List.length_pos_iff.mpr (digits_ne_nil _)
  have bound : (10 : ℚ) ^ (s.digits.length - 1) ≤ s.significand :=
    mod_cast ten_pow_length_digits_le pos
  have leading : s.leading = (s.digits.length - 1 : ℕ) + s.exponent := by
    rw [Scaled.leading]
    omega
  rw [leading, zpow_add₀ (by norm_num), zpow_natCast]
  exact mul_le_mul_of_nonneg_right bound (by positivity)

theorem Scaled.lt_ten_zpow_leading (s : Scaled) : s.toRat < (10 : ℚ) ^ (s.leading + 1) := by
  have bound : (s.significand : ℚ) < 10 ^ s.digits.length :=
    mod_cast lt_ten_pow_length_digits s.significand
  have leading : s.leading + 1 = s.digits.length + s.exponent := by
    rw [Scaled.leading]
    ring
  rw [leading, zpow_add₀ (by norm_num), zpow_natCast]
  exact mul_lt_mul_of_pos_right bound (by positivity)

/-- The leading power of ten of a float is not above it. -/
theorem ten_zpow_leading_le (hb : b.Canonical) : (10 : ℚ) ^ b.interval.leading ≤ b.toRat := by
  have den : 0 < b.interval.den := Nat.pow_pos (by decide)
  -- The exponent is kept from sight, its power has 351 digits.
  obtain ⟨k, hk⟩ : ∃ k, k = 350 := ⟨_, rfl⟩
  obtain ⟨p, hp⟩ : ∃ p, p = Nat.pow 10 k := ⟨_, rfl⟩
  have power : (p : ℚ) = 10 ^ k := by
    rw [hp]
    exact Nat.cast_pow 10 k
  obtain ⟨n, hn⟩ : ∃ n, n = b.interval.mid * p / b.interval.den := ⟨_, rfl⟩
  have leading : b.interval.leading = (digits n).length - 351 := by
    rw [RoundingInterval.leading, ← hk, ← hp, ← hn]
  have pos : 0 < n := by
    have mid : 1 ≤ b.interval.mid :=
      Nat.mul_pos (Nat.mul_pos (by decide) hb.positive) (Nat.pow_pos (by decide))
    have least := hb.least
    rw [hn]
    refine Nat.div_pos ?_ den
    calc b.interval.den ≤ 2 ^ 1076 := Nat.pow_le_pow_right (by decide) (by omega)
      _ ≤ p := by
        rw [hp, hk]
        decide +kernel
      _ ≤ b.interval.mid * p := Nat.le_mul_of_pos_left _ mid
  have length : 0 < (digits n).length := List.length_pos_iff.mpr (digits_ne_nil n)
  have split : (digits n).length - 351 = (((digits n).length - 1 : ℕ) : ℤ) - k := by omega
  have bound : (10 ^ ((digits n).length - 1) * b.interval.den : ℚ) ≤ b.interval.mid * p := by
    have : 10 ^ ((digits n).length - 1) * b.interval.den ≤ b.interval.mid * p := by
      rw [← Nat.le_div_iff_mul_le den, ← hn]
      exact ten_pow_length_digits_le pos
    exact mod_cast this
  rw [leading, split, zpow_sub₀ (by norm_num), zpow_natCast, zpow_natCast, ← b.mid_div_den,
    div_le_div_iff₀ (by positivity) (by positivity), ← power]
  exact bound

theorem Binary.nearest_of_lt {v : ℚ} (below : b.mantissa - b.reach < v / 2 ^ b.exponent)
    (above : v / 2 ^ b.exponent < b.mantissa + 1 / 2) : b.Nearest v := by
  unfold Binary.Nearest
  split_ifs
  · exact ⟨below.le, above.le⟩
  · exact ⟨below, above⟩

/-- With 17 digits the grid is finer than the interval is long. -/
theorem step_lt (hb : b.Canonical) :
    (10 : ℚ) ^ (b.interval.leading - 16) / 2 ^ b.exponent < 1 / 2 + b.reach := by
  have unit : (0 : ℚ) < 2 ^ b.exponent := by positivity
  have power : (10 : ℚ) ^ (b.interval.leading - 16) / 2 ^ b.exponent ≤ b.mantissa / 10 ^ 16 := by
    rw [zpow_sub₀ (by norm_num), div_right_comm]
    refine div_le_div_of_nonneg_right ?_ (by positivity)
    exact (div_le_iff₀ unit).mpr (ten_zpow_leading_le hb)
  refine power.trans_lt ?_
  unfold Binary.reach
  split_ifs with first
  · rw [first.1]
    norm_num [leadingBit]
  · have fits : (b.mantissa : ℚ) < 9007199254740992 := mod_cast hb.fits
    rw [div_lt_iff₀ (by norm_num)]
    linarith

/-- A float lies between two neighbours of every grid. -/
theorem grid_neighbours (b : Binary) (unit : ℤ) {d : ℕ}
    (hd : d = b.interval.mid * 10 ^ (-unit).toNat / (10 ^ unit.toNat * b.interval.den)) :
    d * 10 ^ unit ≤ b.toRat ∧ b.toRat < (d + 1 : ℕ) * 10 ^ unit := by
  have den : 0 < b.interval.den := Nat.pow_pos (by decide)
  have divisor : 0 < 10 ^ unit.toNat * b.interval.den := Nat.mul_pos (by positivity) den
  have den' : (0 : ℚ) < b.interval.den := mod_cast den
  rw [← b.mid_div_den, zpow_eq_div (by norm_num) unit, ← mul_div_assoc, ← mul_div_assoc,
    div_le_div_iff₀ (by positivity) den', div_lt_div_iff₀ den' (by positivity)]
  constructor
  · have : d * (10 ^ unit.toNat * b.interval.den) ≤ b.interval.mid * 10 ^ (-unit).toNat := by
      rw [hd]
      exact Nat.div_mul_le_self ..
    rw [mul_assoc]
    exact mod_cast this
  · have : b.interval.mid * 10 ^ (-unit).toNat < (d + 1) * (10 ^ unit.toNat * b.interval.den) := by
      rw [hd, mul_comm (_ / _ + 1)]
      exact Nat.lt_mul_div_succ _ divisor
    rw [mul_assoc]
    exact mod_cast this

/-- With 17 digits there is a point of the grid in the interval. -/
theorem onGrid?_ne_none (hb : b.Canonical) : b.interval.onGrid? 17 ≠ none := by
  have unit : (0 : ℚ) < 2 ^ b.exponent := by positivity
  obtain ⟨u, hu⟩ : ∃ u, u = b.interval.leading + 1 - (17 : ℕ) := ⟨_, rfl⟩
  obtain ⟨d, hd⟩ : ∃ d, d = b.interval.mid * 10 ^ (-u).toNat / (10 ^ u.toNat * b.interval.den) :=
    ⟨_, rfl⟩
  obtain ⟨below, above⟩ := grid_neighbours b u hd
  have step : (10 : ℚ) ^ u / 2 ^ b.exponent < 1 / 2 + b.reach := by
    rw [hu, show b.interval.leading + 1 - (17 : ℕ) = b.interval.leading - 16 by omega]
    exact step_lt hb
  intro h
  unfold RoundingInterval.onGrid? at h
  simp only [Nat.pow_eq, ← hu, ← hd] at h
  split at h
  · split_ifs at h
  · cases h
  · cases h
  · next no no' =>
    have far := mt (contains_iff hb d u).mpr (Bool.eq_false_iff.mp no)
    have far' := mt (contains_iff hb (d + 1) u).mpr (Bool.eq_false_iff.mp no')
    have reach := b.reach_pos
    -- Both neighbours are out of reach, so their distance is more than a step.
    have low : (d * 10 ^ u : ℚ) / 2 ^ b.exponent ≤ b.mantissa - b.reach := by
      by_contra inside
      refine far (Binary.nearest_of_lt (not_le.mp inside) ?_)
      have := (div_le_iff₀ unit).mpr below
      linarith
    have high : b.mantissa + 1 / 2 ≤ ((d + 1 : ℕ) * 10 ^ u : ℚ) / 2 ^ b.exponent := by
      by_contra inside
      refine far' (Binary.nearest_of_lt ?_ (not_le.mp inside))
      have := (lt_div_iff₀ unit).mpr above
      linarith
    push_cast at high
    rw [add_mul, one_mul, add_div] at high
    linarith

theorem normalize_toRat (s : Scaled) : s.normalize.toRat = s.toRat := by
  fun_induction Scaled.normalize s with
  | case1 s h ih =>
      have tenfold : s.significand = 10 * (s.significand / 10) := by omega
      rw [ih, Scaled.toRat, Scaled.toRat, zpow_add_one₀ (by norm_num)]
      conv_rhs => rw [tenfold]
      push_cast
      ring
  | case2 s h => rfl

theorem Scaled.exponent_le_normalize (s : Scaled) : s.exponent ≤ s.normalize.exponent := by
  fun_induction Scaled.normalize s with
  | case1 s h ih => exact (Int.le_add_one le_rfl).trans ih
  | case2 s h => rfl

theorem exponent_of_onGrid? {i : RoundingInterval} {n : ℕ} {s : Scaled}
    (h : i.onGrid? n = some s) : s.exponent = i.leading + 1 - n := by
  unfold RoundingInterval.onGrid? at h
  simp only at h
  split at h
  · split_ifs at h <;> exact Option.some.inj h ▸ rfl
  · exact Option.some.inj h ▸ rfl
  · exact Option.some.inj h ▸ rfl
  · cases h

/-- The shortest decimal is a point of one of the grids, without trailing zeros. -/
theorem exists_onGrid? {bits : UInt64} (hb : (Binary.ofBits bits).Canonical) :
    ∃ n s, n ≤ 17 ∧ (Binary.ofBits bits).interval.onGrid? n = some s ∧
      shortestOfBits bits = s.normalize := by
  have positive := hb.positive
  obtain ⟨s, hs⟩ : ∃ s, (List.range 17).findSome?
      (fun n => (Binary.ofBits bits).interval.onGrid? (n + 1)) = some s := by
    rw [← Option.isSome_iff_exists, List.findSome?_isSome_iff]
    exact ⟨16, by decide, Option.isSome_iff_ne_none.mpr (onGrid?_ne_none hb)⟩
  obtain ⟨n, mem, found⟩ := List.exists_of_findSome?_eq_some hs
  refine ⟨n + 1, s, List.mem_range.mp mem, found, ?_⟩
  unfold shortestOfBits
  simp only
  rw [if_neg positive.ne', hs, Option.getD_some]

/-- The shortest decimal of a float is near to it. -/
theorem shortestOfBits_near {bits : UInt64} (hb : (Binary.ofBits bits).Canonical) :
    (Binary.ofBits bits).Nearest (shortestOfBits bits).toRat := by
  obtain ⟨n, s, -, found, same⟩ := exists_onGrid? hb
  rw [same, normalize_toRat]
  exact nearest_of_onGrid? hb found

/-- It has few digits, so that its exponent is not far below the leading one. -/
theorem exponent_shortestOfBits {bits : UInt64} (hb : (Binary.ofBits bits).Canonical) :
    -366 ≤ (shortestOfBits bits).exponent := by
  obtain ⟨n, s, few, found, same⟩ := exists_onGrid? hb
  have unit := exponent_of_onGrid? found
  have normal := s.exponent_le_normalize
  have leading (i : RoundingInterval) : -350 ≤ i.leading := by
    have length := List.length_pos_iff.mpr (digits_ne_nil (i.mid * Nat.pow 10 350 / i.den))
    unfold RoundingInterval.leading
    omega
  have least := leading (Binary.ofBits bits).interval
  rw [same]
  omega

end Rowwise.Decimal
