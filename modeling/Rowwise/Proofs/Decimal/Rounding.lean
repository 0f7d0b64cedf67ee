import Rowwise.Proofs.Decimal.Packing

/-!
# Rounding to the nearest float

`Binary.Nearest` says which numbers a canonical magnitude is the nearest float of: those at most
half a unit of the last place away, with the two ends if the mantissa is even, and only a quarter
of a unit below a power of two, where the floats become denser.

Float arithmetic shifts an exact mantissa to the right and keeps a round bit and a sticky bit of
what it shifts out.  `Tracks` says what the three together know of the exact number.  The step
lemma `Tracks.shiftRightOne` carries it through one shift, so that it holds after all of them, and
`Tracks.rounded` reads the rounded mantissa off it.  `roundWithAccuracy_eq` is the result: a number
near to a magnitude is rounded to that magnitude.
-/

namespace Rowwise.Decimal

open Float.Model Float.Model.UnpackedFloat

/-! ## Round bit and sticky bit -/

/-- Twice the mantissa, with the round bit as its last bit. -/
def halves (em : ExtendedMantissa) : ℕ := 2 * em.mantissa + em.roundBit.toNat

/-- The exact number `w` was cut to the mantissa and the round bit, and the sticky bit tells
whether anything is left of it. -/
def Tracks (em : ExtendedMantissa) (w : ℚ) : Prop :=
  if em.stickyBit then (halves em : ℚ) < 2 * w ∧ 2 * w < halves em + 1 else 2 * w = halves em

variable {em : ExtendedMantissa} {w : ℚ}

theorem tracks_exact (m : ℕ) : Tracks (.ofMantissaAndAccuracy m .exact) m := by
  simp [Tracks, halves, ExtendedMantissa.ofMantissaAndAccuracy]

theorem Tracks.bounds (h : Tracks em w) : em.mantissa ≤ w ∧ w < em.mantissa + 1 := by
  obtain ⟨m, r, s⟩ := em
  simp only [Tracks, halves] at h
  cases r <;> cases s <;>
    simp only [Bool.false_eq_true, if_true, if_false, Bool.toNat_true, Bool.toNat_false] at h <;>
    push_cast at h <;> constructor <;> linarith

theorem Tracks.shiftRightOne (h : Tracks em w) : Tracks em.shiftRightOne (w / 2) := by
  obtain ⟨m, r, s⟩ := em
  -- The old mantissa is the new one with the new round bit.
  have parts : halves (ExtendedMantissa.shiftRightOne ⟨m, r, s⟩) = m := by
    rcases Nat.mod_two_eq_zero_or_one m with even | odd
    · simp only [halves, ExtendedMantissa.shiftRightOne, even, bne_self_eq_false, Bool.toNat_false]
      omega
    · have one : (1 != 0) = true := rfl
      simp only [halves, ExtendedMantissa.shiftRightOne, odd, one, Bool.toNat_true]
      omega
  unfold Tracks at h ⊢
  rw [parts]
  cases r <;> cases s <;> simp [halves, ExtendedMantissa.shiftRightOne] at h ⊢
  · linarith
  · constructor <;> linarith
  · constructor <;> linarith
  · constructor <;> linarith

theorem Tracks.shiftRight (h : Tracks em w) (n : ℕ) : Tracks (em >>> n) (w / 2 ^ n) := by
  induction n with
  | zero =>
      rw [pow_zero, div_one]
      exact h
  | succ n ih =>
      have step : em >>> (n + 1) = (em >>> n).shiftRightOne := rfl
      rw [step, pow_succ, ← div_div]
      exact ih.shiftRightOne

/-- The rounded mantissa is the nearest whole number, of two equally near ones the even one. -/
theorem Tracks.rounded (h : Tracks em w) {n : ℕ} (below : n ≤ w + 1 / 2) (above : w ≤ n + 1 / 2)
    (tie : n % 2 = 1 → (n : ℚ) < w + 1 / 2 ∧ w < n + 1 / 2) : em.roundedMantissa = n := by
  obtain ⟨m, r, s⟩ := em
  simp only [Tracks, halves] at h
  -- The two bits below the mantissa say on which side of the half the number lies.
  cases r <;> cases s <;>
    simp only [Bool.false_eq_true, if_true, if_false, Bool.toNat_true, Bool.toNat_false] at h <;>
    push_cast at h <;>
    simp only [ExtendedMantissa.roundedMantissa, ExtendedMantissa.accuracy,
      Accuracy.roundToNearestEven]
  · have h₁ : (m : ℚ) < n + 1 := by linarith
    have h₂ : (n : ℚ) < m + 1 := by linarith
    norm_cast at h₁ h₂
    omega
  · have h₁ : (m : ℚ) < n + 1 := by linarith
    have h₂ : (n : ℚ) < m + 1 := by linarith
    norm_cast at h₁ h₂
    omega
  · -- The number is half-way between two mantissas.
    have h₁ : (m : ℚ) ≤ n := by linarith
    have h₂ : (n : ℚ) ≤ m + 1 := by linarith
    have even : n % 2 = 0 := by
      by_contra odd
      obtain ⟨h₃, h₄⟩ := tie (by omega)
      have h₅ : (m : ℚ) < n := by linarith
      have h₆ : (n : ℚ) < m + 1 := by linarith
      norm_cast at h₅ h₆
      omega
    norm_cast at h₁ h₂
    omega
  · have h₁ : (m : ℚ) < n := by linarith
    have h₂ : (n : ℚ) < m + 2 := by linarith
    norm_cast at h₁ h₂
    omega

/-! ## The numbers nearest to a float -/

/-- The number that is denoted. -/
def Binary.toRat (b : Binary) : ℚ := b.mantissa * 2 ^ b.exponent

/-- Half a unit of the last place below the mantissa, or a quarter of one below a power of two. -/
def Binary.reach (b : Binary) : ℚ :=
  if b.mantissa = leadingBit ∧ b.exponent > -1074 then 1 / 4 else 1 / 2

/-- The numbers that a magnitude is the nearest float of. -/
def Binary.Nearest (b : Binary) (v : ℚ) : Prop :=
  if b.mantissa % 2 = 0 then
    b.mantissa - b.reach ≤ v / 2 ^ b.exponent ∧ v / 2 ^ b.exponent ≤ b.mantissa + 1 / 2
  else b.mantissa - b.reach < v / 2 ^ b.exponent ∧ v / 2 ^ b.exponent < b.mantissa + 1 / 2

variable {b : Binary} {v : ℚ}

theorem Binary.reach_pos (b : Binary) : 0 < b.reach := by
  unfold Binary.reach
  split_ifs <;> norm_num

theorem Binary.reach_le (b : Binary) : b.reach ≤ 1 / 2 := by
  unfold Binary.reach
  split_ifs <;> norm_num

/-- A float is the nearest one of its own number. -/
theorem Binary.nearest_toRat (b : Binary) : b.Nearest b.toRat := by
  have unit : (2 : ℚ) ^ b.exponent ≠ 0 := by positivity
  have reach := b.reach_pos
  have same : b.toRat / 2 ^ b.exponent = b.mantissa := mul_div_cancel_right₀ _ unit
  unfold Binary.Nearest
  rw [same]
  split_ifs <;> constructor <;> linarith

theorem Binary.Nearest.bounds (h : b.Nearest v) :
    b.mantissa ≤ v / 2 ^ b.exponent + b.reach ∧ v / 2 ^ b.exponent ≤ b.mantissa + 1 / 2 := by
  unfold Binary.Nearest at h
  split_ifs at h
  · exact ⟨by linarith [h.1], h.2⟩
  · exact ⟨by linarith [h.1], h.2.le⟩

/-- The ends of the interval only belong to even mantissas. -/
theorem Binary.Nearest.inside (h : b.Nearest v) (odd : b.mantissa % 2 = 1) :
    b.mantissa < v / 2 ^ b.exponent + 1 / 2 ∧ v / 2 ^ b.exponent < b.mantissa + 1 / 2 := by
  have reach := b.reach_le
  rw [Binary.Nearest, if_neg (by omega)] at h
  exact ⟨by linarith [h.1], h.2⟩

theorem Binary.Nearest.positive (h : b.Nearest v) (hb : b.Canonical) : 0 < v := by
  have unit : (0 : ℚ) < 2 ^ b.exponent := by positivity
  have least : (1 : ℚ) ≤ b.mantissa := mod_cast hb.positive
  have inside : 0 < v / 2 ^ b.exponent := by linarith [h.bounds.1, b.reach_le]
  exact (div_pos_iff_of_pos_right unit).mp inside

theorem Binary.Nearest.lt (h : b.Nearest v) (hb : b.Canonical) : v < 2 ^ (b.exponent + 53) := by
  have unit : (0 : ℚ) < 2 ^ b.exponent := by positivity
  have fits : b.mantissa < 2 ^ 53 := hb.fits
  have top : v / 2 ^ b.exponent < 2 ^ 53 := by
    rcases Nat.mod_two_eq_zero_or_one b.mantissa with even | odd
    · have room : (b.mantissa : ℚ) + 1 < 2 ^ 53 := mod_cast (by omega : b.mantissa + 1 < 2 ^ 53)
      linarith [h.bounds.2]
    · have room : (b.mantissa : ℚ) + 1 ≤ 2 ^ 53 := mod_cast fits
      linarith [(h.inside odd).2]
  rw [zpow_add₀ two_ne_zero, mul_comm]
  exact (div_lt_iff₀ unit).mp top

/-! ## The exponent of the result -/

theorem targetExponent_eq (t : ℤ) : Format.binary64.targetExponent t = max (t - 53) (-1074) := rfl

theorem two_zpow_totalExponent (m : ℕ) (e : ℤ) :
    (2 : ℚ) ^ totalExponent m e = 2 ^ (m.log2 + 1) * 2 ^ e := by
  rw [totalExponent, zpow_add₀ two_ne_zero]
  norm_cast

/-- A number is less than the power of two of the total exponent of what it is cut to. -/
theorem lt_two_zpow_totalExponent {m : ℕ} {e : ℤ} (below : v / 2 ^ e < m + 1) :
    v < 2 ^ totalExponent m e := by
  have unit : (0 : ℚ) < 2 ^ e := by positivity
  have top : (m : ℚ) + 1 ≤ 2 ^ (m.log2 + 1) := mod_cast Nat.lt_log2_self
  rw [two_zpow_totalExponent, ← div_lt_iff₀ unit]
  exact lt_of_lt_of_le below top

theorem two_zpow_totalExponent_le {m : ℕ} {e : ℤ} (pos : 0 < m) (above : (m : ℚ) ≤ v / 2 ^ e) :
    2 ^ (totalExponent m e - 1) ≤ v := by
  have unit : (0 : ℚ) < 2 ^ e := by positivity
  have bottom : (2 : ℚ) ^ m.log2 ≤ m := mod_cast Nat.log2_self_le (by omega)
  have power : totalExponent m e - 1 = m.log2 + e := by
    rw [totalExponent]
    ring
  rw [power, zpow_add₀ two_ne_zero, zpow_natCast, ← le_div_iff₀ unit]
  exact bottom.trans above

/-- A canonical magnitude keeps its exponent. -/
theorem Binary.Canonical.targetExponent (hb : b.Canonical) :
    Format.binary64.targetExponent (totalExponent b.mantissa b.exponent) = b.exponent := by
  have positive := hb.positive
  have least := hb.least
  have high : b.mantissa.log2 < 53 := (Nat.log2_lt (by omega)).mpr hb.fits
  rw [targetExponent_eq, totalExponent]
  rcases hb.leading with subnormal | normal
  · omega
  · have low : 52 ≤ b.mantissa.log2 := (Nat.le_log2 (by omega)).mpr normal
    omega

section Target

variable {m : ℕ} {e : ℤ} (low : (m : ℚ) ≤ v / 2 ^ e) (high : v / 2 ^ e < m + 1)
  (fine : e ≤ Format.binary64.targetExponent (totalExponent m e))

include low fine in
theorem targetExponent_le {k : ℤ} (least : -1074 ≤ k) (h : v < 2 ^ (k + 53)) :
    Format.binary64.targetExponent (totalExponent m e) ≤ k := by
  rw [targetExponent_eq] at fine ⊢
  rcases Nat.eq_zero_or_pos m with rfl | pos
  · have none : totalExponent 0 e = 0 + 1 + e := rfl
    omega
  · have bottom := (two_zpow_totalExponent_le pos low).trans_lt h
    have := (zpow_lt_zpow_iff_right₀ one_lt_two).mp bottom
    omega

include high in
theorem le_targetExponent {k : ℤ} (h : 2 ^ (k + 52) ≤ v) :
    k ≤ Format.binary64.targetExponent (totalExponent m e) := by
  have top := h.trans_lt (lt_two_zpow_totalExponent high)
  have := (zpow_lt_zpow_iff_right₀ one_lt_two).mp top
  rw [targetExponent_eq]
  omega

include low high fine in
/-- A number near to a magnitude is cut at the exponent of the magnitude, or at the one below it if
it lies below a power of two. -/
theorem targetExponent_cases (hb : b.Canonical) (near : b.Nearest v) :
    Format.binary64.targetExponent (totalExponent m e) = b.exponent ∨
      Format.binary64.targetExponent (totalExponent m e) = b.exponent - 1 ∧
        b.mantissa = leadingBit ∧ b.exponent > -1074 ∧ v / 2 ^ b.exponent < leadingBit := by
  have unit : (0 : ℚ) < 2 ^ b.exponent := by positivity
  have least := hb.least
  have upper := targetExponent_le low fine least (near.lt hb)
  rcases hb.leading with subnormal | normal
  · left
    rw [targetExponent_eq] at upper ⊢
    omega
  -- At the power of two or above it the number needs the exponent of its neighbour.
  by_cases above : leadingBit ≤ v / 2 ^ b.exponent
  · have bound : (2 : ℚ) ^ (b.exponent + 52) ≤ v := by
      rw [zpow_add₀ two_ne_zero, mul_comm]
      exact (le_div_iff₀ unit).mp above
    exact .inl (le_antisymm upper (le_targetExponent high bound))
  have under : v / 2 ^ b.exponent < leadingBit := not_le.mp above
  -- A number below it is near to it only where the neighbour is the power itself.
  have first : b.mantissa = leadingBit := by
    have close : (b.mantissa : ℚ) < leadingBit + 1 := by linarith [near.bounds.1, b.reach_le]
    norm_cast at close
    omega
  rcases least.eq_or_lt with subnormal | inner
  · left
    rw [targetExponent_eq] at upper ⊢
    omega
  refine .inr ⟨le_antisymm (targetExponent_le low fine (by omega) ?_)
    (le_targetExponent high ?_), first, inner, under⟩
  · rw [show b.exponent - 1 + 53 = b.exponent + 52 by ring, zpow_add₀ two_ne_zero, mul_comm]
    exact (div_lt_iff₀ unit).mp under
  · have close := near.bounds.1
    rw [first] at close
    rw [show b.exponent - 1 + 52 = b.exponent + 51 by ring, zpow_add₀ two_ne_zero, mul_comm,
      ← le_div_iff₀ unit]
    norm_num [leadingBit] at close ⊢
    linarith [b.reach_le]

end Target

/-! ## The rounded number -/

theorem shiftToTargetExponent_eq {m : ℕ} {e : ℤ} (acc : Accuracy)
    (fine : e ≤ Format.binary64.targetExponent (totalExponent m e)) :
    shiftToTargetExponent .binary64 m e acc =
      (ExtendedMantissa.ofMantissaAndAccuracy m acc >>>
          (Format.binary64.targetExponent (totalExponent m e) - e).toNat,
        Format.binary64.targetExponent (totalExponent m e)) := by
  simp only [shiftToTargetExponent, shiftToExponent, Prod.mk.injEq, true_and]
  omega

theorem Tracks.shifted {m : ℕ} {e t : ℤ} {acc : Accuracy}
    (h : Tracks (.ofMantissaAndAccuracy m acc) (v / 2 ^ e)) (fine : e ≤ t) :
    Tracks (ExtendedMantissa.ofMantissaAndAccuracy m acc >>> (t - e).toNat) (v / 2 ^ t) := by
  have parts : v / 2 ^ t = v / 2 ^ e / 2 ^ (t - e).toNat := by
    rw [div_div, ← zpow_natCast, ← zpow_add₀ two_ne_zero]
    congr 2
    omega
  rw [parts]
  exact h.shiftRight _

@[simp] theorem mantissa_ofMantissaAndAccuracy (m : ℕ) (acc : Accuracy) :
    (ExtendedMantissa.ofMantissaAndAccuracy m acc).mantissa = m := by
  unfold ExtendedMantissa.ofMantissaAndAccuracy
  split <;> rfl

/-- A number near to a canonical magnitude is rounded to it. -/
theorem roundWithAccuracy_eq (hb : b.Canonical) (near : b.Nearest v) (s : Sign) {m : ℕ} {e : ℤ}
    {acc : Accuracy} (tracks : Tracks (.ofMantissaAndAccuracy m acc) (v / 2 ^ e))
    (fine : e ≤ Format.binary64.targetExponent (totalExponent m e)) :
    roundWithAccuracy .binary64 s m e acc = .finite s b.mantissa b.exponent hb.positive := by
  have positive := hb.positive
  have bounds := tracks.bounds
  rw [mantissa_ofMantissaAndAccuracy] at bounds
  have shifted := tracks.shifted fine
  obtain ⟨below, above⟩ := near.bounds
  unfold roundWithAccuracy
  rw [shiftToTargetExponent_eq acc fine]
  simp only
  rcases targetExponent_cases bounds.1 bounds.2 fine hb near with
    same | ⟨less, first, inner, under⟩
  · rw [same] at shifted ⊢
    rw [shifted.rounded (by linarith [b.reach_le]) above near.inside,
      shiftToTargetExponent_eq .exact hb.targetExponent.ge, hb.targetExponent, Int.sub_self]
    exact dif_neg positive.ne'
  · -- Below the power of two the mantissa is twice as large.  It is filled up, and shifted again.
    have quarter : b.reach = 1 / 4 := if_pos ⟨first, inner⟩
    have log : (2 * leadingBit).log2 = 53 := by decide +kernel
    have target : Format.binary64.targetExponent
        (totalExponent (2 * leadingBit) (b.exponent - 1)) = b.exponent := by
      rw [targetExponent_eq, totalExponent, log]
      omega
    have double : v / 2 ^ (b.exponent - 1) = 2 * (v / 2 ^ b.exponent) := by
      rw [zpow_sub_one₀ two_ne_zero]
      field_simp
    have again : (ExtendedMantissa.ofMantissaAndAccuracy (2 * leadingBit) .exact >>>
        Int.toNat 1).mantissa = leadingBit := by decide +kernel
    rw [first, quarter] at below
    rw [less] at shifted ⊢
    rw [double] at shifted
    rw [shifted.rounded (n := 2 * leadingBit) (by push_cast; linarith) (by push_cast; linarith)
        (fun odd => absurd odd (by decide +kernel)),
      shiftToTargetExponent_eq .exact (by omega), target,
      show b.exponent - (b.exponent - 1) = 1 by ring]
    simp only [again, first]
    exact dif_neg (by decide +kernel)

end Rowwise.Decimal
