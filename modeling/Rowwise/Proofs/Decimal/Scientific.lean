import Rowwise.Decimal.FloatText
import Rowwise.Proofs.Decimal.Rounding

/-!
# The float of a decimal number

`Float.ofScientific` has two ways to a float.  Small significands and exponents are converted
exactly and then multiplied or divided once; others go through one rounded product or quotient of
natural numbers.  In both the exact result is rounded only once, so that by `roundWithAccuracy_eq`
a decimal number becomes the canonical magnitude that it is near to (`Float_ofScientific`).

The table of powers of ten is checked entry by entry (`powersOfTen_written`); it is all that is
known of the floats in it.  `ofScaled_eq` is the result for the decimals which are read here.  Their
exponents are cut off where a float would be zero or infinite, which a number near to a canonical
magnitude is too large and too small for (`Binary.Nearest.ten_zpow_le`,
`Binary.Nearest.lt_ten_zpow`).
-/

namespace Rowwise.Decimal

open Float.Model Float.Model.UnpackedFloat

variable {b c : Binary} {v : ℚ}

/-! ## Quotients and products -/

/-- A quotient with its remainder tracks the exact quotient. -/
theorem tracks_fraction (q : ℕ) {r d : ℕ} (h : r < d) :
    Tracks (.ofMantissaAndAccuracy q (accuracyOfFraction r d)) (q + r / d) := by
  have den : (0 : ℚ) < d := mod_cast (by omega : 0 < d)
  unfold accuracyOfFraction
  by_cases zero : r = 0
  · rw [if_pos zero, zero, Nat.cast_zero, zero_div, add_zero]
    exact tracks_exact q
  have pos : (0 : ℚ) < r / d := div_pos (mod_cast Nat.pos_of_ne_zero zero) den
  have one : (r : ℚ) / d < 1 := (div_lt_one den).mpr (mod_cast h)
  have half : 2 * ((r : ℚ) / d) = (2 * r : ℕ) / d := by
    push_cast
    ring
  rw [if_neg zero]
  rcases lt_trichotomy (2 * r) d with less | equal | greater
  · have below : 2 * ((r : ℚ) / d) < 1 := by
      rw [half]
      exact (div_lt_one den).mpr (mod_cast less)
    rw [compare_lt_iff_lt.mpr less]
    simp [Tracks, halves, ExtendedMantissa.ofMantissaAndAccuracy]
    constructor <;> linarith
  · have at_half : 2 * ((r : ℚ) / d) = 1 := by
      rw [half, equal]
      exact div_self den.ne'
    rw [compare_eq_iff_eq.mpr equal]
    simp [Tracks, halves, ExtendedMantissa.ofMantissaAndAccuracy]
    linarith
  · have above : 1 < 2 * ((r : ℚ) / d) := by
      rw [half]
      exact (one_lt_div den).mpr (mod_cast greater)
    rw [compare_gt_iff_gt.mpr greater]
    simp [Tracks, halves, ExtendedMantissa.ofMantissaAndAccuracy]
    constructor <;> linarith

/-- The bits that a quotient has at least. -/
theorem log2_le_of_div {m₁ m₂ n : ℕ} (h₁ : 0 < m₁) (h₂ : 0 < m₂) :
    m₁.log2 + n ≤ m₂.log2 + (m₁ * 2 ^ n / m₂).log2 + 1 := by
  have bottom : 2 ^ m₁.log2 ≤ m₁ := Nat.log2_self_le (by omega)
  have divisor : m₂ < 2 ^ (m₂.log2 + 1) := Nat.lt_log2_self
  have quotient : m₁ * 2 ^ n / m₂ < 2 ^ ((m₁ * 2 ^ n / m₂).log2 + 1) := Nat.lt_log2_self
  have power : 2 ^ (m₁.log2 + n) < 2 ^ (m₂.log2 + (m₁ * 2 ^ n / m₂).log2 + 2) := by
    calc 2 ^ (m₁.log2 + n) = 2 ^ m₁.log2 * 2 ^ n := pow_add ..
      _ ≤ m₁ * 2 ^ n := Nat.mul_le_mul_right _ bottom
      _ < m₂ * (m₁ * 2 ^ n / m₂ + 1) := Nat.lt_mul_div_succ _ h₂
      _ ≤ 2 ^ (m₂.log2 + 1) * 2 ^ ((m₁ * 2 ^ n / m₂).log2 + 1) :=
        Nat.mul_le_mul divisor.le quotient
      _ = 2 ^ (m₂.log2 + (m₁ * 2 ^ n / m₂).log2 + 2) := by
        rw [← pow_add]
        congr 1
        ring
  have := (Nat.pow_lt_pow_iff_right (by norm_num)).mp power
  omega

/-- A number near to a canonical magnitude that is given as a quotient is rounded to it. -/
theorem div_finite (hb : b.Canonical) {m₁ m₂ : ℕ} {e₁ e₂ : ℤ} (h₁ : 0 < m₁) (h₂ : 0 < m₂)
    (near : b.Nearest (m₁ * 2 ^ e₁ / (m₂ * 2 ^ e₂))) :
    UnpackedFloat.div .binary64 (.finite .positive m₁ e₁ h₁) (.finite .positive m₂ e₂ h₂) =
      .finite .positive b.mantissa b.exponent hb.positive := by
  have den : (m₂ : ℚ) ≠ 0 := mod_cast h₂.ne'
  -- The quotient gets the exponent `t`, for which the dividend is shifted by `n` bits.
  obtain ⟨t, ht⟩ : ∃ t, t = min (e₁ - e₂) (Format.binary64.targetExponent
      (totalExponent m₁ e₁ - totalExponent m₂ e₂)) := ⟨_, rfl⟩
  obtain ⟨n, hn⟩ : ∃ n : ℕ, n = (e₁ - e₂ - t).toNat := ⟨_, rfl⟩
  have shift : (n : ℤ) = e₁ - e₂ - t := by omega
  have core : divCore .binary64 m₁ e₁ m₂ e₂ =
      (m₁ * 2 ^ n / m₂, t, accuracyOfFraction (m₁ * 2 ^ n % m₂) m₂) := by
    rw [divCore, ← ht, ← hn, Nat.shiftLeft_eq]
  have quotient : (m₁ * 2 ^ e₁ / (m₂ * 2 ^ e₂) : ℚ) / 2 ^ t =
      (m₁ * 2 ^ n / m₂ : ℕ) + (m₁ * 2 ^ n % m₂ : ℕ) / m₂ := by
    have power : (2 : ℚ) ^ e₁ = 2 ^ n * 2 ^ e₂ * 2 ^ t := by
      rw [← zpow_natCast, ← zpow_add₀ two_ne_zero, ← zpow_add₀ two_ne_zero, shift]
      congr 1
      ring
    have division : (m₁ * 2 ^ n : ℚ) = m₂ * (m₁ * 2 ^ n / m₂ : ℕ) + (m₁ * 2 ^ n % m₂ : ℕ) :=
      mod_cast (Nat.div_add_mod (m₁ * 2 ^ n) m₂).symm
    rw [power]
    field_simp
    rw [division]
  have fine : t ≤ Format.binary64.targetExponent (totalExponent (m₁ * 2 ^ n / m₂) t) := by
    have bits := log2_le_of_div (n := n) h₁ h₂
    rw [targetExponent_eq, totalExponent, totalExponent] at ht
    rw [targetExponent_eq, totalExponent]
    omega
  rw [UnpackedFloat.div, core]
  exact roundWithAccuracy_eq hb near (Sign.positive / Sign.positive)
    (quotient ▸ tracks_fraction _ (Nat.mod_lt _ h₂)) fine

/-- The same for a product, if its exponent is not too large for that. -/
theorem mul_finite (hb : b.Canonical) {m₁ m₂ : ℕ} {e₁ e₂ : ℤ} (h₁ : 0 < m₁) (h₂ : 0 < m₂)
    (near : b.Nearest (m₁ * 2 ^ e₁ * (m₂ * 2 ^ e₂)))
    (fine : e₁ + e₂ ≤ Format.binary64.targetExponent (totalExponent (m₁ * m₂) (e₁ + e₂))) :
    UnpackedFloat.mul .binary64 (.finite .positive m₁ e₁ h₁) (.finite .positive m₂ e₂ h₂) =
      .finite .positive b.mantissa b.exponent hb.positive := by
  have exact : (m₁ * 2 ^ e₁ * (m₂ * 2 ^ e₂) : ℚ) / 2 ^ (e₁ + e₂) = (m₁ * m₂ : ℕ) := by
    rw [zpow_add₀ two_ne_zero]
    push_cast
    field_simp
  exact roundWithAccuracy_eq hb near (Sign.positive * Sign.positive) (exact ▸ tracks_exact _) fine

/-! ## Floats that are exact -/

/-- The float of a canonical magnitude. -/
def Binary.Canonical.float (hb : b.Canonical) (s : Sign) : Float :=
  .ofModel (.pack (.finite s b.mantissa b.exponent hb.positive))

/-- A float is a positive number exactly, and has the leading bit. -/
def IsExactly (x : Float) (v : ℚ) : Prop :=
  ∃ c : Binary, ∃ hc : c.Canonical, leadingBit ≤ c.mantissa ∧ c.toRat = v ∧
    x.toModel.unpack = .finite .positive c.mantissa c.exponent hc.positive

variable {x y : Float} {w : ℚ}

theorem IsExactly.div (hx : IsExactly x v) (hy : IsExactly y w) (hb : b.Canonical)
    (near : b.Nearest (v / w)) : x / y = hb.float .positive := by
  obtain ⟨c, hc, -, rfl, hx⟩ := hx
  obtain ⟨d, hd, -, rfl, hy⟩ := hy
  have quotient := div_finite hb hc.positive hd.positive near
  show Float.ofModel (.pack (UnpackedFloat.div .binary64 x.toModel.unpack y.toModel.unpack)) = _
  rw [hx, hy, quotient]
  rfl

theorem IsExactly.mul (hx : IsExactly x v) (hy : IsExactly y w) (hb : b.Canonical)
    (near : b.Nearest (v * w)) : x * y = hb.float .positive := by
  obtain ⟨c, hc, leading, rfl, hx⟩ := hx
  obtain ⟨d, hd, leading', rfl, hy⟩ := hy
  -- Two mantissas with their leading bits have a product that is long enough.
  have bits : 104 ≤ (c.mantissa * d.mantissa).log2 := by
    have square : 2 ^ 104 = leadingBit * leadingBit := by decide +kernel
    rw [Nat.le_log2 (Nat.mul_pos hc.positive hd.positive).ne', square]
    exact Nat.mul_le_mul leading leading'
  have fine : c.exponent + d.exponent ≤ Format.binary64.targetExponent
      (totalExponent (c.mantissa * d.mantissa) (c.exponent + d.exponent)) := by
    rw [targetExponent_eq, totalExponent]
    omega
  have product := mul_finite hb hc.positive hd.positive near fine
  show Float.ofModel (.pack (UnpackedFloat.mul .binary64 x.toModel.unpack y.toModel.unpack)) = _
  rw [hx, hy, product]
  rfl

/-- These are the bits of a positive float that is the whole number `n`. -/
def Writes (bits : UInt64) (n : ℕ) : Prop :=
  exponentPart bits ≠ -1#11 ∧ @unpackSign .binary64 bits.toBitVec = 0#1 ∧
    leadingBit ≤ (Binary.ofBits bits).mantissa ∧ -52 ≤ (Binary.ofBits bits).exponent ∧
    (Binary.ofBits bits).mantissa * 2 ^ ((Binary.ofBits bits).exponent + 52).toNat = n * 2 ^ 52

instance (bits : UInt64) (n : ℕ) : Decidable (Writes bits n) :=
  inferInstanceAs (Decidable (_ ∧ _))

theorem Writes.isExactly {n : ℕ} (h : Writes x.toBits n) : IsExactly x n := by
  obtain ⟨finite, sign, leading, least, value⟩ := h
  have nonzero : (Binary.ofBits x.toBits).mantissa ≠ 0 := by
    unfold leadingBit at leading
    omega
  have positive : signPart x.toBits = .positive := by
    rw [signPart, sign]
    rfl
  refine ⟨_, canonical_ofBits finite nonzero, leading, ?_, ?_⟩
  · have scale : (2 : ℚ) ^ (Binary.ofBits x.toBits).exponent * 2 ^ 52 =
        2 ^ ((Binary.ofBits x.toBits).exponent + 52).toNat := by
      rw [← zpow_natCast, ← zpow_natCast, ← zpow_add₀ two_ne_zero]
      congr 1
      push_cast
      omega
    have cast : ((Binary.ofBits x.toBits).mantissa : ℚ) *
        2 ^ ((Binary.ofBits x.toBits).exponent + 52).toNat = n * 2 ^ 52 := mod_cast value
    rw [← scale, ← mul_assoc] at cast
    exact mul_right_cancel₀ (by norm_num) cast
  · show UnpackedFloat.unpack .binary64 x.toBits.toBitVec = _
    rw [unpack_bits finite, dif_neg nonzero, positive]

theorem powersOfTen_written : ∀ e : Fin 23,
    Writes Float.exactlyRepresentablePowersOfTen[e].toBits (10 ^ e.val) := by
  decide +kernel

/-- A whole number of at most 53 bits is a float exactly. -/
theorem isExactly_toFloat {n : ℕ} (pos : 0 < n) (small : n < 2 ^ 53) :
    IsExactly n.toUInt64.toFloat n := by
  -- The number becomes a mantissa when its first bit is moved to the place of the leading one.
  have log : n.log2 < 53 := (Nat.log2_lt pos.ne').mpr small
  have bottom : 2 ^ n.log2 ≤ n := Nat.log2_self_le pos.ne'
  have top : n < 2 ^ (n.log2 + 1) := Nat.lt_log2_self
  have low : leadingBit ≤ n * 2 ^ (52 - n.log2) := by
    calc leadingBit = 2 ^ n.log2 * 2 ^ (52 - n.log2) := by
          rw [← pow_add, show n.log2 + (52 - n.log2) = 52 by omega]
          rfl
      _ ≤ n * 2 ^ (52 - n.log2) := Nat.mul_le_mul_right _ bottom
  have high : n * 2 ^ (52 - n.log2) < 2 * leadingBit := by
    calc n * 2 ^ (52 - n.log2) < 2 ^ (n.log2 + 1) * 2 ^ (52 - n.log2) :=
          Nat.mul_lt_mul_of_pos_right top (by positivity)
      _ = 2 * leadingBit := by
          rw [← pow_add, show n.log2 + 1 + (52 - n.log2) = 53 by omega]
          rfl
  have hc : Binary.Canonical ⟨n * 2 ^ (52 - n.log2), n.log2 - 52⟩ :=
    ⟨lt_of_lt_of_le (by decide) low, high, by simp only; omega, by simp only; omega, .inr low⟩
  have value : Binary.toRat ⟨n * 2 ^ (52 - n.log2), n.log2 - 52⟩ = n := by
    unfold Binary.toRat
    push_cast
    rw [mul_assoc, ← zpow_natCast, ← zpow_add₀ two_ne_zero, show
      (52 - n.log2 : ℕ) + ((n.log2 : ℤ) - 52) = 0 by omega, zpow_zero, mul_one]
  have word : n.toUInt64.toNat = n :=
    UInt64.toNat_ofNat_of_lt (small.trans (by decide))
  have target : Format.binary64.targetExponent (totalExponent n 0) = n.log2 - 52 := by
    rw [targetExponent_eq, totalExponent]
    omega
  have rounded : UnpackedFloat.normalize .binary64 n 0 .positive =
      .finite .positive (n * 2 ^ (52 - n.log2)) (n.log2 - 52) hc.positive := by
    have sign : compare (n : ℤ) 0 = .gt := compare_gt_iff_gt.mpr (mod_cast pos)
    have shift : decreaseExponent n 0 (n.log2 - 52) =
        (n * 2 ^ (52 - n.log2), (n.log2 - 52 : ℤ)) := by
      simp only [decreaseExponent, Nat.shiftLeft_eq, Prod.mk.injEq]
      exact ⟨by congr 2; omega, by omega⟩
    rw [UnpackedFloat.normalize, sign]
    simp only [UnpackedFloat.round, Int.toNat_natCast, target, shift]
    refine roundWithAccuracy_eq hc (Binary.nearest_toRat _) .positive ?_ hc.targetExponent.ge
    rw [Binary.toRat, mul_div_cancel_right₀ _ (by positivity)]
    exact tracks_exact _
  refine ⟨_, hc, low, value, ?_⟩
  show (Float.Model.pack (UnpackedFloat.normalize .binary64 (n.toUInt64.toNat : ℤ) 0
    .positive)).unpack = _
  rw [word, rounded]
  exact unpack_pack hc .positive

/-! ## The float of a decimal -/

/-- The number that is denoted. -/
def Scaled.toRat (s : Scaled) : ℚ := s.significand * 10 ^ s.exponent

theorem Binary.Nearest.significand_pos {m : ℕ} {e : ℤ} (near : b.Nearest (m * 10 ^ e))
    (hb : b.Canonical) : 0 < m := by
  have power : (0 : ℚ) < 10 ^ e := by positivity
  exact Nat.cast_pos.mp ((mul_pos_iff_of_pos_right power).mp (near.positive hb))

theorem ofScientific_finite (hb : b.Canonical) {m : ℕ} {e : ℤ} (near : b.Nearest (m * 10 ^ e))
    (low : -(2048 + m.log2) ≤ e) (high : e ≤ 2048) :
    UnpackedFloat.ofScientific .binary64 m e =
      .finite .positive b.mantissa b.exponent hb.positive := by
  have pos := near.significand_pos hb
  have ten (k : ℕ) : 0 < 10 ^ k := by positivity
  unfold UnpackedFloat.ofScientific
  rw [dif_neg pos.ne', if_neg (by simpa using high), if_neg (by simpa using low)]
  -- A power of ten is multiplied with, or divided by.
  by_cases sign : 0 ≤ e
  · obtain ⟨k, rfl⟩ := Int.eq_ofNat_of_zero_le sign
    rw [if_pos sign]
    refine mul_finite hb _ (ten _) ?_ ?_
    · have value : ((m <<< Format.binary64.mantissaBits : ℕ) *
          2 ^ (-(Format.binary64.mantissaBits : ℤ)) * ((10 ^ (k : ℤ).toNat : ℕ) * 2 ^ (0 : ℤ)) : ℚ) =
          m * 10 ^ (k : ℤ) := by
        rw [Nat.shiftLeft_eq, Int.toNat_natCast, zpow_neg, zpow_natCast, zpow_natCast]
        push_cast
        field_simp
      rwa [value]
    · -- The shifted significand has more bits than a mantissa.
      have bits : 53 ≤ (m <<< Format.binary64.mantissaBits * 10 ^ (k : ℤ).toNat).log2 := by
        have shifted : m <<< Format.binary64.mantissaBits = m * 2 ^ 53 := Nat.shiftLeft_eq ..
        rw [shifted, Nat.le_log2 (by positivity)]
        calc 2 ^ 53 = 1 * 2 ^ 53 * 1 := rfl
          _ ≤ m * 2 ^ 53 * 10 ^ (k : ℤ).toNat :=
            Nat.mul_le_mul (Nat.mul_le_mul_right _ pos) (ten _)
      rw [targetExponent_eq, totalExponent]
      have width : (Format.binary64.mantissaBits : ℤ) = 53 := rfl
      omega
  · obtain ⟨k, rfl⟩ : ∃ k : ℕ, e = -(k : ℤ) := ⟨(-e).toNat, by omega⟩
    rw [if_neg sign]
    refine div_finite hb pos (ten _) ?_
    have value : (m * 2 ^ (0 : ℤ) / ((10 ^ (- -(k : ℤ)).toNat : ℕ) * 2 ^ (0 : ℤ)) : ℚ) =
        m * 10 ^ (-(k : ℤ)) := by
      rw [neg_neg, Int.toNat_natCast, zpow_neg, zpow_natCast]
      push_cast
      field_simp
    rwa [value]

/-- The literal with significand `m` and the exponent `e`, or `-e`, is the float that the number
is near to. -/
theorem Float_ofScientific (hb : b.Canonical) {m e : ℕ} {neg : Bool}
    (near : b.Nearest (m * 10 ^ (if neg then -(e : ℤ) else e)))
    (low : -(2048 + m.log2) ≤ (if neg then -(e : ℤ) else e))
    (high : (if neg then -(e : ℤ) else e) ≤ 2048) :
    Float.ofScientific m neg e = hb.float .positive := by
  have pos := near.significand_pos hb
  unfold Float.ofScientific
  by_cases fast : m < 2 ^ 53 ∧ e ≤ 22
  · have exact := isExactly_toFloat pos fast.1
    have ten : IsExactly (Float.exactlyRepresentablePowersOfTen[(⟨e, by omega⟩ : Fin 23)])
        (10 ^ e : ℕ) := (powersOfTen_written ⟨e, by omega⟩).isExactly
    simp only [dif_pos fast]
    cases neg with
    | false =>
        rw [if_neg Bool.false_ne_true, zpow_natCast] at near
        exact exact.mul ten hb (by push_cast; exact near)
    | true =>
        rw [if_pos rfl, zpow_neg, zpow_natCast, ← div_eq_mul_inv] at near
        exact exact.div ten hb (by push_cast; exact near)
  · rw [dif_neg fast]
    have slow := ofScientific_finite hb near low high
    have sign : (if neg then Int.negOfNat e else Int.ofNat e) = if neg then -(e : ℤ) else e := by
      rw [Int.negOfNat_eq]
      rfl
    rw [sign]
    show Float.ofModel (.pack _) = _
    rw [slow]
    rfl

/-- A power of two lies above the power of ten with three tenths of its exponent. -/
theorem ten_pow_le_two_pow (n : ℕ) : 10 ^ (n * 3 / 10) ≤ 2 ^ n := by
  have bound : n * 3 / 10 * 10 ≤ 3 * n := by omega
  refine (Nat.pow_le_pow_iff_left (show (10 : ℕ) ≠ 0 by decide)).mp ?_
  calc (10 ^ (n * 3 / 10)) ^ 10 = 10 ^ (n * 3 / 10 * 10) := (pow_mul ..).symm
    _ ≤ 10 ^ (3 * n) := Nat.pow_le_pow_right (by decide) bound
    _ = (10 ^ 3) ^ n := pow_mul ..
    _ ≤ (2 ^ 10) ^ n := Nat.pow_le_pow_left (by decide) n
    _ = (2 ^ n) ^ 10 := by rw [← pow_mul, ← pow_mul, Nat.mul_comm]

/-- A power of two lies below the power of ten with a third of its exponent, up to a factor. -/
theorem two_pow_le_ten_pow (n : ℕ) : 2 ^ n ≤ 4 * 10 ^ (n / 3) := by
  have bound : n ≤ 3 * (n / 3) + 2 := by omega
  calc 2 ^ n ≤ 2 ^ (3 * (n / 3) + 2) := Nat.pow_le_pow_right (by decide) bound
    _ = 4 * (2 ^ 3) ^ (n / 3) := by
        rw [pow_add, pow_mul, Nat.mul_comm]
        rfl
    _ ≤ 4 * 10 ^ (n / 3) := Nat.mul_le_mul_left _ (Nat.pow_le_pow_left (by decide) _)

theorem Scaled.le_toRat {s : Scaled} (pos : 0 < s.significand) :
    (10 : ℚ) ^ (s.exponent + (s.significand.log2 * 3 / 10 : ℕ)) ≤ s.toRat := by
  have bottom : 2 ^ s.significand.log2 ≤ s.significand := Nat.log2_self_le pos.ne'
  have least : (10 : ℚ) ^ (s.significand.log2 * 3 / 10) ≤ s.significand :=
    mod_cast (ten_pow_le_two_pow _).trans bottom
  rw [Scaled.toRat, zpow_add₀ (by norm_num), zpow_natCast, mul_comm]
  exact mul_le_mul_of_nonneg_right least (by positivity)

theorem Scaled.toRat_lt (s : Scaled) :
    s.toRat < 8 * 10 ^ (s.exponent + (s.significand.log2 / 3 : ℕ)) := by
  have top : s.significand < 2 ^ (s.significand.log2 + 1) := Nat.lt_log2_self
  have most : (s.significand : ℚ) < 8 * 10 ^ (s.significand.log2 / 3) := by
    have power := two_pow_le_ten_pow s.significand.log2
    exact mod_cast (by omega : s.significand < 8 * 10 ^ (s.significand.log2 / 3))
  rw [Scaled.toRat, zpow_add₀ (by norm_num), zpow_natCast, mul_comm ((10 : ℚ) ^ s.exponent),
    ← mul_assoc]
  exact mul_lt_mul_of_pos_right most (by positivity)

theorem Binary.Nearest.lt_ten_zpow (near : b.Nearest v) (hb : b.Canonical) :
    v < 10 ^ (311 : ℤ) := by
  have powers : 2 ^ 1024 ≤ 10 ^ 311 := by decide +kernel
  have most := hb.most
  calc v < 2 ^ (b.exponent + 53) := near.lt hb
    _ ≤ 2 ^ (1024 : ℤ) := zpow_le_zpow_right₀ (by norm_num) (by omega)
    _ ≤ 10 ^ (311 : ℤ) := mod_cast powers

theorem Binary.Nearest.ten_zpow_le (near : b.Nearest v) (hb : b.Canonical) :
    8 * 10 ^ (-331 : ℤ) ≤ v := by
  have powers : 8 * 2 ^ 1075 ≤ 10 ^ 331 := by decide +kernel
  have unit : (0 : ℚ) < 2 ^ b.exponent := by positivity
  have least : (1 : ℚ) ≤ b.mantissa := mod_cast hb.positive
  have half : 2 ^ (-1 : ℤ) ≤ v / 2 ^ b.exponent := by
    norm_num
    linarith [near.bounds.1, b.reach_le]
  calc (8 : ℚ) * 10 ^ (-331 : ℤ) ≤ 2 ^ (-1075 : ℤ) := by
        rw [zpow_neg, zpow_neg, ← div_eq_mul_inv, div_le_iff₀ (by positivity), mul_comm,
          ← div_eq_mul_inv, le_div_iff₀ (by positivity)]
        exact mod_cast powers
    _ ≤ 2 ^ (-1 + b.exponent) := zpow_le_zpow_right₀ (by norm_num) (by linarith [hb.least])
    _ = 2 ^ (-1 : ℤ) * 2 ^ b.exponent := zpow_add₀ two_ne_zero ..
    _ ≤ v := (le_div_iff₀ unit).mp half

/-- A decimal number is read as the float that it is near to. -/
theorem ofScaled_eq (hb : b.Canonical) {s : Scaled} (near : b.Nearest s.toRat) :
    FloatText.ofScaled s = hb.float .positive := by
  have pos : 0 < s.significand := near.significand_pos hb
  have low : -330 ≤ s.exponent + (s.significand.log2 / 3 : ℕ) := by
    by_contra far
    have scale : (10 : ℚ) ^ (s.exponent + (s.significand.log2 / 3 : ℕ)) ≤ 10 ^ (-331 : ℤ) :=
      zpow_le_zpow_right₀ (by norm_num) (by omega)
    have tiny := s.toRat_lt.trans_le (mul_le_mul_of_nonneg_left scale (by norm_num))
    exact tiny.not_ge (near.ten_zpow_le hb)
  have high : s.exponent + (s.significand.log2 * 3 / 10 : ℕ) ≤ 310 := by
    by_contra far
    have scale : (10 : ℚ) ^ (311 : ℤ) ≤ 10 ^ (s.exponent + (s.significand.log2 * 3 / 10 : ℕ)) :=
      zpow_le_zpow_right₀ (by norm_num) (by omega)
    exact (scale.trans (Scaled.le_toRat pos)).not_gt (near.lt_ten_zpow hb)
  -- So the number is neither cut off to zero nor to infinity.
  unfold FloatText.ofScaled
  simp only
  rw [if_neg (by omega), if_neg (by omega)]
  by_cases sign : s.exponent ≥ 0
  · have same : (if false then -(s.exponent.toNat : ℤ) else s.exponent.toNat) = s.exponent := by
      simp [sign]
    rw [if_pos sign]
    apply Float_ofScientific hb <;> rw [same]
    · exact near
    · omega
    · omega
  · have same : (if true then -((-s.exponent).toNat : ℤ) else (-s.exponent).toNat) =
        s.exponent := by
      simp
      omega
    rw [if_neg sign]
    apply Float_ofScientific hb <;> rw [same]
    · exact near
    · omega
    · omega

end Rowwise.Decimal
