import Mathlib
import Rowwise.Decimal.Shortest

/-!
# Packing the parts of a float

The bits of a float are a sign, an exponent field and a fraction.  `Binary.ofBits` reads the
magnitude off the two latter; a magnitude that is read in this way is *canonical*, it has 53 bits
unless its exponent is the least one.

Packing a canonical magnitude gives bits from which it is unpacked again (`unpack_pack`), and every
float is packed from what is unpacked of it (`pack_unpack_model`).  So a float is known as soon as its
sign and its magnitude are.
-/

namespace Rowwise.Decimal

open Float.Model Float.Model.UnpackedFloat

/-! ## The three parts -/

/-- The sign of the float with these bits. -/
def signPart (bits : UInt64) : Sign := Sign.ofBitVec (@unpackSign .binary64 bits.toBitVec)

/-- The exponent field of the float with these bits. -/
def exponentPart (bits : UInt64) : BitVec 11 := @unpackExponent .binary64 bits.toBitVec

/-- The bits after the leading one of the mantissa of the float with these bits. -/
def fractionPart (bits : UInt64) : BitVec 52 := @unpackMantissa .binary64 bits.toBitVec

theorem toNat_exponentPart (bits : UInt64) :
    (exponentPart bits).toNat = bits.toNat >>> 52 % 2048 := by
  simp only [exponentPart, unpackExponent, BitVec.toNat_cast, BitVec.extractLsb_toNat,
    UInt64.toNat_toBitVec]

theorem toNat_fractionPart (bits : UInt64) :
    (fractionPart bits).toNat = bits.toNat % leadingBit := by
  simp only [fractionPart, unpackMantissa, BitVec.toNat_cast, BitVec.extractLsb_toNat,
    UInt64.toNat_toBitVec, Nat.shiftRight_zero]
  rfl

theorem toNat_unpackSign (b : BitVec 64) : (@unpackSign .binary64 b).toNat = b.toNat / 2 ^ 63 := by
  simp only [unpackSign, BitVec.toNat_cast, BitVec.extractLsb_toNat, Nat.shiftRight_eq_div_pow]
  exact Nat.mod_eq_of_lt (Nat.div_lt_of_lt_mul b.isLt)

@[simp] theorem signPart_packComponents (s : Sign) (e : BitVec 11) (f : BitVec 52) :
    signPart (.ofBitVec (packComponents .binary64 s e f)) = s := by
  rw [signPart, UInt64.toBitVec_ofBitVec, unpackSign_packComponents, Sign.ofBitVec_toBitVec]

@[simp] theorem exponentPart_packComponents (s : Sign) (e : BitVec 11) (f : BitVec 52) :
    exponentPart (.ofBitVec (packComponents .binary64 s e f)) = e :=
  unpackExponent_packComponents

@[simp] theorem fractionPart_packComponents (s : Sign) (e : BitVec 11) (f : BitVec 52) :
    fractionPart (.ofBitVec (packComponents .binary64 s e f)) = f :=
  unpackMantissa_packComponents

/-! ## Canonical magnitudes -/

/-- A mantissa of at most 53 bits, and of all of them unless the exponent is the least one; the
exponent is that of a finite float. -/
structure Binary.Canonical (b : Binary) : Prop where
  positive : 0 < b.mantissa
  fits : b.mantissa < 2 * leadingBit
  least : -1074 ≤ b.exponent
  most : b.exponent ≤ 971
  leading : b.exponent = -1074 ∨ leadingBit ≤ b.mantissa

/-- The exponent field that a magnitude is packed with. -/
def Binary.exponentPart (b : Binary) : BitVec 11 :=
  if b.mantissa < leadingBit then 0 else BitVec.ofNat 11 (b.exponent + 1075).toNat

/-- The fraction that a magnitude is packed with: the leading bit does not fit. -/
def Binary.fractionPart (b : Binary) : BitVec 52 := BitVec.ofNat 52 b.mantissa

theorem ofBits_eq (bits : UInt64) :
    Binary.ofBits bits =
      if (exponentPart bits).toNat = 0 then ⟨(fractionPart bits).toNat, -1074⟩
      else ⟨(fractionPart bits).toNat + leadingBit, (exponentPart bits).toNat - 1075⟩ := by
  rw [toNat_exponentPart, toNat_fractionPart]
  rfl

theorem fractionPart_lt (bits : UInt64) : (fractionPart bits).toNat < leadingBit := BitVec.isLt _

/-- A finite float does not have the exponent field of the infinities and of NaN. -/
theorem exponentPart_lt {bits : UInt64} (finite : exponentPart bits ≠ -1#11) :
    (exponentPart bits).toNat < 2047 := by
  have bound : (exponentPart bits).toNat < 2048 := BitVec.isLt _
  have : (exponentPart bits).toNat ≠ 2047 := fun h => finite (BitVec.eq_of_toNat_eq h)
  omega

theorem canonical_ofBits {bits : UInt64} (finite : exponentPart bits ≠ -1#11)
    (nonzero : (Binary.ofBits bits).mantissa ≠ 0) : (Binary.ofBits bits).Canonical := by
  have fraction := fractionPart_lt bits
  have exponent := exponentPart_lt finite
  rw [ofBits_eq] at nonzero ⊢
  split_ifs at nonzero ⊢ with subnormal
  · exact ⟨by omega, by simp only; omega, Int.le_refl _, by simp only; omega, .inl rfl⟩
  · exact ⟨by omega, by simp only; omega, by simp only; omega, by simp only; omega,
      .inr (Nat.le_add_left ..)⟩

variable {b : Binary}

theorem Binary.Canonical.exponentPart_ne (hb : b.Canonical) : b.exponentPart ≠ -1#11 := by
  have least := hb.least
  have most := hb.most
  have all : (-1#11 : BitVec 11).toNat = 2047 := by decide
  unfold Binary.exponentPart
  split_ifs
  · decide
  · intro h
    have := congrArg BitVec.toNat h
    rw [BitVec.toNat_ofNat] at this
    omega

/-- A canonical magnitude is read off the bits that it is packed into. -/
theorem Binary.Canonical.ofBits_packComponents (hb : b.Canonical) (s : Sign) :
    Binary.ofBits (.ofBitVec (packComponents .binary64 s b.exponentPart b.fractionPart)) = b := by
  have fits := hb.fits
  have least := hb.least
  have most := hb.most
  have leading := hb.leading
  obtain ⟨m, e⟩ := b
  rw [ofBits_eq, exponentPart_packComponents, fractionPart_packComponents, Binary.exponentPart,
    Binary.fractionPart, BitVec.toNat_ofNat]
  unfold leadingBit at *
  simp only at fits least most leading ⊢
  by_cases subnormal : m < 4503599627370496
  · rw [if_pos subnormal, if_pos (by decide), Binary.mk.injEq]
    omega
  · rw [if_neg subnormal, BitVec.toNat_ofNat, if_neg (by omega), Binary.mk.injEq]
    omega

/-! ## Packing and unpacking -/

theorem pack_finite (hb : b.Canonical) (s : Sign) :
    UnpackedFloat.pack .binary64 (.finite s b.mantissa b.exponent hb.positive) =
      packComponents .binary64 s b.exponentPart b.fractionPart := by
  have fits := hb.fits
  have positive := hb.positive
  have most := hb.most
  have bias : b.exponent + Format.binary64.exponentBias +
      Format.binary64.mantissaBitsWithoutImplicit = b.exponent + 1075 := by
    rw [Int.add_assoc]
    rfl
  have small : ¬2 ^ Format.binary64.exponentBits ≤ (b.exponent + 1075).toNat + 1 := by
    simp only
    omega
  simp only [UnpackedFloat.pack, bias, if_neg small]
  rw [Binary.exponentPart]
  -- A mantissa below the leading bit is subnormal, and any other has all its 53 bits.
  by_cases subnormal : b.mantissa < leadingBit
  · have log : b.mantissa.log2 < 52 := (Nat.log2_lt (by omega)).mpr subnormal
    have short : b.mantissa.log2 + 1 ≠ Format.binary64.mantissaBits := by
      simp only [Format.mantissaBits]
      omega
    rw [if_neg short, if_pos subnormal]
    rfl
  · have low : 52 ≤ b.mantissa.log2 := (Nat.le_log2 (by omega)).mpr (Nat.not_lt.mp subnormal)
    have high : b.mantissa.log2 < 53 := (Nat.log2_lt (by omega)).mpr fits
    have full : b.mantissa.log2 + 1 = Format.binary64.mantissaBits := by
      simp only [Format.mantissaBits]
      omega
    rw [if_pos full, if_neg subnormal]
    rfl

/-- What is unpacked of the bits of a finite float: a zero, or its sign and its magnitude. -/
theorem unpack_bits {bits : UInt64} (finite : exponentPart bits ≠ -1#11) :
    UnpackedFloat.unpack .binary64 bits.toBitVec =
      if h : (Binary.ofBits bits).mantissa = 0 then .zero (signPart bits)
      else .finite (signPart bits) (Binary.ofBits bits).mantissa (Binary.ofBits bits).exponent
        (Nat.pos_of_ne_zero h) := by
  have number : ¬@unpackExponent .binary64 bits.toBitVec = -1#11 := finite
  have exponent : @unpackExponent .binary64 bits.toBitVec = 0#11 ↔
      (exponentPart bits).toNat = 0 := BitVec.toNat_inj.symm
  have fraction : @unpackMantissa .binary64 bits.toBitVec = 0#52 ↔
      (fractionPart bits).toNat = 0 := BitVec.toNat_inj.symm
  have bound := fractionPart_lt bits
  unfold UnpackedFloat.unpack
  simp only [ofBits_eq, if_neg number]
  by_cases subnormal : (exponentPart bits).toNat = 0
  · simp only [if_pos (exponent.mpr subnormal), if_pos subnormal]
    by_cases zero : (fractionPart bits).toNat = 0
    · rw [dif_pos (fraction.mpr zero), dif_pos zero]
      rfl
    · rw [dif_neg (fraction.not.mpr zero), dif_neg zero, UnpackedFloat.finite.injEq]
      refine ⟨rfl, rfl, ?_⟩
      rw [exponent.mpr subnormal]
      rfl
  · -- A normal float has a leading bit that is not stored, so that its mantissa is not zero.
    simp only [if_neg (exponent.not.mpr subnormal), if_neg subnormal]
    rw [dif_neg (by unfold leadingBit; omega), UnpackedFloat.finite.injEq]
    refine ⟨rfl, ?_, rfl⟩
    rw [BitVec.toNat_append, ← Nat.shiftLeft_add_eq_or_of_lt (BitVec.isLt _), Nat.shiftLeft_eq,
      Nat.add_comm]
    rfl

/-- A canonical magnitude and a sign are unpacked as they were packed. -/
theorem unpack_pack (hb : b.Canonical) (s : Sign) :
    (Float.Model.pack (.finite s b.mantissa b.exponent hb.positive)).unpack =
      .finite s b.mantissa b.exponent hb.positive := by
  have positive := hb.positive
  unfold Float.Model.unpack Float.Model.pack
  simp only
  rw [pack_finite hb, unpack_bits (by simpa using hb.exponentPart_ne)]
  simp only [hb.ofBits_packComponents, dif_neg (Nat.ne_of_gt positive), signPart_packComponents]

/-- Every float is packed from what is unpacked of it. -/
theorem pack_unpack_model (x : Float.Model) : Float.Model.pack x.unpack = x := by
  obtain ⟨bits, valid⟩ := x
  have same : UnpackedFloat.pack .binary64 (UnpackedFloat.unpack .binary64 bits.toBitVec) =
      bits.toBitVec := pack_unpack_of_valid valid
  unfold Float.Model.pack Float.Model.unpack
  simp only [same, UInt64.ofBitVec_toBitVec]

end Rowwise.Decimal
