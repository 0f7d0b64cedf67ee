import Rowwise.Proofs.Numbers.FloatOrder

/-!
# Sums of floats that are NaN

A sum of two floats is NaN if one of them is, or if they are infinities of different sign; rounding
never makes a NaN.  So half a sum of two numbers is NaN just where these are -∞ and ∞
(`isNaN_halfSum`).
-/

namespace Rowwise.FloatMath

open Decimal FloatText Float.Model Float.Model.UnpackedFloat

/-! ## Rounding and packing -/

theorem isNaN_roundWithAccuracy (spec : Format) (s : Sign) (m : ℕ) (e : ℤ) (a : Accuracy) :
    (roundWithAccuracy spec s m e a).isNaN = false := by
  unfold roundWithAccuracy
  dsimp only
  split <;> rfl

theorem isNaN_normalize (spec : Format) (m e : ℤ) (s : Sign) :
    (UnpackedFloat.normalize spec m e s).isNaN = false := by
  unfold UnpackedFloat.normalize
  split
  · exact isNaN_roundWithAccuracy ..
  · rfl
  · exact isNaN_roundWithAccuracy ..

/-- What is packed is NaN if the unpacked float is. -/
theorem isNaN_unpack_pack (u : UnpackedFloat) :
    (UnpackedFloat.unpack .binary64 (UnpackedFloat.pack .binary64 u)).isNaN = u.isNaN := by
  have finite (s : Sign) {exponent : BitVec 11} (fraction : BitVec 52) (less : exponent ≠ -1#11) :
      (UnpackedFloat.unpack .binary64 (packComponents .binary64 s exponent fraction)).isNaN =
        false := by
    unfold UnpackedFloat.unpack
    simp only [unpackExponent_packComponents, unpackMantissa_packComponents]
    rw [if_neg less]
    split_ifs <;> rfl
  cases u with
  | notANumber => rfl
  | infinity s => cases s <;> rfl
  | zero s => cases s <;> rfl
  | finite s m e pos =>
      unfold UnpackedFloat.pack
      dsimp only
      split_ifs with large normal
      · cases s <;> rfl
      · -- An exponent field of ones would be an exponent that is too large.
        refine finite s _ fun all => large ?_
        have ones := congrArg BitVec.toNat all
        rw [BitVec.toNat_ofNat] at ones
        change _ % 2048 = 2047 at ones
        change 2048 ≤ _ + 1
        omega
      · exact finite s _ (by decide)

/-! ## Sums and halves -/

/-- A sum of numbers is NaN if these are infinities of different sign. -/
theorem Shows.isNaN_add {u v : UnpackedFloat} {s t : Sign} {m n : ℕ} (hu : Shows u s m)
    (hv : Shows v t n) :
    (UnpackedFloat.add .binary64 u v).isNaN = true ↔
      u.isInf = true ∧ v.isInf = true ∧ s ≠ t := by
  have zeros : (UnpackedFloat.add .binary64 (.zero s) (.zero t)).isNaN = false := by
    cases s <;> cases t <;> rfl
  have infinities : (UnpackedFloat.add .binary64 (.infinity s) (.infinity t)).isNaN = true ↔
      s ≠ t := by
    cases s <;> cases t <;> simp [UnpackedFloat.add, UnpackedFloat.isNaN]
  have finites {i j : ℕ} {d e : ℤ} (hi : 0 < i) (hj : 0 < j) :
      (UnpackedFloat.add .binary64 (.finite s i d hi) (.finite t j e hj)).isNaN = false :=
    isNaN_normalize ..
  cases hu with
  | zero =>
      cases hv with
      | zero => simp [zeros, UnpackedFloat.isInf]
      | _ => simp [UnpackedFloat.add, UnpackedFloat.isNaN, UnpackedFloat.isInf]
  | finite =>
      cases hv with
      | finite => simp [finites, UnpackedFloat.isInf]
      | _ => simp [UnpackedFloat.add, UnpackedFloat.isNaN, UnpackedFloat.isInf]
  | infinity =>
      cases hv with
      | infinity => simp [infinities, UnpackedFloat.isInf]
      | _ => simp [UnpackedFloat.add, UnpackedFloat.isNaN, UnpackedFloat.isInf]

variable {x y : Float}

/-- Half a float is NaN if the float is. -/
theorem isNaN_half (x : Float) : (0.5 * x).isNaN = x.isNaN := by
  have product : (0.5 * x).isNaN =
      (UnpackedFloat.mul .binary64 (0.5 : Float).toModel.unpack x.toModel.unpack).isNaN :=
    isNaN_unpack_pack _
  have half : ∃ m e pos, (0.5 : Float).toModel.unpack = .finite .positive m e pos :=
    ⟨_, _, _, rfl⟩
  obtain ⟨m, e, pos, half⟩ := half
  rw [product, half]
  change _ = x.toModel.unpack.isNaN
  cases x.toModel.unpack with
  | finite => exact isNaN_roundWithAccuracy ..
  | _ => rfl

theorem number_eq_bot : number x = ⊥ ↔ x.isInf = true ∧ isNegative x = true := by
  unfold number
  split_ifs with infinite negative
  · simp [infinite, negative]
  · simp [negative]
  · simp [infinite]

theorem number_eq_top : number x = ⊤ ↔ x.isInf = true ∧ ¬ isNegative x = true := by
  unfold number
  split_ifs with infinite negative
  · simp [negative]
  · simp [infinite, negative]
  · simp [infinite]

/-- Half the sum of two numbers in their order is NaN if these are the infinities. -/
theorem isNaN_halfSum (hx : x.isNaN = false) (hy : y.isNaN = false) (order : number x ≤ number y) :
    (0.5 * (x + y)).isNaN = true ↔ number x = ⊥ ∧ number y = ⊤ := by
  -- The sum is packed from the sum of the unpacked floats, which is NaN for opposite infinities.
  have sum : (x + y).isNaN =
      (UnpackedFloat.add .binary64 x.toModel.unpack y.toModel.unpack).isNaN := isNaN_unpack_pack _
  have signs : signPart x.toBits ≠ signPart y.toBits ↔
      ¬ (isNegative x = true ↔ isNegative y = true) := by
    rw [isNegative_eq_true, isNegative_eq_true]
    cases signPart x.toBits <;> cases signPart y.toBits <;> simp
  rw [isNaN_half, sum, (shows_unpack hx).isNaN_add (shows_unpack hy), signs, number_eq_bot,
    number_eq_top]
  change x.isInf = true ∧ y.isInf = true ∧ _ ↔ _
  constructor
  · rintro ⟨infinite, infinite', apart⟩
    by_cases negative : isNegative x = true
    · have positive : ¬ isNegative y = true := fun negative' => apart (by simp [negative, negative'])
      exact ⟨⟨infinite, negative⟩, infinite', positive⟩
    · -- In their order the positive infinity cannot come first.
      have top := number_eq_top.mpr ⟨infinite, negative⟩
      have negative' : isNegative y = true := by
        by_contra positive
        exact apart (iff_of_false negative positive)
      have bottom := number_eq_bot.mpr ⟨infinite', negative'⟩
      rw [top, bottom] at order
      exact absurd order (by decide)
  · rintro ⟨⟨infinite, negative⟩, infinite', positive⟩
    exact ⟨infinite, infinite', fun same => positive (same.mp negative)⟩

end Rowwise.FloatMath
