import Rowwise.FloatMath
import Rowwise.Proofs.Decimal.FloatText
import Rowwise.Proofs.Decimal.Magnitudes

/-!
# The order of floats

A float other than NaN has a number, real or infinite.  Floats with one number are equal and the
less one is that with the lesser number (`lt_iff_number`, `beq_iff_number`).  The total order, with
which expressions are ordered and columns are sorted, is finer in one place: it puts the negative
zero before the positive one (`totalKey_lt_iff`).

All three are read off the place of a float on the line of floats, its magnitude with its sign.
-/

namespace Rowwise.FloatMath

open Decimal FloatText Float.Model Float.Model.UnpackedFloat

/-! ## Places -/

/-- The bits without the sign. -/
def magnitude (x : Float) : ℕ := x.toBits.toNat % signBit

/-- The place of a float on the line of floats, on which both zeros stand at 0. -/
def place (x : Float) : ℤ := if isNegative x then -magnitude x else magnitude x

/-- A place from a sign and a magnitude. -/
def signed : Sign → ℕ → ℤ
  | .positive, n => n
  | .negative, n => -n

theorem place_eq (x : Float) : place x = signed (signPart x.toBits) (magnitude x) := by
  unfold place
  cases h : signPart x.toBits with
  | negative => rw [if_pos ((isNegative_eq_true x).mpr h), signed]
  | positive =>
      rw [if_neg, signed]
      rw [isNegative_eq_true, h]
      exact Sign.noConfusion

/-- The unpacked float has the sign and the magnitude. -/
inductive Shows : UnpackedFloat → Sign → ℕ → Prop where
  | zero (s : Sign) : Shows (.zero s) s 0
  | finite (s : Sign) {n : ℕ} (pos : 0 < n) (finite : n < infinityPlace)
      (some : 0 < (Binary.nth n).mantissa) :
      Shows (.finite s (Binary.nth n).mantissa (Binary.nth n).exponent some) s n
  | infinity (s : Sign) : Shows (.infinity s) s infinityPlace

theorem shows_unpack {x : Float} (number : x.isNaN = false) :
    Shows x.toModel.unpack (signPart x.toBits) (magnitude x) := by
  change Shows (UnpackedFloat.unpack .binary64 x.toBits.toBitVec) _ _
  -- An exponent field of ones is that of an infinity, since NaN is excluded.
  have number : (UnpackedFloat.unpack .binary64 x.toBits.toBitVec).isNaN = false := number
  have fraction := toNat_fractionPart x.toBits
  have exponent := toNat_exponentPart x.toBits
  have bound := x.toBits.toNat_lt
  unfold leadingBit at fraction
  rw [Nat.shiftRight_eq_div_pow] at exponent
  by_cases all : exponentPart x.toBits = -1#11
  · have raw : @unpackExponent .binary64 x.toBits.toBitVec = -1#11 := all
    unfold UnpackedFloat.unpack at number ⊢
    simp only [if_pos raw] at number ⊢
    split_ifs at number ⊢ with none
    · have whole : magnitude x = infinityPlace := by
        have none : (fractionPart x.toBits).toNat = 0 := congrArg BitVec.toNat none
        rw [all] at exponent
        have ones : (-1#11 : BitVec 11).toNat = 2047 := by decide
        unfold magnitude signBit infinityPlace leadingBit
        omega
      rw [whole]
      exact .infinity _
    · cases number
  · have same : Binary.ofBits x.toBits = Binary.nth (magnitude x) := ofBits_eq_nth x.toBits
    rw [unpack_bits all]
    split_ifs with zero
    · have none : magnitude x = 0 := by
        by_contra more
        exact (Binary.mantissa_nth_pos (Nat.pos_of_ne_zero more)).ne' (same ▸ zero)
      rw [none]
      exact .zero _
    · have finite := exponentPart_lt all
      have more : 0 < magnitude x := by
        refine Nat.pos_of_ne_zero fun none => zero ?_
        rw [same, none]
        rfl
      have less : magnitude x < infinityPlace := by
        unfold magnitude signBit infinityPlace leadingBit
        omega
      simp only [same]
      exact .finite _ more less _

variable {u v : UnpackedFloat} {s t : Sign} {m n : ℕ}

theorem Shows.le (h : Shows u s n) : n ≤ infinityPlace := by
  cases h with
  | zero => exact Nat.zero_le _
  | finite _ _ finite _ => exact finite.le
  | infinity => exact le_rfl

theorem Shows.isInf (h : Shows u s n) : u.isInf = true ↔ n = infinityPlace := by
  have far : 0 < infinityPlace := by decide
  cases h with
  | zero => simp [UnpackedFloat.isInf, far.ne]
  | finite _ _ finite _ => simp [UnpackedFloat.isInf, finite.ne]
  | infinity => simp [UnpackedFloat.isInf]

@[simp] theorem signed_zero (s : Sign) : signed s 0 = 0 := by
  cases s <;> rfl

theorem compare_signed_positive (m n : ℕ) :
    compare (signed .positive m) (signed .positive n) = compare m n := by
  simp only [signed, Nat.compare_eq_ite_lt, Int.compare_eq_ite_lt, Nat.cast_lt]

/-- Negative numbers are ordered by falling magnitude. -/
theorem compare_signed_negative (m n : ℕ) :
    compare (signed .negative m) (signed .negative n) = (compare m n).swap := by
  simp only [signed, Nat.compare_eq_ite_lt, Int.compare_eq_ite_lt, neg_lt_neg_iff, Nat.cast_lt]
  split_ifs <;> first | rfl | omega

/-- Unpacked floats are compared by their places. -/
theorem Shows.compared (hu : Shows u s m) (hv : Shows v t n) :
    u.compare v = some (compare (signed s m) (signed t n)) := by
  have far : 0 < infinityPlace := by decide
  have less {a b : ℤ} (h : a < b) : some Ordering.lt = some (compare a b) :=
    congrArg some (compare_lt_iff_lt.mpr h).symm
  have greater {a b : ℤ} (h : b < a) : some Ordering.gt = some (compare a b) :=
    congrArg some (compare_gt_iff_gt.mpr h).symm
  have equal {a b : ℤ} (h : a = b) : some Ordering.eq = some (compare a b) :=
    congrArg some (compare_eq_iff_eq.mpr h).symm
  cases hu with
  | zero =>
      rw [signed_zero]
      cases hv with
      | zero => exact equal (signed_zero t).symm
      | finite _ pos =>
          cases t with
          | negative => exact greater (by simp only [signed]; omega)
          | positive => exact less (by simp only [signed]; omega)
      | infinity =>
          cases t with
          | negative => exact greater (by simp only [signed]; omega)
          | positive => exact less (by simp only [signed]; omega)
  | finite _ pos finite =>
      cases hv with
      | zero =>
          rw [signed_zero]
          cases s with
          | negative => exact less (by simp only [signed]; omega)
          | positive => exact greater (by simp only [signed]; omega)
      | finite _ pos' finite' =>
          -- Magnitudes of one sign are compared by exponents and mantissas.
          have order := Binary.compare_nth m n
          cases s <;> cases t
          case negative.negative =>
            rw [compare_signed_negative]
            exact congrArg (fun o : Ordering => some o.swap) order
          case negative.positive => exact less (by simp only [signed]; omega)
          case positive.negative => exact greater (by simp only [signed]; omega)
          case positive.positive =>
            rw [compare_signed_positive]
            exact congrArg some order
      | infinity =>
          cases t with
          | negative => exact greater (by cases s <;> simp only [signed] <;> omega)
          | positive => exact less (by cases s <;> simp only [signed] <;> omega)
  | infinity =>
      cases s with
      | negative =>
          cases hv with
          | zero => exact less (by rw [signed_zero]; simp only [signed]; omega)
          | finite _ _ finite => exact less (by cases t <;> simp only [signed] <;> omega)
          | infinity =>
              cases t with
              | negative => exact equal rfl
              | positive => exact less (by simp only [signed]; omega)
      | positive =>
          cases hv with
          | zero => exact greater (by rw [signed_zero]; simp only [signed]; omega)
          | finite _ _ finite => exact greater (by cases t <;> simp only [signed] <;> omega)
          | infinity =>
              cases t with
              | negative => exact greater (by simp only [signed]; omega)
              | positive => exact equal rfl

/-! ## Comparisons -/

variable {x y : Float}

theorem compare_unpack (hx : x.isNaN = false) (hy : y.isNaN = false) :
    x.toModel.unpack.compare y.toModel.unpack = some (compare (place x) (place y)) := by
  rw [place_eq, place_eq]
  exact (shows_unpack hx).compared (shows_unpack hy)

theorem lt_iff_place (hx : x.isNaN = false) (hy : y.isNaN = false) :
    x < y ↔ place x < place y := by
  have unpacked : x < y ↔ (x.toModel.unpack.compare y.toModel.unpack == some .lt) = true :=
    decide_eq_true_iff
  rw [unpacked, compare_unpack hx hy, beq_iff_eq, Option.some_inj, compare_lt_iff_lt]

theorem beq_iff_place (hx : x.isNaN = false) (hy : y.isNaN = false) :
    (x == y) = true ↔ place x = place y := by
  change (x.toModel.unpack.compare y.toModel.unpack == some .eq) = true ↔ _
  rw [compare_unpack hx hy, beq_iff_eq, Option.some_inj, compare_eq_iff_eq]

theorem isNegative_iff (x : Float) : isNegative x = true ↔ signBit ≤ x.toBits.toNat := by
  have bound := x.toBits.toNat_lt
  rw [isNegative, beq_iff_eq, ← UInt64.toNat_inj, UInt64.toNat_shiftRight,
    Nat.shiftRight_eq_div_pow]
  change x.toBits.toNat / 2 ^ 63 = 1 ↔ _
  unfold signBit
  omega

/-- The bits of a float are its magnitude and its sign. -/
theorem toNat_toBits (x : Float) :
    x.toBits.toNat = magnitude x + if isNegative x then signBit else 0 := by
  have bound := x.toBits.toNat_lt
  unfold magnitude
  simp only [isNegative_iff]
  unfold signBit
  split_ifs <;> omega

/-- The total order is that of places, with negative zero before positive zero. -/
theorem totalKey_eq (x : Float) : totalKey x = place x - if isNegative x then 1 else 0 := by
  have bits := toNat_toBits x
  have bound : magnitude x < signBit := Nat.mod_lt _ (by decide)
  unfold totalKey place
  dsimp only
  split_ifs at bits ⊢ <;> omega

/-! ## Numbers -/

/-- The real number of a finite float. -/
noncomputable def real (x : Float) : ℝ :=
  if isNegative x then -(Binary.ofBits x.toBits).toRat else (Binary.ofBits x.toBits).toRat

/-- The number of a float other than NaN, a real one or an infinity. -/
noncomputable def number (x : Float) : EReal :=
  if x.isInf then if isNegative x then ⊥ else ⊤ else real x

/-- The number of a positive float with the magnitude. -/
noncomputable def size (n : ℕ) : EReal :=
  if n = infinityPlace then ⊤ else (((Binary.nth n).toRat : ℝ) : EReal)

theorem size_lt {m n : ℕ} (h : m < n) (le : n ≤ infinityPlace) : size m < size n := by
  rw [size, if_neg (by omega), size]
  split_ifs
  · exact EReal.coe_lt_top _
  · exact_mod_cast Binary.toRat_nth_strictMono h

theorem size_zero : size 0 = 0 := by
  rw [size, if_neg (by decide), Binary.toRat_nth_zero, Rat.cast_zero, EReal.coe_zero]

theorem size_nonneg {n : ℕ} (le : n ≤ infinityPlace) : 0 ≤ size n := by
  rcases Nat.eq_zero_or_pos n with rfl | pos
  · exact size_zero.ge
  · exact size_zero ▸ (size_lt pos le).le

theorem magnitude_le (hx : x.isNaN = false) : magnitude x ≤ infinityPlace := (shows_unpack hx).le

theorem number_eq (hx : x.isNaN = false) :
    number x = if isNegative x then -size (magnitude x) else size (magnitude x) := by
  have infinite : x.isInf = true ↔ magnitude x = infinityPlace := (shows_unpack hx).isInf
  have same : Binary.ofBits x.toBits = Binary.nth (magnitude x) := ofBits_eq_nth x.toBits
  unfold number real size
  simp only [infinite, same]
  split_ifs <;> simp

/-- Numbers are ordered as places are. -/
theorem number_lt_of_place (hx : x.isNaN = false) (hy : y.isNaN = false) (h : place x < place y) :
    number x < number y := by
  have ends := magnitude_le hx
  have ends' := magnitude_le hy
  rw [number_eq hx, number_eq hy]
  unfold place at h
  split_ifs at h ⊢
  · exact EReal.neg_lt_neg_iff.mpr (size_lt (by omega) ends)
  · -- One of the two numbers is not zero.
    have low : -size (magnitude x) ≤ 0 := EReal.neg_le_zero.mpr (size_nonneg ends)
    have high := size_nonneg ends'
    rcases Nat.eq_zero_or_pos (magnitude x) with zero | pos
    · exact low.trans_lt (size_zero ▸ size_lt (by omega) ends')
    · have below : -size (magnitude x) < 0 := by
        rw [EReal.neg_lt_comm, neg_zero]
        exact size_zero ▸ size_lt pos ends
      exact below.trans_le high
  · omega
  · exact size_lt (by omega) ends'

theorem number_eq_of_place (hx : x.isNaN = false) (hy : y.isNaN = false) (h : place x = place y) :
    number x = number y := by
  rw [number_eq hx, number_eq hy]
  unfold place at h
  split_ifs at h ⊢
  · rw [show magnitude x = magnitude y by omega]
  · rw [show magnitude x = 0 by omega, show magnitude y = 0 by omega, size_zero, neg_zero]
  · rw [show magnitude x = 0 by omega, show magnitude y = 0 by omega, size_zero, neg_zero]
  · rw [show magnitude x = magnitude y by omega]

theorem place_lt_iff (hx : x.isNaN = false) (hy : y.isNaN = false) :
    place x < place y ↔ number x < number y := by
  refine ⟨number_lt_of_place hx hy, fun h => ?_⟩
  rcases lt_trichotomy (place x) (place y) with less | same | greater
  · exact less
  · exact absurd (number_eq_of_place hx hy same) h.ne
  · exact absurd (number_lt_of_place hy hx greater) h.not_gt

theorem place_eq_iff (hx : x.isNaN = false) (hy : y.isNaN = false) :
    place x = place y ↔ number x = number y := by
  refine ⟨number_eq_of_place hx hy, fun h => ?_⟩
  rcases lt_trichotomy (place x) (place y) with less | same | greater
  · exact absurd h (number_lt_of_place hx hy less).ne
  · exact same
  · exact absurd h (number_lt_of_place hy hx greater).ne'

/-- The lesser float is the one with the lesser number. -/
theorem lt_iff_number (hx : x.isNaN = false) (hy : y.isNaN = false) :
    x < y ↔ number x < number y := (lt_iff_place hx hy).trans (place_lt_iff hx hy)

/-- Floats are equal if their numbers are. -/
theorem beq_iff_number (hx : x.isNaN = false) (hy : y.isNaN = false) :
    (x == y) = true ↔ number x = number y := (beq_iff_place hx hy).trans (place_eq_iff hx hy)

theorem eq_of_toBits_eq (h : x.toBits = y.toBits) : x = y := by
  obtain ⟨⟨bits, valid⟩⟩ := x
  obtain ⟨⟨bits', valid'⟩⟩ := y
  cases h
  rfl

theorem eq_negativeZero_iff : x = -0.0 ↔ isNegative x = true ∧ place x = 0 := by
  constructor
  · rintro rfl
    exact ⟨rfl, rfl⟩
  · rintro ⟨negative, zero⟩
    have bits : x.toBits.toNat = signBit := by
      rw [place, if_pos negative] at zero
      rw [toNat_toBits, if_pos negative]
      omega
    exact eq_of_toBits_eq (UInt64.toNat_inj.mp (bits.trans rfl))

theorem eq_zero_iff : x = 0.0 ↔ ¬ isNegative x = true ∧ place x = 0 := by
  constructor
  · rintro rfl
    exact ⟨Bool.false_ne_true, rfl⟩
  · rintro ⟨positive, zero⟩
    have bits : x.toBits.toNat = 0 := by
      rw [place, if_neg positive] at zero
      rw [toNat_toBits, if_neg positive]
      omega
    exact eq_of_toBits_eq (UInt64.toNat_inj.mp (bits.trans rfl))

theorem place_nonpos (h : isNegative x = true) : place x ≤ 0 := by
  rw [place, if_pos h]
  omega

theorem place_nonneg (h : ¬ isNegative x = true) : 0 ≤ place x := by
  rw [place, if_neg h]
  omega

/-- In the total order the float with the lesser number comes first, and of the two zeros the
negative one. -/
theorem totalKey_lt_iff (hx : x.isNaN = false) (hy : y.isNaN = false) :
    totalKey x < totalKey y ↔
      number x < number y ∨ number x = number y ∧ x = -0.0 ∧ y ≠ -0.0 := by
  -- A key is a place, less one on the negative side, so keys differ from places only at zero.
  rw [← place_lt_iff hx hy, ← place_eq_iff hx hy, totalKey_eq, totalKey_eq, ne_eq,
    eq_negativeZero_iff, eq_negativeZero_iff]
  by_cases sx : isNegative x = true <;> by_cases sy : isNegative y = true <;>
    simp only [sx, sy, if_true, if_false, true_and, false_and, not_false_eq_true, and_true,
      and_false, or_false, Bool.false_eq_true]
  · omega
  · have := place_nonpos sx
    have := place_nonneg sy
    omega
  · have := place_nonneg sx
    have := place_nonpos sy
    omega
  · omega

/-- The total order tells all floats apart. -/
theorem totalKey_inj (h : totalKey x = totalKey y) : x = y := by
  have bits : x.toBits.toNat = y.toBits.toNat := by
    unfold totalKey at h
    dsimp only at h
    split_ifs at h <;> omega
  exact eq_of_toBits_eq (UInt64.toNat_inj.mp bits)

/-- Floats with one number are the same, or zeros of different sign. -/
theorem eq_or_zeros (hx : x.isNaN = false) (hy : y.isNaN = false) (same : number x = number y) :
    x = y ∨ x = 0.0 ∧ y = -0.0 ∨ x = -0.0 ∧ y = 0.0 := by
  have place := (place_eq_iff hx hy).mpr same
  by_cases sx : isNegative x = true <;> by_cases sy : isNegative y = true
  · exact .inl (totalKey_inj (by rw [totalKey_eq, totalKey_eq, place, if_pos sx, if_pos sy]))
  · have := place_nonpos sx
    have := place_nonneg sy
    exact .inr (.inr ⟨eq_negativeZero_iff.mpr ⟨sx, by omega⟩, eq_zero_iff.mpr ⟨sy, by omega⟩⟩)
  · have := place_nonneg sx
    have := place_nonpos sy
    exact .inr (.inl ⟨eq_zero_iff.mpr ⟨sx, by omega⟩, eq_negativeZero_iff.mpr ⟨sy, by omega⟩⟩)
  · exact .inl (totalKey_inj (by rw [totalKey_eq, totalKey_eq, place, if_neg sx, if_neg sy]))

end Rowwise.FloatMath
