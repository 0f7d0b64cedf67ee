import Rowwise.Decimal.Rounding
import Rowwise.Proofs.Decimal.FloatText

/-!
# Rounding to decimal places

`Tie.Rounds` says what it is to round: to take a nearest whole number, and of two that are equally
near the one that the mode names.  There is exactly one such number (`Tie.Rounds.unique`).

The digits behind a cut are a fraction of one unit of the last place in front of it.  Their first
digit and whether anything else follows say on which side of one half the fraction lies
(`half_of_first`), and the last digit in front says whether the number in front is odd, so that
`roundDigits` rounds the number to the unit at the cut (`roundDigits_rounds`).  If there are places
between the cut and the first digit, the whole number is less than a tenth of a unit.

The limit for the places only matters where everything is kept, or nothing: the shortest decimal of
a float neither ends nor begins 400 places away from the point (`exponent_shortestOfBits`,
`leading_bounds`).
-/

namespace Rowwise.Decimal

open FloatText (leading_bounds float_cases)

/-! ## The nearest whole number -/

/-- A number half-way between two whole numbers goes to this one of them. -/
def Tie.Takes : Tie → ℚ → ℕ → Prop
  | toEven, _, n => n % 2 = 0
  | awayFromZero, v, n => v < n
  | towardZero, v, n => n < v

/-- The whole number is nearest to `v`, and if another one is equally near, the mode takes it. -/
structure Tie.Rounds (tie : Tie) (v : ℚ) (n : ℕ) : Prop where
  near : |v - n| ≤ 1 / 2
  half : |v - n| = 1 / 2 → tie.Takes v n

section Nearest

variable {tie : Tie} {v : ℚ} {n m : ℕ}

theorem Tie.Rounds.unique (hn : tie.Rounds v n) (hm : tie.Rounds v m) : n = m := by
  wlog less : n ≤ m generalizing n m
  · exact (this hm hn (Nat.le_of_not_le less)).symm
  have low := abs_le.mp hn.near
  have high := abs_le.mp hm.near
  rcases less.eq_or_lt with same | less
  · exact same
  -- Otherwise they are neighbours, and the number lies half-way between them.
  have next : (n : ℚ) + 1 ≤ m := mod_cast less
  have middle : v - n = 1 / 2 := by linarith
  have middle' : v - m = -(1 / 2) := by linarith
  have takes := hn.half (by rw [middle]; norm_num)
  have takes' := hm.half (by rw [middle']; norm_num)
  cases tie with
  | toEven =>
      have neighbour : m = n + 1 := by
        have : (m : ℚ) = n + 1 := by linarith
        exact_mod_cast this
      change n % 2 = 0 at takes
      change m % 2 = 0 at takes'
      omega
  | awayFromZero =>
      change v < n at takes
      linarith
  | towardZero =>
      change (m : ℚ) < v at takes'
      linarith

/-- The fraction behind `k` is to be counted as one unit. -/
def Tie.CountsUp : Tie → ℕ → ℚ → Prop
  | toEven, k, v => k + 1 / 2 < v ∨ v = k + 1 / 2 ∧ k % 2 = 1
  | awayFromZero, k, v => k + 1 / 2 ≤ v
  | towardZero, k, v => k + 1 / 2 < v

theorem Tie.rounds_of_countsUp {k : ℕ} (above : v < k + 1) (up : tie.CountsUp k v) :
    tie.Rounds v (k + 1) := by
  have least : k + 1 / 2 ≤ v := by
    cases tie with
    | toEven => exact up.elim le_of_lt fun h => h.1.ge
    | awayFromZero => exact up
    | towardZero => exact le_of_lt up
  refine ⟨abs_le.mpr (by push_cast; constructor <;> linarith), fun half => ?_⟩
  have middle : v = k + 1 / 2 := by
    rw [abs_of_neg (by push_cast; linarith)] at half
    push_cast at half
    linarith
  cases tie with
  | toEven =>
      obtain ⟨-, odd⟩ := up.resolve_left middle.not_gt
      show (k + 1) % 2 = 0
      omega
  | awayFromZero =>
      show v < (k + 1 : ℕ)
      push_cast
      exact above
  | towardZero => exact absurd up middle.not_gt

theorem Tie.rounds_of_not_countsUp {k : ℕ} (below : k ≤ v) (down : ¬ tie.CountsUp k v) :
    tie.Rounds v k := by
  have most : v ≤ k + 1 / 2 := by
    cases tie with
    | toEven => exact not_lt.mp fun h => down (.inl h)
    | awayFromZero => exact (not_le.mp down).le
    | towardZero => exact not_lt.mp down
  refine ⟨abs_le.mpr ⟨by linarith, by linarith⟩, fun half => ?_⟩
  have middle : v = k + 1 / 2 := by
    rw [abs_of_nonneg (by linarith)] at half
    linarith
  cases tie with
  | toEven =>
      show k % 2 = 0
      have even : ¬ k % 2 = 1 := fun odd => down (.inr ⟨middle, odd⟩)
      omega
  | awayFromZero => exact absurd middle.ge down
  | towardZero =>
      show (k : ℚ) < v
      linarith

end Nearest

/-! ## Digits behind a cut -/

theorem value_append (as bs : List Char) :
    value (as ++ bs) = value as * 10 ^ bs.length + value bs := by
  induction bs using List.reverseRecOn with
  | nil => simp [value]
  | append_singleton bs c ih =>
      rw [← List.append_assoc, value_append_singleton, value_append_singleton, ih,
        List.length_append, List.length_singleton, pow_succ]
      ring

theorem value_cons (c : Char) (cs : List Char) :
    value (c :: cs) = digitValue c * 10 ^ cs.length + value cs := by
  have single : value [c] = digitValue c := by simp [value]
  rw [← List.singleton_append, value_append, single]

/-- A number is not zero if one of its digits is not. -/
theorem any_digitValue (ds : List Char) :
    (ds.any fun c => digitValue c ≠ 0) = true ↔ value ds ≠ 0 := by
  induction ds with
  | nil => simp [value]
  | cons c ds ih =>
      rw [List.any_cons, Bool.or_eq_true, decide_eq_true_iff, ih, value_cons]
      have unit : 0 < 10 ^ ds.length := by positivity
      constructor
      · rintro (first | others)
        · have := Nat.mul_pos (Nat.pos_of_ne_zero first) unit
          omega
        · omega
      · intro some
        by_contra none
        push Not at none
        rw [none.1, none.2, zero_mul] at some
        exact some rfl

/-- The last digit says whether a number is odd. -/
theorem getLast?_odd (ds : List Char) :
    (ds.getLast?.any fun c => digitValue c % 2 = 1) = true ↔ value ds % 2 = 1 := by
  induction ds using List.reverseRecOn with
  | nil => simp [value]
  | append_singleton ds c ih =>
      rw [List.getLast?_append, List.getLast?_singleton, Option.some_or, Option.any_some,
        decide_eq_true_iff, value_append_singleton]
      omega

/-- On which side of one half a number lies whose digits stand behind the point. -/
theorem half_of_first {c : Char} {cs : List Char} (digits : ∀ d ∈ c :: cs, d.isDigit = true) :
    (5 ≤ digitValue c ↔ 10 ^ (cs.length + 1) ≤ 2 * value (c :: cs)) ∧
      (5 < digitValue c ∨ digitValue c = 5 ∧ value cs ≠ 0 ↔
        10 ^ (cs.length + 1) < 2 * value (c :: cs)) ∧
      (digitValue c = 5 ∧ value cs = 0 ↔ 10 ^ (cs.length + 1) = 2 * value (c :: cs)) := by
  obtain ⟨first, others⟩ := List.forall_mem_cons.mp digits
  have most := digitValue_lt first
  have tail := value_lt others
  rw [value_cons, pow_succ]
  generalize 10 ^ cs.length = unit at *
  generalize digitValue c = d at *
  interval_cases d <;> omega

section Cut

variable {ds : List Char} {keep : ℤ} {tie : Tie}

/-- Cut behind `k` digits, a number is what stands in front and a fraction of a unit. -/
theorem exists_fraction (digits : ∀ d ∈ ds, d.isDigit = true) {k : ℕ} (short : k < ds.length) :
    ∃ c cs, ds.drop k = c :: cs ∧ (∀ d ∈ c :: cs, d.isDigit = true) ∧
      value ds * (10 : ℚ) ^ ((k : ℤ) - ds.length) =
        value (ds.take k) + value (c :: cs) / (10 ^ (cs.length + 1) : ℕ) := by
  obtain ⟨c, cs, rest⟩ := List.exists_cons_of_ne_nil (l := ds.drop k) (by simpa using short)
  have split : ds.take k ++ c :: cs = ds := by rw [← rest, List.take_append_drop]
  refine ⟨c, cs, rest, fun d hd => digits d (split ▸ List.mem_append_right _ hd), ?_⟩
  have length : (k : ℤ) - ds.length = -(cs.length + 1 : ℕ) := by
    have count := congrArg List.length rest
    rw [List.length_drop, List.length_cons] at count
    omega
  have number : value ds = value (ds.take k) * 10 ^ (cs.length + 1) + value (c :: cs) := by
    rw [← List.length_cons, ← value_append, split]
  rw [length, zpow_neg, zpow_natCast, number]
  push_cast
  field_simp

/-- Whether a fraction is counted as one unit, by comparing whole numbers. -/
theorem countsUp_fraction {w : ℕ} (pos : 0 < w) (k d : ℕ) :
    tie.CountsUp k (k + d / w) ↔ match tie with
      | .toEven => w < 2 * d ∨ w = 2 * d ∧ k % 2 = 1
      | .awayFromZero => w ≤ 2 * d
      | .towardZero => w < 2 * d := by
  have unit : (0 : ℚ) < w := mod_cast pos
  have more : (k + 1 / 2 : ℚ) < k + d / w ↔ w < 2 * d := by
    rw [add_lt_add_iff_left, div_lt_div_iff₀ two_pos unit, one_mul, mul_comm]
    exact_mod_cast Iff.rfl
  have least : (k + 1 / 2 : ℚ) ≤ k + d / w ↔ w ≤ 2 * d := by
    rw [add_le_add_iff_left, div_le_div_iff₀ two_pos unit, one_mul, mul_comm]
    exact_mod_cast Iff.rfl
  have half : (k + d / w : ℚ) = k + 1 / 2 ↔ w = 2 * d := by
    rw [add_right_inj, div_eq_div_iff unit.ne' two_ne_zero, one_mul, mul_comm, eq_comm]
    exact_mod_cast Iff.rfl
  cases tie with
  | toEven => exact or_congr more (and_congr_left' half)
  | awayFromZero => exact least
  | towardZero => exact more

theorem goesUp_iff (digits : ∀ d ∈ ds, d.isDigit = true) {k : ℕ} (short : k < ds.length) :
    tie.goesUp k ds = true ↔
      tie.CountsUp (value (ds.take k)) (value ds * 10 ^ ((k : ℤ) - ds.length)) := by
  obtain ⟨c, cs, rest, behind, split⟩ := exists_fraction digits short
  obtain ⟨least, more, half⟩ := half_of_first behind
  have front : ¬ (k : ℤ) < 0 := by omega
  have odd := getLast?_odd (ds.take k)
  have others := any_digitValue cs
  rw [split, countsUp_fraction (by positivity)]
  unfold Tie.goesUp
  simp only [Int.toNat_natCast, rest, front, if_false, List.headD_cons, List.tail_cons,
    decide_false, Bool.false_or]
  cases tie with
  | toEven =>
      simp only [← more, ← half, Bool.or_eq_true, Bool.and_eq_true, decide_eq_true_iff, odd, others]
      -- Only if all the other digits are zeros does it matter whether the number is odd.
      by_cases none : value cs = 0
      · simp only [none, ne_eq, not_true, false_or, and_false, or_false, and_true]
      · simp only [none, ne_eq, not_false_iff, true_or, and_true, and_false, or_false, false_and]
  | awayFromZero => simp only [← least, decide_eq_true_iff]
  | towardZero => simp only [← more, Bool.or_eq_true, Bool.and_eq_true, decide_eq_true_iff, others]

/-- In front of all digits, a unit is more than ten times the number. -/
theorem not_countsUp_of_neg (digits : ∀ d ∈ ds, d.isDigit = true) (front : keep < 0) :
    ¬ tie.CountsUp 0 (value ds * 10 ^ (keep - ds.length)) := by
  have bound : (value ds : ℚ) < 10 ^ (ds.length : ℤ) := by
    rw [zpow_natCast]
    exact_mod_cast value_lt digits
  have small : (value ds * 10 ^ (keep - ds.length) : ℚ) < (0 : ℕ) + 1 / 2 := by
    calc (value ds * 10 ^ (keep - ds.length) : ℚ)
        < 10 ^ (ds.length : ℤ) * 10 ^ (keep - ds.length) :=
          mul_lt_mul_of_pos_right bound (by positivity)
      _ = 10 ^ keep := by rw [← zpow_add₀ (by norm_num), add_sub_cancel]
      _ ≤ 10 ^ (-1 : ℤ) := zpow_le_zpow_right₀ (by norm_num) (by omega)
      _ < (0 : ℕ) + 1 / 2 := by norm_num
  cases tie with
  | toEven => exact fun up => up.elim small.not_gt fun h => small.ne h.1
  | awayFromZero => exact fun up => small.not_ge up
  | towardZero => exact fun up => small.not_gt up

/-- Nothing is left of digits that are cut off in front of all of them. -/
theorem roundDigits_of_neg (front : keep < 0) : roundDigits tie keep ds = 0 := by
  have none : tie.goesUp keep ds = false := by
    unfold Tie.goesUp
    simp only [front, if_true]
    cases tie <;> rfl
  rw [roundDigits, none, Int.toNat_of_nonpos front.le, List.take_zero]
  rfl

/-- Some digits are rounded to the unit at the cut. -/
theorem roundDigits_rounds (digits : ∀ d ∈ ds, d.isDigit = true) (short : keep < ds.length) :
    tie.Rounds (value ds * 10 ^ (keep - ds.length)) (roundDigits tie keep ds) := by
  rcases lt_or_ge keep 0 with front | inside
  · rw [roundDigits_of_neg front]
    refine Tie.rounds_of_not_countsUp ?_ (not_countsUp_of_neg digits front)
    rw [Nat.cast_zero]
    positivity
  · obtain ⟨k, rfl⟩ := Int.eq_ofNat_of_zero_le inside
    have short : k < ds.length := by omega
    obtain ⟨c, cs, -, behind, split⟩ := exists_fraction digits short
    have unit : (0 : ℚ) < (10 ^ (cs.length + 1) : ℕ) := by positivity
    have above : (value (c :: cs) / (10 ^ (cs.length + 1) : ℕ) : ℚ) < 1 := by
      rw [div_lt_one unit]
      exact_mod_cast value_lt behind
    have below : (0 : ℚ) ≤ value (c :: cs) / (10 ^ (cs.length + 1) : ℕ) := by positivity
    unfold roundDigits
    rw [Int.toNat_natCast]
    dsimp only
    split
    · next up =>
        exact Tie.rounds_of_countsUp (by rw [split]; linarith) ((goesUp_iff digits short).mp up)
    · next down =>
        exact Tie.rounds_of_not_countsUp (by rw [split]; linarith)
          fun up => down ((goesUp_iff digits short).mpr up)

end Cut

/-! ## Scaled numbers -/

namespace Scaled

variable {tie : Tie} {places : ℤ} {s : Scaled}

theorem leading_succ (s : Scaled) : s.leading + 1 = s.exponent + s.digits.length :=
  sub_add_cancel ..

/-- A number without so many places is kept. -/
theorem round?_eq_none_iff : s.round? tie places = none ↔ 0 ≤ s.exponent + places := by
  have leading := s.leading_succ
  unfold Scaled.round?
  dsimp only
  split
  · exact iff_of_true rfl (by omega)
  · exact iff_of_false (Option.some_ne_none _) (by omega)

theorem isInt_of_exponent (h : 0 ≤ s.exponent + places) : ∃ z : ℤ, s.toRat * 10 ^ places = z := by
  obtain ⟨k, hk⟩ := Int.eq_ofNat_of_zero_le h
  refine ⟨s.significand * 10 ^ k, ?_⟩
  rw [Scaled.toRat, mul_assoc, ← zpow_add₀ (by norm_num), hk, zpow_natCast]
  push_cast
  rfl

/-- Other numbers are rounded to a whole number of units. -/
theorem round?_rounds (tie : Tie) (h : s.exponent + places < 0) :
    ∃ n : ℕ, s.round? tie places = some ⟨n, -places⟩ ∧ tie.Rounds (s.toRat * 10 ^ places) n := by
  have leading := s.leading_succ
  have short : s.leading + 1 + places < s.digits.length := by omega
  refine ⟨roundDigits tie (s.leading + 1 + places) s.digits, if_neg short.not_ge, ?_⟩
  have unit : s.leading + 1 + places - s.digits.length = s.exponent + places := by omega
  have number : value s.digits = s.significand := value_digits _
  have same : s.toRat * 10 ^ places =
      value s.digits * 10 ^ (s.leading + 1 + places - s.digits.length) := by
    rw [unit, number, Scaled.toRat, zpow_add₀ (by norm_num), mul_assoc]
  rw [same]
  exact roundDigits_rounds (fun _ => isDigit_of_mem_digits) short

/-- Nothing is left of a number that is less than a tenth of a unit. -/
theorem round?_eq_zero (h : s.leading + 1 + places < 0) :
    s.round? tie places = some ⟨0, -places⟩ := by
  unfold Scaled.round?
  dsimp only
  rw [if_neg (by omega), roundDigits_of_neg h]

end Scaled

/-! ## Floats -/

section Float

variable {x : Float}

/-- The digits of a finite float are less than 400 places away from the point. -/
theorem shortest_within (number : x.isNaN = false) (finite : x.isInf = false) :
    -mostPlaces ≤ (shortest x).exponent ∧ (shortest x).leading + 1 < mostPlaces := by
  unfold mostPlaces
  induction x using float_cases with
  | nan => exact absurd number (by decide +kernel)
  | infinity s => cases s <;> exact absurd finite (by decide +kernel)
  | zero s => cases s <;> decide +kernel
  | finite x _ _ hb _ =>
      have exponent : -366 ≤ (shortest x).exponent := exponent_shortestOfBits hb
      have leading := leading_bounds hb
      omega

theorem withSign_float {b : Binary} (hb : b.Canonical) (x : Float) :
    FloatMath.withSign (hb.float .positive) x = hb.float (signPart x.toBits) := by
  have abs : (hb.float .positive).abs = hb.float .positive := by
    show Float.ofModel (.pack (Float.Model.unpack (.pack _)).abs) = _
    rw [unpack_pack hb]
    rfl
  have negative := FloatText.isNegative_eq_true x
  unfold FloatMath.withSign
  cases sign : signPart x.toBits with
  | negative => rw [negative.mpr sign, if_pos rfl, abs, FloatText.neg_float]
  | positive =>
      rw [sign] at negative
      rw [if_neg (by simpa using negative), abs]

variable (tie : Tie) (places : ℤ)

/-- Whether a finite float is kept whole, and what it is rounded to otherwise, is the same within
the limit. -/
theorem roundFinite_limitPlaces (number : x.isNaN = false) (finite : x.isInf = false) :
    ((shortest x).round? tie (limitPlaces places) = none ↔
        (shortest x).round? tie places = none) ∧
      roundFinite tie (limitPlaces places) x = roundFinite tie places x := by
  obtain ⟨exponent, leading⟩ := shortest_within number finite
  have few : 0 < mostPlaces := by decide
  rcases lt_or_ge mostPlaces places with beyond | under
  · -- There are no digits behind so many places.
    have limited : limitPlaces places = mostPlaces := by
      unfold limitPlaces
      omega
    have kept : (shortest x).round? tie mostPlaces = none :=
      Scaled.round?_eq_none_iff.mpr (by omega)
    have kept' : (shortest x).round? tie places = none :=
      Scaled.round?_eq_none_iff.mpr (by omega)
    rw [limited]
    unfold roundFinite
    rw [kept, kept']
    exact ⟨Iff.rfl, rfl⟩
  rcases lt_or_ge places (-mostPlaces) with before | inside
  · -- And none in front of so many others, where zero stays zero with every exponent.
    have limited : limitPlaces places = -mostPlaces := by
      unfold limitPlaces
      omega
    have zero : (shortest x).round? tie (-mostPlaces) = some ⟨0, - -mostPlaces⟩ :=
      Scaled.round?_eq_zero (by omega)
    have zero' : (shortest x).round? tie places = some ⟨0, -places⟩ :=
      Scaled.round?_eq_zero (by omega)
    rw [limited]
    unfold roundFinite
    rw [zero, zero']
    exact ⟨iff_of_false (Option.some_ne_none _) (Option.some_ne_none _), rfl⟩
  · have limited : limitPlaces places = places := by
      unfold limitPlaces
      omega
    rw [limited]
    exact ⟨Iff.rfl, rfl⟩

/-- A finite float is kept if the shortest decimal has no more places.  Otherwise that decimal is
rounded to a whole number of units of the last place, and the result is the float of this number
with the sign of the given one.  The limit for the places changes neither. -/
theorem roundFloat_rounds (number : x.isNaN = false) (finite : x.isInf = false) :
    ((shortest x).round? tie (limitPlaces places) = none ↔
        (shortest x).round? tie places = none) ∧
      roundFloat tie places x = roundFinite tie places x ∧
      ((shortest x).round? tie places = none ∧ roundFloat tie places x = x ∧
          (∃ z : ℤ, (shortest x).toRat * 10 ^ places = z) ∨
        ∃ n : ℕ, (shortest x).round? tie places = some ⟨n, -places⟩ ∧
          (∀ m, tie.Rounds ((shortest x).toRat * 10 ^ places) m ↔ m = n) ∧
          roundFloat tie places x = FloatMath.withSign (FloatText.ofScaled ⟨n, -places⟩) x ∧
          ∀ b : Binary, ∀ hb : b.Canonical, b.Nearest (n * 10 ^ (-places)) →
            roundFloat tie places x = hb.float (signPart x.toBits)) := by
  obtain ⟨same, limited⟩ := roundFinite_limitPlaces tie places number finite
  have unlimited : roundFloat tie places x = roundFinite tie places x := by
    rw [roundFloat, number, finite, Bool.or_self, if_neg Bool.false_ne_true, limited]
  refine ⟨same, unlimited, ?_⟩
  rw [unlimited]
  unfold roundFinite
  rcases lt_or_ge ((shortest x).exponent + places) 0 with more | whole
  · obtain ⟨n, rounded, rounds⟩ := Scaled.round?_rounds tie more
    rw [rounded]
    refine .inr ⟨n, rfl, fun m => ⟨fun h => h.unique rounds, fun h => h ▸ rounds⟩, rfl, ?_⟩
    intro b hb near
    have read := ofScaled_eq (s := ⟨n, -places⟩) hb near
    exact (congrArg (FloatMath.withSign · x) read).trans (withSign_float hb x)
  · have kept : (shortest x).round? tie places = none := Scaled.round?_eq_none_iff.mpr whole
    rw [kept]
    exact .inl ⟨rfl, rfl, Scaled.isInt_of_exponent whole⟩

end Float

/-- The digits of 1.65 lie half-way between those of 1.6 and 1.7. -/
theorem half_rounded :
    (1.65 : Float).isNaN = false ∧ (1.65 : Float).isInf = false ∧
      roundFloat .toEven 1 1.65 = 1.6 ∧ roundFloat .awayFromZero 1 1.65 = 1.7 := by
  have number : (1.65 : Float).isNaN = false := by decide +kernel
  have finite : (1.65 : Float).isInf = false := by decide +kernel
  have even : (shortest 1.65).round? .toEven 1 = some ⟨16, -1⟩ := by decide +kernel
  have away : (shortest 1.65).round? .awayFromZero 1 = some ⟨17, -1⟩ := by decide +kernel
  obtain ⟨-, down, -⟩ := roundFloat_rounds .toEven 1 number finite
  obtain ⟨-, up, -⟩ := roundFloat_rounds .awayFromZero 1 number finite
  rw [down, up]
  unfold roundFinite
  rw [even, away]
  exact ⟨number, finite, by decide +kernel, by decide +kernel⟩

end Rowwise.Decimal
