import Rowwise.Proofs.Decimal.Shortest

/-!
# Floats are read back from their texts

`Spells text v` says that a text is decimal notation for the number `v`: digits with a point among
them or not, and an exponent or none.  The two halves of the round trip meet there.  All that the
writer puts out for a decimal spells its number (`spells_positional`, `spells_scientific`), and a
text that spells a number is read as the float which the number is near to (`Spells.read?`).  With
`shortestOfBits_near` the float is the one that was written.

NaN, the infinities and the zeros have one text each, so that these are read by evaluation;
`float_cases` splits every float into them and the floats of canonical magnitudes.  The results are
`read?_valueForm` and `read?_sourceForm`.
-/

namespace Rowwise

open Decimal Float.Model Float.Model.UnpackedFloat

namespace Decimal

theorem value_append_zeros (ds : List Char) (n : ℕ) :
    value (ds ++ List.replicate n '0') = value ds * 10 ^ n := by
  induction n with
  | zero => simp
  | succ n ih =>
      have zero : digitValue '0' = 0 := rfl
      rw [List.replicate_succ', ← List.append_assoc, value_append_singleton, ih, zero]
      ring

end Decimal

namespace FloatText

/-! ## Exponents -/

/-- Exponents that are not cut off are read exactly. -/
theorem exponentValue_eq {ds : List Char} (small : value ds < 65536) :
    exponentValue ds = value ds := by
  induction ds using List.reverseRecOn with
  | nil => rfl
  | append_singleton ds c ih =>
      have last : exponentValue (ds ++ [c]) = if exponentValue ds < 65536 then
          10 * exponentValue ds + digitValue c else exponentValue ds := by
        rw [exponentValue, List.foldl_append]
        rfl
      rw [value_append_singleton] at small ⊢
      rw [last, ih (by omega), if_pos (by omega)]

theorem readExponent?_intText {n : ℤ} (small : n.natAbs < 65536) :
    readExponent? (intText n) = some n := by
  have digitsOnly (k : ℕ) : (digits k).any (fun c => !c.isDigit) = false := by
    rw [List.any_eq_false]
    intro c hc
    rw [isDigit_of_mem_digits hc]
    decide
  have nonempty (k : ℕ) : (digits k).isEmpty = false :=
    List.isEmpty_eq_false_iff.mpr (digits_ne_nil k)
  have exact (k : ℕ) (h : k < 65536) : exponentValue (digits k) = k := by
    rw [exponentValue_eq (by rwa [value_digits]), value_digits]
  cases n with
  | ofNat k =>
      obtain ⟨c, cs, h, digit⟩ := exists_digits_eq_cons k
      -- A digit comes first, so that no sign is taken away.
      have unsigned : ¬((digits k).head? = some '-' ∨ (digits k).head? = some '+') := by
        rw [h]
        rintro (same | same) <;> cases same <;> cases digit
      have positive : ¬(digits k).head? = some '-' := fun same => unsigned (.inl same)
      show readExponent? (digits k) = some (k : ℤ)
      unfold readExponent?
      simp only [if_neg unsigned, if_neg positive, nonempty, digitsOnly, exact k small]
      rfl
  | negSucc k =>
      show readExponent? ('-' :: digits (k + 1)) = some (.negSucc k)
      unfold readExponent?
      simp only [List.head?_cons, true_or, if_true, List.drop_succ_cons, List.drop_zero, nonempty,
        digitsOnly, exact (k + 1) small]
      rfl

/-! ## Decimal texts -/

/-- A point and the digits behind it, or neither. -/
inductive Point : List Char → List Char → Prop where
  | none : Point [] []
  | some (fraction : List Char) : Point ('.' :: fraction) fraction

/-- A letter and an exponent behind it, or neither. -/
inductive Ending : List Char → ℤ → Prop where
  | none : Ending [] 0
  | exponent {mark : Char} {n : ℤ} (letter : mark = 'e' ∨ mark = 'E') (small : n.natAbs < 65536) :
      Ending (mark :: intText n) n

/-- Digits, and a point with more digits if there is one, which together denote the number. -/
inductive Mantissa : List Char → ℚ → Prop where
  | intro {whole point fraction : List Char} (some : whole ≠ [])
      (digits : ∀ c ∈ whole ++ fraction, c.isDigit = true) (pointed : Point point fraction) :
      Mantissa (whole ++ point) (Scaled.toRat ⟨value (whole ++ fraction), -fraction.length⟩)

/-- A mantissa, and an exponent if there is one, which together denote the number. -/
inductive Spells : List Char → ℚ → Prop where
  | intro {mantissa ending : List Char} {w : ℚ} {e : ℤ} (digits : Mantissa mantissa w)
      (ended : Ending ending e) : Spells (mantissa ++ ending) (w * 10 ^ e)

theorem Ending.stops {ending : List Char} {e : ℤ} (h : Ending ending e) :
    ending.takeWhile Char.isDigit = [] ∧ ending.dropWhile Char.isDigit = ending := by
  cases h with
  | none => exact ⟨rfl, rfl⟩
  | exponent letter _ => rcases letter with rfl | rfl <;> exact ⟨rfl, rfl⟩

variable {text : List Char} {v : ℚ}

/-- Such a text is read as its number. -/
theorem Spells.readUnsigned? (h : Spells text v) :
    ∃ s, FloatText.readUnsigned? text = some s ∧ s.toRat = v := by
  obtain ⟨⟨nonempty, digits, pointed⟩, ended⟩ := h
  rename_i ending e whole point fraction
  have first (c : Char) (hc : c ∈ whole) := digits c (List.mem_append_left _ hc)
  have more (c : Char) (hc : c ∈ fraction) := digits c (List.mem_append_right _ hc)
  have there : whole.isEmpty = false := List.isEmpty_eq_false_iff.mpr nonempty
  obtain ⟨no, all⟩ := ended.stops
  have fractionTaken : (fraction ++ ending).takeWhile Char.isDigit = fraction := by
    rw [List.takeWhile_append_of_pos more, no, List.append_nil]
  have fractionDropped : (fraction ++ ending).dropWhile Char.isDigit = ending := by
    rw [List.dropWhile_append_of_pos more, all]
  -- The digits in front end at the point, or at what ends the text where there is none.
  have pointStops : (point ++ ending).takeWhile Char.isDigit = [] ∧
      (point ++ ending).dropWhile Char.isDigit = point ++ ending := by
    cases pointed with
    | none => exact ⟨no, all⟩
    | some => exact ⟨rfl, rfl⟩
  refine ⟨⟨value (whole ++ fraction), e - fraction.length⟩, ?_, ?_⟩
  · unfold FloatText.readUnsigned?
    rw [List.append_assoc, List.takeWhile_append_of_pos first, List.dropWhile_append_of_pos first,
      pointStops.1, pointStops.2, List.append_nil]
    simp only [there, Bool.false_and, Bool.false_eq_true, if_false]
    cases pointed with
    | none =>
        cases ended with
        | none => rfl
        | exponent letter small =>
            rcases letter with rfl | rfl <;> simp [readExponent?_intText small]
    | some =>
        simp only [List.cons_append, fractionTaken, fractionDropped]
        cases ended with
        | none => simp
        | exponent letter small =>
            rcases letter with rfl | rfl <;> simp [readExponent?_intText small]
  · rw [Scaled.toRat, Scaled.toRat, sub_eq_add_neg, add_comm, zpow_add₀ (by norm_num)]
    ring

/-! ## The texts of scaled numbers -/

theorem withPoint_digits {ds : List Char} (h : ∀ c ∈ ds, c.isDigit = true) :
    withPoint ds = ds ++ ['.', '0'] := by
  have none : ds.contains '.' = false := by
    rw [List.contains_eq_mem, decide_eq_false_iff_not]
    intro mem
    cases h _ mem
  rw [withPoint, none]
  rfl

/-- A whole number. -/
theorem mantissa_digits {ds : List Char} (nonempty : ds ≠ []) (h : ∀ c ∈ ds, c.isDigit = true) :
    Mantissa ds (value ds) := by
  have whole := Mantissa.intro nonempty (by simpa using h) .none
  simpa [Scaled.toRat] using whole

/-- A whole number with the point that makes it a FLOAT. -/
theorem mantissa_withPoint_digits {ds : List Char} (nonempty : ds ≠ [])
    (h : ∀ c ∈ ds, c.isDigit = true) : Mantissa (withPoint ds) (value ds) := by
  have digits : ∀ c ∈ ds ++ ['0'], c.isDigit = true := by
    intro c hc
    rcases List.mem_append.mp hc with hc | hc
    · exact h c hc
    · exact isDigit_zeros 1 c hc
  have pointed := Mantissa.intro nonempty digits (.some _)
  have number : Scaled.toRat ⟨value (ds ++ ['0']), -(['0'] : List Char).length⟩ = value ds := by
    have zero : value (ds ++ ['0']) = value ds * 10 ^ 1 := value_append_zeros ds 1
    have one : -((['0'] : List Char).length : ℤ) = -1 := rfl
    rw [Scaled.toRat, zero, one, zpow_neg_one]
    push_cast
    field_simp
  rw [withPoint_digits h, ← number]
  exact pointed

/-- A number that has a point already. -/
theorem mantissa_withPoint {whole fraction : List Char} (nonempty : whole ≠ [])
    (h : ∀ c ∈ whole ++ fraction, c.isDigit = true) :
    Mantissa (withPoint (whole ++ '.' :: fraction))
      (Scaled.toRat ⟨value (whole ++ fraction), -fraction.length⟩) := by
  rw [withPoint, if_pos (by simp)]
  exact .intro nonempty h (.some fraction)

/-- Positional notation denotes the number. -/
theorem mantissa_positional (s : Scaled) : Mantissa (withPoint s.positional) s.toRat := by
  have digit : ∀ c ∈ s.digits, c.isDigit = true := fun c hc => isDigit_of_mem_digits hc
  have nonempty : s.digits ≠ [] := digits_ne_nil _
  have number : value s.digits = s.significand := value_digits _
  unfold Scaled.positional
  simp only
  -- The digits stand alone, before zeros, around the point, or behind zeros.
  split_ifs with whole zero enough
  · have none : s.toRat = value s.digits := by
      rw [Scaled.toRat, number, zero, Nat.cast_zero, zero_mul]
    rw [none]
    exact mantissa_withPoint_digits nonempty digit
  · obtain ⟨n, hn⟩ := Int.eq_ofNat_of_zero_le whole
    have scaled : s.toRat = value (s.digits ++ List.replicate n '0') := by
      rw [Scaled.toRat, value_append_zeros, number, hn]
      push_cast
      rw [zpow_natCast]
    have digits : ∀ c ∈ s.digits ++ List.replicate n '0', c.isDigit = true :=
      List.forall_mem_append.mpr ⟨digit, isDigit_zeros n⟩
    rw [scaled, hn, Int.toNat_natCast]
    exact mantissa_withPoint_digits (List.append_ne_nil_of_left_ne_nil nonempty _) digits
  · obtain ⟨n, hn⟩ : ∃ n : ℕ, s.exponent = -n := ⟨(-s.exponent).toNat, by omega⟩
    have split := List.take_append_drop (s.digits.length - n) s.digits
    have places : (s.digits.drop (s.digits.length - n)).length = n := by
      rw [List.length_drop]
      rw [hn, neg_neg, Int.toNat_natCast] at enough
      omega
    have first : s.digits.take (s.digits.length - n) ≠ [] := by
      rw [ne_eq, List.take_eq_nil_iff, not_or]
      rw [hn, neg_neg, Int.toNat_natCast] at enough
      exact ⟨by omega, nonempty⟩
    have pointed := mantissa_withPoint first (split.symm ▸ digit)
    rw [split, number, places, ← hn] at pointed
    rw [hn, neg_neg, Int.toNat_natCast]
    exact pointed
  · obtain ⟨n, hn⟩ : ∃ n : ℕ, s.exponent = -n := ⟨(-s.exponent).toNat, by omega⟩
    rw [hn, neg_neg, Int.toNat_natCast] at enough ⊢
    have digits : ∀ c ∈ ['0'] ++ (List.replicate (n - s.digits.length) '0' ++ s.digits),
        c.isDigit = true :=
      List.forall_mem_append.mpr
        ⟨isDigit_zeros 1, List.forall_mem_append.mpr ⟨isDigit_zeros _, digit⟩⟩
    have pointed := mantissa_withPoint (List.cons_ne_nil _ _) digits
    have zeros : value (['0'] ++ (List.replicate (n - s.digits.length) '0' ++ s.digits)) =
        s.significand := by
      rw [← number]
      exact value_zeros_append (n - s.digits.length) s.digits
    have places : (List.replicate (n - s.digits.length) '0' ++ s.digits).length = n := by
      rw [List.length_append, List.length_replicate]
      omega
    rw [zeros, places, ← hn] at pointed
    exact pointed

/-- The mantissa of scientific notation denotes the number without its leading power of ten, with
and without a point that is not needed. -/
theorem mantissa_mantissaText (s : Scaled) :
    Mantissa s.mantissaText (s.toRat / 10 ^ s.leading) ∧
      Mantissa (withPoint s.mantissaText) (s.toRat / 10 ^ s.leading) := by
  have digit : ∀ c ∈ s.digits, c.isDigit = true := fun c hc => isDigit_of_mem_digits hc
  have number : value s.digits = s.significand := value_digits _
  -- Dividing by the leading power leaves one digit in front of the point.
  have scale (n : ℕ) (h : s.digits.length = n + 1) :
      s.toRat / 10 ^ s.leading = Scaled.toRat ⟨s.significand, -n⟩ := by
    have leading : s.leading = s.exponent + n := by
      rw [Scaled.leading, h]
      push_cast
      ring
    rw [Scaled.toRat, Scaled.toRat, leading, zpow_add₀ (by norm_num), zpow_neg]
    field_simp
  unfold Scaled.mantissaText
  cases h : s.digits with
  | nil => exact absurd h (digits_ne_nil _)
  | cons d ds =>
      rw [h] at digit number
      have length : s.digits.length = ds.length + 1 := by rw [h, List.length_cons]
      rw [scale _ length, ← number]
      cases ds with
      | nil =>
          have one : Scaled.toRat ⟨value [d], -([] : List Char).length⟩ = value [d] := by
            simp [Scaled.toRat]
          rw [one]
          exact ⟨mantissa_digits (List.cons_ne_nil _ _) digit,
            mantissa_withPoint_digits (List.cons_ne_nil _ _) digit⟩
      | cons a as =>
          have pointed := mantissa_withPoint (List.cons_ne_nil d []) digit
          have same : withPoint ([d] ++ '.' :: a :: as) = [d] ++ '.' :: a :: as := by
            rw [withPoint, if_pos (by simp)]
          have plain := pointed
          rw [same] at plain
          exact ⟨plain, pointed⟩

/-! ## Magnitudes -/

/-- A text that begins with a digit is not one of the words. -/
theorem readMagnitude?_of_digit {c : Char} (digit : c.isDigit = true) (cs : List Char) :
    readMagnitude? (c :: cs) = (FloatText.readUnsigned? (c :: cs)).map ofScaled := by
  have lower : c.toLower = c := forall_isDigit (P := fun c => c.toLower = c) (by decide) digit
  have word {w : String} {a : Char} {as : List Char} (letters : w.toList = a :: as)
      (letter : a.isDigit = false) : String.ofList ((c :: cs).map Char.toLower) ≠ w := by
    rintro rfl
    rw [String.toList_ofList, List.map_cons, lower] at letters
    rw [← (List.cons.inj letters).1, digit] at letter
    cases letter
  unfold readMagnitude?
  split
  · next same => exact absurd same (word (a := 'i') rfl rfl)
  · next same => exact absurd same (word (a := 'i') rfl rfl)
  · next same => exact absurd same (word (a := 'n') rfl rfl)
  · rfl

theorem Spells.exists_eq_cons (h : Spells text v) : ∃ c cs, text = c :: cs ∧ c.isDigit = true := by
  obtain ⟨⟨nonempty, digits, -⟩, -⟩ := h
  rename_i whole point fraction
  obtain ⟨c, cs, rfl⟩ := List.exists_cons_of_ne_nil nonempty
  exact ⟨c, _, rfl, digits c (List.mem_append_left _ (.head _))⟩

/-- A text is read as a float that its number is near to. -/
theorem Spells.readMagnitude? (h : Spells text v) {b : Binary} (hb : b.Canonical)
    (near : b.Nearest v) : FloatText.readMagnitude? text = some (hb.float .positive) := by
  obtain ⟨s, read, rfl⟩ := h.readUnsigned?
  obtain ⟨c, cs, rfl, digit⟩ := h.exists_eq_cons
  rw [readMagnitude?_of_digit digit, read, Option.map_some, ofScaled_eq hb near]

theorem Spells.read? (h : Spells text v) {b : Binary} (hb : b.Canonical) (near : b.Nearest v) :
    FloatText.read? text = some (hb.float .positive) := by
  rw [← h.readMagnitude? hb near]
  obtain ⟨c, cs, rfl, digit⟩ := h.exists_eq_cons
  unfold FloatText.read?
  split
  · next same =>
      cases same
      cases digit
  · next same =>
      cases same
      cases digit
  · rfl

theorem neg_float {b : Binary} (hb : b.Canonical) : -hb.float .positive = hb.float .negative := by
  show Float.ofModel (.pack (Float.Model.unpack (.pack _)).neg) = _
  rw [unpack_pack hb]
  rfl

/-- A minus sign changes the sign of the float. -/
theorem Spells.read?_minus (h : Spells text v) {b : Binary} (hb : b.Canonical)
    (near : b.Nearest v) : FloatText.read? ('-' :: text) = some (hb.float .negative) := by
  show (FloatText.readMagnitude? text).map (fun x => -x) = _
  rw [h.readMagnitude? hb near, Option.map_some, neg_float hb]

/-! ## Every float -/

theorem eq_pack_of_unpack {x : Float} {u : Float.Model.UnpackedFloat}
    (h : x.toModel.unpack = u) : x = .ofModel (.pack u) := by
  rw [← h, pack_unpack_model]

/-- A finite float that is not zero is the float of its canonical magnitude. -/
theorem exists_canonical {x : Float} {s : Sign} {m : ℕ} {e : ℤ} {pos : 0 < m}
    (h : x.toModel.unpack = .finite s m e pos) :
    ∃ hb : (Binary.ofBits x.toBits).Canonical, x = hb.float (signPart x.toBits) := by
  have unpacked : UnpackedFloat.unpack .binary64 x.toBits.toBitVec = .finite s m e pos := h
  have finite : exponentPart x.toBits ≠ -1#11 := by
    intro all
    have same : @unpackExponent .binary64 x.toBits.toBitVec = -1#11 := all
    unfold UnpackedFloat.unpack at unpacked
    simp only [if_pos same] at unpacked
    split_ifs at unpacked
  have nonzero : (Binary.ofBits x.toBits).mantissa ≠ 0 := by
    intro zero
    rw [unpack_bits finite, dif_pos zero] at unpacked
    cases unpacked
  have parts := unpack_bits finite
  rw [dif_neg nonzero] at parts
  exact ⟨canonical_ofBits finite nonzero, eq_pack_of_unpack parts⟩

theorem isNegative_eq_true (x : Float) : isNegative x = true ↔ signPart x.toBits = .negative := by
  have bound := x.toBits.toNat_lt
  have bit : isNegative x = true ↔ x.toBits.toNat / 2 ^ 63 = 1 := by
    rw [isNegative, beq_iff_eq, ← UInt64.toNat_inj, UInt64.toNat_shiftRight,
      Nat.shiftRight_eq_div_pow]
    rfl
  have sign : signPart x.toBits = .negative ↔ @unpackSign .binary64 x.toBits.toBitVec ≠ 0#1 := by
    rw [signPart, Sign.ofBitVec]
    split_ifs with zero
    · simp [zero]
    · simp [zero]
  rw [bit, sign, ne_eq, ← BitVec.toNat_inj, toNat_unpackSign, UInt64.toNat_toBitVec]
  show _ ↔ ¬_ = 0
  omega

/-- The leading power of ten of a finite float that is not zero. -/
theorem leading_bounds {x : Float} (hb : (Binary.ofBits x.toBits).Canonical) :
    -331 ≤ (shortest x).leading ∧ (shortest x).leading ≤ 310 := by
  have near : (Binary.ofBits x.toBits).Nearest (shortest x).toRat := shortestOfBits_near hb
  have low := Scaled.ten_zpow_leading_le (near.significand_pos hb)
  have high := (shortest x).lt_ten_zpow_leading
  have least : (10 : ℚ) ^ (-331 : ℤ) ≤ 8 * 10 ^ (-331 : ℤ) :=
    le_mul_of_one_le_left (by positivity) (by norm_num)
  have top := low.trans_lt (near.lt_ten_zpow hb)
  have bottom := (least.trans (near.ten_zpow_le hb)).trans_lt high
  rw [zpow_lt_zpow_iff_right₀ (by norm_num)] at top bottom
  omega

theorem leading_small {x : Float} (hb : (Binary.ofBits x.toBits).Canonical) :
    (shortest x).leading.natAbs < 65536 := by
  have bounds := leading_bounds hb
  omega

theorem spells_positional (s : Scaled) : Spells (withPoint s.positional) s.toRat := by
  simpa using Spells.intro (mantissa_positional s) .none

theorem spells_scientific {s : Scaled} {mark : Char} (letter : mark = 'e' ∨ mark = 'E')
    (small : s.leading.natAbs < 65536) :
    Spells (s.mantissaText ++ mark :: intText s.leading) s.toRat ∧
      Spells (withPoint s.mantissaText ++ mark :: intText s.leading) s.toRat := by
  have unit : (10 : ℚ) ^ s.leading ≠ 0 := by positivity
  obtain ⟨plain, pointed⟩ := mantissa_mantissaText s
  have h := Spells.intro plain (.exponent letter small)
  have h' := Spells.intro pointed (.exponent letter small)
  rw [div_mul_cancel₀ _ unit] at h h'
  exact ⟨h, h'⟩

/-- A sign and the text of a number that is near to the magnitude is read as the float. -/
theorem read?_signed {x : Float} (hb : (Binary.ofBits x.toBits).Canonical)
    (same : x = hb.float (signPart x.toBits)) (h : Spells text v)
    (near : (Binary.ofBits x.toBits).Nearest v) :
    FloatText.read? (signText x ++ text) = some x := by
  by_cases negative : isNegative x = true
  · rw [signText, if_pos negative]
    rw [(isNegative_eq_true x).mp negative] at same
    exact (h.read?_minus hb near).trans (congrArg some same.symm)
  · have positive : signPart x.toBits = .positive := by
      cases sign : signPart x.toBits with
      | negative => exact absurd ((isNegative_eq_true x).mpr sign) negative
      | positive => rfl
    rw [signText, if_neg negative]
    rw [positive] at same
    exact (h.read? hb near).trans (congrArg some same.symm)

/-- What holds of NaN, the infinities, the zeros and the floats of canonical magnitudes holds of
every float. -/
theorem float_cases {P : Float → Prop} (nan : P (.ofModel (.pack .notANumber)))
    (infinity : ∀ s, P (.ofModel (.pack (.infinity s)))) (zero : ∀ s, P (.ofModel (.pack (.zero s))))
    (finite : ∀ x : Float, x.isNaN = false → x.isInf = false →
      ∀ hb : (Binary.ofBits x.toBits).Canonical, x = hb.float (signPart x.toBits) → P x)
    (x : Float) : P x := by
  cases h : x.toModel.unpack with
  | infinity s => exact eq_pack_of_unpack h ▸ infinity s
  | notANumber => exact eq_pack_of_unpack h ▸ nan
  | zero s => exact eq_pack_of_unpack h ▸ zero s
  | finite s m e pos =>
      obtain ⟨hb, same⟩ := exists_canonical h
      refine finite x ?_ ?_ hb same
      · show x.toModel.unpack.isNaN = false
        rw [h]
        rfl
      · show x.toModel.unpack.isInf = false
        rw [h]
        rfl

/-- The value form of a float is read as the float. -/
theorem read?_valueForm (x : Float) : FloatText.read? (valueForm x) = some x := by
  induction x using float_cases with
  | nan => decide +kernel
  | infinity s => cases s <;> decide +kernel
  | zero s => cases s <;> decide +kernel
  | finite x number finite hb same =>
      have near : (Binary.ofBits x.toBits).Nearest (shortest x).toRat := shortestOfBits_near hb
      unfold valueForm
      simp only [number, finite, Bool.false_eq_true, if_false]
      split
      · exact read?_signed hb same (spells_positional _) near
      · rw [List.append_assoc]
        exact read?_signed hb same (spells_scientific (.inr rfl) (leading_small hb)).2 near

/-- The source form of a float is read as the float. -/
theorem read?_sourceForm (x : Float) : FloatText.read? (sourceForm x) = some x := by
  induction x using float_cases with
  | nan => decide +kernel
  | infinity s => cases s <;> decide +kernel
  | zero s => cases s <;> decide +kernel
  | finite x number finite hb same =>
      have near : (Binary.ofBits x.toBits).Nearest (shortest x).toRat := shortestOfBits_near hb
      unfold sourceForm
      simp only [number, finite, Bool.false_eq_true, if_false]
      split
      · exact read?_signed hb same (spells_positional _) near
      · rw [List.append_assoc]
        exact read?_signed hb same (spells_scientific (.inl rfl) (leading_small hb)).1 near

/-! ## Characters -/

theorem mem_intText {n : ℤ} {c : Char} (h : c ∈ intText n) : c.isDigit = true ∨ c = '-' := by
  cases n with
  | ofNat n => exact .inl (isDigit_of_mem_digits h)
  | negSucc n =>
      rcases List.mem_cons.mp h with minus | digit
      · exact .inr minus
      · exact .inl (isDigit_of_mem_digits digit)

theorem Spells.mem (h : Spells text v) {c : Char} (hc : c ∈ text) :
    c.isDigit = true ∨ c ∈ ['-', '.', 'e', 'E'] := by
  obtain ⟨⟨-, digits, pointed⟩, ended⟩ := h
  rcases List.mem_append.mp hc with hc | hc
  · rcases List.mem_append.mp hc with hc | hc
    · exact .inl (digits c (List.mem_append_left _ hc))
    · cases pointed with
      | none => cases hc
      | some fraction =>
          rcases List.mem_cons.mp hc with rfl | hc
          · exact .inr (by decide)
          · exact .inl (digits c (List.mem_append_right _ hc))
  · cases ended with
    | none => cases hc
    | exponent letter small =>
        rcases List.mem_cons.mp hc with rfl | hc
        · rcases letter with rfl | rfl <;> exact .inr (by decide)
        · rcases mem_intText hc with digit | rfl
          · exact .inl digit
          · exact .inr (by decide)

/-- The value form is made of digits and these characters. -/
theorem mem_valueForm (x : Float) :
    ∀ c ∈ valueForm x, c.isDigit = true ∨ c ∈ "-.eEINafinty".toList := by
  induction x using float_cases with
  | nan => exact List.all_iff_forall_prop.mp (by decide +kernel)
  | infinity s => cases s <;> exact List.all_iff_forall_prop.mp (by decide +kernel)
  | zero s => cases s <;> exact List.all_iff_forall_prop.mp (by decide +kernel)
  | finite x number finite hb same =>
      have signed {text : List Char} {v : ℚ} (h : Spells text v) :
          ∀ c ∈ signText x ++ text, c.isDigit = true ∨ c ∈ "-.eEINafinty".toList := by
        have letters : ∀ c ∈ ['-', '.', 'e', 'E'], c ∈ "-.eEINafinty".toList :=
          List.all_iff_forall_prop.mp (by decide)
        refine List.forall_mem_append.mpr ⟨?_, fun c hc => (h.mem hc).imp_right (letters c)⟩
        intro c hc
        unfold signText at hc
        split at hc
        · exact List.mem_singleton.mp hc ▸ .inr (by decide)
        · cases hc
      unfold valueForm
      simp only [number, finite, Bool.false_eq_true, if_false]
      split
      · exact signed (spells_positional _)
      · rw [List.append_assoc]
        exact signed (spells_scientific (.inr rfl) (leading_small hb)).2

end FloatText

end Rowwise
