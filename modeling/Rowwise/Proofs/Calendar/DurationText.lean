import Rowwise.Proofs.Calendar.Designators

/-!
# Durations are read back from their texts

The text of a duration regroups its nanoseconds into hours, minutes and seconds with a fraction,
leaves out the parts that are zero and puts the sign in front of each of the others.  The reader
takes up the parts one by one and adds checked durations.  All parts have one sign, so that every
partial sum lies between zero and the duration and is within the limit: `addDesignators?_optional`
is the step for a part that may be left out, and `addDesignators?_parts` the sum.

The fraction comes without the zeros at its end.  The reader pads it to nine digits again, which are
those that were written (`fraction_padded`).
-/

namespace Rowwise

open Decimal

namespace Duration

/-! ## Parts -/

/-- The sign of every part. -/
def sign (negative : Bool) : List Char := if negative then ['-'] else []

/-- The part of a text for a number of hours or minutes, none for zero. -/
def part (negative : Bool) (n : ℕ) (unit : Char) : List (List Char × Char) :=
  if n = 0 then [] else [(sign negative ++ digits n, unit)]

/-- The seconds of a text with their fraction. -/
def secondsText (seconds nanos : ℕ) : List Char :=
  digits seconds ++ if nanos = 0 then [] else fractionText nanos

/-- The part of a text for the seconds, none for zero. -/
def secondsPart (negative : Bool) (seconds nanos : ℕ) : List (List Char × Char) :=
  if seconds = 0 ∧ nanos = 0 then [] else [(sign negative ++ secondsText seconds nanos, 'S')]

/-- The parts of the text of a duration. -/
def parts (d : Duration) : List (List Char × Char) :=
  let negative : Bool := d.nanos < 0
  let seconds := d.nanos.natAbs / nanosPerSecond
  part negative (seconds / 3600) 'H' ++ part negative (seconds % 3600 / 60) 'M' ++
    secondsPart negative (seconds % 60) (d.nanos.natAbs % nanosPerSecond)

theorem text_eq {d : Duration} (h : d.nanos ≠ 0) : d.text = 'P' :: 'T' :: spelled d.parts := by
  have one (n : ℕ) (unit : Char) : spelled (part (d.nanos < 0) n unit) =
      if n = 0 then [] else (if d.nanos < 0 then ['-'] else []) ++ digits n ++ [unit] := by
    unfold part
    split
    · rfl
    · simp [spelled, sign]
  have last (s n : ℕ) : spelled (secondsPart (d.nanos < 0) s n) =
      if s = 0 ∧ n = 0 then [] else (if d.nanos < 0 then ['-'] else []) ++ digits s ++
        (if n = 0 then [] else fractionText n) ++ ['S'] := by
    unfold secondsPart
    split
    · rfl
    · simp [spelled, sign, secondsText]
  rw [text, if_neg h, parts]
  simp only [spelled_append, one, last]

/-! ## Reading an amount -/

/-- A number of nanoseconds with a sign. -/
def signed (negative : Bool) (n : ℕ) : ℤ := if negative then -n else n

@[simp] theorem natAbs_signed (negative : Bool) (n : ℕ) : (signed negative n).natAbs = n := by
  cases negative <;> simp [signed]

theorem signed_add (negative : Bool) (a b : ℕ) :
    signed negative (a + b) = signed negative a + signed negative b := by
  cases negative
  · exact Nat.cast_add a b
  · simp [signed]
    ring

theorem signed_mul (negative : Bool) (a b : ℕ) :
    signed negative (a * b) = signed negative a * b := by
  cases negative <;> simp [signed]

/-- A word that fits. -/
theorem exists_word {z : ℤ} (small : z.natAbs < 2 ^ 63) :
    ∃ k, Integer.ofInt? z = some k ∧ k.toInt = z := by
  obtain ⟨k, word⟩ := Integer.exists_ofInt? (n := z) (by omega) (by omega)
  exact ⟨k, word, Integer.ofInt?_eq_some.mp word⟩

/-- A whole amount with a sign is read as an integer. -/
theorem read?_signed (negative : Bool) {n : ℕ} (small : n < 2 ^ 63) :
    ∃ k, Integer.read? (sign negative ++ digits n) = some k ∧ k.toInt = signed negative n := by
  have read : readInt? (sign negative ++ digits n) = some (signed negative n) := by
    cases negative with
    | false => exact readInt?_digits n
    | true =>
        show (readNat? (digits n)).map (fun m => -(m : ℤ)) = _
        rw [readNat?_digits]
        rfl
  obtain ⟨k, hk, value⟩ : ∃ k, Integer.ofInt? (signed negative n) = some k ∧
      k.toInt = signed negative n := by
    apply exists_word
    cases negative <;> simpa [signed] using small
  exact ⟨k, by rw [Integer.read?, read, Option.bind_some, hk], value⟩

/-- The zeros that the text of a fraction leaves out are padded back. -/
theorem fraction_padded {n : ℕ} (pos : 0 < n) (small : n < nanosPerSecond) :
    ∃ ds, fractionText n = '.' :: ds ∧ ds ≠ [] ∧ ds.length ≤ 9 ∧
      ds ++ List.replicate (9 - ds.length) '0' = zeroPadded 9 n := by
  obtain ⟨ds, zeros, text, padded, all⟩ : ∃ ds zeros, fractionText n = '.' :: ds ∧
      ds ++ zeros = zeroPadded 9 n ∧ ∀ c ∈ zeros, c = '0' := by
    refine ⟨_, ((zeroPadded 9 n).reverse.takeWhile (· == '0')).reverse, rfl, ?_, fun c hc => ?_⟩
    · rw [← List.reverse_append, List.takeWhile_append_dropWhile, List.reverse_reverse]
    · exact eq_of_beq (List.all_eq_true.mp List.all_takeWhile c (List.mem_reverse.mp hc))
  have length : ds.length + zeros.length = 9 := by
    rw [← List.length_append, padded, length_zeroPadded (by decide) small]
  have replicated : zeros = List.replicate (9 - ds.length) '0' :=
    List.eq_replicate_iff.mpr ⟨by omega, all⟩
  refine ⟨ds, text, ?_, by omega, replicated ▸ padded⟩
  rintro rfl
  have none : value (zeroPadded 9 n) = 0 := by
    rw [← padded, replicated, List.nil_append, ← List.append_nil (List.replicate _ _),
      value_zeros_append]
    rfl
  rw [value_zeroPadded] at none
  omega

/-! ## Reading seconds -/

theorem exists_duration {z : ℤ} (h : z.natAbs ≤ durationLimit) :
    ∃ d, ofNanos? z = some d ∧ d.nanos = z := ⟨⟨z, h⟩, dif_pos h, rfl⟩

/-- The digits before and behind the point, and what the latter are padded to. -/
theorem split_secondsText (s : ℕ) {n : ℕ} (small : n < nanosPerSecond) :
    ∃ ds, (Text.splitOnce '.' (secondsText s n)).getD (secondsText s n, []) = (digits s, ds) ∧
      ds.length ≤ 9 ∧ ∃ k : Int64, k.toInt = n ∧ (ds.isEmpty = true ∧ k = 0 ∨ ds.isEmpty = false ∧
        Integer.read? (ds ++ List.replicate (9 - ds.length) '0') = some k) := by
  have none : ∀ c ∈ digits s, (c != '.') = true := fun c hc =>
    forall_isDigit (P := fun c => (c != '.') = true) (by decide) (isDigit_of_mem_digits hc)
  rcases Nat.eq_zero_or_pos n with rfl | pos
  · refine ⟨[], ?_, Nat.zero_le _, 0, rfl, .inl ⟨rfl, rfl⟩⟩
    rw [secondsText, if_pos rfl, Text.splitOnce, List.dropWhile_append_of_pos none,
      List.append_nil]
    rfl
  · obtain ⟨ds, text, nonempty, length, padded⟩ := fraction_padded pos small
    have there : ds.isEmpty = false := List.isEmpty_eq_false_iff.mpr nonempty
    have bound : n < 1000000000 := small
    have full : zeroPadded 9 n ≠ [] := List.append_ne_nil_of_right_ne_nil _ (digits_ne_nil n)
    obtain ⟨k, word, value⟩ : ∃ k, Integer.ofInt? n = some k ∧ k.toInt = n :=
      exists_word (by omega)
    refine ⟨ds, ?_, length, k, value, .inr ⟨there, ?_⟩⟩
    · rw [secondsText, if_neg pos.ne', text, Text.splitOnce, List.dropWhile_append_of_pos none,
        List.takeWhile_append_of_pos none]
      simp
    · rw [padded, Integer.read?, readInt?_eq_value full (isDigit_zeroPadded 9 n),
        value_zeroPadded]
      exact word

/-- Seconds with a sign and a fraction are read exactly. -/
theorem readSeconds?_eq (negative : Bool) {s n : ℕ} (hs : s < 60) (hn : n < nanosPerSecond) :
    ∃ d, readSeconds? (sign negative ++ secondsText s n) = some d ∧
      d.nanos = signed negative (s * nanosPerSecond + n) := by
  have one : nanosPerSecond = 1000000000 := rfl
  have limit : 60000000000 ≤ durationLimit := by decide
  rw [one] at hn
  obtain ⟨ds, parts, length, k, hk, nanos⟩ := split_secondsText s hn
  obtain ⟨j, seconds, hj⟩ := read?_signed false (n := s) (by omega)
  obtain ⟨a, ha, whole⟩ : ∃ a, ofSeconds? j.toInt = some a ∧ a.nanos = s * 1000000000 :=
    hj ▸ exists_duration (by simp only [signed, one]; omega)
  obtain ⟨b, hb, fraction⟩ : ∃ b, ofNanos? k.toInt = some b ∧ b.nanos = n :=
    hk ▸ exists_duration (by omega)
  obtain ⟨d, hd, sum⟩ : ∃ d, a.add? b = some d ∧ d.nanos = s * 1000000000 + n := by
    rw [add?, whole, fraction]
    exact exists_duration (by omega)
  -- The sign stands before the whole and is applied to the sum.
  have short : ¬ds.length > 9 := by omega
  have seconds : Integer.read? (digits s) = some j := seconds
  refine ⟨if negative then d.neg else d, ?_, ?_⟩
  · unfold readSeconds?
    cases negative with
    | true =>
        simp only [sign, if_true, List.cons_append, List.nil_append, parts, if_neg short, seconds]
        rcases nanos with ⟨empty, rfl⟩ | ⟨there, nanos⟩
        · rw [Int64.toInt_zero] at hb
          simp [empty, ha, hb, hd]
        · simp [there, nanos, ha, hb, hd]
    | false =>
        simp only [sign, Bool.false_eq_true, if_false, List.nil_append]
        split
        · next minus =>
            obtain ⟨c, cs, same, digit⟩ := exists_digits_eq_cons s
            rw [secondsText, same] at minus
            cases minus
            cases digit
        · simp only [parts, if_neg short, seconds]
          rcases nanos with ⟨empty, rfl⟩ | ⟨there, nanos⟩
          · rw [Int64.toInt_zero] at hb
            simp [empty, ha, hb, hd]
          · simp [there, nanos, ha, hb, hd]
  · cases negative <;> simp [neg, sum, signed, one]

/-! ## Adding up the parts -/

/-- A part that may be missing adds its value to the total. -/
theorem addDesignators?_optional {read : List Char × Char → Option Duration} {t : Duration}
    {ps : List (List Char × Char)} {p : List Char × Char} {negative : Bool} {a c : ℕ}
    (total : t.nanos = signed negative a) (bound : a + c ≤ durationLimit)
    (shape : ps = [] ∧ c = 0 ∨ ps = [p] ∧ ∃ v, read p = some v ∧ v.nanos = signed negative c) :
    ∃ u, addDesignators? read t ps = some u ∧ u.nanos = signed negative (a + c) := by
  rcases shape with ⟨rfl, rfl⟩ | ⟨rfl, v, hv, value⟩
  · exact ⟨t, rfl, total⟩
  · have sum : t.nanos + v.nanos = signed negative (a + c) := by rw [total, value, signed_add]
    obtain ⟨u, hu, nanos⟩ := exists_duration (z := t.nanos + v.nanos)
      (by rwa [sum, natAbs_signed])
    refine ⟨u, ?_, nanos.trans sum⟩
    simp [addDesignators?, hv, add?, hu]

theorem addDesignators?_append (read : List Char × Char → Option Duration) (t : Duration)
    (ps qs : List (List Char × Char)) : addDesignators? read t (ps ++ qs) =
      (addDesignators? read t ps).bind fun u => addDesignators? read u qs := List.foldlM_append ..

theorem part_shape (negative : Bool) (n : ℕ) (unit : Char) {factor : ℕ} {of? : ℤ → Option Duration}
    (reads : ∀ amount, ofTimeDesignator? (amount, unit) =
      (Integer.read? amount).bind fun k => of? k.toInt)
    (nanos : ∀ z, of? z = ofNanos? (z * factor)) (bound : n * factor ≤ durationLimit)
    (small : n < 2 ^ 63) :
    part negative n unit = [] ∧ n * factor = 0 ∨
      part negative n unit = [(sign negative ++ digits n, unit)] ∧
        ∃ v, ofTimeDesignator? (sign negative ++ digits n, unit) = some v ∧
          v.nanos = signed negative (n * factor) := by
  unfold part
  split
  · next zero => exact .inl ⟨rfl, by rw [zero, Nat.zero_mul]⟩
  · obtain ⟨k, read, value⟩ := read?_signed negative small
    obtain ⟨v, hv, hn⟩ := exists_duration (z := signed negative (n * factor))
      (by rwa [natAbs_signed])
    refine .inr ⟨rfl, v, ?_, hn⟩
    rw [reads, read, Option.bind_some, nanos, value, ← signed_mul, hv]

theorem secondsPart_shape (negative : Bool) {s n : ℕ} (hs : s < 60) (hn : n < nanosPerSecond) :
    secondsPart negative s n = [] ∧ s * nanosPerSecond + n = 0 ∨
      secondsPart negative s n = [(sign negative ++ secondsText s n, 'S')] ∧
        ∃ v, ofTimeDesignator? (sign negative ++ secondsText s n, 'S') = some v ∧
          v.nanos = signed negative (s * nanosPerSecond + n) := by
  unfold secondsPart
  split
  · next zero => exact .inl ⟨rfl, by rw [zero.1, zero.2, Nat.zero_mul]⟩
  · exact .inr ⟨rfl, readSeconds?_eq negative hs hn⟩

/-- The parts of a duration add up to it. -/
theorem addDesignators?_parts (d : Duration) :
    addDesignators? ofTimeDesignator? zero d.parts = some d := by
  have bounded := d.bounded
  have one : nanosPerSecond = 1000000000 := rfl
  have limit : durationLimit = 9223372036854775807000000 := rfl
  obtain ⟨negative, hneg⟩ : ∃ negative : Bool, negative = decide (d.nanos < 0) := ⟨_, rfl⟩
  obtain ⟨t, ht⟩ : ∃ t, t = d.nanos.natAbs / nanosPerSecond := ⟨_, rfl⟩
  obtain ⟨n, hn⟩ : ∃ n, n = d.nanos.natAbs % nanosPerSecond := ⟨_, rfl⟩
  have parts : d.parts = part negative (t / 3600) 'H' ++ part negative (t % 3600 / 60) 'M' ++
      secondsPart negative (t % 60) n := by
    rw [hneg, ht, hn]
    rfl
  have total : t / 3600 * 3600000000000 + t % 3600 / 60 * 60000000000 +
      (t % 60 * nanosPerSecond + n) = d.nanos.natAbs := by
    rw [one] at ht hn ⊢
    omega
  have hours (z : ℤ) : ofHours? z = ofNanos? (z * (3600000000000 : ℕ)) := by
    rw [ofHours?, ofSeconds?, one, mul_assoc]
    rfl
  have minutes (z : ℤ) : ofMinutes? z = ofNanos? (z * (60000000000 : ℕ)) := by
    rw [ofMinutes?, ofSeconds?, one, mul_assoc]
    rfl
  -- Each partial sum has the sign of the duration and does not go beyond it.
  have start : zero.nanos = signed negative 0 := by cases negative <;> rfl
  obtain ⟨u₁, h₁, s₁⟩ := addDesignators?_optional start (by omega)
    (part_shape negative (t / 3600) 'H' (fun _ => rfl) hours (by omega) (by omega))
  obtain ⟨u₂, h₂, s₂⟩ := addDesignators?_optional s₁ (by omega)
    (part_shape negative (t % 3600 / 60) 'M' (fun _ => rfl) minutes (by omega) (by omega))
  obtain ⟨u₃, h₃, s₃⟩ := addDesignators?_optional s₂ (by omega)
    (secondsPart_shape negative (Nat.mod_lt t (by decide)) (hn ▸ Nat.mod_lt _ (by decide)))
  have same : u₃ = d := by
    ext
    rw [s₃, Nat.zero_add, total, hneg, signed]
    by_cases below : d.nanos < 0
    · rw [decide_eq_true below, if_pos rfl]
      omega
    · rw [decide_eq_false below, if_neg Bool.false_ne_true]
      omega
  rw [parts, addDesignators?_append, addDesignators?_append, h₁, Option.bind_some, h₂,
    Option.bind_some, h₃, same]

/-! ## The text of a duration -/

theorem mem_sign {negative : Bool} {c : Char} (h : c ∈ sign negative) : c = '-' := by
  cases negative with
  | false => cases h
  | true => exact List.mem_singleton.mp h

theorem mem_fractionText {n : ℕ} {c : Char} (h : c ∈ fractionText n) :
    c.isDigit = true ∨ c = '.' := by
  rcases List.mem_cons.mp h with point | digit
  · exact .inr point
  · have mem := (List.dropWhile_sublist _).subset (List.mem_reverse.mp digit)
    exact .inl (isDigit_zeroPadded 9 n c (List.mem_reverse.mp mem))

theorem mem_secondsText {s n : ℕ} {c : Char} (h : c ∈ secondsText s n) :
    c.isDigit = true ∨ c = '.' := by
  rcases List.mem_append.mp h with digit | fraction
  · exact .inl (isDigit_of_mem_digits digit)
  · split at fraction
    · cases fraction
    · exact mem_fractionText fraction

/-- The parts of a duration are amounts with letters, in the characters of durations. -/
theorem isPart_of_mem_parts {d : Duration} {p : List Char × Char} (h : p ∈ d.parts) :
    IsPart p ∧ (∀ c ∈ p.1, IsIsoChar c) ∧ IsIsoChar p.2 := by
  have amount {negative : Bool} {t : List Char} {unit : Char} (some : t ≠ [])
      (all : ∀ c ∈ t, c.isDigit = true ∨ c = '.') (letter : unit ∈ "HMS".toList) :
      IsPart (sign negative ++ t, unit) ∧ (∀ c ∈ sign negative ++ t, IsIsoChar c) ∧
        IsIsoChar unit := by
    have letters : ∀ unit ∈ "HMS".toList, isAmount unit = false ∧ unit ∈ "-.PTHMSYD".toList :=
      List.all_iff_forall_prop.mp (by decide)
    obtain ⟨ends, iso⟩ := letters unit letter
    refine ⟨⟨List.append_ne_nil_of_right_ne_nil _ some, fun c hc => ?_, ends⟩, fun c hc => ?_,
      .inr iso⟩
    · rcases List.mem_append.mp hc with minus | hc
      · exact mem_sign minus ▸ rfl
      · rcases all c hc with digit | rfl
        · exact isAmount_of_isDigit digit
        · rfl
    · rcases List.mem_append.mp hc with minus | hc
      · exact mem_sign minus ▸ .inr (by decide)
      · rcases all c hc with digit | rfl
        · exact .inl digit
        · exact .inr (by decide)
  have whole {negative : Bool} {n : ℕ} {unit : Char} (letter : unit ∈ "HMS".toList)
      (hp : p ∈ part negative n unit) :
      IsPart p ∧ (∀ c ∈ p.1, IsIsoChar c) ∧ IsIsoChar p.2 := by
    unfold part at hp
    split at hp
    · cases hp
    · rw [List.mem_singleton.mp hp]
      exact amount (digits_ne_nil n) (fun c hc => .inl (isDigit_of_mem_digits hc)) letter
  -- Hours and minutes are whole, and only the seconds may have a fraction.
  rcases List.mem_append.mp h with h | h
  · rcases List.mem_append.mp h with h | h
    · exact whole (by decide) h
    · exact whole (by decide) h
  · unfold secondsPart at h
    split at h
    · cases h
    · rw [List.mem_singleton.mp h]
      exact amount (List.append_ne_nil_of_left_ne_nil (digits_ne_nil _) _)
        (fun c hc => mem_secondsText hc) (by decide)

/-- The text of a duration is read as the duration. -/
theorem read?_text (d : Duration) : read? d.text = some d := by
  by_cases h : d.nanos = 0
  · have none : d = zero := Duration.ext h
    rw [none]
    decide +kernel
  have sum := addDesignators?_parts d
  have split : designators (spelled d.parts) = some d.parts :=
    designators_spelled fun p hp => (isPart_of_mem_parts hp).1
  have chars : ∀ c ∈ 'T' :: spelled d.parts, IsIsoChar c :=
    List.forall_mem_cons.mpr ⟨.inr (by decide),
      isIsoChar_spelled fun p hp => (isPart_of_mem_parts hp).2⟩
  have there : spelled d.parts ≠ [] := by
    intro none
    rw [none] at split
    rw [← Option.some.inj split] at sum
    exact h (congrArg nanos (Option.some.inj sum)).symm
  have time : Text.splitOnce 'T' ('T' :: spelled d.parts) = some ([], spelled d.parts) := rfl
  have date : designators [] = some [] := rfl
  have none : addDesignators? ofDayDesignator? zero [] = some zero := rfl
  rw [text_eq h, read?, signAndBody_eq chars]
  simp [time, there, date, none, split, sum]

end Duration

end Rowwise
