import Rowwise.Integer
import Mathlib.Algebra.Group.Nat.Defs
import Mathlib.Data.List.Induction

/-!
# Decimal digits are read as the number that they write

The digits of a number are never none, all of them are digits, and their value is the number.
Whatever reads digits therefore finds what was written, with a sign or without, and with zeros in
front.  Of digits that are cut off at the end the others write the quotient (`value_take`).
-/

namespace Rowwise

namespace Decimal

theorem digits_ne_nil (n : Nat) : digits n ≠ [] := Nat.toDigits_ne_nil

theorem isDigit_of_mem_digits {n : Nat} {c : Char} (h : c ∈ digits n) : c.isDigit = true :=
  Nat.isDigit_of_mem_toDigits (by decide) (by decide) h

@[simp] theorem value_digits (n : Nat) : value (digits n) = n := by
  calc value (digits n) = Nat.ofDigitChars 10 (digits n) 0 := Nat.ofDigitChars_eq_foldl.symm
    _ = n := Nat.ofDigitChars_ten_toDigits

/-- Digits are read as their value. -/
theorem readNat?_eq_value {ds : List Char} (nonempty : ds ≠ [])
    (all : ∀ c ∈ ds, c.isDigit = true) : readNat? ds = some (value ds) := by
  have there : ds.isEmpty = false := List.isEmpty_eq_false_iff.mpr nonempty
  have digit : ds.any (fun c => !c.isDigit) = false := by
    rw [List.any_eq_false]
    intro c hc
    rw [all c hc]
    decide
  rw [readNat?, there, digit]
  rfl

@[simp] theorem readNat?_digits (n : Nat) : readNat? (digits n) = some n := by
  rw [readNat?_eq_value (digits_ne_nil n) fun c => isDigit_of_mem_digits, value_digits]

/-- What holds of the ten digits holds of every digit. -/
theorem forall_isDigit {P : Char → Prop} (h : ∀ n : Fin 10, P (Char.ofNat (48 + n))) {c : Char}
    (digit : c.isDigit = true) : P c := by
  have bounds : 48 ≤ c.toNat ∧ c.toNat ≤ 57 := Char.isDigit_iff_toNat.mp digit
  have same : Char.ofNat (48 + (c.toNat - 48)) = c := by
    rw [show 48 + (c.toNat - 48) = c.toNat by omega, Char.ofNat_toNat]
  rw [← same]
  exact h ⟨c.toNat - 48, by omega⟩

/-- Digits begin with no sign. -/
theorem exists_digits_eq_cons (n : Nat) : ∃ c cs, digits n = c :: cs ∧ c.isDigit = true := by
  cases h : digits n with
  | nil => exact absurd h (digits_ne_nil n)
  | cons c cs =>
      have mem : c ∈ digits n := by
        rw [h]
        exact .head _
      exact ⟨c, cs, rfl, isDigit_of_mem_digits mem⟩

theorem readInt?_eq_value {ds : List Char} (nonempty : ds ≠ [])
    (all : ∀ c ∈ ds, c.isDigit = true) : readInt? ds = some (value ds : Int) := by
  have read : readInt? ds = (readNat? ds).map Int.ofNat := by
    -- The first character is a digit, and neither sign is one.
    unfold readInt?
    split
    · cases all '+' (.head _)
    · cases all '-' (.head _)
    · rfl
  rw [read, readNat?_eq_value nonempty all]
  rfl

theorem readInt?_digits (n : Nat) : readInt? (digits n) = some (n : Int) := by
  rw [readInt?_eq_value (digits_ne_nil n) fun c => isDigit_of_mem_digits, value_digits]

@[simp] theorem readInt?_intText (n : Int) : readInt? (intText n) = some n := by
  cases n with
  | ofNat n => exact readInt?_digits n
  | negSucc n =>
      show (readNat? (digits (n + 1))).map (fun m => -(m : Int)) = some (.negSucc n)
      rw [readNat?_digits]
      rfl

/-! ## Zeros in front -/

theorem isDigit_zeros (n : Nat) : ∀ c ∈ List.replicate n '0', c.isDigit = true := by
  intro c hc
  rw [List.eq_of_mem_replicate hc]
  rfl

theorem value_zeros_append (n : Nat) (ds : List Char) :
    value (List.replicate n '0' ++ ds) = value ds := by
  induction n with
  | zero => rfl
  | succ n ih => exact ih

section Padded

variable (width n : Nat)

theorem zeroPadded_ne_nil : zeroPadded width n ≠ [] :=
  List.append_ne_nil_of_right_ne_nil _ (digits_ne_nil n)

theorem isDigit_zeroPadded : ∀ c ∈ zeroPadded width n, c.isDigit = true :=
  List.forall_mem_append.mpr ⟨isDigit_zeros _, fun _ => isDigit_of_mem_digits⟩

theorem value_zeroPadded : value (zeroPadded width n) = n := by
  rw [zeroPadded, value_zeros_append, value_digits]

variable {width n}

theorem length_zeroPadded (pos : 0 < width) (small : n < 10 ^ width) :
    (zeroPadded width n).length = width := by
  have short : (digits n).length ≤ width :=
    (Nat.length_toDigits_le_iff (by decide) pos).mpr small
  simp only [zeroPadded, List.length_append, List.length_replicate]
  omega

/-- A number that is too large for its width has the digits that it needs. -/
theorem length_zeroPadded_succ (pos : 0 < width) (large : 10 ^ width ≤ n)
    (small : n < 10 ^ (width + 1)) : (zeroPadded width n).length = width + 1 := by
  have short : (digits n).length ≤ width + 1 :=
    (Nat.length_toDigits_le_iff (by decide) (Nat.succ_pos width)).mpr small
  have long : ¬(digits n).length ≤ width := fun h =>
    Nat.not_lt.mpr large ((Nat.length_toDigits_le_iff (by decide) pos).mp h)
  simp only [zeroPadded, List.length_append, List.length_replicate]
  omega

end Padded

/-! ## The first of some digits -/

theorem digitValue_lt {c : Char} (digit : c.isDigit = true) : digitValue c < 10 :=
  forall_isDigit (P := fun c => digitValue c < 10) (by decide) digit

section Digits

variable {ds : List Char} (digits : ∀ c ∈ ds, c.isDigit = true)
include digits

theorem value_lt : value ds < 10 ^ ds.length := by
  induction ds using List.reverseRecOn with
  | nil => decide
  | append_singleton ds c ih =>
      have before := ih fun d hd => digits d (List.mem_append_left _ hd)
      have last := digitValue_lt (digits c (List.mem_append_right _ (.head _)))
      rw [value_append_singleton, List.length_append, List.length_singleton, Nat.pow_succ]
      omega

theorem value_take (k : Nat) : value (ds.take k) = value ds / 10 ^ (ds.length - k) := by
  induction ds using List.reverseRecOn with
  | nil => simp
  | append_singleton ds c ih =>
      have before := ih fun d hd => digits d (List.mem_append_left _ hd)
      have last := digitValue_lt (digits c (List.mem_append_right _ (.head _)))
      rw [List.length_append, List.length_singleton]
      by_cases h : k ≤ ds.length
      · rw [List.take_append_of_le_length h, before, value_append_singleton,
          Nat.succ_sub h, Nat.pow_succ', ← Nat.div_div_eq_div_mul,
          show (10 * value ds + digitValue c) / 10 = value ds by omega]
      · rw [List.take_of_length_le (by rw [List.length_append, List.length_singleton]; omega),
          show ds.length + 1 - k = 0 by omega, Nat.pow_zero, Nat.div_one]

end Digits

end Decimal

/-- The text of a word is read as the word. -/
@[simp] theorem Integer.read?_text (n : Int64) : read? (Decimal.intText n.toInt) = some n := by
  rw [read?, Decimal.readInt?_intText, Option.bind_some, ofInt?_toInt]

@[simp] theorem Word32.read?_text (n : Int32) : read? (Decimal.intText n.toInt) = some n := by
  rw [read?, Decimal.readInt?_intText, Option.bind_some, ofInt?_toInt]

end Rowwise
