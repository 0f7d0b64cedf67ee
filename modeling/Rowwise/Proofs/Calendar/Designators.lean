import Rowwise.Calendar.Designators
import Rowwise.Proofs.Decimal.FloatText

/-!
# Amounts with letters of their units

Durations and periods are written as amounts with the letters of their units (`spelled`).  Letters
are no characters of amounts, so that `designators` splits such a text into just the amounts it was
put together from (`designators_spelled`).  Neither blanks nor small letters occur in it: what the
reader trims and capitalises at first is left as it was (`signAndBody_eq`).

For periods that is nearly all.  Every part that is not zero is added to the units of its own, each
of which is still zero (`foldlM_parts`), and nothing can overflow.
-/

namespace Rowwise

open Decimal

/-! ## Splitting -/

/-- The characters of an amount. -/
def isAmount (c : Char) : Bool := c.isDigit || c == '-' || c == '+' || c == '.'

/-- The text of amounts with the letters that follow them. -/
def spelled (parts : List (List Char × Char)) : List Char := parts.flatMap fun p => p.1 ++ [p.2]

@[simp] theorem spelled_append (ps qs : List (List Char × Char)) :
    spelled (ps ++ qs) = spelled ps ++ spelled qs := List.flatMap_append

/-- An amount is not empty, and only the letter ends it. -/
structure IsPart (p : List Char × Char) : Prop where
  nonempty : p.1 ≠ []
  amount : ∀ c ∈ p.1, isAmount c = true
  letter : isAmount p.2 = false

theorem designatorsFrom_append {unit : Char} (letter : isAmount unit = false) (rest : List Char)
    {amount : List Char} (all : ∀ c ∈ amount, isAmount c = true) {before : List Char}
    (nonempty : before.reverse ++ amount ≠ []) :
    designatorsFrom before (amount ++ unit :: rest) =
      (designatorsFrom [] rest).map ((before.reverse ++ amount, unit) :: ·) := by
  induction amount generalizing before with
  | nil =>
      have some : before.isEmpty = false := by
        rw [List.isEmpty_eq_false_iff]
        rintro rfl
        exact nonempty rfl
      have stop : ¬(unit.isDigit || unit == '-' || unit == '+' || unit == '.') = true :=
        Bool.eq_false_iff.mp letter
      rw [List.nil_append, designatorsFrom, if_neg stop, some, List.append_nil]
      rfl
  | cons c cs ih =>
      have goes : (c.isDigit || c == '-' || c == '+' || c == '.') = true := all c (.head _)
      rw [List.cons_append, designatorsFrom, if_pos goes,
        ih (fun a ha => all a (.tail _ ha)) (by simp), List.reverse_cons, List.append_assoc]
      rfl

/-- Amounts and letters are split as they were put together. -/
theorem designators_spelled {parts : List (List Char × Char)} (h : ∀ p ∈ parts, IsPart p) :
    designators (spelled parts) = some parts := by
  induction parts with
  | nil => rfl
  | cons p ps ih =>
      obtain ⟨nonempty, amount, letter⟩ := h p (.head _)
      have rest := ih fun q hq => h q (.tail _ hq)
      have text : spelled (p :: ps) = p.1 ++ p.2 :: spelled ps := by
        simp [spelled]
      rw [designators] at rest
      rw [designators, text, designatorsFrom_append letter _ amount (by simpa using nonempty), rest]
      rfl

/-! ## Texts that are kept as they are -/

theorem dropWhile_isBlank {s : List Char} (h : ∀ c ∈ s, Text.isBlank c = false) :
    s.dropWhile Text.isBlank = s := by
  cases s with
  | nil => rfl
  | cons c cs =>
      rw [List.dropWhile_cons_of_neg]
      rw [h c (.head _)]
      exact Bool.false_ne_true

/-- There is nothing to trim without blanks. -/
theorem trim_eq {s : List Char} (h : ∀ c ∈ s, Text.isBlank c = false) : Text.trim s = s := by
  have reversed : ∀ c ∈ s.reverse, Text.isBlank c = false := fun c hc => h c (by simpa using hc)
  rw [Text.trim, Text.trimStart, dropWhile_isBlank h, Text.trimEnd, dropWhile_isBlank reversed,
    List.reverse_reverse]

/-- Digits, signs, points and the letters of durations and periods. -/
def IsIsoChar (c : Char) : Prop := c.isDigit = true ∨ c ∈ "-.PTHMSYD".toList

theorem IsIsoChar.kept {c : Char} (h : IsIsoChar c) : Text.isBlank c = false ∧ c.toUpper = c := by
  rcases h with digit | letter
  · exact forall_isDigit (P := fun c => Text.isBlank c = false ∧ c.toUpper = c) (by decide) digit
  · have letters : ∀ c ∈ "-.PTHMSYD".toList, Text.isBlank c = false ∧ c.toUpper = c :=
      List.all_iff_forall_prop.mp (by decide)
    exact letters c letter

/-- Without a sign in front the text after `P` is the body. -/
theorem signAndBody_eq {body : List Char} (h : ∀ c ∈ body, IsIsoChar c) :
    signAndBody ('P' :: body) = some (false, body) := by
  have all : ∀ c ∈ 'P' :: body, IsIsoChar c := List.forall_mem_cons.mpr ⟨.inr (by decide), h⟩
  have upper : Text.upperAscii ('P' :: body) = 'P' :: body :=
    (List.map_congr_left fun c hc => (all c hc).kept.2).trans (List.map_id _)
  rw [signAndBody, trim_eq fun c hc => (all c hc).kept.1, upper]
  rfl

theorem isAmount_of_isDigit {c : Char} (h : c.isDigit = true) : isAmount c = true := by
  rw [isAmount, h]
  rfl

theorem intText_ne_nil (n : ℤ) : intText n ≠ [] := by
  cases n with
  | ofNat n => exact digits_ne_nil n
  | negSucc n => exact List.cons_ne_nil _ _

theorem isPart_intText (n : ℤ) {unit : Char} (letter : isAmount unit = false) :
    IsPart (intText n, unit) where
  nonempty := intText_ne_nil n
  amount c hc := by
    rcases FloatText.mem_intText hc with digit | rfl
    · exact isAmount_of_isDigit digit
    · rfl
  letter := letter

/-- Amounts of these characters with such letters are spelled with them. -/
theorem isIsoChar_spelled {parts : List (List Char × Char)}
    (h : ∀ p ∈ parts, (∀ c ∈ p.1, IsIsoChar c) ∧ IsIsoChar p.2) :
    ∀ c ∈ spelled parts, IsIsoChar c := by
  intro c hc
  obtain ⟨p, hp, hc⟩ := List.mem_flatMap.mp hc
  rcases List.mem_append.mp hc with hc | hc
  · exact (h p hp).1 c hc
  · exact List.mem_singleton.mp hc ▸ (h p hp).2

/-! ## Periods -/

namespace Period

/-- The part of a text for a number of units, none for zero. -/
def part (n : Int32) (unit : Char) : List (List Char × Char) :=
  if n = 0 then [] else [(intText n.toInt, unit)]

/-- The parts of the text of a period. -/
def parts (p : Period) : List (List Char × Char) :=
  part p.years 'Y' ++ part p.months 'M' ++ part p.days 'D'

theorem spelled_part (n : Int32) (unit : Char) :
    spelled (part n unit) = if n = 0 then [] else intText n.toInt ++ [unit] := by
  unfold part
  split
  · rfl
  · exact List.append_nil _

theorem text_eq {p : Period} (h : p ≠ zero) : p.text = 'P' :: spelled p.parts := by
  rw [text, if_neg h, parts]
  simp only [spelled_append, spelled_part]

/-- What holds of the amounts holds of the parts. -/
theorem forall_parts {P : List Char × Char → Prop} {p : Period}
    (h : ∀ n : Int32, ∀ unit ∈ "YMD".toList, P (intText n.toInt, unit)) : ∀ q ∈ p.parts, P q := by
  have each (n : Int32) {unit : Char} (letter : unit ∈ "YMD".toList) :
      ∀ q ∈ part n unit, P q := by
    unfold part
    split
    · simp
    · simpa using h n unit letter
  exact List.forall_mem_append.mpr ⟨List.forall_mem_append.mpr
    ⟨each _ (by decide), each _ (by decide)⟩, each _ (by decide)⟩

/-- A part adds its number to the units that are still zero. -/
theorem foldlM_part {p q : Period} {n : Int32} {unit : Char}
    (read : addDesignator? p (intText n.toInt, unit) = some q) (same : n = 0 → p = q) :
    (part n unit).foldlM addDesignator? p = some q := by
  unfold part
  split
  · next zero => exact congrArg some (same zero)
  · simp [read]

theorem foldlM_parts (p : Period) : p.parts.foldlM addDesignator? zero = some p := by
  obtain ⟨y, m, d⟩ := p
  have add (n : Int32) : Word32.checkedAdd 0 n = some n := by
    have none : (0 : Int32).toInt = 0 := rfl
    rw [Word32.checkedAdd, none, Int.zero_add, Word32.ofInt?_toInt]
  have years : (part y 'Y').foldlM addDesignator? zero = some ⟨y, 0, 0⟩ :=
    foldlM_part (by simp [addDesignator?, zero, add]) (by rintro rfl; rfl)
  have months : (part m 'M').foldlM addDesignator? ⟨y, 0, 0⟩ = some ⟨y, m, 0⟩ :=
    foldlM_part (by simp [addDesignator?, add]) (by rintro rfl; rfl)
  have days : (part d 'D').foldlM addDesignator? ⟨y, m, 0⟩ = some ⟨y, m, d⟩ :=
    foldlM_part (by simp [addDesignator?, add]) (by rintro rfl; rfl)
  simp only [parts, List.foldlM_append, years, months, days, Option.bind_eq_bind,
    Option.bind_some]

/-- The text of a period is read as the period. -/
theorem read?_text (p : Period) : read? p.text = some p := by
  by_cases h : p = zero
  · rw [h]
    decide +kernel
  have letters : ∀ unit ∈ "YMD".toList, isAmount unit = false ∧ IsIsoChar unit := by
    have : ∀ unit ∈ "YMD".toList, isAmount unit = false ∧ unit ∈ "-.PTHMSYD".toList :=
      List.all_iff_forall_prop.mp (by decide)
    exact fun unit hu => (this unit hu).imp_right .inr
  have split : designators (spelled p.parts) = some p.parts :=
    designators_spelled (forall_parts fun n unit hu => isPart_intText _ (letters unit hu).1)
  have chars : ∀ c ∈ spelled p.parts, IsIsoChar c := by
    refine isIsoChar_spelled (forall_parts fun n unit hu => ⟨fun c hc => ?_, (letters unit hu).2⟩)
    rcases FloatText.mem_intText hc with digit | rfl
    · exact .inl digit
    · exact .inr (by decide)
  have there : spelled p.parts ≠ [] := by
    intro none
    have whole := foldlM_parts p
    rw [none] at split
    rw [← Option.some.inj split] at whole
    exact h (Option.some.inj whole).symm
  rw [text_eq h, read?, signAndBody_eq chars]
  simp [there, split, foldlM_parts]

end Period

end Rowwise
