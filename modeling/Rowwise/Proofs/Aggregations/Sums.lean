import Rowwise.Proofs.Aggregations.Calls
import Rowwise.Proofs.Numbers.Words
import Mathlib.Data.List.ReduceOption

/-!
# Sums of integers

The sum of an INTEGER column adds one cell after the other in 64 bits, and an addition that does not
fit is never made good: the sum is lost from there on.  So the sum is exact as long as every sum of
first cells fits (`Integer.SumsFit`), and out of range otherwise, even if the sum of all cells fits.
`RunningSum.After` is what holds of the running sum after some cells; each cell keeps it
(`RunningSum.After.add`), and so does a whole column (`RunningSum.After.foldl`).

Of the rows in another order, the exact sum is the same, but not which sums of first cells there
are.  `Expr.column_sum` says that both orders have the same sum if they have one, and that a sum
which does not fit is out of range in every order.
-/

namespace Rowwise

open Eval

/-! ## Exact sums -/

namespace Integer

variable {ns ks : List Int64} {n : Int64}

/-- The exact sum of integers. -/
def total (ns : List Int64) : ℤ := (ns.map Int64.toInt).sum

/-- The sum of the first integers fits, of however many. -/
def SumsFit (ns : List Int64) : Prop := ∀ first, first <+: ns → Fits (total first)

instance (ns : List Int64) : Decidable (SumsFit ns) :=
  decidable_of_iff (∀ first ∈ ns.inits, Fits (total first)) (by simp only [List.mem_inits, SumsFit])

/-- A sum of two is found if it fits. -/
theorem checkedAdd_eq_some {a b w : Int64} :
    checkedAdd a b = some w ↔ w.toInt = a.toInt + b.toInt := ofInt?_eq_some

@[simp] theorem total_nil : total [] = 0 := rfl

theorem total_concat (ns : List Int64) (n : Int64) : total (ns ++ [n]) = total ns + n.toInt := by
  simp [total]

theorem total_perm (h : ns.Perm ks) : total ns = total ks := (h.map _).sum_eq

theorem sumsFit_nil : SumsFit [] := by
  intro first empty
  rw [List.prefix_nil.mp empty]
  exact ⟨by decide, by decide⟩

/-- With one more integer there is one more sum. -/
theorem sumsFit_concat : SumsFit (ns ++ [n]) ↔ SumsFit ns ∧ Fits (total ns + n.toInt) := by
  simp only [SumsFit, List.prefix_concat_iff, forall_eq_or_imp, total_concat]
  exact and_comm

theorem SumsFit.total (h : SumsFit ns) : Fits (total ns) := h ns (List.prefix_refl ns)

end Integer

/-! ## The running sum -/

namespace RunningSum

open Integer

variable {s : RunningSum} {ns : List Int64}

/-- What has become of a sum of integers after some of them.  It is their exact sum, unless a sum of
first ones did not fit. -/
structure After (ns : List Int64) (s : RunningSum) : Prop where
  isFloat : s.isFloat = false
  seen : s.seen = !ns.isEmpty
  integer : ∀ w, s.integer = some w ↔ SumsFit ns ∧ w.toInt = total ns

theorem after_nil (ignoreNaN : Bool) : After [] { isFloat := false, ignoreNaN } where
  isFloat := rfl
  seen := rfl
  integer w := by
    have zero : (0 : Int64) = w ↔ w.toInt = 0 := by
      rw [← Int64.toInt_zero, Int64.toInt_inj, eq_comm]
    rw [Option.some_inj, zero]
    exact (and_iff_right sumsFit_nil).symm

/-- Adding an integer. -/
theorem After.add (h : s.After ns) (n : Int64) : (s.add (.integer n)).After (ns ++ [n]) where
  isFloat := h.isFloat
  seen := by simp [RunningSum.add]
  integer w := by
    rw [sumsFit_concat, total_concat]
    constructor
    · -- Whatever was added did fit, and so does the word that is found.
      intro found
      obtain ⟨sum, before, added⟩ := Option.bind_eq_some_iff.mp found
      obtain ⟨fits, value⟩ := (h.integer sum).mp before
      rw [checkedAdd_eq_some, value] at added
      exact ⟨⟨fits, added ▸ fits_toInt w⟩, added⟩
    · -- The sum was not lost before, since the sums of first integers fit up to here.
      rintro ⟨⟨fits, _⟩, value⟩
      obtain ⟨sum, exact⟩ := fits.total.exists_toInt
      refine Option.bind_eq_some_iff.mpr ⟨sum, (h.integer sum).mpr ⟨fits, exact⟩, ?_⟩
      rw [checkedAdd_eq_some, value, exact]

/-- Adding a column, of which MISSING cells leave the sum as it is. -/
theorem After.foldl (h : s.After ns) (cells : List (Option Int64)) :
    ∃ s', (cells.map (Value.ofOption .integer)).foldl Accumulator.add (.sum s) = .sum s' ∧
      s'.After (ns ++ cells.reduceOption) := by
  induction cells generalizing s ns with
  | nil => exact ⟨s, rfl, by rwa [List.reduceOption_nil, List.append_nil]⟩
  | cons cell cells ih =>
      cases cell with
      | none => exact ih h
      | some n =>
          obtain ⟨s', sum, after⟩ := ih (h.add n)
          refine ⟨s', sum, ?_⟩
          rwa [List.reduceOption_cons_of_some, List.append_cons]

/-- The result is the exact sum. -/
theorem After.result_fits (h : s.After ns) (present : ns ≠ []) (fits : SumsFit ns) :
    ∃ sum : Int64, sum.toInt = total ns ∧
      (Accumulator.sum s).result = .constant (.integer sum) := by
  obtain ⟨sum, value⟩ := fits.total.exists_toInt
  have seen : s.seen = true := by simpa [h.seen] using present
  refine ⟨sum, value, ?_⟩
  rw [Accumulator.result, seen, h.isFloat, (h.integer sum).mpr ⟨fits, value⟩]
  rfl

/-- The result is lost. -/
theorem After.result_lost (h : s.After ns) (present : ns ≠ []) (lost : ¬ SumsFit ns) :
    (Accumulator.sum s).result =
      .integer (Source.present (Eval.fail (.outOfRange (some .integer)))) := by
  have seen : s.seen = true := by simpa [h.seen] using present
  have gone : s.integer = none :=
    Option.eq_none_iff_forall_ne_some.mpr fun w found => lost ((h.integer w).mp found).1
  rw [Accumulator.result, seen, h.isFloat, gone]
  rfl

end RunningSum

/-! ## Sums of a column -/

section Calls

open Integer

variable {t t' : Table} {vars vars' : FlowVariables} {e e' : Expr} {flag flag' o o' : Bool}
  {cells order : List (Option Int64)}

/-- The accumulator of a call after all cells. -/
theorem Expr.Aggregates.running_sum (cells : List (Option Int64)) {a : Aggregation}
    (known : Aggregation.library.get? "COLUMN_SUM" = some a) (bound : Arguments Value) :
    ∃ s, (cells.map (Value.ofOption .integer)).foldl Accumulator.add
        (a.accumulator bound (some .integer)) = .sum s ∧ s.After cells.reduceOption := by
  cases known
  exact (RunningSum.after_nil _).foldl cells

/-- The error of a sum that does not fit. -/
abbrev outOfRange : Except EvalError Value := .error (.failure (.outOfRange (some .integer)))

theorem answers_outOfRange (m : Moment) :
    (Computer.integer (Source.present (Eval.fail (.outOfRange (some .integer))))).value.Answers m
      outOfRange :=
  (answers_pure false).bind ((answers_fail _).map_error _)

/-- The sum of a column of integers is the exact one if all sums of first cells fit, and otherwise
out of range. -/
theorem Expr.Aggregates.answersOver_sum
    (call : e.Aggregates t vars "COLUMN_SUM" flag (.of .integer o)
      (cells.map (Value.ofOption .integer))) (present : cells.reduceOption ≠ []) :
    (SumsFit cells.reduceOption → ∃ sum : Int64, sum.toInt = total cells.reduceOption ∧
      e.AnswersOver t vars (.ok (.integer sum))) ∧
    (¬ SumsFit cells.reduceOption → e.AnswersOver t vars outOfRange) := by
  obtain ⟨a, bound, _, known, _, _, built⟩ := call.computer
  obtain ⟨s, sum, after⟩ := Expr.Aggregates.running_sum cells known bound
  constructor
  · intro fits
    obtain ⟨n, value, result⟩ := after.result_fits present fits
    rw [ValueType.base, sum, result] at built
    exact ⟨n, value, _, built, fun m => (Computer.constant_holds _).value⟩
  · intro lost
    rw [ValueType.base, sum, after.result_lost present lost] at built
    exact ⟨_, built, answers_outOfRange⟩

/-- The sum of a column of integers.  It is exact if all sums of first cells fit in 64 bits, and out
of range otherwise.  In two orders of the rows it is the same if there is one in both, and if the
exact sum does not fit, it is out of range in both. -/
theorem Expr.column_sum
    (call : e.Aggregates t vars "COLUMN_SUM" flag (.of .integer o)
      (cells.map (Value.ofOption .integer)))
    (reordered : e'.Aggregates t' vars' "COLUMN_SUM" flag' (.of .integer o')
      (order.map (Value.ofOption .integer)))
    (same : order.Perm cells) (present : cells.reduceOption ≠ []) :
    (SumsFit cells.reduceOption → ∃ sum : Int64, sum.toInt = total cells.reduceOption ∧
      e.AnswersOver t vars (.ok (.integer sum))) ∧
    (¬ SumsFit cells.reduceOption → e.AnswersOver t vars outOfRange) ∧
    (∀ v w, e.AnswersOver t vars (.ok v) → e'.AnswersOver t' vars' (.ok w) → v = w) ∧
    (¬ Fits (total cells.reduceOption) →
      e.AnswersOver t vars outOfRange ∧ e'.AnswersOver t' vars' outOfRange) := by
  -- Reordering keeps the exact sum, but not which sums of first cells there are.
  have numbers : order.reduceOption.Perm cells.reduceOption := same.filterMap id
  have exact := total_perm numbers
  have present' : order.reduceOption ≠ [] := fun empty => present (empty ▸ numbers).nil_eq.symm
  obtain ⟨found, lost⟩ := call.answersOver_sum present
  obtain ⟨found', lost'⟩ := reordered.answersOver_sum present'
  refine ⟨found, lost, fun v w hv hw => ?_, fun large => ⟨lost ?_, lost' ?_⟩⟩
  · by_cases fits : SumsFit cells.reduceOption
    · by_cases fits' : SumsFit order.reduceOption
      · obtain ⟨n, value, answers⟩ := found fits
        obtain ⟨k, value', answers'⟩ := found' fits'
        cases hv.unique answers
        cases hw.unique answers'
        rw [Int64.toInt_inj.mp (value.trans (exact.symm.trans value'.symm))]
      · cases hw.unique (lost' fits')
    · cases hv.unique (lost fits)
  · exact fun fits => large fits.total
  · exact fun fits => large (exact ▸ fits.total)

namespace Sample

theorem aggregates_sum (cells : List (Option Int64)) :
    (Expr.aggregate "COLUMN_SUM" "c" false).Aggregates
      (ofColumn (.optionalOf .integer) (cells.map (Value.ofOption .integer))) .empty "COLUMN_SUM"
      false (.optionalOf .integer) (cells.map (Value.ofOption .integer)) :=
  aggregates rfl rfl false _

/-- The sum of 1, MISSING and 2 in this order. -/
theorem sum_of_two :
    [some 2, some 1, none].Perm [some (1 : Int64), none, some 2] ∧
      (Expr.aggregate "COLUMN_SUM" "c" false).AnswersOver
        (ofColumn (.optionalOf .integer) [.integer 1, .missing, .integer 2]) .empty
        (.ok (.integer 3)) := by
  have same : [some 2, some 1, none].Perm [some (1 : Int64), none, some 2] := by decide
  obtain ⟨found, _⟩ := Expr.column_sum (aggregates_sum [some 1, none, some 2])
    (aggregates_sum [some 2, some 1, none]) same (List.cons_ne_nil _ _)
  obtain ⟨sum, value, answers⟩ := found (by decide)
  obtain rfl : sum = 3 := Int64.toInt_inj.mp (value.trans (by decide))
  exact ⟨same, answers⟩

/-- The sum is out of range in one order of the rows, although it fits, and another order finds
it. -/
theorem sum_lost :
    Fits (total [9223372036854775807, 1, -1]) ∧
      (Expr.aggregate "COLUMN_SUM" "c" false).AnswersOver
        (ofColumn (.optionalOf .integer) [.integer 9223372036854775807, .integer 1, .integer (-1)])
        .empty outOfRange ∧
      (Expr.aggregate "COLUMN_SUM" "c" false).AnswersOver
        (ofColumn (.optionalOf .integer) [.integer 1, .integer (-1), .integer 9223372036854775807])
        .empty (.ok (.integer 9223372036854775807)) := by
  have late := aggregates_sum [some 9223372036854775807, some 1, some (-1)]
  have early := aggregates_sum [some 1, some (-1), some 9223372036854775807]
  refine ⟨by decide, ?_, ?_⟩
  · obtain ⟨_, lost⟩ := late.answersOver_sum (List.cons_ne_nil _ _)
    exact lost (by decide)
  · obtain ⟨found, _⟩ := early.answersOver_sum (List.cons_ne_nil _ _)
    obtain ⟨sum, value, answers⟩ := found (by decide)
    obtain rfl : sum = 9223372036854775807 := Int64.toInt_inj.mp (value.trans (by decide))
    exact answers

end Sample

end Calls

end Rowwise
