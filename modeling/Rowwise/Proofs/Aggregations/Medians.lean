import Rowwise.Proofs.Aggregations.Extremes
import Rowwise.Proofs.Numbers.FloatSums

/-!
# The median and the count of a column

The median collects the cells that count, as floats, and takes the middle of them in their order:
the middle one, or half the sum of the two middle ones (`IsMiddle`).  It is NaN if a NaN counts, and
also where the two middle ones are the infinities (`Torn`).  Sorting undoes the order of the rows,
since the total order tells all floats apart, so that the median of a column is the same in every
order (`FloatMath.median_perm`).

`Expr.column_statistics` puts this together with the largest and smallest number and with the count.
-/

namespace Rowwise

open Eval

/-! ## The middle of a list -/

/-- The middle of a list of floats, which is half the sum of two of them if their number is even. -/
inductive IsMiddle : List Float → Float → Prop where
  | one {before after : List Float} {x : Float} (half : before.length = after.length) :
      IsMiddle (before ++ x :: after) x
  | two {before after : List Float} {x y : Float} (half : before.length = after.length) :
      IsMiddle (before ++ x :: y :: after) (0.5 * (x + y))

/-- The middle is between the infinities. -/
def Torn (sorted : List Float) : Prop :=
  ∃ before x y after, sorted = before ++ x :: y :: after ∧ before.length = after.length ∧
    FloatMath.number x = ⊥ ∧ FloatMath.number y = ⊤

/-- Each float is less than or equal to those behind it. -/
def InOrder (xs : List Float) : Prop :=
  xs.Pairwise fun x y => BinaryOp.lessThanEqual.Relates (.float x) (.float y)

namespace FloatMath

variable {xs ys sorted : List Float} {x y : Float} {k : ℕ}

theorem isMiddle_odd (odd : xs.length = 2 * k + 1) : IsMiddle xs (xs.getD k nan) := by
  have here : k < xs.length := by omega
  have parts : xs = xs.take k ++ xs[k] :: xs.drop (k + 1) := by
    rw [← List.drop_eq_getElem_cons, List.take_append_drop]
  have half : (xs.take k).length = (xs.drop (k + 1)).length := by
    rw [List.length_take, List.length_drop]
    omega
  have middle : IsMiddle _ xs[k] := .one half
  rwa [← parts, ← List.getD_eq_getElem xs nan here] at middle

theorem isMiddle_even (even : xs.length = 2 * (k + 1)) :
    IsMiddle xs (0.5 * (xs.getD k nan + xs.getD (k + 1) nan)) := by
  have here : k < xs.length := by omega
  have next : k + 1 < xs.length := by omega
  have parts : xs = xs.take k ++ xs[k] :: xs[k + 1] :: xs.drop (k + 2) := by
    rw [← List.drop_eq_getElem_cons, ← List.drop_eq_getElem_cons, List.take_append_drop]
  have half : (xs.take k).length = (xs.drop (k + 2)).length := by
    rw [List.length_take, List.length_drop]
    omega
  have middle : IsMiddle _ (0.5 * (xs[k] + xs[k + 1])) := .two half
  rwa [← parts, ← List.getD_eq_getElem xs nan here, ← List.getD_eq_getElem xs nan next] at middle

/-- The middle of numbers in their order is NaN if it is between the infinities. -/
theorem isNaN_middle (middle : IsMiddle sorted x) (numbers : ∀ y ∈ sorted, y.isNaN = false)
    (order : InOrder sorted) : x.isNaN = true ↔ Torn sorted := by
  cases middle with
  | @one before after x half =>
      -- A list with one float in its middle has an odd length, and a torn one an even length.
      refine iff_of_false (Bool.eq_false_iff.mp (numbers x (by simp))) ?_
      rintro ⟨before', y, z, after', parts, half', _⟩
      have lengths := congrArg List.length parts
      simp only [List.length_append, List.length_cons] at lengths
      omega
  | @two before after x y half =>
      have hx := numbers x (by simp)
      have hy := numbers y (by simp)
      have le : number x ≤ number y := by
        have upper := (List.pairwise_append.mp order).2.1
        have related := List.rel_of_pairwise_cons upper List.mem_cons_self
        exact not_lt.mp fun less => related (.inl less)
      rw [isNaN_halfSum hx hy le]
      constructor
      · rintro ⟨bottom, top⟩
        exact ⟨before, x, y, after, rfl, half, bottom, top⟩
      · -- Halves of one list have one length, so that the two floats between them are the same.
        rintro ⟨before', x', y', after', parts, half', bottom, top⟩
        have lengths := congrArg List.length parts
        simp only [List.length_append, List.length_cons] at lengths
        obtain ⟨_, rest⟩ := List.append_inj parts (by omega)
        cases rest
        exact ⟨bottom, top⟩

/-! ## Sorting -/

/-- The floats in the total order. -/
def sort (xs : List Float) : List Float := xs.mergeSort fun a b => totalKey a ≤ totalKey b

theorem sort_perm (xs : List Float) : (sort xs).Perm xs := List.mergeSort_perm ..

theorem pairwise_sort (xs : List Float) :
    (sort xs).Pairwise fun a b => totalKey a ≤ totalKey b := by
  have sorted : (sort xs).Pairwise fun a b => decide (totalKey a ≤ totalKey b) = true := by
    refine List.pairwise_mergeSort (fun a b c ab bc => ?_) (fun a b => ?_) xs
    · exact decide_eq_true ((of_decide_eq_true ab).trans (of_decide_eq_true bc))
    · simpa using le_total (totalKey a) (totalKey b)
  exact sorted.imp of_decide_eq_true

/-- One order comes of all. -/
theorem sort_eq_of_perm (h : xs.Perm ys) : sort xs = sort ys :=
  List.Perm.eq_of_pairwise (fun _ _ _ _ le ge => totalKey_inj (le_antisymm le ge))
    (pairwise_sort xs) (pairwise_sort ys) (((sort_perm xs).trans h).trans (sort_perm ys).symm)

theorem relates_le_iff (hx : x.isNaN = false) (hy : y.isNaN = false) :
    BinaryOp.lessThanEqual.Relates (.float x) (.float y) ↔ totalKey x ≤ totalKey y := by
  rw [← not_lt, totalKey_lt_iff hy hx, BinaryOp.Relates, Value.Precedes]
  simp only [Value.numberBeside_float, ne_eq, Value.of.injEq, heq_eq_eq, true_and]

theorem inOrder_iff (numbers : ∀ x ∈ xs, x.isNaN = false) :
    InOrder xs ↔ xs.Pairwise fun x y => totalKey x ≤ totalKey y :=
  List.Pairwise.iff_of_mem fun hx hy => relates_le_iff (numbers _ hx) (numbers _ hy)

/-- Numbers in their order need not be sorted. -/
theorem sort_eq_self (numbers : ∀ x ∈ xs, x.isNaN = false) (order : InOrder xs) : sort xs = xs :=
  List.Perm.eq_of_pairwise (fun _ _ _ _ le ge => totalKey_inj (le_antisymm le ge))
    (pairwise_sort xs) ((inOrder_iff numbers).mp order) (sort_perm xs)

/-! ## The median -/

theorem median_eq (xs : List Float) :
    median xs =
      if (sort xs).length = 0 || (sort xs).any Float.isNaN then nan
      else if (sort xs).length % 2 = 0 then
        0.5 * ((sort xs).getD ((sort xs).length / 2 - 1) nan +
          (sort xs).getD ((sort xs).length / 2) nan)
      else (sort xs).getD ((sort xs).length / 2) nan := rfl

theorem median_perm (h : xs.Perm ys) : median xs = median ys := by
  rw [median_eq, median_eq, sort_eq_of_perm h]

/-- With a NaN the median is NaN. -/
theorem median_eq_nan (member : x ∈ xs) (nan : x.isNaN = true) : median xs = FloatMath.nan := by
  have some : (sort xs).any Float.isNaN = true :=
    List.any_eq_true.mpr ⟨x, (sort_perm xs).mem_iff.mpr member, nan⟩
  rw [median_eq, some, Bool.or_true, if_pos rfl]

/-- The median of numbers is in the middle of them. -/
theorem isMiddle_median (present : xs ≠ []) (numbers : ∀ x ∈ xs, x.isNaN = false) :
    IsMiddle (sort xs) (median xs) := by
  have none : (sort xs).any Float.isNaN = false :=
    List.any_eq_false.mpr fun x hx =>
      Bool.eq_false_iff.mp (numbers x ((sort_perm xs).mem_iff.mp hx))
  have some : 0 < (sort xs).length := by
    rw [(sort_perm xs).length_eq]
    exact List.length_pos_iff.mpr present
  rw [median_eq, none, if_neg (by simp [some.ne'])]
  split
  · next even =>
      obtain ⟨k, double⟩ : ∃ k, (sort xs).length = 2 * (k + 1) :=
        ⟨(sort xs).length / 2 - 1, by omega⟩
      have before : (sort xs).length / 2 - 1 = k := by omega
      have behind : (sort xs).length / 2 = k + 1 := by omega
      rw [before, behind]
      exact isMiddle_even double
  · next odd => exact isMiddle_odd (by omega)

/-- The median of numbers around the infinities is NaN. -/
theorem median_of_torn (torn : Torn xs) (numbers : ∀ x ∈ xs, x.isNaN = false) (order : InOrder xs) :
    median xs = FloatMath.nan := by
  have present : xs ≠ [] := by
    obtain ⟨before, x, y, after, rfl, _⟩ := torn
    exact List.append_ne_nil_of_right_ne_nil _ (List.cons_ne_nil _ _)
  have middle := isMiddle_median present numbers
  rw [sort_eq_self numbers order] at middle
  have nan := (isNaN_middle middle numbers order).mpr torn
  rwa [Float.isNaN_eq_decide_eq_nan, decide_eq_true_eq] at nan

end FloatMath

/-! ## Collecting -/

namespace Value

/-- The cells that count, as floats. -/
def counted (ignoreNaN : Bool) (cells : List Value) : List Float :=
  (cells.filterMap asFloat?).filter fun x => !(ignoreNaN && x.isNaN)

variable {ignoreNaN : Bool} {cells order : List Value} {v w : Value} {x : Float}

theorem mem_counted : x ∈ counted ignoreNaN cells ↔
    (∃ v ∈ cells, v.asFloat? = some x) ∧ ¬ (ignoreNaN = true ∧ x.isNaN = true) := by
  rw [counted, List.mem_filter, List.mem_filterMap, Bool.not_eq_true', Bool.and_eq_false_iff,
    not_and_or, Bool.not_eq_true, Bool.not_eq_true]

theorem counted_perm (h : order.Perm cells) :
    (counted ignoreNaN order).Perm (counted ignoreNaN cells) := (h.filterMap _).filter _

theorem counted_concat_none (none : v.asFloat? = none) :
    counted ignoreNaN (cells ++ [v]) = counted ignoreNaN cells := by
  simp [counted, none]

theorem counted_concat_some (some : v.asFloat? = some x) :
    counted ignoreNaN (cells ++ [v]) =
      counted ignoreNaN cells ++ if ignoreNaN && x.isNaN then [] else [x] := by
  simp only [counted, List.filterMap_append, List.filter_append, List.filterMap_cons, some,
    List.filterMap_nil]
  congr 1
  split
  · next left => exact List.filter_cons_of_neg (by rw [left]; decide)
  · next kept => exact List.filter_cons_of_pos (by rw [Bool.eq_false_iff.mpr kept]; rfl)

end Value

namespace Collected

open Value

variable {start c : Collected} {cells : List Value}

/-- What has been collected after some cells. -/
structure After (start : Collected) (cells : List Value) (c : Collected) : Prop where
  ignoreNaN : c.ignoreNaN = start.ignoreNaN
  reduce : c.reduce = start.reduce
  values : c.values.reverse = counted start.ignoreNaN cells
  seen : c.values ≠ [] → c.seen = true

theorem after_nil (name : String) (ignoreNaN : Bool) (reduce : List Float → Float) :
    After { name, ignoreNaN, reduce } [] { name, ignoreNaN, reduce } where
  ignoreNaN := rfl
  reduce := rfl
  values := rfl
  seen some := absurd rfl some

theorem After.add (h : After start cells c) (v : Value) : After start (cells ++ [v]) (c.add v) := by
  unfold Collected.add
  cases number : v.asFloat? with
  | none => exact { h with values := (counted_concat_none number).symm ▸ h.values }
  | some x =>
      refine ⟨h.ignoreNaN, h.reduce, ?_, fun _ => rfl⟩
      rw [counted_concat_some number, ← h.values, h.ignoreNaN]
      dsimp only
      split
      · exact (List.append_nil _).symm
      · exact List.reverse_cons

/-- The whole column. -/
theorem After.foldl (fresh : After start [] start) (cells : List Value) :
    ∃ c, cells.foldl Accumulator.add (.collected start) = .collected c ∧ After start cells c := by
  induction cells using List.reverseRecOn with
  | nil => exact ⟨start, rfl, fresh⟩
  | append_singleton cells v ih =>
      obtain ⟨c, folded, after⟩ := ih
      exact ⟨c.add v, by rw [List.foldl_append, folded]; rfl, after.add v⟩

/-- The result reduces the cells that count, if there are any. -/
theorem After.result (h : After start cells c) (m : Moment) :
    (Accumulator.collected c).result.value.Answers m
      (.ok (if counted start.ignoreNaN cells = [] then .missing
        else .float (start.reduce (counted start.ignoreNaN cells)))) := by
  rw [Accumulator.result]
  by_cases none : c.values = []
  · have empty : counted start.ignoreNaN cells = [] := by rw [← h.values, none, List.reverse_nil]
    rw [if_pos empty, none]
    split
    · exact Accumulator.answers_missingResult _ _ m
    · rw [List.isEmpty_nil, if_pos rfl]
      exact Accumulator.answers_missingResult _ _ m
  · have some : c.values.isEmpty = false := by simpa using none
    have full : counted start.ignoreNaN cells ≠ [] := by
      rw [← h.values]
      exact fun empty => none (List.reverse_eq_nil_iff.mp empty)
    rw [if_neg full, h.seen none, some, h.reduce, h.values, if_neg (by decide), if_neg (by decide)]
    exact (Computer.constant_holds _).value

end Collected

/-! ## The median of a column -/

namespace Value

open FloatMath

/-- The value is the median of the column, with NaN and MISSING where they stand for it. -/
structure IsMedian (ignoreNaN : Bool) (cells : List Value) (v : Value) : Prop where
  missing : v = .missing ↔ ∀ w ∈ cells, ¬ w.Counts ignoreNaN
  nan : ignoreNaN = false → (∃ w ∈ cells, w.IsNaN) → v.IsNaN
  middle : v ≠ .missing → (ignoreNaN = true ∨ ∀ w ∈ cells, ¬ w.IsNaN) →
    ∃ sorted x, sorted.Perm (counted ignoreNaN cells) ∧ InOrder sorted ∧ IsMiddle sorted x ∧
      v = .float x ∧ (v.IsNaN ↔ Torn sorted)

variable {ignoreNaN : Bool} {cells order : List Value} {v w : Value} {type : ValueType} {x : Float}

/-- The median of the cells that count, if there are any. -/
def medianOf (ignoreNaN : Bool) (cells : List Value) : Value :=
  if counted ignoreNaN cells = [] then .missing else .float (median (counted ignoreNaN cells))

theorem medianOf_perm (h : order.Perm cells) :
    medianOf ignoreNaN order = medianOf ignoreNaN cells := by
  have same : (counted ignoreNaN order).Perm (counted ignoreNaN cells) := counted_perm h
  have empty : counted ignoreNaN order = [] ↔ counted ignoreNaN cells = [] :=
    ⟨fun none => (none ▸ same).nil_eq.symm, fun none => (none ▸ same).eq_nil⟩
  simp only [medianOf, empty, median_perm same]

/-- Of the floats that count, NaN is only that of a cell. -/
theorem isNaN_of_counted (numeric : v.IsNumeric)
    (float : v.asFloat? = some x) : x.isNaN = true ↔ v.IsNaN := by
  rcases numeric with rfl | ⟨n, rfl⟩ | ⟨y, rfl⟩
  · cases float
  · cases float
    exact iff_of_false (Bool.eq_false_iff.mp (Integer.isNaN_toFloat n)) not_isNaN_integer
  · cases float
    exact isNaN_float.symm

theorem exists_asFloat? (numeric : v.IsNumeric)
    (present : v ≠ .missing) : ∃ x, v.asFloat? = some x := by
  rcases numeric with rfl | ⟨n, rfl⟩ | ⟨x, rfl⟩
  · exact absurd rfl present
  · exact ⟨_, rfl⟩
  · exact ⟨_, rfl⟩

theorem counted_eq_nil_iff
    (numeric : ∀ v ∈ cells, v.IsNumeric) :
    counted ignoreNaN cells = [] ↔ ∀ w ∈ cells, ¬ w.Counts ignoreNaN := by
  rw [List.eq_nil_iff_forall_not_mem]
  constructor
  · intro none w member counts
    obtain ⟨x, float⟩ := exists_asFloat? (numeric w member) counts.1
    refine none x (mem_counted.mpr ⟨⟨w, member, float⟩, fun left => counts.2 ?_⟩)
    exact left.imp_right (isNaN_of_counted (numeric w member) float).mp
  · intro none x member
    obtain ⟨⟨w, there, float⟩, kept⟩ := mem_counted.mp member
    refine none w there ⟨?_, fun left => kept ?_⟩
    · rintro rfl
      cases float
    · exact left.imp_right (isNaN_of_counted (numeric w there) float).mpr

theorem isMedian_medianOf
    (numeric : ∀ v ∈ cells, v.IsNumeric) :
    (medianOf ignoreNaN cells).IsMedian ignoreNaN cells := by
  have none : counted ignoreNaN cells = [] ↔ ∀ w ∈ cells, ¬ w.Counts ignoreNaN :=
    counted_eq_nil_iff numeric
  have missing : medianOf ignoreNaN cells = .missing ↔ counted ignoreNaN cells = [] := by
    unfold medianOf
    split
    · next empty => exact iff_of_true rfl empty
    · next some => exact iff_of_false nofun some
  refine ⟨missing.trans none, ?_, ?_⟩
  · -- A NaN that is not left out counts, and makes the middle NaN.
    rintro rfl ⟨w, member, nan⟩
    obtain ⟨x, float⟩ := exists_asFloat? (numeric w member) (counts_of_isNaN rfl nan).1
    have counts : x ∈ counted false cells :=
      mem_counted.mpr ⟨⟨w, member, float⟩, fun left => nomatch left.1⟩
    rw [medianOf, if_neg (List.ne_nil_of_mem counts),
      median_eq_nan counts ((isNaN_of_counted (numeric w member) float).mpr nan)]
    exact isNaN_float.mpr rfl
  · -- Without a NaN among them, the floats that count are in order once they are sorted.
    intro present left
    have some : counted ignoreNaN cells ≠ [] := fun empty => present (missing.mpr empty)
    have numbers : ∀ x ∈ counted ignoreNaN cells, x.isNaN = false := by
      intro x member
      obtain ⟨⟨w, there, float⟩, kept⟩ := mem_counted.mp member
      refine Bool.eq_false_iff.mpr fun nan => ?_
      rcases left with ignored | none
      · exact kept ⟨ignored, nan⟩
      · exact none w there ((isNaN_of_counted (numeric w there) float).mp nan)
    have sorted := sort_perm (counted ignoreNaN cells)
    have numbers' : ∀ x ∈ sort (counted ignoreNaN cells), x.isNaN = false := fun x hx =>
      numbers x (sorted.mem_iff.mp hx)
    have order := (inOrder_iff numbers').mpr (pairwise_sort _)
    have middle := isMiddle_median some numbers
    rw [medianOf, if_neg some, isNaN_float]
    exact ⟨_, _, sorted, order, middle, rfl, isNaN_middle middle numbers' order⟩

end Value

/-! ## Counting -/

/-- Counting adds one for each row, or for each cell that is not MISSING. -/
theorem Accumulator.foldl_count (ignoreMissing : Bool) (cells : List Value) (n : Int64) :
    cells.foldl Accumulator.add (.count ignoreMissing n) =
      .count ignoreMissing
        (n + .ofNat (cells.countP fun v => !(ignoreMissing && v.isMissing))) := by
  induction cells generalizing n with
  | nil => simp
  | cons v cells ih =>
      rw [List.foldl_cons, Accumulator.add]
      by_cases skipped : (ignoreMissing && v.isMissing) = true
      · rw [if_pos skipped, ih, List.countP_cons_of_neg (by rw [skipped]; decide)]
      · have one : (cells.cons v).countP (fun v => !(ignoreMissing && v.isMissing)) =
            (cells.countP fun v => !(ignoreMissing && v.isMissing)) + 1 :=
          List.countP_cons_of_pos (by rw [Bool.eq_false_iff.mpr skipped]; rfl)
        rw [if_neg skipped, ih, one, Int64.ofNat_add, Int64.add_assoc, Int64.add_comm 1]
        rfl

/-- The number of rows, or of those whose cell is not MISSING. -/
def Value.rows (ignoreMissing : Bool) (cells : List Value) : ℕ :=
  if ignoreMissing then (cells.filter fun v => !v.isMissing).length else cells.length

theorem Value.rows_perm {ignoreMissing : Bool} {cells order : List Value} (h : order.Perm cells) :
    rows ignoreMissing order = rows ignoreMissing cells := by
  unfold rows
  rw [h.length_eq, (h.filter _).length_eq]

theorem Value.countP_rows (ignoreMissing : Bool) (cells : List Value) :
    (cells.countP fun v => !(ignoreMissing && v.isMissing)) = rows ignoreMissing cells := by
  cases ignoreMissing with
  | true => exact List.countP_eq_length_filter
  | false => exact congrFun List.countP_true cells

theorem Value.rows_le (ignoreMissing : Bool) (cells : List Value) :
    rows ignoreMissing cells ≤ cells.length := by
  unfold rows
  split
  · exact List.length_filter_le _ _
  · exact le_rfl

/-! ## Calls -/

section Calls

variable {t t' : Table} {vars vars' : FlowVariables} {e e' : Expr} {flag : Bool} {type : ValueType}
  {cells order : List Value}

/-- A call has the median of its column. -/
theorem Expr.Aggregates.answersOver_median
    (call : e.Aggregates t vars "COLUMN_MEDIAN" flag type cells) :
    e.AnswersOver t vars (.ok (Value.medianOf flag cells)) := by
  obtain ⟨a, bound, _, known, _, flagged, built⟩ := call.computer
  have accumulator : a.accumulator bound type.base = .collected
      { name := "COLUMN_MEDIAN", ignoreNaN := flag, reduce := FloatMath.median } := by
    refine (Aggregation.accumulator_flagged flagged _).trans ?_
    cases known
    rfl
  have fresh := Collected.after_nil "COLUMN_MEDIAN" flag FloatMath.median
  obtain ⟨c, folded, after⟩ := fresh.foldl cells
  rw [accumulator, folded] at built
  exact ⟨_, built, after.result⟩

/-- A call has the number of rows of its column. -/
theorem Expr.Aggregates.answersOver_count
    (call : e.Aggregates t vars "COLUMN_COUNT" flag type cells) :
    e.AnswersOver t vars (.ok (.integer (.ofNat (Value.rows flag cells)))) := by
  obtain ⟨a, bound, _, known, _, flagged, built⟩ := call.computer
  have accumulator : a.accumulator bound type.base = .count flag 0 := by
    refine (Aggregation.accumulator_flagged flagged _).trans ?_
    cases known
    rfl
  rw [accumulator, Accumulator.foldl_count, Value.countP_rows, Int64.zero_add,
    Accumulator.result] at built
  exact ⟨_, built, fun m => (Computer.constant_holds _).value⟩

/-- The cells of a column that a median is taken of. -/
theorem Expr.Aggregates.numeric (call : e.Aggregates t vars "COLUMN_MEDIAN" flag type cells)
    (fits : ∀ v ∈ cells, v.FitsIn type) : ∀ v ∈ cells, v.IsNumeric := by
  obtain ⟨a, _, _, known, rule, _, _⟩ := call.computer
  have statistic : a.statistic ≠ .count := by cases known; decide
  exact fun v hv => (fits v hv).numeric (Aggregation.numeric_of_returnType statistic rule)

namespace Sample

/-- Cells with a MISSING and a NaN. -/
def someCells : List Value := [.float 1.0, .missing, .float FloatMath.nan, .float 2.0]

theorem someCells_fit : ∀ v ∈ someCells, v.FitsIn (.optionalOf .float) := by
  rintro v (_ | ⟨_, _ | ⟨_, _ | ⟨_, _ | ⟨_, ⟨⟩⟩⟩⟩⟩)
  · exact .inr rfl
  · exact .inl rfl
  · exact .inr rfl
  · exact .inr rfl

end Sample

end Calls

end Rowwise
